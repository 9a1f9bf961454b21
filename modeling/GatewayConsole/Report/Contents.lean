import GatewayConsole.HomePage
import GatewayConsole.Report.Styled

/-!
# Reports on contents

What is shown of the notice and of the home page.
-/

namespace GatewayConsole

/-! ## The notice -/

structure NoticeReport where
  visible : Bool
  dismissedToday : Bool
  content : String
deriving DecidableEq, Repr

namespace NoticeReport

def toJson (report : NoticeReport) : Json :=
  .object
    [("visible", .bool report.visible), ("dismissedToday", .bool report.dismissedToday),
      ("content", .text report.content)]

def text (report : NoticeReport) : Styled :=
  if report.visible then .plain report.content
  else if report.dismissedToday then .inStyle .dim "Notice dismissed for today"
  else .inStyle .dim "No notice"

end NoticeReport

/-! ## The home page -/

structure HomeReport where
  cached : Bool
  contents : HomePage
  footer : Option String
deriving DecidableEq, Repr

namespace HomeReport

def toJson (report : HomeReport) : Json :=
  .object <|
    [("cached", .bool report.cached), ("content", report.contents.toJson)]
      ++ Json.presentMember "footer" (report.footer.map .text)

def contentsText : HomePage → Styled
  | .standard => .inStyle .dim "Default landing page"
  | .embedded url => .plain "Embedded page: " ++ .inStyle .blue url
  | .document body => .plain body

def footerText : Option String → Styled
  | some footer => .plain "\n\n" ++ .inStyle .dim footer
  | none => []

def cachedText (cached : Bool) : Styled :=
  if cached then .plain "\n" ++ .inStyle .yellow "(cached, gateway unreachable)" else []

def text (report : HomeReport) : Styled :=
  contentsText report.contents ++ footerText report.footer ++ cachedText report.cached

end HomeReport
end GatewayConsole
