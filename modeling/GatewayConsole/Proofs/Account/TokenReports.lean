import GatewayConsole.Report.Tokens

/-!
# What reports on tokens say

A report is printed in JSON or as text. In JSON each row has its id, its masked key and a flag
among its members; in text it has a line of its own, with a mark in front of the id.
-/

namespace GatewayConsole

namespace Styled

variable {first second : Styled} {colors : Bool}

theorem render_append :
    (first ++ second).render colors = first.render colors ++ second.render colors := by
  rw [render, renderChars, List.flatMap_append, String.ofList_append]
  rfl

theorem render_plain (text : String) : (plain text).render colors = text := by
  rw [render, renderChars, plain, List.flatMap_singleton, Piece.render, String.ofList_toList]

theorem render_join (separator : String) (parts : List Styled) :
    (join separator parts).render colors =
      separator.intercalate (parts.map (·.render colors)) := by
  induction parts with
  | nil => rfl
  | cons part rest induction =>
      cases rest with
      | nil => rw [join, List.map_singleton, String.intercalate_singleton]
      | cons next others =>
          rw [join, render_append, render_append, render_plain, induction, List.map_cons,
            List.map_cons, List.map_cons, String.intercalate_cons_cons]

end Styled

/-! ## Rows -/

namespace TokenRow

theorem member?_id (row : TokenRow) :
    row.toJson.member? "id" = some (.integer row.id.toInt) := by
  rw [toJson, JsonTree.member?]
  cases timeJson row.createdAt <;> cases timeJson row.expiresAt <;> rfl

theorem member?_key (row : TokenRow) : row.toJson.member? "key" = some (.text row.key) := by
  rw [toJson, JsonTree.member?]
  cases timeJson row.createdAt <;> cases timeJson row.expiresAt <;> rfl

theorem member?_selected (row : TokenRow) :
    row.toJson.member? "selected" = some (.bool row.selected) := by
  rw [toJson, JsonTree.member?]
  cases timeJson row.createdAt <;> cases timeJson row.expiresAt <;> rfl

def details (row : TokenRow) : Styled :=
  .plain "  " ++ statusText row.status ++ .plain ("  " ++ row.quota ++ "  " ++ row.group ++ "  ")
    ++ .inStyle .dim ("expires " ++ expiryText row.expiresAt)

end TokenRow

def Token.lineText (token : Token) (selected colors : Bool) : String :=
  "  " ++ (if selected then "[x]" else "[ ]") ++ " #" ++ toString token.id.toInt ++ " "
    ++ (Styled.inStyle .bold token.name).render colors ++ "  "
    ++ (Styled.inStyle .dim token.maskedKey).render colors
    ++ (TokenRow.ofToken token selected).details.render colors

theorem TokenRow.render_line (token : Token) (selected colors : Bool) :
    (ofToken token selected).line.render colors = token.lineText selected colors := by
  simp only [line, details, Token.lineText, Styled.render_append, Styled.render_plain,
    String.append_assoc]
  rfl

/-! ## Reports -/

namespace TokenReport

variable (report : TokenReport)

theorem member?_pageState :
    report.toJson.member? "pageState" = some (.text report.pageState.name) :=
  rfl

theorem member?_selectedOnPage :
    report.toJson.member? "selectedOnPage" = some (.integer report.selectedOnPage) :=
  rfl

theorem member?_selected :
    report.toJson.member? "selected" =
      some (.array (report.selected.map fun id => .integer id.toInt)) :=
  rfl

theorem member?_items :
    report.toJson.member? "items" = some (.array (report.rows.map (·.toJson))) :=
  rfl

def heading : Styled :=
  .plain ("Page " ++ toString report.page.toNat ++ " · " ++ toString report.rows.length ++ " of "
    ++ toString report.total.toNat ++ " tokens · selected " ++ toString report.selected.length
    ++ " (") ++ stateText report.pageState ++ .plain " on this page)"

theorem render_text (colors : Bool) :
    report.text.render colors =
      "\n".intercalate
        (report.heading.render colors :: report.rows.map (·.line.render colors)) := by
  have lines : report.text = .join "\n" (report.heading :: report.rows.map (·.line)) := rfl
  rw [lines, Styled.render_join, List.map_cons, List.map_map]
  rfl

end TokenReport
end GatewayConsole
