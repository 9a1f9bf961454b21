/-!
# Header links

The header is a list of links. A link leads to a page of the console, to another site, or
opens a menu of further links.
-/

namespace GatewayConsole

inductive Link
  | page (key text : String) (requiresLogin : Bool) (path : String)
  | site (key text : String) (requiresLogin : Bool) (url : String)
  | menu (key text : String) (requiresLogin : Bool) (links : List Link)

namespace Link

instance : Inhabited Link := ⟨.page "" "" false ""⟩

def key : Link → String
  | .page key .. | .site key .. | .menu key .. => key

def text : Link → String
  | .page _ text .. | .site _ text .. | .menu _ text .. => text

def requiresLogin : Link → Bool
  | .page _ _ requiresLogin _ | .site _ _ requiresLogin _ | .menu _ _ requiresLogin _ =>
      requiresLogin

def path? : Link → Option String
  | .page _ _ _ path => some path
  | _ => none

def url? : Link → Option String
  | .site _ _ _ url => some url
  | _ => none

def children : Link → List Link
  | .menu _ _ _ links => links
  | _ => []

def isExternal (link : Link) : Bool :=
  link.url?.isSome

end Link
end GatewayConsole
