import GatewayConsole.Proofs.Navigation.Places

/-!
# Outlines of headers

The outline of a header is all that it shows but the destinations of its links. It comes from
the links alone, so that every two visitors find the same outline; and a link that leads them
to different places leads one of them to the login page and the other where it says.
-/

namespace GatewayConsole

/-! ## Outlines -/

namespace ResolvedLink

mutual
def outline : ResolvedLink → ResolvedLink
  | .mk key text _ external children => .mk key text none external (outlines children)

def outlines : List ResolvedLink → List ResolvedLink
  | [] => []
  | link :: rest => outline link :: outlines rest
end

end ResolvedLink

namespace Link

mutual
def outline : Link → ResolvedLink
  | .page key text .. => .mk key text none false []
  | .site key text .. => .mk key text none true []
  | .menu key text _ links => .mk key text none false (outlines links)

def outlines : List Link → List ResolvedLink
  | [] => []
  | link :: rest => outline link :: outlines rest
end

mutual
theorem outline_resolveIn (visitor : Visitor) (parent : Option Link) :
    (link : Link) → (resolveIn visitor parent link).outline = link.outline
  | .page .. => rfl
  | .site .. => rfl
  | .menu key text requiresLogin links => by
      rw [resolveIn, ResolvedLink.outline, outlines_resolveAll, outline]

theorem outlines_resolveAll (visitor : Visitor) (parent : Option Link) :
    (links : List Link) →
      ResolvedLink.outlines (resolveAll visitor parent links) = outlines links
  | [] => rfl
  | link :: rest => by
      rw [resolveAll, ResolvedLink.outlines, outline_resolveIn, outlines_resolveAll, outlines]
end

/-! ## Destinations -/

/-- What two visitors make of a link: the first one finds its outline, both find another site
at its address, and where they are led to different places one has to log in. A first visitor
who is logged in is led where the link says. -/
structure Leads (node : Link) (first : Visitor) (left right : ResolvedLink) : Prop where
  outline : left.outline = node.outline
  site : node.isExternal = true → left.href = node.url? ∧ right.href = node.url?
  login : left.href ≠ right.href →
    (left.href = some loginPath ∧ right.href = node.path?) ∨
      (left.href = node.path? ∧ right.href = some loginPath)
  loggedIn : first.loggedIn = true → node.isExternal = false → left.href = node.path?

end Link
end GatewayConsole
