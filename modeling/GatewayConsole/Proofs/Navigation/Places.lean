import GatewayConsole.Navigation.Destination

/-!
# Places in menus

A place among links is a position in the list, followed by positions in the menus on the way.
Resolving keeps every link in its place, and what becomes of it depends on the link and on
the menu it stands in. Menus further out are not asked.
-/

namespace GatewayConsole
namespace Link

/-! ## Resolving lists -/

theorem resolveAll_eq_map (visitor : Visitor) (parent : Option Link) (links : List Link) :
    resolveAll visitor parent links = links.map (resolveIn visitor parent) := by
  induction links with
  | nil => rfl
  | cons link rest induction => rw [resolveAll, induction, List.map_cons]

section Resolved

variable (visitor : Visitor) (parent : Option Link) (link : Link)

@[simp] theorem key_resolveIn : (resolveIn visitor parent link).key = link.key := by
  cases link <;> rfl

@[simp] theorem children_resolveIn :
    (resolveIn visitor parent link).children = resolveAll visitor (some link) link.children := by
  cases link <;> rfl

theorem href_resolveIn :
    (resolveIn visitor parent link).href =
      if link.isExternal then link.url? else link.targetPath? parent visitor := by
  cases link <;> rfl

end Resolved

/-! ## Places -/

/-- The link at a place, and the menus around it, beginning with the one it stands in. The
links are themselves in the menus that are given. -/
def nodeAt? (menus links : List Link) (position : Nat) : List Nat → Option (Link × List Link)
  | [] => links[position]?.map fun node => (node, menus)
  | next :: rest =>
    links[position]?.bind fun menu => nodeAt? (menu :: menus) menu.children next rest

end Link

namespace ResolvedLink

def nodeAt? (links : List ResolvedLink) (position : Nat) : List Nat → Option ResolvedLink
  | [] => links[position]?
  | next :: rest => links[position]?.bind fun menu => nodeAt? menu.children next rest

end ResolvedLink

namespace Link

theorem nodeAt?_resolveAll (visitor : Visitor) (menus links : List Link) (position : Nat)
    (rest : List Nat) :
    ResolvedLink.nodeAt? (resolveAll visitor menus.head? links) position rest =
      (nodeAt? menus links position rest).map fun (node, around) =>
        resolveIn visitor around.head? node := by
  induction rest generalizing menus links position with
  | nil =>
      rw [ResolvedLink.nodeAt?, nodeAt?, resolveAll_eq_map, List.getElem?_map, Option.map_map]
      rfl
  | cons next rest induction =>
      rw [ResolvedLink.nodeAt?, nodeAt?, resolveAll_eq_map, List.getElem?_map]
      cases links[position]? with
      | none => rfl
      | some menu =>
          rw [Option.map_some, Option.bind_some, Option.bind_some, children_resolveIn]
          exact induction (menu :: menus) menu.children next

/-! ## Login -/

def IsProtected (node : Link) (menus : List Link) : Prop :=
  node.requiresLogin = true ∨ ∃ menu ∈ menus.head?, menu.requiresLogin = true

theorem targetPath?_of_isProtected {visitor : Visitor} (anonymous : visitor.loggedIn = false)
    {node : Link} {menus : List Link} (protection : node.IsProtected menus) :
    node.targetPath? menus.head? visitor = some loginPath := by
  have asked : (node.requiresLogin || menus.head?.any (·.requiresLogin)) = true := by
    rcases protection with own | ⟨menu, member, required⟩
    · rw [own, Bool.true_or]
    · rw [Option.mem_def.mp member, Option.any_some, required, Bool.or_true]
  rw [targetPath?, isClosed, asked, anonymous]
  rfl

theorem href_of_isProtected {visitor : Visitor} (anonymous : visitor.loggedIn = false)
    (menus : List Link) {node : Link} (inside : node.isExternal = false)
    (protection : node.IsProtected menus) :
    (resolveIn visitor menus.head? node).href = some loginPath := by
  rw [href_resolveIn, inside, targetPath?_of_isProtected anonymous protection]
  rfl

theorem href_of_loggedIn {visitor : Visitor} (loggedIn : visitor.loggedIn = true)
    (parent : Option Link) (node : Link) :
    (resolveIn visitor parent node).href = if node.isExternal then node.url? else node.path? := by
  rw [href_resolveIn, targetPath?, isClosed, loggedIn, Bool.not_true, Bool.and_false]
  rfl

/-- At every place, an anonymous visitor is sent to the login page by a link to a page or a menu
that requires a login itself or stands in a menu that does. -/
theorem anonymous_login (links : List Link) (visitor : Visitor)
    (anonymous : visitor.loggedIn = false) (position : Nat) (rest : List Nat) (node : Link)
    (menus : List Link) (found : nodeAt? [] links position rest = some (node, menus)) :
    ∃ resolved, ResolvedLink.nodeAt? (resolve links visitor) position rest = some resolved ∧
      resolved.key = node.key ∧
      (node.isExternal = false → node.IsProtected menus → resolved.href = some loginPath) := by
  refine ⟨resolveIn visitor menus.head? node, ?_, key_resolveIn visitor menus.head? node, ?_⟩
  · have placed := nodeAt?_resolveAll visitor [] links position rest
    rwa [found, Option.map_some] at placed
  · exact href_of_isProtected anonymous menus

/-- A page two menus deep, one of which requires a login. -/
theorem anonymous_login_of_inner_page :
    let page : Link := .page "c" "C" false "/c"
    let inner : Link := .menu "b" "B" true [page]
    let outer : Link := .menu "a" "A" false [inner]
    nodeAt? [] [outer] 0 [0, 0] = some (page, [inner, outer]) ∧
      ∃ resolved, ResolvedLink.nodeAt? (resolve [outer] ⟨false, false⟩) 0 [0, 0] = some resolved ∧
        resolved.href = some loginPath := by
  intro page inner outer
  have found : nodeAt? [] [outer] 0 [0, 0] = some (page, [inner, outer]) := rfl
  rcases anonymous_login [outer] ⟨false, false⟩ rfl 0 [0, 0] page [inner, outer] found with
    ⟨resolved, placed, _, leads⟩
  exact ⟨found, resolved, placed, leads rfl (.inr ⟨inner, rfl, rfl⟩)⟩

/-- A page in a menu inside a menu that requires a login is open. -/
theorem anonymous_login_not_everywhere :
    let page : Link := .page "c" "C" false "/c"
    let inner : Link := .menu "b" "B" false [page]
    let outer : Link := .menu "a" "A" true [inner]
    nodeAt? [] [outer] 0 [0, 0] = some (page, [inner, outer]) ∧ outer.requiresLogin = true ∧
      (ResolvedLink.nodeAt? (resolve [outer] ⟨false, false⟩) 0 [0, 0]).bind (·.href) ≠
        some loginPath := by
  refine ⟨rfl, rfl, fun same => absurd (Option.some.inj same) (by decide)⟩

end Link
end GatewayConsole
