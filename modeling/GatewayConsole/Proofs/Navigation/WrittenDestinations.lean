import GatewayConsole.Navigation.Destination
import GatewayConsole.Proofs.Json.WrittenRecord

/-!
# Written destinations

A resolved link is written without its menu when that is empty, and is not read without one.
Every menu ends in links that have none, so no resolved link comes back from what is written
of it. Nothing else is lost: with the empty menus put in, every one of them comes back.
-/

namespace GatewayConsole

variable {Gap : Type}

/-! ## Menus that are left out -/

namespace JsonTree

def withMenu (members : Fields Gap) : Fields Gap :=
  if members.any (·.1 == "children") then members else members ++ [("children", .array [])]

mutual
def withMenus : JsonTree Gap → JsonTree Gap
  | .array items => .array (itemsWithMenus items)
  | .object members => .object (withMenu (membersWithMenus members))
  | tree => tree

def itemsWithMenus : List (JsonTree Gap) → List (JsonTree Gap)
  | [] => []
  | item :: rest => withMenus item :: itemsWithMenus rest

def membersWithMenus : Fields Gap → Fields Gap
  | [] => []
  | (key, value) :: rest => (key, withMenus value) :: membersWithMenus rest
end

end JsonTree

namespace ResolvedLink

/-! ## Records without a menu -/

theorem ofFields?_none (fields : Fields Gap) : ofFields? fields none = none := by
  simp only [ofFields?, Option.bind_eq_bind, Option.bind_none, Option.bind_fun_none]

theorem ofTree?_of_no_menu {fields : Fields Gap} (missing : memberChildren? fields = none) :
    ofTree? (.object fields) = none := by
  rw [ofTree?, missing]
  simp only [ofFields?_none, Option.bind_eq_bind, Option.bind_fun_none]

theorem ofTrees?_of_unread {first : JsonTree Gap} (unread : ofTree? first = none)
    (rest : List (JsonTree Gap)) : ofTrees? (first :: rest) = none := by
  rw [ofTrees?, unread]
  rfl

/-- A link without a menu is not read, and neither is a link whose menu begins with one that is
not: so the first link of each menu decides, down to one without a menu. -/
theorem ofTree?_toJson_eq_none :
    ∀ link : ResolvedLink, ofTree? (link.toJson.asTree : JsonTree Gap) = none
  | .mk _ _ href _ [] => by
      refine ofTree?_of_no_menu ?_
      cases href <;> rfl
  | .mk _ _ href _ (child :: rest) => by
      have unread : ofTrees? (Json.itemTrees (toJsons (child :: rest)) : List (JsonTree Gap)) =
          none :=
        ofTrees?_of_unread (ofTree?_toJson_eq_none child) _
      refine ofTree?_of_no_menu ?_
      cases href <;> exact unread

/-! ## Records with their menus -/

def wholeMembers (key text : String) (href : Option String) (external : Bool)
    (menu : JsonTree Gap) : Fields Gap :=
  [("key", .text key), ("text", .text text)]
    ++ (href.map fun path => ("href", JsonTree.text path)).toList
    ++ [("external", .bool external), ("children", menu)]

theorem ofTree?_wholeMembers (key text : String) (href : Option String) (external : Bool)
    {menu : JsonTree Gap} {children : List ResolvedLink} (isMenu : children? menu = some children) :
    ofTree? (.object (wholeMembers key text href external menu)) =
      some (.mk key text href external children) := by
  have given : (JsonTree.object (wholeMembers key text href external menu)).fields? fieldNames =
      some (wholeMembers key text href external menu) := by
    cases href <;> exact Fields.fields?_object rfl rfl
  have found : memberChildren? (wholeMembers key text href external menu) = children? menu := by
    cases href <;> rfl
  rw [ofTree?, given, found, isMenu]
  cases href <;> rfl

theorem withMenus_toJson (key text : String) (href : Option String) (external : Bool)
    (children : List ResolvedLink) :
    ((toJson (.mk key text href external children)).asTree : JsonTree Gap).withMenus =
      .object (wholeMembers key text href external
        (.array (JsonTree.itemsWithMenus (Json.itemTrees (toJsons children))))) := by
  cases href <;> cases children <;> rfl

mutual
theorem ofTree?_withMenus :
    ∀ link : ResolvedLink, ofTree? (link.toJson.asTree : JsonTree Gap).withMenus = some link
  | .mk key text href external children => by
      rw [withMenus_toJson]
      exact ofTree?_wholeMembers key text href external (ofTrees?_itemsWithMenus children)

theorem ofTrees?_itemsWithMenus :
    ∀ links : List ResolvedLink,
      ofTrees? (JsonTree.itemsWithMenus (Json.itemTrees (toJsons links) : List (JsonTree Gap))) =
        some links
  | [] => rfl
  | link :: rest => by
      rw [toJsons, Json.itemTrees, JsonTree.itemsWithMenus, ofTrees?, ofTree?_withMenus link,
        ofTrees?_itemsWithMenus rest]
      rfl
end

/-! ## Headers -/

/-- What is written of a header comes back when the header is empty, and is refused otherwise.
With an empty menu in every record that has none, it comes back whatever the header is. -/
theorem written_header_lacks_only_menus (links : List Link) (visitor : Visitor) (Gap : Type) :
    let resolved := Link.resolve links visitor
    let tree : JsonTree Gap := Json.asTree (.array (toJsons resolved))
    (links = [] → children? tree = some resolved) ∧
    (links ≠ [] → children? tree = none) ∧
    children? tree.withMenus = some resolved := by
  refine ⟨?_, ?_, ofTrees?_itemsWithMenus _⟩
  · rintro rfl
    rfl
  · intro occupied
    cases links with
    | nil => exact absurd rfl occupied
    | cons link rest => exact ofTrees?_of_unread (ofTree?_toJson_eq_none _) _

/-- An empty header, and one with a page in a menu. -/
theorem written_header_lacks_only_menus_of_page :
    let page : Link := .page "usage-log" "Usage Logs" true "/log"
    let links : List Link := [.menu "logs" "Logs" false [page]]
    let anonymous : Visitor := ⟨false, false⟩
    let tree : Document := Json.asTree (.array (toJsons (Link.resolve links anonymous)))
    children? (Json.asTree (.array (toJsons (Link.resolve [] anonymous))) : Document) = some [] ∧
      links ≠ [] ∧ children? tree = none ∧
      children? tree.withMenus =
        some [.mk "logs" "Logs" none false [.mk "usage-log" "Usage Logs" "/login" false []]] := by
  intro page links anonymous tree
  have occupied : links ≠ [] := List.cons_ne_nil _ _
  rcases written_header_lacks_only_menus links anonymous Unit with ⟨_, lost, restored⟩
  exact ⟨(written_header_lacks_only_menus [] anonymous Unit).1 rfl, occupied, lost occupied,
    restored⟩

/-- A page has no menu, and what is written of it is not read. -/
theorem written_page_does_not_come_back :
    let resolved := Link.resolve [.page "home" "Home" false "/"] ⟨false, false⟩
    children? (.array (toJsons resolved) : Json) ≠ some resolved := by
  intro resolved same
  have refused : children? (.array (toJsons resolved) : Json) = none := rfl
  exact absurd (refused.symm.trans same) (Option.some_ne_none resolved).symm

end ResolvedLink
end GatewayConsole
