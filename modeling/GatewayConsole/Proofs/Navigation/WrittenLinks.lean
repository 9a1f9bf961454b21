import GatewayConsole.Navigation.LinkJson
import GatewayConsole.Proofs.Json.WrittenRecord
import Mathlib.Data.List.Find
import Mathlib.Data.List.Nodup

/-!
# Written links

A link comes back from what is written of it, whatever menus it opens. It is read by the names
of its fields, so that the order of the members does not matter; and the record of a link may
be an array of its fields instead.
-/

namespace GatewayConsole

variable {Gap : Type}

theorem Fields.find?_of_perm {first second : Fields Gap} (order : first.Perm second)
    (once : (second.map (·.1)).Nodup) (name : String) : first.find? name = second.find? name := by
  have single : (first.map (·.1)).Nodup := (order.map (·.1)).nodup_iff.mpr once
  have named : {field ∈ first | field.1 == name}.Subsingleton := by
    rintro left ⟨leftMember, isLeft⟩ right ⟨rightMember, isRight⟩
    exact List.inj_on_of_nodup_map single leftMember rightMember
      ((eq_of_beq isLeft).trans (eq_of_beq isRight).symm)
  rw [find?, List.find?_eq_find?_of_perm order named, find?]

namespace Link

/-! ## Records -/

def members (key text : String) (requiresLogin : Bool) (target : JsonTree Gap) : Fields Gap :=
  [("key", .text key), ("text", .text text), ("requires_auth", .bool requiresLogin),
    ("target", target)]

/-- The records of a link with a target: an object with the members in any order, or an array
of the fields. -/
inductive IsRecord (key text : String) (requiresLogin : Bool) (target : JsonTree Gap) :
    JsonTree Gap → Prop
  | object {fields : Fields Gap} (order : fields.Perm (members key text requiresLogin target)) :
      IsRecord key text requiresLogin target (.object fields)
  | array :
      IsRecord key text requiresLogin target
        (.array [.text key, .text text, .bool requiresLogin, target])

theorem memberTarget?_eq (fields : Fields Gap) :
    memberTarget? fields = (fields.find? "target").bind target? := by
  induction fields with
  | nil => rfl
  | cons field rest induction =>
      rcases field with ⟨name, tree⟩
      rw [memberTarget?]
      by_cases named : name = "target"
      · rw [if_pos named, named, Fields.find?_cons_same, Option.bind_some]
      · rw [if_neg named, Fields.find?_cons_other named, induction]

section Record

variable {key text : String} {requiresLogin : Bool} {tree record : JsonTree Gap} {target : Target}

theorem ofFields?_of_perm {fields : Fields Gap}
    (order : fields.Perm (members key text requiresLogin tree)) :
    ofFields? fields (some target) = some (target.link key text requiresLogin) := by
  have found (name : String) := Fields.find?_of_perm order (by simp [members]) name
  rw [ofFields?, Fields.required, Fields.required, Fields.optional, found, found, found]
  rfl

theorem ofTree?_of_isRecord (isRecord : IsRecord key text requiresLogin tree record)
    (isTarget : target? tree = some target) :
    ofTree? record = some (target.link key text requiresLogin) := by
  cases isRecord with
  | object order =>
      have once : ((members key text requiresLogin tree).map (·.1)).Nodup := by simp [members]
      have declared : (JsonTree.object _).fields? fieldNames = some _ :=
        Fields.fields?_object (order.all_eq.trans rfl)
          (Fields.namesOnce_of_nodup ((order.map (·.1)).nodup_iff.mpr once))
      rw [ofTree?, declared, Option.bind_eq_bind, Option.bind_some, memberTarget?_eq,
        Fields.find?_of_perm order once, ← ofFields?_of_perm order, ← isTarget]
      rfl
  | array =>
      rw [ofTree?, itemTarget?, itemTarget?, itemTarget?, itemTarget?, isTarget]
      exact ofFields?_of_perm (.refl (members key text requiresLogin tree))

end Record

/-! ## Links -/

mutual
/-- Whether a tree writes a link, all records in it being written in either way. -/
def Writes : Link → JsonTree Gap → Prop
  | .page key text requiresLogin path, tree =>
      IsRecord key text requiresLogin (.object [("path", .text path)]) tree
  | .site key text requiresLogin url, tree =>
      IsRecord key text requiresLogin (.object [("external", .text url)]) tree
  | .menu key text requiresLogin links, tree =>
      ∃ items, WriteAll links items ∧
        IsRecord key text requiresLogin (.object [("menu", .array items)]) tree

def WriteAll : List Link → List (JsonTree Gap) → Prop
  | [], items => items = []
  | link :: rest, items =>
      ∃ first others, items = first :: others ∧ Writes link first ∧ WriteAll rest others
end

mutual
theorem ofTree?_of_writes : ∀ {link : Link} {tree : JsonTree Gap},
    link.Writes tree → ofTree? tree = some link
  | .page .., _, isRecord => ofTree?_of_isRecord isRecord rfl
  | .site .., _, isRecord => ofTree?_of_isRecord isRecord rfl
  | .menu .., _, ⟨items, writeAll, isRecord⟩ => by
      have isMenu : target? (.object [("menu", .array items)]) = some (.menu _) :=
        congrArg (Option.map Target.menu) (ofTrees?_of_writeAll writeAll)
      exact ofTree?_of_isRecord isRecord isMenu

theorem ofTrees?_of_writeAll : ∀ {links : List Link} {items : List (JsonTree Gap)},
    WriteAll links items → ofTrees? items = some links
  | [], _, rfl => rfl
  | link :: rest, _, ⟨first, others, rfl, writes, writeRest⟩ => by
      rw [ofTrees?, ofTree?_of_writes writes, ofTrees?_of_writeAll writeRest]
      rfl
end

/-! ## Values of links -/

theorem value?_record (key text : String) (requiresLogin : Bool) (kind : String)
    {target sorted : Json} (isValue : target.value? = some sorted) :
    (record key text requiresLogin kind target).value? =
      some (.object
        [("key", .text key), ("requires_auth", .bool requiresLogin),
          ("target", .object [(kind, sorted)]), ("text", .text text)]) := by
  rw [record]
  simp only [JsonTree.value?, JsonTree.memberValues?, isValue]
  rfl

theorem isRecord_sorted (key text : String) (requiresLogin : Bool) (target : Json) :
    IsRecord key text requiresLogin target
      (.object
        [("key", .text key), ("requires_auth", .bool requiresLogin), ("target", target),
          ("text", .text text)]) :=
  .object (.cons _ (List.perm_append_singleton ("text", JsonTree.text text)
    [("requires_auth", .bool requiresLogin), ("target", target)]))

mutual
theorem writes_toJson : ∀ link : Link, link.Writes (link.toJson.asTree : JsonTree Gap)
  | .page key text requiresLogin path =>
      .object (.refl (members key text requiresLogin (.object [("path", .text path)])))
  | .site key text requiresLogin url =>
      .object (.refl (members key text requiresLogin (.object [("external", .text url)])))
  | .menu key text requiresLogin links =>
      ⟨Json.itemTrees (toJsons links), writeAll_toJsons links,
        .object (.refl (members key text requiresLogin (.object [("menu", .array _)])))⟩

theorem writeAll_toJsons :
    ∀ links : List Link, WriteAll links (Json.itemTrees (toJsons links) : List (JsonTree Gap))
  | [] => rfl
  | link :: rest => ⟨_, _, rfl, writes_toJson link, writeAll_toJsons rest⟩
end

mutual
theorem exists_value?_toJson :
    ∀ link : Link, ∃ value, link.toJson.value? = some value ∧ link.Writes value
  | .page key text requiresLogin _ =>
      ⟨_, value?_record key text requiresLogin "path" rfl, isRecord_sorted key text requiresLogin _⟩
  | .site key text requiresLogin _ =>
      ⟨_, value?_record key text requiresLogin "external" rfl,
        isRecord_sorted key text requiresLogin _⟩
  | .menu key text requiresLogin links => by
      rcases exists_itemValues?_toJsons links with ⟨values, areValues, writeAll⟩
      have isValue : (JsonTree.array (toJsons links) : Json).value? = some (.array values) :=
        congrArg (Option.map JsonTree.array) areValues
      exact ⟨_, value?_record key text requiresLogin "menu" isValue, values, writeAll,
        isRecord_sorted key text requiresLogin _⟩

theorem exists_itemValues?_toJsons :
    ∀ links : List Link, ∃ values,
      JsonTree.itemValues? (toJsons links) = some values ∧ WriteAll links values
  | [] => ⟨[], rfl, rfl⟩
  | link :: rest => by
      rcases exists_value?_toJson link with ⟨value, isValue, writes⟩
      rcases exists_itemValues?_toJsons rest with ⟨values, areValues, writeAll⟩
      refine ⟨value :: values, ?_, value, values, rfl, writes, writeAll⟩
      rw [toJsons, JsonTree.itemValues?, isValue, areValues]
      rfl
end

/-! ## Reading back -/

theorem ofTree?_toJson (link : Link) : ofTree? (link.toJson.asTree : JsonTree Gap) = some link :=
  ofTree?_of_writes (writes_toJson link)

theorem ofTree?_toJson_self (link : Link) : ofTree? link.toJson = some link := by
  have reads : ofTree? (link.toJson.asTree : Json) = some link := ofTree?_toJson link
  rwa [Json.asTree_self] at reads

/-- A link is read from what is written of it, from the value of that, and from every tree that
writes it in another way. So links that are written alike are the same, and a link that was
read from any tree is read again from what is written of it. -/
theorem written_links_come_back :
    (∀ link : Link, ofTree? link.toJson = some link ∧
      ∃ value, link.toJson.value? = some value ∧ ofTree? value = some link) ∧
    (∀ (Gap : Type) (link : Link) (tree : JsonTree Gap),
      link.Writes tree → ofTree? tree = some link) ∧
    Function.Injective toJson ∧
    (Function.Injective fun link : Link => link.toJson.value?) ∧
    ∀ (Gap : Type) (tree : JsonTree Gap) (link : Link), ofTree? tree = some link →
      ofTree? link.toJson = some link ∧ ofTree? (link.toJson.asTree : Document) = some link := by
  refine ⟨fun link => ⟨ofTree?_toJson_self link, ?_⟩, fun _ _ _ => ofTree?_of_writes, ?_, ?_, ?_⟩
  · rcases exists_value?_toJson link with ⟨value, isValue, writes⟩
    exact ⟨value, isValue, ofTree?_of_writes writes⟩
  · intro first second same
    have reads := ofTree?_toJson_self first
    rw [same, ofTree?_toJson_self] at reads
    exact (Option.some.inj reads).symm
  · intro first second same
    rcases exists_value?_toJson first with ⟨value, isValue, writes⟩
    rcases exists_value?_toJson second with ⟨other, isOther, writesOther⟩
    have alike : value = other := Option.some.inj (isValue.symm.trans (same.trans isOther))
    have reads := ofTree?_of_writes writesOther
    rw [← alike, ofTree?_of_writes writes] at reads
    exact Option.some.inj reads
  · intro _ _ link _
    exact ⟨ofTree?_toJson_self link, ofTree?_toJson link⟩

/-- A menu whose members are in another order, with a page that is written as an array, and a
record that leaves its mark for a login out and has a member that no link has. -/
theorem written_links_come_back_of_array :
    let page : Link := .page "usage-log" "Usage Logs" true "/log"
    let menu : Link := .menu "logs" "Logs" false [page]
    let pageTree : Document := .array
      [.text "usage-log", .text "Usage Logs", .bool true, .object [("path", .text "/log")]]
    let target : Document := .object [("menu", .array [pageTree])]
    let menuTree : Document := .object
      [("target", target), ("key", .text "logs"), ("text", .text "Logs"),
        ("requires_auth", .bool false)]
    let unmarked : Document := .object
      [("owner", .gap ()), ("key", .text "logs"), ("text", .text "Logs"), ("target", target)]
    menu.Writes menuTree ∧ ofTree? menuTree = some menu ∧
      ofTree? unmarked = some menu ∧ ofTree? menu.toJson = some menu := by
  intro page menu pageTree target menuTree unmarked
  rcases written_links_come_back with ⟨_, fromTree, _, _, again⟩
  have writes : menu.Writes menuTree :=
    ⟨[pageTree], ⟨pageTree, [], rfl, .array, rfl⟩,
      .object (List.perm_append_singleton ("target", target) [_, _, _]).symm⟩
  have reads : ofTree? unmarked = some menu := rfl
  exact ⟨writes, fromTree Unit menu menuTree writes, reads, (again Unit unmarked menu reads).1⟩

end Link
end GatewayConsole
