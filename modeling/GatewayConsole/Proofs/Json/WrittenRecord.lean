import GatewayConsole.Json.Record
import GatewayConsole.Proofs.Json.CompactForm

/-!
# Reading written records

What a value needs in order to survive printing and reading, and the fields that are found
in an object as it was written.
-/

namespace GatewayConsole
namespace Json

variable {Gap : Type}

/-! ## Values that survive -/

/-- Whether a value is read back from its text, with room for containers around it. -/
structure Survives (depth : Nat) (json : Json) : Prop where
  exact : json.isExact = true
  shallow : json.height ≤ depth

section Survives

variable {depth : Nat}

theorem survives_text (text : String) : Survives depth (.text text) :=
  ⟨rfl, Nat.zero_le depth⟩

theorem survives_bool (value : Bool) : Survives depth (.bool value) :=
  ⟨rfl, Nat.zero_le depth⟩

theorem survives_null : Survives depth .null :=
  ⟨rfl, Nat.zero_le depth⟩

theorem survives_integer {value : Int} (least : -2 ^ 63 ≤ value) (small : value < 2 ^ 64) :
    Survives depth (.integer value) := by
  refine ⟨?_, Nat.zero_le depth⟩
  rw [isExact, isWord, decide_eq_true least, decide_eq_true small]
  rfl

theorem survives_word (word : UInt64) : Survives depth (.integer word.toNat) :=
  survives_integer (by omega) (by exact_mod_cast word.toNat_lt)

theorem survives_signed (number : Int64) : Survives depth (.integer number.toInt) :=
  survives_integer number.le_toInt (Int.lt_trans number.toInt_lt (by decide))

theorem survives_array {items : List Json} (all : ∀ item ∈ items, Survives depth item) :
    Survives (depth + 1) (.array items) := by
  have parts : itemsExact items = true ∧ itemsHeight items ≤ depth := by
    induction items with
    | nil => exact ⟨rfl, Nat.zero_le depth⟩
    | cons item items induction =>
        rcases all item List.mem_cons_self with ⟨exact, shallow⟩
        rcases induction fun other found => all other (List.mem_cons_of_mem item found) with
          ⟨restExact, restShallow⟩
        rw [itemsExact, exact, restExact, itemsHeight]
        exact ⟨rfl, Nat.max_le.mpr ⟨shallow, restShallow⟩⟩
  exact ⟨parts.1, Nat.succ_le_succ parts.2⟩

theorem survives_object {members : List (String × Json)}
    (all : ∀ member ∈ members, Survives depth member.2) :
    Survives (depth + 1) (.object members) := by
  have parts : membersExact members = true ∧ membersHeight members ≤ depth := by
    induction members with
    | nil => exact ⟨rfl, Nat.zero_le depth⟩
    | cons member members induction =>
        rcases all member List.mem_cons_self with ⟨exact, shallow⟩
        rcases induction fun other found => all other (List.mem_cons_of_mem member found) with
            ⟨restExact, restShallow⟩
        rw [membersExact, exact, restExact, membersHeight]
        exact ⟨rfl, Nat.max_le.mpr ⟨shallow, restShallow⟩⟩
  exact ⟨parts.1, Nat.succ_le_succ parts.2⟩

theorem survives_presentMember {key : String} {value : Option Json}
    (survives : ∀ json ∈ value, Survives depth json) :
    ∀ member ∈ presentMember key value, Survives depth member.2 := by
  intro member found
  rcases Option.map_eq_some_iff.mp (Option.mem_toList.mp found) with ⟨json, isValue, rfl⟩
  exact survives json isValue

theorem Survives.document {json : Json} (survives : Survives Reader.depthLimit json) :
    Document.ofText? json.indented = some json.asTree :=
  Reader.document_indented survives.exact survives.shallow

theorem Survives.document_compact {json : Json} (survives : Survives Reader.depthLimit json) :
    Document.ofText? json.compact = some json.asTree :=
  Reader.document_compact survives.exact survives.shallow

end Survives

/-! ## The fields of a written object -/

theorem memberTrees_append (first second : List (String × Json)) :
    (memberTrees (first ++ second) : Fields Gap) = memberTrees first ++ memberTrees second := by
  induction first with
  | nil => rfl
  | cons member first induction =>
      rw [List.cons_append, memberTrees, memberTrees, induction, List.cons_append]

theorem memberTrees_presentMember (key : String) (value : Option Json) :
    (memberTrees (presentMember key value) : Fields Gap) =
      (value.map fun json => (key, json.asTree)).toList := by
  cases value <;> rfl

theorem memberTrees_eq_map (members : List (String × Json)) :
    (memberTrees members : Fields Gap) =
      members.map fun member => (member.1, member.2.asTree) := by
  induction members with
  | nil => rfl
  | cons member members induction => rw [memberTrees, induction, List.map_cons]

theorem itemTrees_eq_map (items : List Json) :
    (itemTrees items : List (JsonTree Gap)) = items.map asTree := by
  induction items with
  | nil => rfl
  | cons item items induction => rw [itemTrees, induction, List.map_cons]

theorem keys_memberTrees (members : List (String × Json)) :
    (memberTrees members : Fields Gap).map (·.1) = members.map (·.1) := by
  rw [memberTrees_eq_map, List.map_map]
  rfl

theorem find?_memberTrees (members : Fields Empty) (name : String) :
    Fields.find? (memberTrees members : Fields Gap) name = (members.find? name).map asTree := by
  rw [memberTrees_eq_map, Fields.find?, Fields.find?, List.find?_map, Option.map_map,
    Option.map_map]
  rfl

mutual
theorem isComplete_asTree : ∀ json : Json, (json.asTree : JsonTree Gap).isComplete = true
  | .null | .bool _ | .integer _ | .real _ | .text _ => rfl
  | .array items => itemsComplete_itemTrees items
  | .object members => membersComplete_memberTrees members

theorem itemsComplete_itemTrees :
    ∀ items : List Json, JsonTree.itemsComplete (itemTrees items : List (JsonTree Gap)) = true
  | [] => rfl
  | item :: rest => by
      rw [itemTrees, JsonTree.itemsComplete, isComplete_asTree item, itemsComplete_itemTrees rest]
      rfl

theorem membersComplete_memberTrees :
    ∀ members : List (String × Json),
      JsonTree.membersComplete (memberTrees members : Fields Gap) = true
  | [] => rfl
  | (_, value) :: rest => by
      rw [memberTrees, JsonTree.membersComplete, isComplete_asTree value,
        membersComplete_memberTrees rest]
      rfl
end

mutual
theorem asTree_self : ∀ json : Json, (json.asTree : Json) = json
  | .null | .bool _ | .integer _ | .real _ | .text _ => rfl
  | .array items => congrArg JsonTree.array (itemTrees_self items)
  | .object members => congrArg JsonTree.object (memberTrees_self members)

theorem itemTrees_self : ∀ items : List Json, (itemTrees items : List Json) = items
  | [] => rfl
  | item :: rest => by rw [itemTrees, asTree_self item, itemTrees_self rest]

theorem memberTrees_self :
    ∀ members : List (String × Json), (memberTrees members : Fields Empty) = members
  | [] => rfl
  | (key, value) :: rest => by rw [memberTrees, asTree_self value, memberTrees_self rest]
end

theorem isComplete_of_mem_memberTrees {members : List (String × Json)}
    {member : String × JsonTree Gap} (found : member ∈ memberTrees members) :
    member.2.isComplete = true := by
  rw [memberTrees_eq_map] at found
  rcases List.mem_map.mp found with ⟨⟨_, value⟩, _, rfl⟩
  exact isComplete_asTree value

theorem asList?_itemTrees {α : Type} {write : α → Json} {read : JsonTree Gap → Option α}
    (reads : ∀ value, read (write value).asTree = some value) (values : List α) :
    (JsonTree.array (itemTrees (values.map write))).asList? read = some values := by
  have inverse : read ∘ asTree ∘ write = some := funext reads
  rw [itemTrees_eq_map, List.map_map, JsonTree.asList?, List.mapM_map, inverse]
  exact (List.mapM_pure (m := Option) (f := id)).trans (congrArg some (List.map_id values))

end Json

namespace Fields

variable {Gap α : Type} {fields : Fields Gap} {name : String} {default : α}
variable {read : JsonTree Gap → Option α}

theorem namesOnce_of_nodup {names : List String} (once : names.Nodup) :
    JsonTree.namesOnce names = true := by
  induction names with
  | nil => rfl
  | cons name names induction =>
      have parts := List.nodup_cons.mp once
      rw [JsonTree.namesOnce, induction parts.2]
      simpa using parts.1

theorem fields?_of_nodup {members : Fields Gap} (once : (members.map (·.1)).Nodup)
    (names : List String) :
    (JsonTree.object members).fields? names =
      some (members.filter fun member => names.contains member.1) := by
  have given : ((members.filter fun member => names.contains member.1).map (·.1)).Nodup :=
    (List.filter_sublist.map _).nodup once
  simp only [JsonTree.fields?, namesOnce_of_nodup given, if_true]

theorem fields?_object {names : List String} {members : Fields Gap}
    (declared : members.all (fun member => names.contains member.1) = true)
    (once : JsonTree.namesOnce (members.map (·.1)) = true) :
    (JsonTree.object members).fields? names = some members := by
  have kept : members.filter (fun member => names.contains member.1) = members :=
    List.filter_eq_self.mpr (List.all_eq_true.mp declared)
  simp only [JsonTree.fields?, kept, once, if_true]

theorem find?_append (first second : Fields Gap) (name : String) :
    find? (first ++ second) name = (find? first name).or (find? second name) := by
  rw [find?, List.find?_append, Option.map_or]
  rfl

theorem find?_filter {names : List String} (declared : name ∈ names) (fields : Fields Gap) :
    find? (fields.filter fun field => names.contains field.1) name = fields.find? name := by
  rw [find?, find?, List.find?_filter]
  congr 2
  funext field
  by_cases named : field.1 = name
  · rw [named]
    simpa using declared
  · simp [named]

theorem find?_eq_none (absent : name ∉ fields.map (·.1)) : fields.find? name = none := by
  rw [find?, List.find?_eq_none.mpr, Option.map_none]
  intro field member named
  exact absent (List.mem_map.mpr ⟨field, member, eq_of_beq named⟩)

theorem find?_cons_same (name : String) (tree : JsonTree Gap) (fields : Fields Gap) :
    find? ((name, tree) :: fields) name = some tree := by
  rw [find?, List.find?_cons_of_pos (by exact beq_self_eq_true name), Option.map_some]

theorem find?_cons_other {other : String} (different : other ≠ name) (tree : JsonTree Gap)
    (fields : Fields Gap) : find? ((other, tree) :: fields) name = fields.find? name := by
  rw [find?, List.find?_cons_of_neg (by simpa using different), find?]

theorem lenient_complete (complete : ∀ field ∈ fields, field.2.isComplete = true)
    (name : String) (read : JsonTree Gap → Option α) :
    fields.lenient name read = some ((fields.find? name).bind read) := by
  rw [lenient]
  split
  next tree found =>
    rcases Option.map_eq_some_iff.mp found with ⟨field, isField, rfl⟩
    rw [if_pos (complete field (List.mem_of_find?_eq_some isField)), found, Option.bind_some]
  next absent => rw [absent, Option.bind_none]

theorem optional_given {tree : JsonTree Gap} {value : α} (found : fields.find? name = some tree)
    (reads : read tree = some value) : fields.optional name default read = some value := by
  rw [optional, found]
  exact reads

theorem default_or_read {value : α} (found : fields.optional name default read = some value) :
    value = default ∨ ∃ tree, read tree = some value := by
  rw [optional] at found
  split at found
  next tree _ => exact .inr ⟨tree, found⟩
  next => exact .inl (Option.some.inj found).symm

theorem absent_or_read {value : Option α} (found : fields.lenient name read = some value) :
    value = none ∨ ∃ tree, read tree = value := by
  rw [lenient] at found
  split at found
  next tree _ =>
    rcases Option.ite_none_right_eq_some.mp found with ⟨_, isRead⟩
    exact .inr ⟨tree, Option.some.inj isRead⟩
  next => exact .inl (Option.some.inj found).symm

end Fields

namespace JsonTree

variable {Gap : Type}

theorem eq_text_of_asText? {tree : JsonTree Gap} {text : String}
    (isText : tree.asText? = some text) : tree = .text text := by
  cases tree with
  | text value => exact congrArg JsonTree.text (Option.some.inj isText)
  | _ => exact nomatch isText

theorem asWord?_toNat (word : UInt64) :
    (integer (word.toNat : Int) : JsonTree Gap).asWord? = some word := by
  have small : (word.toNat : Int) < 2 ^ 64 := by exact_mod_cast word.toNat_lt
  rw [asWord?, if_pos ⟨Int.natCast_nonneg _, small⟩, Int.toNat_natCast, UInt64.ofNat_toNat]

theorem asSigned?_toInt (number : Int64) :
    (integer number.toInt : JsonTree Gap).asSigned? = some number := by
  rw [asSigned?, if_pos ⟨number.le_toInt, number.toInt_lt⟩, Int64.ofInt_toInt]

end JsonTree
end GatewayConsole
