import GatewayConsole.Json.Document
import GatewayConsole.Proofs.Json.Tokens

/-!
# Reading printed values

The reader is run over the tokens of a value. Whatever containers are open, it ends with
the value put where one was expected, as long as no container lies too deep.
-/

namespace GatewayConsole

/-! ## Values as trees -/

namespace Json

variable {Gap : Type}

mutual
def asTree : Json → JsonTree Gap
  | .null => .null
  | .bool value => .bool value
  | .integer value => .integer value
  | .real value => .real value
  | .text value => .text value
  | .array items => .array (itemTrees items)
  | .object members => .object (memberTrees members)

def itemTrees : List Json → List (JsonTree Gap)
  | [] => []
  | item :: rest => asTree item :: itemTrees rest

def memberTrees : List (String × Json) → List (String × JsonTree Gap)
  | [] => []
  | (key, value) :: rest => (key, asTree value) :: memberTrees rest
end

mutual
def height : Json → Nat
  | .array items => itemsHeight items + 1
  | .object members => membersHeight members + 1
  | _ => 0

def itemsHeight : List Json → Nat
  | [] => 0
  | item :: rest => max (height item) (itemsHeight rest)

def membersHeight : List (String × Json) → Nat
  | [] => 0
  | (_, value) :: rest => max (height value) (membersHeight rest)
end

end Json

namespace Reader

/-! ## Runs -/

section Runs

variable {first rest : List JsonToken} {token : JsonToken} {reader middle : Reader}

theorem run_append (runs : first.foldlM step reader = some middle) :
    (first ++ rest).foldlM step reader = rest.foldlM step middle := by
  rw [List.foldlM_append, runs]
  rfl

theorem run_cons (steps : step reader token = some middle) :
    (token :: rest).foldlM step reader = rest.foldlM step middle := by
  rw [List.foldlM_cons, steps]
  rfl

theorem run_single : [token].foldlM step reader = step reader token := by
  rw [List.foldlM_cons]
  exact bind_pure _

end Runs

/-! ## Where a value goes -/

/-- The positions in front of a value, with the key under which it stands. -/
inductive Awaits : Expected → Option (Option String) → Prop
  | value : Awaits .value none
  | firstItem : Awaits .firstItem none
  | memberValue (key : Option String) : Awaits (.memberValue key) (some key)

/-- The containers into which a value with or without a key can be put. -/
inductive Fits : List OpenContainer → Option (Option String) → Prop
  | whole : Fits [] none
  | item (items : List Document) (outer : List OpenContainer) :
      Fits (.array items :: outer) none
  | member (members : List (Option String × Document)) (outer : List OpenContainer)
      (key : Option String) : Fits (.object members :: outer) (some key)

section Steps

variable {containers : List OpenContainer} {expected : Expected} {key : Option (Option String)}

theorem step_of_awaits (awaits : Awaits expected key) {token : JsonToken}
    (begins : token ≠ .closeArray) :
    step ⟨containers, expected⟩ token = beginValue containers key token := by
  cases awaits with
  | value => rfl
  | firstItem =>
      rw [step]
      · rfl
      · exact fun _ _ isClose => begins isClose
  | memberValue key => rfl

theorem close_hold (fits : Fits containers key) :
    ∃ around, beginValue.hold containers key = some around ∧
      around.length = containers.length ∧
      ∀ container, close container around =
        put containers key (finished container containers.length) := by
  cases fits with
  | whole => exact ⟨[], rfl, rfl, fun _ => rfl⟩
  | item items outer => exact ⟨.array items :: outer, rfl, rfl, fun _ => rfl⟩
  | member members outer key =>
      exact ⟨.object ((key, .null) :: members) :: outer, rfl, rfl, fun _ => rfl⟩

end Steps

def named (members : List (String × Document)) : List (Option String × Document) :=
  members.map fun member => (some member.1, member.2)

theorem named_cons (member : String × Document) (members : List (String × Document)) :
    named (member :: members) = (some member.1, member.2) :: named members :=
  rfl

theorem keyed?_named (members : List (String × Document)) :
    keyed? (named members) = some members := by
  induction members with
  | nil => rfl
  | cons member members induction =>
      rw [named_cons, keyed?, induction]
      rfl

theorem step_key {containers : List OpenContainer} {expected : Expected}
    (awaitsKey : expected = .firstKey ∨ expected = .nextKey) {key : Option String} :
    step ⟨containers, expected⟩ (.string key) = some ⟨containers, .colon key⟩ := by
  rcases awaitsKey with rfl | rfl
  · simp only [step]
  · rfl

theorem step_colon (containers : List OpenContainer) (key : Option String) :
    step ⟨containers, .colon key⟩ .colon = some ⟨containers, .memberValue key⟩ :=
  rfl

/-! ## Running the reader over the tokens of a value -/

mutual
theorem run_tokens {containers : List OpenContainer} {expected : Expected}
    {key : Option (Option String)} (awaits : Awaits expected key) (fits : Fits containers key) :
    ∀ json : Json, json.isExact = true → json.height + containers.length ≤ depthLimit →
      json.tokens.foldlM step ⟨containers, expected⟩ = put containers key json.asTree
  | .null, _, _ => by
      rw [Json.tokens, Json.asTree, run_single, step_of_awaits awaits (by nofun), beginValue]
  | .bool value, _, _ => by
      rw [Json.tokens, Json.asTree, run_single, step_of_awaits awaits (by nofun), beginValue]
  | .integer value, exact, _ => by
      rw [Json.isExact, Json.isWord, Bool.and_eq_true, decide_eq_true_eq,
        decide_eq_true_eq] at exact
      rw [Json.tokens, Json.asTree, run_single, step_of_awaits awaits (by nofun), beginValue,
        Numeral.toDocument_ofInt exact.1 exact.2]
  | .text value, _, _ => by
      rw [Json.tokens, Json.asTree, run_single, step_of_awaits awaits (by nofun), beginValue]
  | .array items, exact, shallow => by
      rcases close_hold fits with ⟨around, held, sameDepth, closes⟩
      rw [Json.isExact] at exact
      rw [Json.height] at shallow
      have deeper : ¬depthLimit ≤ containers.length := by omega
      have opened : step ⟨containers, expected⟩ .openArray =
          some ⟨.array [] :: around, .firstItem⟩ := by
        rw [step_of_awaits awaits (by nofun), beginValue, held]
        rfl
      have closed (done : List Document) :
          close (.array done) around = put containers key (.array done.reverse) := by
        rw [closes, finished, if_neg deeper]
      rw [Json.tokens, Json.asTree, run_cons opened]
      by_cases empty : items = []
      · rw [empty, Json.itemTokens, Json.itemTrees]
        exact run_single.trans (closed [])
      · have filled := run_itemTokens [] around .firstItem items empty exact (by omega)
        rw [run_append filled, run_single, List.append_nil]
        refine (closed _).trans ?_
        rw [List.reverse_reverse]
  | .object members, exact, shallow => by
      rcases close_hold fits with ⟨around, held, sameDepth, closes⟩
      rw [Json.isExact] at exact
      rw [Json.height] at shallow
      have deeper : ¬depthLimit ≤ containers.length := by omega
      have opened : step ⟨containers, expected⟩ .openObject =
          some ⟨.object [] :: around, .firstKey⟩ := by
        rw [step_of_awaits awaits (by nofun), beginValue, held]
        rfl
      have closed (done : List (String × Document)) :
          close (.object (named done).reverse) around = put containers key (.object done) := by
        rw [closes, finished, if_neg deeper]
        simp only [List.reverse_reverse, keyed?_named]
      rw [Json.tokens, Json.asTree, run_cons opened]
      by_cases empty : members = []
      · rw [empty, Json.memberTokens, Json.memberTrees]
        exact run_single.trans (closed [])
      · have filled :=
          run_memberTokens [] around (.inl rfl) members empty exact (by omega)
        rw [run_append filled, run_single, List.append_nil]
        exact closed _

theorem run_itemTokens (done : List Document) (outer : List OpenContainer) {expected : Expected}
    (awaits : Awaits expected none) :
    ∀ items : List Json, items ≠ [] → Json.itemsExact items = true →
      Json.itemsHeight items + (outer.length + 1) ≤ depthLimit →
      (Json.itemTokens items).foldlM step ⟨.array done :: outer, expected⟩ =
        some ⟨.array ((Json.itemTrees items).reverse ++ done) :: outer, .separator⟩
  | [], nonempty, _, _ => absurd rfl nonempty
  | [item], _, exact, shallow => by
      rw [Json.itemsExact, Bool.and_eq_true] at exact
      rw [Json.itemsHeight, Json.itemsHeight, Nat.max_zero] at shallow
      rw [Json.itemTokens, run_tokens awaits (.item done outer) item exact.1 shallow]
      rfl
  | item :: next :: items, _, exact, shallow => by
      rw [Json.itemsExact, Bool.and_eq_true] at exact
      rw [Json.itemsHeight] at shallow
      have first := run_tokens awaits (.item done outer) item exact.1
        (by rw [List.length_cons]; omega)
      have others := run_itemTokens (item.asTree :: done) outer .value (next :: items) nofun
        exact.2 (by omega)
      have comma : step ⟨.array (item.asTree :: done) :: outer, .separator⟩ .comma =
        some ⟨.array (item.asTree :: done) :: outer, .value⟩ := rfl
      rw [Json.itemTokens, run_append first, run_cons comma, others,
        Json.itemTrees.eq_2 item (next :: items), List.reverse_cons, List.append_assoc]
      rfl

theorem run_memberTokens (done : List (Option String × Document)) (outer : List OpenContainer)
    {expected : Expected} (awaitsKey : expected = .firstKey ∨ expected = .nextKey) :
    ∀ members : List (String × Json), members ≠ [] → Json.membersExact members = true →
      Json.membersHeight members + (outer.length + 1) ≤ depthLimit →
      (Json.memberTokens members).foldlM step ⟨.object done :: outer, expected⟩ =
        some
          ⟨.object ((named (Json.memberTrees members)).reverse ++ done) :: outer, .separator⟩
  | [], nonempty, _, _ => absurd rfl nonempty
  | [(key, value)], _, exact, shallow => by
      rw [Json.membersExact, Bool.and_eq_true] at exact
      rw [Json.membersHeight, Json.membersHeight, Nat.max_zero] at shallow
      rw [Json.memberTokens, run_cons (step_key awaitsKey), run_cons (step_colon _ _),
        run_tokens (.memberValue _) (.member done outer _) value exact.1 shallow]
      rfl
  | (key, value) :: next :: members, _, exact, shallow => by
      rw [Json.membersExact, Bool.and_eq_true] at exact
      rw [Json.membersHeight] at shallow
      have first := run_tokens (.memberValue (some key)) (.member done outer (some key)) value
        exact.1 (by rw [List.length_cons]; omega)
      have others := run_memberTokens ((some key, value.asTree) :: done) outer (.inr rfl)
        (next :: members) nofun exact.2 (by omega)
      have comma : step ⟨.object ((some key, value.asTree) :: done) :: outer, .separator⟩ .comma =
        some ⟨.object ((some key, value.asTree) :: done) :: outer, .nextKey⟩ := rfl
      rw [Json.memberTokens, run_cons (step_key awaitsKey), run_cons (step_colon _ _),
        run_append first, run_cons comma, others, Json.memberTrees.eq_2 key value (next :: members),
        named_cons, List.reverse_cons, List.append_assoc]
      rfl
end

theorem document_of_tokens {json : Json} {text : String} (exact : json.isExact = true)
    (shallow : json.height ≤ depthLimit) (tokens : JsonToken.ofText? text = some json.tokens) :
    Document.ofText? text = some json.asTree := by
  have run := run_tokens .value .whole json exact shallow
  rw [Document.ofText?, tokens, Option.bind_eq_bind, Option.bind_some, Document.ofTokens?, start,
    run]
  rfl

theorem document_indented {json : Json} (exact : json.isExact = true)
    (shallow : json.height ≤ depthLimit) : Document.ofText? json.indented = some json.asTree :=
  document_of_tokens exact shallow (JsonToken.ofText?_indented exact)

end Reader
end GatewayConsole
