import GatewayConsole.Proofs.Json.TokenText

/-!
# The tokens of printed values

The indented form of a value splits into the tokens of the value, and nothing else. A value
is exact when reading gives it back: it has no doubles, whose digits are not looked at
here, and its whole numbers fit into 64 bits.
-/

namespace GatewayConsole
namespace Json

/-! ## Exact values -/

def isWord (value : Int) : Bool :=
  decide (-2 ^ 63 ≤ value) && decide (value < 2 ^ 64)

mutual
def isExact : Json → Bool
  | .integer value => isWord value
  | .real _ => false
  | .array items => itemsExact items
  | .object members => membersExact members
  | _ => true

def itemsExact : List Json → Bool
  | [] => true
  | item :: rest => isExact item && itemsExact rest

def membersExact : List (String × Json) → Bool
  | [] => true
  | (_, value) :: rest => isExact value && membersExact rest
end

/-! ## Tokens -/

mutual
def tokens : Json → List JsonToken
  | .null => [.null]
  | .bool value => [.bool value]
  | .integer value => [.number (.ofInt value)]
  | .real _ => []
  | .text value => [.string (some value)]
  | .array items => .openArray :: (itemTokens items ++ [.closeArray])
  | .object members => .openObject :: (memberTokens members ++ [.closeObject])

def itemTokens : List Json → List JsonToken
  | [] => []
  | [item] => tokens item
  | item :: next :: rest => tokens item ++ .comma :: itemTokens (next :: rest)

def memberTokens : List (String × Json) → List JsonToken
  | [] => []
  | [(key, value)] => .string (some key) :: .colon :: tokens value
  | (key, value) :: next :: rest =>
      .string (some key) :: .colon :: (tokens value ++ .comma :: memberTokens (next :: rest))
end

end Json

/-! ## Splitting the indented form -/

namespace JsonToken

section Punctuation

variable (done : List JsonToken) (rest : List Char)

theorem split_openArray : split done ("[".toList ++ rest) = split (.openArray :: done) rest :=
  split.eq_2 done rest

theorem split_closeArray : split done ("]".toList ++ rest) = split (.closeArray :: done) rest :=
  split.eq_3 done rest

theorem split_openObject :
    split done ("\x7b".toList ++ rest) = split (.openObject :: done) rest :=
  split.eq_4 done rest

theorem split_closeObject :
    split done ("\x7d".toList ++ rest) = split (.closeObject :: done) rest :=
  split.eq_5 done rest

theorem split_comma : split done (",".toList ++ rest) = split (.comma :: done) rest :=
  split.eq_6 done rest

theorem split_colon : split done (": ".toList ++ rest) = split (.colon :: done) rest :=
  (split.eq_7 done (' ' :: rest)).trans (split_blank _ (.inl rfl) rest)

end Punctuation

theorem endsRun_lineBreak (level : Nat) (rest : List Char) :
    EndsRun isNumeralChar ((Json.lineBreak level).toList ++ rest) := by
  rw [Json.lineBreak, String.toList_ofList]
  exact EndsRun.cons rfl

theorem endsRun_comma (rest : List Char) : EndsRun isNumeralChar (",".toList ++ rest) := by
  change EndsRun isNumeralChar (',' :: rest)
  exact EndsRun.cons rfl

mutual
theorem split_indentedAt (level : Nat) (done : List JsonToken) (rest : List Char)
    (ends : EndsRun isNumeralChar rest) :
    ∀ json : Json, json.isExact = true →
      split done ((json.indentedAt level).toList ++ rest) =
        split (json.tokens.reverse ++ done) rest
  | .null, _ => by
      rw [Json.indentedAt, Json.tokens]
      exact split.eq_8 done rest
  | .bool false, _ => by
      rw [Json.indentedAt, Json.tokens]
      exact split.eq_10 done rest
  | .bool true, _ => by
      rw [Json.indentedAt, Json.tokens]
      exact split.eq_9 done rest
  | .integer value, _ => by
      rw [Json.indentedAt, Json.tokens]
      exact split_number done value ends
  | .text value, _ => by
      rw [Json.indentedAt, Json.tokens]
      exact split_quote done value rest
  | .array [], _ => by
      rw [Json.indentedAt, Json.tokens, Json.itemTokens]
      exact (split_openArray done (']' :: rest)).trans (split_closeArray (.openArray :: done) rest)
  | .array (item :: items), exact => by
      rw [Json.isExact] at exact
      rw [Json.indentedAt, Json.tokens]
      simp only [String.toList_append, List.append_assoc]
      -- A line break ends the numeral that may stand in front of it.
      rw [split_openArray, split_indentedItems _ _ _ (endsRun_lineBreak level _) _ exact,
        split_lineBreak, split_closeArray]
      simp
  | .object [], _ => by
      rw [Json.indentedAt, Json.tokens, Json.memberTokens]
      exact (split_openObject done ('}' :: rest)).trans
        (split_closeObject (.openObject :: done) rest)
  | .object (member :: members), exact => by
      rw [Json.isExact] at exact
      rw [Json.indentedAt, Json.tokens]
      simp only [String.toList_append, List.append_assoc]
      rw [split_openObject, split_indentedMembers _ _ _ (endsRun_lineBreak level _) _ exact,
        split_lineBreak, split_closeObject]
      simp

theorem split_indentedItems (level : Nat) (done : List JsonToken) (rest : List Char)
    (ends : EndsRun isNumeralChar rest) :
    ∀ items : List Json, Json.itemsExact items = true →
      split done ((Json.indentedItems level items).toList ++ rest) =
        split ((Json.itemTokens items).reverse ++ done) rest
  | [], _ => by
      rw [Json.indentedItems, Json.itemTokens]
      rfl
  | [item], exact => by
      rw [Json.itemsExact, Bool.and_eq_true] at exact
      rw [Json.indentedItems, Json.itemTokens, String.toList_append, List.append_assoc,
        split_lineBreak, split_indentedAt _ _ _ ends _ exact.1]
  | item :: next :: items, exact => by
      rw [Json.itemsExact, Bool.and_eq_true] at exact
      rw [Json.indentedItems, Json.itemTokens]
      simp only [String.toList_append, List.append_assoc]
      rw [split_lineBreak, split_indentedAt _ _ _ (endsRun_comma _) _ exact.1, split_comma,
        split_indentedItems _ _ _ ends _ exact.2]
      simp

theorem split_indentedMembers (level : Nat) (done : List JsonToken) (rest : List Char)
    (ends : EndsRun isNumeralChar rest) :
    ∀ members : List (String × Json), Json.membersExact members = true →
      split done ((Json.indentedMembers level members).toList ++ rest) =
        split ((Json.memberTokens members).reverse ++ done) rest
  | [], _ => by
      rw [Json.indentedMembers, Json.memberTokens]
      rfl
  | [(key, value)], exact => by
      rw [Json.membersExact, Bool.and_eq_true] at exact
      rw [Json.indentedMembers, Json.memberTokens]
      simp only [String.toList_append, List.append_assoc]
      rw [split_lineBreak, split_quote, split_colon, split_indentedAt _ _ _ ends _ exact.1]
      simp
  | (key, value) :: next :: members, exact => by
      rw [Json.membersExact, Bool.and_eq_true] at exact
      rw [Json.indentedMembers, Json.memberTokens]
      simp only [String.toList_append, List.append_assoc]
      rw [split_lineBreak, split_quote, split_colon,
        split_indentedAt _ _ _ (endsRun_comma _) _ exact.1, split_comma,
        split_indentedMembers _ _ _ ends _ exact.2]
      simp
end

theorem ofText?_indented {json : Json} (exact : json.isExact = true) :
    ofText? json.indented = some json.tokens := by
  have split := split_indentedAt 0 [] [] EndsRun.nil json exact
  rw [List.append_nil, List.append_nil] at split
  rw [ofText?, Json.indented, split, JsonToken.split, List.reverse_reverse]

end JsonToken
end GatewayConsole
