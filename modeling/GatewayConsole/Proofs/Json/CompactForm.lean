import GatewayConsole.Proofs.Json.ReadBack

/-!
# Reading compact values

The compact form of a value splits into the same tokens as the indented one, so the value is
read back from it in the same way.
-/

namespace GatewayConsole

/-! ## Splitting the compact form -/

namespace JsonToken

section Punctuation

variable (rest : List Char)

theorem split_compactColon (done : List JsonToken) :
    split done (":".toList ++ rest) = split (.colon :: done) rest :=
  split.eq_7 done rest

theorem endsRun_closeArray : EndsRun isNumeralChar ("]".toList ++ rest) := by
  change EndsRun isNumeralChar (']' :: rest)
  exact EndsRun.cons rfl

theorem endsRun_closeObject : EndsRun isNumeralChar ("\x7d".toList ++ rest) := by
  change EndsRun isNumeralChar ('}' :: rest)
  exact EndsRun.cons rfl

end Punctuation

mutual
theorem split_compact (done : List JsonToken) (rest : List Char)
    (ends : EndsRun isNumeralChar rest) :
    ∀ json : Json, json.isExact = true →
      split done (json.compact.toList ++ rest) = split (json.tokens.reverse ++ done) rest
  | .null, _ => by
      rw [Json.compact, Json.tokens]
      exact split.eq_8 done rest
  | .bool false, _ => by
      rw [Json.compact, Json.tokens]
      exact split.eq_10 done rest
  | .bool true, _ => by
      rw [Json.compact, Json.tokens]
      exact split.eq_9 done rest
  | .integer value, _ => by
      rw [Json.compact, Json.tokens]
      exact split_number done value ends
  | .text value, _ => by
      rw [Json.compact, Json.tokens]
      exact split_quote done value rest
  | .array items, exact => by
      rw [Json.isExact] at exact
      rw [Json.compact, Json.tokens]
      simp only [String.toList_append, List.append_assoc]
      rw [split_openArray, split_compactItems _ _ (endsRun_closeArray rest) _ exact,
        split_closeArray]
      simp
  | .object members, exact => by
      rw [Json.isExact] at exact
      rw [Json.compact, Json.tokens]
      simp only [String.toList_append, List.append_assoc]
      rw [split_openObject, split_compactMembers _ _ (endsRun_closeObject rest) _ exact,
        split_closeObject]
      simp

theorem split_compactItems (done : List JsonToken) (rest : List Char)
    (ends : EndsRun isNumeralChar rest) :
    ∀ items : List Json, Json.itemsExact items = true →
      split done ((Json.compactItems items).toList ++ rest) =
        split ((Json.itemTokens items).reverse ++ done) rest
  | [], _ => by
      rw [Json.compactItems, Json.itemTokens]
      rfl
  | [item], exact => by
      rw [Json.itemsExact, Bool.and_eq_true] at exact
      rw [Json.compactItems, Json.itemTokens, split_compact _ _ ends _ exact.1]
  | item :: next :: items, exact => by
      rw [Json.itemsExact, Bool.and_eq_true] at exact
      rw [Json.compactItems, Json.itemTokens]
      simp only [String.toList_append, List.append_assoc]
      rw [split_compact _ _ (endsRun_comma _) _ exact.1, split_comma,
        split_compactItems _ _ ends _ exact.2]
      simp

theorem split_compactMembers (done : List JsonToken) (rest : List Char)
    (ends : EndsRun isNumeralChar rest) :
    ∀ members : List (String × Json), Json.membersExact members = true →
      split done ((Json.compactMembers members).toList ++ rest) =
        split ((Json.memberTokens members).reverse ++ done) rest
  | [], _ => by
      rw [Json.compactMembers, Json.memberTokens]
      rfl
  | [(key, value)], exact => by
      rw [Json.membersExact, Bool.and_eq_true] at exact
      rw [Json.compactMembers, Json.memberTokens]
      simp only [String.toList_append, List.append_assoc]
      rw [split_quote, split_compactColon, split_compact _ _ ends _ exact.1]
      simp
  | (key, value) :: next :: members, exact => by
      rw [Json.membersExact, Bool.and_eq_true] at exact
      rw [Json.compactMembers, Json.memberTokens]
      simp only [String.toList_append, List.append_assoc]
      rw [split_quote, split_compactColon, split_compact _ _ (endsRun_comma _) _ exact.1,
        split_comma, split_compactMembers _ _ ends _ exact.2]
      simp
end

theorem ofText?_compact {json : Json} (exact : json.isExact = true) :
    ofText? json.compact = some json.tokens := by
  have splits := split_compact [] [] EndsRun.nil json exact
  rw [List.append_nil, List.append_nil] at splits
  rw [ofText?, splits, JsonToken.split, List.reverse_reverse]

end JsonToken

/-! ## Reading it back -/

namespace Reader

theorem document_compact {json : Json} (exact : json.isExact = true)
    (shallow : json.height ≤ depthLimit) : Document.ofText? json.compact = some json.asTree :=
  document_of_tokens exact shallow (JsonToken.ofText?_compact exact)

end Reader
end GatewayConsole
