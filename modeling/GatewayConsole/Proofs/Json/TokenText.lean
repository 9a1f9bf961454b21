import GatewayConsole.Json.Printer
import GatewayConsole.Json.Token
import GatewayConsole.Proofs.Text.Digits
import Mathlib.Data.Option.Basic

/-!
# The text of tokens

Strings and whole numbers as they are printed, and the tokens that are read from them:
reading a printed string gives its characters back, and reading a printed number gives a
numeral that stands for the number.
-/

namespace GatewayConsole
namespace JsonToken

/-! ## Strings -/

theorem hexDigit?_hexDigit {value : Nat} (small : value < 16) :
    hexDigit? (Json.hexDigit value) = some value := by
  have all : ∀ value < 16, hexDigit? (Json.hexDigit value) = some value := by decide
  exact all value small

theorem hexadecimal_code (code : Nat) :
    ((0 * 16 + 0) * 16 + code / 16) * 16 + code % 16 = code := by
  omega

theorem splitString_code (done : List TextUnit) {code : Nat} (small : code < 0x20)
    (rest : List Char) :
    splitString done
        ('\\' :: 'u' :: '0' :: '0' ::
          Json.hexDigit (code / 16) :: Json.hexDigit (code % 16) :: rest) =
      splitString (code :: done) rest := by
  have zero : hexDigit? '0' = some 0 := rfl
  rw [splitString, zero, hexDigit?_hexDigit (by omega), hexDigit?_hexDigit (by omega)]
  simp only [Option.bind_eq_bind, Option.bind_some]
  rw [hexadecimal_code code]

theorem splitString_escape (done : List TextUnit) (char : Char) (rest : List Char) :
    splitString done (Json.escape char ++ rest) = splitString (char.toNat :: done) rest := by
  unfold Json.escape
  split
  case h_8 quote backslash _ _ _ _ _ =>
    split
    next small => exact splitString_code done small rest
    next large =>
      rw [List.singleton_append, splitString, if_neg large]
      · exact quote
      · exact fun _ _ _ _ _ isBackslash _ => backslash isBackslash
      · exact fun _ _ isBackslash _ => backslash isBackslash
  all_goals
    rw [List.cons_append, List.singleton_append, splitString]
    · rfl
    · simp

theorem splitString_quoted (done : List TextUnit) (chars rest : List Char) :
    splitString done (chars.flatMap Json.escape ++ '"' :: rest) =
      some (done.reverse ++ chars.map Char.toNat, rest) := by
  induction chars generalizing done with
  | nil => simp [splitString]
  | cons char chars induction =>
      rw [List.flatMap_cons, List.append_assoc, splitString_escape, induction]
      simp

theorem toNat_is_scalar (char : Char) : char.toNat < 0xD800 ∨ 0xDFFF < char.toNat := by
  rcases char.valid with low | ⟨high, _⟩
  · exact .inl low
  · exact .inr high

theorem isHighSurrogate_toNat (char : Char) : isHighSurrogate char.toNat = false := by
  rw [isHighSurrogate, Bool.and_eq_false_iff, decide_eq_false_iff_not, decide_eq_false_iff_not]
  rcases toNat_is_scalar char with low | high
  · exact .inl (Nat.not_le.mpr low)
  · exact .inr (Nat.not_le.mpr (Nat.lt_trans (by decide) high))

theorem isLowSurrogate_toNat (char : Char) : isLowSurrogate char.toNat = false := by
  rw [isLowSurrogate, Bool.and_eq_false_iff, decide_eq_false_iff_not, decide_eq_false_iff_not]
  rcases toNat_is_scalar char with low | high
  · exact .inl (Nat.not_le.mpr (Nat.lt_trans low (by decide)))
  · exact .inr (Nat.not_le.mpr high)

/-- No character is a surrogate, so every unit of a text stands for itself. -/
theorem charsOfUnits_toNat (done chars : List Char) :
    charsOfUnits done (chars.map Char.toNat) = some (done.reverse ++ chars) := by
  induction chars generalizing done with
  | nil => simp [charsOfUnits]
  | cons char chars induction =>
      rw [List.map_cons, charsOfUnits.eq_def]
      simp only [isHighSurrogate_toNat, isLowSurrogate_toNat, Bool.false_eq_true, if_false]
      rw [induction, Char.ofNat_toNat]
      simp

theorem split_quote (done : List JsonToken) (text : String) (rest : List Char) :
    split done ((Json.quote text).toList ++ rest) = split (.string (some text) :: done) rest := by
  have units := splitString_quoted [] text.toList rest
  have chars := charsOfUnits_toNat [] text.toList
  simp only [List.reverse_nil, List.nil_append] at units chars
  simp only [Json.quote, String.toList_ofList, List.cons_append, List.append_assoc,
    List.nil_append]
  rw [split]
  split
  next found =>
    cases units.symm.trans found
    rw [chars, Option.map_some, String.ofList_toList]
  next missing => exact absurd (units.symm.trans missing) (Option.some_ne_none _)

end JsonToken

/-! ## Whole numbers -/

namespace Numeral

def ofInt (value : Int) : Numeral :=
  ⟨value < 0, (Nat.toDigits 10 value.natAbs).filterMap digit?, [], none⟩

theorem digit?_of_isDigit {char : Char} (isDigit : char.isDigit = true) :
    digit? char = some (char.toNat - '0'.toNat) := by
  simp only [Char.isDigit, Bool.and_eq_true, decide_eq_true_eq] at isDigit
  exact if_pos isDigit

theorem filterMap_digit? {chars : List Char} (all : ∀ char ∈ chars, char.isDigit = true) :
    chars.filterMap digit? = chars.map fun char => char.toNat - '0'.toNat := by
  induction chars with
  | nil => rfl
  | cons char chars induction =>
      rw [List.filterMap_cons, digit?_of_isDigit (all char List.mem_cons_self), List.map_cons,
        induction fun other member => all other (List.mem_cons_of_mem char member)]

theorem ofDigits_toDigits (number : Nat) :
    ofDigits ((Nat.toDigits 10 number).filterMap digit?) = number := by
  rw [filterMap_digit? fun _ member => Digits.isDigit_of_mem member, ofDigits, List.foldl_map]
  exact Digits.value_toDigits number

theorem toDocument_ofInt {value : Int} (least : -2 ^ 63 ≤ value) (small : value < 2 ^ 64) :
    (ofInt value).toDocument = .integer value := by
  have read : (ofInt value).integer? = some value := by
    simp only [integer?, isWhole, ofInt, ofDigits_toDigits, List.isEmpty_nil, Option.isNone_none,
      Bool.and_self, Bool.not_true, Bool.false_eq_true, if_false, decide_eq_true_eq]
    by_cases negative : value < 0
    · rw [if_pos negative, if_pos (by omega)]
      congr 1
      omega
    · rw [if_neg negative, if_pos (by omega)]
      congr 1
      omega
  rw [toDocument, read]

theorem splitDigits_append {digits rest : List Char}
    (all : ∀ char ∈ digits, char.isDigit = true) (ends : EndsRun (·.isDigit) rest) :
    splitDigits (digits ++ rest) = (digits.filterMap digit?, rest) := by
  rw [splitDigits, EndsRun.takeWhile_append all ends, EndsRun.dropWhile_append all ends]

def isWholePart (digits : List Nat) : Bool :=
  !digits.isEmpty && (digits.head? != some 0 || digits.length == 1)

theorem isWholePart_toDigits (number : Nat) :
    isWholePart ((Nat.toDigits 10 number).filterMap digit?) = true := by
  rw [filterMap_digit? fun _ member => Digits.isDigit_of_mem member]
  rcases Nat.eq_zero_or_pos number with rfl | positive
  · decide
  · have nonempty : Nat.toDigits 10 number ≠ [] := Nat.toDigits_ne_nil
    have first := Digits.head?_ne_zero positive
    have isDigit : ∀ char ∈ Nat.toDigits 10 number, char.isDigit = true :=
      fun _ => Digits.isDigit_of_mem
    generalize Nat.toDigits 10 number = digits at nonempty first isDigit
    cases digits with
    | nil => exact absurd rfl nonempty
    | cons char rest =>
        have notZero : char.toNat - '0'.toNat ≠ 0 := by
          intro zero
          have least := isDigit char List.mem_cons_self
          simp only [Char.isDigit, Bool.and_eq_true, decide_eq_true_eq] at least
          have same : char.toNat = '0'.toNat :=
            Nat.le_antisymm (Nat.sub_eq_zero_iff_le.mp zero) least.1
          exact first (congrArg some (Char.toNat_inj.mp same))
        rw [isWholePart, List.map_cons, List.head?_cons, List.isEmpty_cons]
        simpa using .inl notZero

theorem ofChars?_of_isWholePart {digits : List Char}
    (all : ∀ char ∈ digits, char.isDigit = true)
    (whole : isWholePart (digits.filterMap digit?) = true) :
    ofChars? ('-' :: digits) = some ⟨true, digits.filterMap digit?, [], none⟩ ∧
      ofChars? digits = some ⟨false, digits.filterMap digit?, [], none⟩ := by
  have split := splitDigits_append all EndsRun.nil
  rw [List.append_nil] at split
  have passed := (Option.guard_eq_some' ()).mpr whole
  rw [isWholePart] at passed
  constructor
  · simp only [ofChars?, split, passed]
    rfl
  · have notMinus : ∀ rest, digits ≠ '-' :: rest := by
      rintro rest rfl
      exact absurd (all '-' List.mem_cons_self) (by decide)
    rw [ofChars?.eq_def]
    split
    next negative chars minus =>
      split at minus
      next rest => exact absurd rfl (notMinus rest)
      next =>
        cases minus
        simp only [split, passed]
        rfl

theorem ofChars?_toString (value : Int) :
    ofChars? (toString value).toList = some (ofInt value) := by
  rcases ofChars?_of_isWholePart (fun _ => Digits.isDigit_of_mem) (isWholePart_toDigits
      value.natAbs) with ⟨minus, plain⟩
  rw [Int.toString_eq_repr, Int.repr_eq_if, ofInt]
  split
  next nonneg =>
    have magnitude : value.toNat = value.natAbs := by omega
    rw [Nat.toList_repr, magnitude, plain, decide_eq_false (by omega)]
  next negative =>
    have magnitude : (-value).toNat = value.natAbs := by omega
    rw [String.toList_append, Nat.toList_repr, magnitude, decide_eq_true (by omega)]
    exact minus

end Numeral

namespace JsonToken

theorem isNumeralChar_of_mem {value : Int} {char : Char}
    (member : char ∈ (toString value).toList) : isNumeralChar char = true := by
  have digit {number : Nat} (isDigit : char ∈ Nat.toDigits 10 number) :
      isNumeralChar char = true := by
    rw [isNumeralChar, Digits.isDigit_of_mem isDigit]
    rfl
  rw [Int.toString_eq_repr, Int.repr_eq_if] at member
  split at member
  next => exact digit (Nat.toList_repr ▸ member)
  next =>
    rw [String.toList_append, Nat.toList_repr, List.mem_append] at member
    rcases member with minus | isDigit
    · rw [List.mem_singleton.mp minus]
      rfl
    · exact digit isDigit

theorem split_number (done : List JsonToken) (value : Int) {rest : List Char}
    (ends : EndsRun isNumeralChar rest) :
    split done ((toString value).toList ++ rest) =
      split (.number (.ofInt value) :: done) rest := by
  have read := Numeral.ofChars?_toString value
  have all : ∀ char ∈ (toString value).toList, isNumeralChar char = true :=
    fun _ => isNumeralChar_of_mem
  generalize (toString value).toList = chars at read all
  cases chars with
  | nil => exact nomatch (show none = some (Numeral.ofInt value) from read)
  | cons char chars =>
      have isNumeral := all char List.mem_cons_self
      have others : ∀ other ∈ chars, isNumeralChar other = true :=
        fun other member => all other (List.mem_cons_of_mem char member)
      have notBlank :
          ¬(char == ' ' || char == '\n' || char == '\r' || char == '\t') = true := by
        intro blank
        simp only [Bool.or_eq_true, beq_iff_eq] at blank
        rcases blank with ((rfl | rfl) | rfl) | rfl <;> exact absurd isNumeral (by decide)
      rw [List.cons_append, split]
      · rw [if_neg notBlank, if_pos isNumeral, EndsRun.takeWhile_append others ends,
          EndsRun.dropWhile_append others ends, read]
      all_goals
        intros
        subst char
        exact absurd isNumeral (by decide)

/-! ## Blanks -/

theorem split_blank (done : List JsonToken) {char : Char} (blank : char = ' ' ∨ char = '\n')
    (rest : List Char) : split done (char :: rest) = split done rest := by
  have isBlank : (char == ' ' || char == '\n' || char == '\r' || char == '\t') = true := by
    rcases blank with rfl | rfl <;> rfl
  rw [split, if_pos isBlank]
  all_goals rcases blank with rfl | rfl <;> simp

theorem split_lineBreak (done : List JsonToken) (level : Nat) (rest : List Char) :
    split done ((Json.lineBreak level).toList ++ rest) = split done rest := by
  rw [Json.lineBreak, String.toList_ofList, List.cons_append, split_blank _ (.inr rfl)]
  induction 2 * level with
  | zero => rfl
  | succ count induction =>
      rw [List.replicate_succ, List.cons_append, split_blank _ (.inl rfl), induction]

end JsonToken
end GatewayConsole
