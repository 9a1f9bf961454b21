import GatewayConsole.Proofs.Text.Inert
import GatewayConsole.Report.Styled

/-!
# Switches of style

Styled text switches to a style in front of every styled piece, and ends it behind the piece.
When no piece holds an escape character of its own, these are the only switches: without them
the text is the plain one, and no style begins before the one in front of it has ended.
-/

namespace GatewayConsole

namespace Style

variable {digits chars rest : List Char} {char : Char}

/-! ## Removing switches -/

theorem afterSwitch?_digits (areDigits : ∀ digit ∈ digits, digit.isDigit = true)
    (rest : List Char) : afterSwitch? (digits ++ 'm' :: rest) = some rest := by
  induction digits with
  | nil => rfl
  | cons digit digits induction =>
      have isDigit := areDigits digit List.mem_cons_self
      rw [List.cons_append, afterSwitch?, if_pos isDigit]
      · exact induction fun other member => areDigits other (List.mem_cons_of_mem digit member)
      · rintro rfl
        exact absurd isDigit (by decide)

theorem switchLength_digits (areDigits : ∀ digit ∈ digits, digit.isDigit = true)
    (rest : List Char) :
    switchLength ('[' :: digits ++ ['m'] ++ rest) = ('[' :: digits ++ ['m']).length := by
  rw [List.append_assoc, List.singleton_append, List.cons_append, switchLength,
    afterSwitch?_digits areDigits]
  simp only [List.length_append, List.length_cons, List.length_nil]
  omega

theorem begins_switch (areDigits : ∀ digit ∈ digits, digit.isDigit = true) (rest : List Char) :
    ('\x1b' == '\x1b') = true ∧ 0 < switchLength ('[' :: digits ++ ['m'] ++ rest) :=
  ⟨rfl, switchLength_digits areDigits rest ▸ Nat.succ_pos _⟩

theorem switchTo_append (digits rest : List Char) :
    switchTo digits ++ rest = '\x1b' :: ('[' :: digits ++ ['m'] ++ rest) :=
  rfl

theorem stripFrom_append (skipped rest : List Char) :
    stripFrom skipped.length (skipped ++ rest) = strip rest := by
  induction skipped with
  | nil => rfl
  | cons char skipped induction => exact induction

theorem strip_switchTo_append (areDigits : ∀ digit ∈ digits, digit.isDigit = true)
    (rest : List Char) : strip (switchTo digits ++ rest) = strip rest := by
  rw [switchTo_append, strip, stripFrom, if_pos (begins_switch areDigits rest),
    switchLength_digits areDigits, stripFrom_append]

theorem strip_append (inert : '\x1b' ∉ chars) (rest : List Char) :
    strip (chars ++ rest) = chars ++ strip rest := by
  induction chars with
  | nil => rfl
  | cons char chars induction =>
      have other : char ≠ '\x1b' := fun same => inert (same ▸ List.mem_cons_self)
      rw [List.cons_append, strip, stripFrom, if_neg (by simp [other]), List.cons_append]
      exact congrArg _ (induction fun member => inert (List.mem_cons_of_mem char member))

/-! ## Switches in turn -/

def switches : List Char → List (List Char)
  | [] => []
  | char :: rest =>
      if char == '\x1b' ∧ 0 < switchLength rest then
        (rest.drop 1).takeWhile Char.isDigit :: switches rest
      else switches rest

theorem switches_append (inert : '\x1b' ∉ chars) (rest : List Char) :
    switches (chars ++ rest) = switches rest := by
  induction chars with
  | nil => rfl
  | cons char chars induction =>
      have other : char ≠ '\x1b' := fun same => inert (same ▸ List.mem_cons_self)
      rw [List.cons_append, switches, if_neg (by simp [other])]
      exact induction fun member => inert (List.mem_cons_of_mem char member)

theorem switches_switchTo_append (areDigits : ∀ digit ∈ digits, digit.isDigit = true)
    (rest : List Char) : switches (switchTo digits ++ rest) = digits :: switches rest := by
  have inert : '\x1b' ∉ '[' :: digits ++ ['m'] := by
    intro member
    rcases List.mem_append.mp member with front | last
    · rcases List.mem_cons.mp front with bracket | digit
      · exact absurd bracket (by decide)
      · exact absurd (areDigits _ digit) (by decide)
    · exact absurd (List.mem_singleton.mp last) (by decide)
  have given : (('[' :: digits ++ ['m'] ++ rest).drop 1).takeWhile Char.isDigit = digits := by
    rw [List.append_assoc, List.cons_append, List.drop_one, List.tail_cons]
    exact EndsRun.takeWhile_append areDigits (EndsRun.cons rfl)
  rw [switchTo_append, switches, if_pos (begins_switch areDigits rest), switches_append inert,
    given]

/-- Whether every switch to a style is followed by the one that ends it, before the next. -/
inductive TakeTurns : List (List Char) → Prop
  | nil : TakeTurns []
  | pair {opening : List Char} {rest : List (List Char)} (opens : opening ≠ ['0'])
      (turns : TakeTurns rest) : TakeTurns (opening :: ['0'] :: rest)

structure Dresses (chars plain : List Char) : Prop where
  strip_eq : strip chars = plain
  turns : TakeTurns (switches chars)

theorem isDigit_of_mem_digits (style : Style) : ∀ digit ∈ style.digits, digit.isDigit = true := by
  apply List.all_eq_true.mp
  cases style <;> rfl

theorem digits_ne_zero (style : Style) : style.digits ≠ ['0'] := by
  cases style <;> decide

theorem isDigit_of_mem_zero : ∀ digit ∈ ['0'], digit.isDigit = true :=
  List.forall_mem_singleton.mpr rfl

end Style

/-! ## Pieces -/

namespace Piece

variable {piece : Piece}

def IsInert (piece : Piece) : Prop :=
  Text.IsInert piece.text

theorem render_styled_append (style : Style) (text : String) (rest : List Char) :
    render true (.styled style text) ++ rest =
      Style.switchTo style.digits ++ (text.toList ++ (Style.switchTo ['0'] ++ rest)) := by
  rw [render, if_pos rfl, Style.opening, Style.closing, List.append_assoc, List.append_assoc]

theorem strip_render_append (inert : piece.IsInert) (rest : List Char) :
    Style.strip (piece.render true ++ rest) = piece.render false ++ Style.strip rest := by
  cases piece with
  | plain text => exact Style.strip_append inert rest
  | styled style text =>
      have plain : Text.IsInert text := inert
      rw [render_styled_append, Style.strip_switchTo_append style.isDigit_of_mem_digits,
        Style.strip_append plain, Style.strip_switchTo_append Style.isDigit_of_mem_zero]
      rfl

def switches : Piece → List (List Char)
  | .plain _ => []
  | .styled style _ => [style.digits, ['0']]

theorem switches_render_append (inert : piece.IsInert) (rest : List Char) :
    Style.switches (piece.render true ++ rest) = piece.switches ++ Style.switches rest := by
  cases piece with
  | plain text => exact Style.switches_append inert rest
  | styled style text =>
      have plain : Text.IsInert text := inert
      rw [render_styled_append, Style.switches_switchTo_append style.isDigit_of_mem_digits,
        Style.switches_append plain, Style.switches_switchTo_append Style.isDigit_of_mem_zero]
      rfl

theorem takeTurns_append (piece : Piece) {rest : List (List Char)} (turns : Style.TakeTurns rest) :
    Style.TakeTurns (piece.switches ++ rest) := by
  cases piece with
  | plain text => exact turns
  | styled style text => exact .pair style.digits_ne_zero turns

end Piece

/-! ## Styled text -/

namespace Styled

variable {first second styled : Styled} {text separator : String}

def IsInert (styled : Styled) : Prop :=
  ∀ piece ∈ styled, piece.IsInert

@[simp] theorem isInert_nil : IsInert [] :=
  fun _ member => absurd member List.not_mem_nil

@[simp] theorem isInert_plain_iff : IsInert (.plain text) ↔ Text.IsInert text :=
  List.forall_mem_singleton

@[simp] theorem isInert_inStyle_iff {style : Style} :
    IsInert (.inStyle style text) ↔ Text.IsInert text :=
  List.forall_mem_singleton

@[simp] theorem isInert_append_iff :
    IsInert (first ++ second : Styled) ↔ IsInert first ∧ IsInert second :=
  List.forall_mem_append

theorem isInert_join (separatorInert : Text.IsInert separator) {parts : List Styled}
    (inert : ∀ part ∈ parts, IsInert part) : IsInert (.join separator parts) := by
  induction parts with
  | nil => exact isInert_nil
  | cons part rest induction =>
      have here := inert part List.mem_cons_self
      cases rest with
      | nil => exact here
      | cons next others =>
          have later := induction fun other member => inert other (List.mem_cons_of_mem part member)
          have between := isInert_plain_iff.mpr separatorInert
          exact isInert_append_iff.mpr ⟨isInert_append_iff.mpr ⟨here, between⟩, later⟩

theorem strip_renderChars (inert : IsInert styled) :
    Style.strip (styled.renderChars true) = styled.renderChars false := by
  induction styled with
  | nil => rfl
  | cons piece rest induction =>
      have here := inert piece List.mem_cons_self
      have later := induction fun other member => inert other (List.mem_cons_of_mem piece member)
      exact (Piece.strip_render_append here _).trans (congrArg _ later)

theorem switches_renderChars (inert : IsInert styled) :
    Style.switches (styled.renderChars true) = styled.flatMap Piece.switches := by
  induction styled with
  | nil => rfl
  | cons piece rest induction =>
      have here := inert piece List.mem_cons_self
      have later := induction fun other member => inert other (List.mem_cons_of_mem piece member)
      exact (Piece.switches_render_append here _).trans (congrArg _ later)

theorem takeTurns_switches (styled : Styled) : Style.TakeTurns (styled.flatMap Piece.switches) := by
  induction styled with
  | nil => exact .nil
  | cons piece rest induction => exact piece.takeTurns_append induction

theorem dresses_renderChars (inert : IsInert styled) :
    Style.Dresses (styled.renderChars true) (styled.renderChars false) :=
  ⟨strip_renderChars inert, switches_renderChars inert ▸ takeTurns_switches styled⟩

end Styled
end GatewayConsole
