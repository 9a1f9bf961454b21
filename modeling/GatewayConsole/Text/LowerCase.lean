import GatewayConsole.Text.CaseData
import GatewayConsole.Text.Table

/-!
# Lower case

Lower-casing letter by letter, with the two special cases of the standard: the capital I
with a dot becomes a small i and a combining dot, and a capital sigma at the end of a word
becomes a final sigma.
-/

namespace GatewayConsole
namespace Text

/-! ## Properties of characters -/

def isCased (char : Char) : Bool :=
  inRanges casedRanges char.toNat

def isCaseIgnorable (char : Char) : Bool :=
  inRanges caseIgnorableRanges char.toNat

/-! ## Single letters -/

def smallLetter (char : Char) : Char :=
  if char.toNat < 0x80 then
    if 'A' ≤ char && char ≤ 'Z' then Char.ofNat (char.toNat + 32) else char
  else
    match capitalRuns.find? (·.holds char.toNat) with
    | some run => Char.ofNat (Int.toNat (char.toNat + run.shift))
    | none => char

/-- The small form of a character that is neither ambiguous nor at the mercy of its
neighbours. Only the capital I with a dot gives two characters. -/
def smallLetters (char : Char) : List Char :=
  if char == '\u0130' then ['i', '\u0307'] else [smallLetter char]

example : smallLetters 'É' = ['é'] := by decide +kernel

/-! ## Words -/

def meetsCased (chars : List Char) : Bool :=
  match chars.dropWhile isCaseIgnorable with
  | char :: _ => isCased char
  | [] => false

/-- A sigma is final when a letter precedes it and none follows. `before` holds the
preceding characters, nearest first. -/
def isFinalSigma (before after : List Char) : Bool :=
  meetsCased before && !meetsCased after

def lowerAfter (before : List Char) : List Char → List Char
  | [] => []
  | char :: after =>
      let small :=
        if char == 'Σ' then [if isFinalSigma before after then 'ς' else 'σ']
        else smallLetters char
      small ++ lowerAfter (char :: before) after

def lowerChars (chars : List Char) : List Char :=
  lowerAfter [] chars

def lower (text : String) : String :=
  String.ofList (lowerChars text.toList)

example : lowerChars ['Ο', 'Σ'] = ['ο', 'ς'] := by decide +kernel

example : lowerChars ['Σ'] = ['σ'] := by decide +kernel

@[simp] theorem toList_lower (text : String) :
    (lower text).toList = lowerChars text.toList := by
  simp [lower]

end Text
end GatewayConsole
