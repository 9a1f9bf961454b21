import GatewayConsole.Json.Numeral

/-!
# JSON tokens

Splitting a JSON text into brackets, separators and leaves. Only spaces, tabs and line
ends may stand between tokens. Inside a string control characters must be escaped; a
surrogate escape that is not one of a pair leaves the string without a value.
-/

namespace GatewayConsole

/-- The smallest units of a JSON text. A string is `none` when it has no value. -/
inductive JsonToken
  | openArray
  | closeArray
  | openObject
  | closeObject
  | comma
  | colon
  | null
  | bool (value : Bool)
  | number (numeral : Numeral)
  | string (value : Option String)
deriving DecidableEq

namespace JsonToken

/-! ## Strings -/

def hexDigit? (char : Char) : Option Nat :=
  if '0' ≤ char ∧ char ≤ '9' then some (char.toNat - '0'.toNat)
  else if 'a' ≤ char ∧ char ≤ 'f' then some (char.toNat - 'a'.toNat + 10)
  else if 'A' ≤ char ∧ char ≤ 'F' then some (char.toNat - 'A'.toNat + 10)
  else none

def escaped? : Char → Option Char
  | '"' => some '"'
  | '\\' => some '\\'
  | '/' => some '/'
  | 'b' => some '\x08'
  | 'f' => some '\x0c'
  | 'n' => some '\n'
  | 'r' => some '\r'
  | 't' => some '\t'
  | _ => none

/-- A unit of a string: a character, or a number of four hexadecimal digits. -/
abbrev TextUnit := Nat

/-- Split off a string whose opening quote has been read: its units, and the text behind
its closing quote. `done` holds the units so far, last first. -/
def splitString (done : List TextUnit) : List Char → Option (List TextUnit × List Char)
  | [] => none
  | '"' :: rest => some (done.reverse, rest)
  | '\\' :: 'u' :: a :: b :: c :: d :: rest => do
      let high ← hexDigit? a
      let upper ← hexDigit? b
      let lower ← hexDigit? c
      let low ← hexDigit? d
      splitString ((((high * 16 + upper) * 16 + lower) * 16 + low) :: done) rest
  | '\\' :: letter :: rest => do
      let char ← escaped? letter
      splitString (char.toNat :: done) rest
  | char :: rest => if char.toNat < 0x20 then none else splitString (char.toNat :: done) rest

def isHighSurrogate (unit : TextUnit) : Bool :=
  decide (0xD800 ≤ unit) && decide (unit ≤ 0xDBFF)

def isLowSurrogate (unit : TextUnit) : Bool :=
  decide (0xDC00 ≤ unit) && decide (unit ≤ 0xDFFF)

/-- The characters that units stand for. Surrogates count only in pairs. -/
def charsOfUnits (done : List Char) : List TextUnit → Option (List Char)
  | [] => some done.reverse
  | unit :: rest =>
      if isHighSurrogate unit then
        match rest with
        | low :: rest =>
            if isLowSurrogate low then
              charsOfUnits
                (Char.ofNat (0x10000 + (unit - 0xD800) * 0x400 + (low - 0xDC00)) :: done) rest
            else none
        | [] => none
      else if isLowSurrogate unit then none
      else charsOfUnits (Char.ofNat unit :: done) rest

example : charsOfUnits [] [0xD83D, 0xDE00] = some ['😀'] := by decide +kernel

example : charsOfUnits [] [0x61, 0xD83D] = none := by decide +kernel

theorem length_of_splitString (done : List TextUnit) (chars : List Char)
    (units : List TextUnit) (rest : List Char)
    (split : splitString done chars = some (units, rest)) : rest.length < chars.length := by
  fun_induction splitString done chars with
  | case1 => simp at split
  | case2 => simp_all
  | case3 done a b c d tail induction =>
      cases first : hexDigit? a <;> cases second : hexDigit? b <;>
        cases third : hexDigit? c <;> cases fourth : hexDigit? d <;>
        simp [first, second, third, fourth] at split
      have shorter := induction _ _ _ _ split
      simp only [List.length_cons]
      omega
  | case4 done letter tail _ induction =>
      cases found : escaped? letter <;> simp [found] at split
      have shorter := induction _ split
      simp only [List.length_cons]
      omega
  | case5 => simp at split
  | case6 done char tail _ _ _ _ induction =>
      have shorter := induction split
      simp only [List.length_cons]
      omega

/-! ## Token lists -/

def isNumeralChar (char : Char) : Bool :=
  char.isDigit || char == '-' || char == '+' || char == '.' || char == 'e' || char == 'E'

def split (done : List JsonToken) : List Char → Option (List JsonToken)
  | [] => some done.reverse
  | '[' :: rest => split (.openArray :: done) rest
  | ']' :: rest => split (.closeArray :: done) rest
  | '{' :: rest => split (.openObject :: done) rest
  | '}' :: rest => split (.closeObject :: done) rest
  | ',' :: rest => split (.comma :: done) rest
  | ':' :: rest => split (.colon :: done) rest
  | 'n' :: 'u' :: 'l' :: 'l' :: rest => split (.null :: done) rest
  | 't' :: 'r' :: 'u' :: 'e' :: rest => split (.bool true :: done) rest
  | 'f' :: 'a' :: 'l' :: 's' :: 'e' :: rest => split (.bool false :: done) rest
  | '"' :: chars =>
      match _found : splitString [] chars with
      | some (units, rest) =>
          split (.string ((charsOfUnits [] units).map String.ofList) :: done) rest
      | none => none
  | char :: rest =>
      if char == ' ' || char == '\n' || char == '\r' || char == '\t' then split done rest
      else if isNumeralChar char then
        match Numeral.ofChars? (char :: rest.takeWhile isNumeralChar) with
        | some numeral => split (.number numeral :: done) (rest.dropWhile isNumeralChar)
        | none => none
      else none
termination_by chars => chars.length
decreasing_by
  all_goals simp_wf
  all_goals try omega
  · have shorter := length_of_splitString _ _ _ _ _found
    omega
  · have shorter := (List.dropWhile_suffix isNumeralChar (l := rest)).length_le
    omega

def ofText? (text : String) : Option (List JsonToken) :=
  split [] text.toList

end JsonToken
end GatewayConsole
