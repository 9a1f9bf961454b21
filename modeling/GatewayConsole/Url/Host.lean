import GatewayConsole.Power
import GatewayConsole.Text.Split
import GatewayConsole.Url.Escape
import GatewayConsole.Url.HostName

/-!
# Hosts

What an address says about the machine it leads to: a name, or a number of the fourth or
the sixth version of the internet protocol. Names are written small and in ASCII; a name
that ends in a number is a number of the fourth version in one of its many spellings.
-/

namespace GatewayConsole

/-! ## Errors -/

inductive UrlError
  | missingScheme
  | emptyHost
  | invalidPort
  | invalidDomain
  | invalidNumber
  | notHierarchical
deriving DecidableEq, Repr

inductive Host
  | domain (name : String)
  | ipv4 (number : UInt32)
  | ipv6 (pieces : List Nat)
deriving DecidableEq, Repr

namespace Host

/-! ## Version four -/

def valueIn? (base : Nat) (chars : List Char) : Option Nat :=
  chars.foldlM (fun value char => do
    let digit ← Url.hexValue? char
    if digit < base then some (base * value + digit) else none) 0

/-- A part of a number: hexadecimal behind `0x`, octal behind `0`, else decimal. -/
def part? : List Char → Option Nat
  | [] => none
  | '0' :: 'x' :: digits | '0' :: 'X' :: digits => valueIn? 16 digits
  | '0' :: digit :: digits => valueIn? 8 (digit :: digits)
  | digits => valueIn? 10 digits

/-- The parts of a name between its points; a point at the end counts for nothing. -/
def labels (name : List Char) : List (List Char) :=
  let parts := Text.splitWhere (· == '.') name
  if 1 < parts.length && parts.getLast? == some [] then parts.dropLast else parts

def endsInNumber (name : List Char) : Bool :=
  match (labels name).getLast? with
  | some label => (!label.isEmpty && label.all Char.isDigit) || (part? label).isSome
  | none => false

/-- The number of a name that ends in one. Every part but the last stands for one byte, and
the last for those that remain. -/
def ipv4? (name : List Char) : Option UInt32 := do
  let numbers ← (labels name).mapM part?
  let last ← numbers.getLast?
  let front := numbers.dropLast
  if numbers.length ≤ 4 ∧ front.all (· ≤ 255) ∧ last < 256 ^ (4 - front.length) then
    some (.ofNat (front.foldl (fun value byte => 256 * value + byte) 0
      * 256 ^ (4 - front.length) + last))
  else none

def ipv4Text (number : UInt32) : String :=
  let value := number.toNat
  ".".intercalate
    ([value / 256 ^ 3, value / 256 ^ 2 % 256, value / 256 % 256, value % 256].map toString)

example : (ipv4? "127.1".toList).map ipv4Text = some "127.0.0.1" := by decide +kernel

/-! ## Version six -/

def piece? (chars : List Char) : Option Nat :=
  if chars.isEmpty || 4 < chars.length then none else valueIn? 16 chars

def byte? (chars : List Char) : Option Nat :=
  match chars with
  | ['0'] => some 0
  | '0' :: _ => none
  | [] => none
  | digits => (valueIn? 10 digits).filter (· ≤ 255)

def hexPieces? (chars : List Char) : Option (List Nat) :=
  (Text.splitWhere (· == ':') chars).mapM piece?

def bytePieces? (chars : List Char) : Option (List Nat) :=
  match (Text.splitWhere (· == '.') chars).mapM byte? with
  | some [first, second, third, fourth] => some [256 * first + second, 256 * third + fourth]
  | _ => none

/-- Pieces at the end of a number. Four bytes may stand for the last two. -/
def lastPieces? (chars : List Char) : Option (List Nat) :=
  match hexPieces? chars with
  | some pieces => some pieces
  | none =>
      match Text.splitAtLast? ':' chars with
      | some (front, back) => do some ((← hexPieces? front) ++ (← bytePieces? back))
      | none => bytePieces? chars

def sidePieces? (read : List Char → Option (List Nat)) (chars : List Char) :
    Option (List Nat) :=
  if chars.isEmpty then some [] else read chars

def splitAtGap? : List Char → Option (List Char × List Char)
  | ':' :: ':' :: rest => some ([], rest)
  | char :: rest => (splitAtGap? rest).map fun (front, back) => (char :: front, back)
  | [] => none

/-- The eight pieces of a number. Two colons in a row stand for the zeros that are
missing. -/
def ipv6? (chars : List Char) : Option (List Nat) :=
  match splitAtGap? chars with
  | none => (lastPieces? chars).filter (·.length == 8)
  | some (front, back) => do
      let front ← sidePieces? hexPieces? front
      let back ← sidePieces? lastPieces? back
      if front.length + back.length < 8 then
        some (front ++ List.replicate (8 - front.length - back.length) 0 ++ back)
      else none

def leadingZeros (pieces : List Nat) : Nat :=
  (pieces.takeWhile (· == 0)).length

def longestZeros (pieces : List Nat) : Nat × Nat :=
  (List.range pieces.length).foldl (fun best start =>
    let count := leadingZeros (pieces.drop start)
    if best.2 < count then (start, count) else best) (0, 0)

def pieceTexts (pieces : List Nat) : String :=
  ":".intercalate (pieces.map fun piece => String.ofList (Nat.toDigits 16 piece))

/-- A number of version six; its longest run of zeros is left out, if it is longer than
one. -/
def ipv6Text (pieces : List Nat) : String :=
  match longestZeros pieces with
  | (start, count) =>
      if count < 2 then pieceTexts pieces
      else pieceTexts (pieces.take start) ++ "::" ++ pieceTexts (pieces.drop (start + count))

example : (ipv6? "::1".toList).map ipv6Text = some "::1" := by decide +kernel

example : (ipv6? "1:0:0:2::127.0.0.1".toList).map ipv6Text = some "1::2:0:0:7f00:1" := by
  decide +kernel

example : ipv6? "1.2.3.4::".toList = none := by decide +kernel

/-! ## Names -/

def forbidden : List Char :=
  ['\x00', '\t', '\n', '\r', ' ', '#', '/', ':', '<', '>', '?', '@', '[', '\\', ']', '^', '|']

def isForbiddenInName (char : Char) : Bool :=
  char.toNat < 0x20 || char == '%' || char == '\x7F' || forbidden.contains char

def ofWebText (chars : List Char) : Except UrlError Host :=
  match (String.fromUTF8? ⟨(Url.unescape chars).toArray⟩).bind (HostName.written? ·.toList) with
  | none => .error .invalidDomain
  | some name =>
      if name.isEmpty then .error .emptyHost
      else if name.any isForbiddenInName then .error .invalidDomain
      else if endsInNumber name then
        match ipv4? name with
        | some number => .ok (.ipv4 number)
        | none => .error .invalidNumber
      else .ok (.domain (String.ofList name))

/-- Read a host: in brackets a number of version six, else a name, which has rules of its
own on the web. -/
def ofText (web : Bool) (chars : List Char) : Except UrlError Host :=
  match chars with
  | '[' :: rest =>
      if rest.getLast? == some ']' then
        match ipv6? rest.dropLast with
        | some pieces => .ok (.ipv6 pieces)
        | none => .error .invalidNumber
      else .error .invalidNumber
  | chars =>
      if web then ofWebText chars
      else if chars.any forbidden.contains then .error .invalidDomain
      else .ok (.domain (String.ofList (Url.escape .plain chars)))

def text : Host → String
  | .domain name => name
  | .ipv4 number => ipv4Text number
  | .ipv6 pieces => "[" ++ ipv6Text pieces ++ "]"

end Host
end GatewayConsole
