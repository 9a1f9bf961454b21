/-!
# Styled text

Text for a terminal, in pieces that may have a color or a weight. Rendered without colors,
the pieces are just put together; with colors, a styled piece stands between the code of
its style and the code that ends all styles.
-/

namespace GatewayConsole

inductive Style
  | bold
  | dim
  | red
  | green
  | yellow
  | blue
  | cyan
deriving DecidableEq, Repr

namespace Style

def digits : Style → List Char
  | .bold => ['1']
  | .dim => ['2']
  | .red => ['3', '1']
  | .green => ['3', '2']
  | .yellow => ['3', '3']
  | .blue => ['3', '4']
  | .cyan => ['3', '6']

def switchTo (digits : List Char) : List Char :=
  '\x1b' :: '[' :: digits ++ ['m']

def opening (style : Style) : List Char :=
  switchTo style.digits

def closing : List Char :=
  switchTo ['0']

end Style

inductive Piece
  | plain (text : String)
  | styled (style : Style) (text : String)
deriving DecidableEq, Repr

namespace Piece

def text : Piece → String
  | .plain text | .styled _ text => text

def render (colors : Bool) : Piece → List Char
  | .plain text => text.toList
  | .styled style text =>
      if colors then style.opening ++ text.toList ++ Style.closing else text.toList

end Piece

abbrev Styled := List Piece

namespace Styled

def plain (text : String) : Styled := [.plain text]

def inStyle (style : Style) (text : String) : Styled := [.styled style text]

def join (separator : String) : List Styled → Styled
  | [] => []
  | [part] => part
  | part :: next :: rest => part ++ plain separator ++ join separator (next :: rest)

def renderChars (colors : Bool) (styled : Styled) : List Char :=
  styled.flatMap (Piece.render colors)

def render (colors : Bool) (styled : Styled) : String :=
  String.ofList (renderChars colors styled)

end Styled

/-! ## Removing styles -/

namespace Style

def afterSwitch? : List Char → Option (List Char)
  | 'm' :: rest => some rest
  | char :: rest => if char.isDigit then afterSwitch? rest else none
  | [] => none

def switchLength : List Char → Nat
  | '[' :: rest =>
      match afterSwitch? rest with
      | some after => rest.length - after.length + 1
      | none => 0
  | _ => 0

/-- Remove switches of style, the first `skipped` characters being part of one. -/
def stripFrom (skipped : Nat) : List Char → List Char
  | [] => []
  | char :: rest =>
      match skipped with
      | left + 1 => stripFrom left rest
      | 0 =>
          if char == '\x1b' ∧ 0 < switchLength rest then stripFrom (switchLength rest) rest
          else char :: stripFrom 0 rest

def strip (chars : List Char) : List Char :=
  stripFrom 0 chars

end Style

example :
    let styled : Styled := [.styled .bold "a", .plain " b"]
    Style.strip (styled.renderChars true) = styled.renderChars false := by
  decide +kernel

end GatewayConsole
