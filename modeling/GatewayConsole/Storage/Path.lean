import GatewayConsole.Text.Split

/-!
# Paths

Paths of files and directories as they are written: from the root or from the working
directory, one step after the other. Repeated separators, and steps that stay where they
are, count for nothing, except at the ends: in front of a relative path, and behind a path,
where they say that it leads to a directory.
-/

namespace GatewayConsole

inductive PathStep
  | name (text : String)
  | up
  | here
deriving DecidableEq, Repr

/-- A path with its last step first. -/
structure Path where
  absolute : Bool
  steps : List PathStep
deriving DecidableEq, Repr

namespace Path

def stepOf (piece : List Char) : PathStep :=
  if piece == ['.', '.'] then .up else if piece == ['.'] then .here else .name (String.ofList piece)

def significant (absolute : Bool) (steps : List PathStep) : List PathStep :=
  match absolute, steps with
  | false, .here :: rest => .here :: rest.filter (· ≠ .here)
  | _, steps => steps.filter (· ≠ .here)

/-- The steps with a last one that stays in the directory they lead to. -/
def entered (steps : List PathStep) : List PathStep :=
  if steps.isEmpty || steps == [.here] then steps else .here :: steps

def ofText (text : String) : Path :=
  let pieces := Text.splitWhere (· == '/') text.toList
  let absolute := text.toList.head? == some '/'
  let steps :=
    (significant absolute ((pieces.filter (!·.isEmpty)).map stepOf)).reverse
  let leadsInside := pieces.getLast? == some [] || pieces.getLast? == some ['.']
  ⟨absolute, if leadsInside then entered steps else steps⟩

example : ofText "/a//b/./c" = ⟨true, [.name "c", .name "b", .name "a"]⟩ := by decide +kernel

example : ofText "../x" = ⟨false, [.name "x", .up]⟩ := by decide +kernel

example : ofText "/a/" = ⟨true, [.here, .name "a"]⟩ := by decide +kernel

def stepText : PathStep → String
  | .name text => text
  | .up => ".."
  | .here => "."

def text (path : Path) : String :=
  (if path.absolute then "/" else "") ++ "/".intercalate (path.steps.reverse.map stepText)

def isEmpty (path : Path) : Bool :=
  !path.absolute && path.steps.isEmpty

/-- The steps that lead somewhere, last step first. -/
def way (path : Path) : List PathStep :=
  match path.steps with
  | .here :: step :: outer => step :: outer
  | steps => steps

def leadsInside (path : Path) : Bool :=
  path.way.length < path.steps.length

def parent? (path : Path) : Option Path :=
  match path.way with
  | [] => none
  | _ :: outer => some { path with steps := outer }

def ancestors (path : Path) : List Path :=
  (tails path.way).map fun steps => { path with steps }
where
  /-- A list of steps and what follows each of them. -/
  tails : List PathStep → List (List PathStep)
    | [] => [[]]
    | step :: outer => (step :: outer) :: tails outer

def join (path : Path) (name : String) : Path :=
  { path with steps := .name name :: path.steps }

/-! ## Extensions -/

/-- The characters of a file name in front of its last point. A point in front of the name
is part of the name. -/
def stem (name : List Char) : List Char :=
  let after := name.reverse.takeWhile (· != '.')
  let before := name.take (name.length - after.length - 1)
  if after.length == name.length || before.isEmpty then name else before

def isUpWithout (name : List Char) : Bool :=
  name != stem name && stem name == ['.']

/-- The path with another extension. A path that does not end in a name has none, and what
is left of a name without its extension may be a step up, to which none can be given. -/
def withExtension (path : Path) (extension : String) : Path :=
  match path.way with
  | .name name :: outer =>
      if isUpWithout name.toList && !path.leadsInside then { path with steps := .up :: outer }
      else
        let extended := String.ofList (stem name.toList) ++ "." ++ extension
        { path with steps := .name extended :: outer }
  | _ => path

example : (ofText "a/settings.json").withExtension "json.tmp" = ofText "a/settings.json.tmp" := by
  decide +kernel

example : (ofText "a/..x").withExtension "json.tmp" = ofText "a/.." := by decide +kernel

example : stem ".profile".toList = ".profile".toList := by decide +kernel

end Path
end GatewayConsole
