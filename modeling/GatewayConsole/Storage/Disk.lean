import GatewayConsole.Storage.Path

/-!
# The disk

A tree of directories and files with their permissions, and the operations that change it
one at a time. An operation either does all it is meant to do or leaves the disk as it
was.

A disk may also hold symbolic links, files with several names, and devices. They need a
value of the type `Special`. A plain `Disk` has none: that there are no links is part of
its type, and every result about plain disks assumes it.
-/

namespace GatewayConsole

abbrev Mode := Nat

/-- The names that lead to a node from the root, outermost first. -/
abbrev Location := List String

inductive Node (Special : Type := Empty)
  | directory (mode : Mode)
  | file (mode : Mode) (text : String)
  /-- One of several names of a file. All its names have the same number. -/
  | shared (special : Special) (number : Nat) (mode : Mode) (text : String)
  | link (special : Special) (target : Path)
  /-- A pipe, a socket or a device, which keeps no text. -/
  | device (special : Special) (mode : Mode)
deriving DecidableEq, Repr

namespace Node

variable {Special : Type}

def mode : Node Special → Mode
  | .directory mode | .file mode _ | .shared _ _ mode _ | .device _ mode => mode
  | .link .. => 0o777

def withMode (node : Node Special) (mode : Mode) : Node Special :=
  match node with
  | .directory _ => .directory mode
  | .file _ text => .file mode text
  | .shared special number _ text => .shared special number mode text
  | .link special target => .link special target
  | .device special _ => .device special mode

def isDirectory : Node Special → Bool
  | .directory _ => true
  | _ => false

def text? : Node Special → Option String
  | .file _ text | .shared _ _ _ text => some text
  | _ => none

def target? : Node Special → Option Path
  | .link _ target => some target
  | _ => none

def isSameFile : Node Special → Node Special → Bool
  | .shared _ first _ _, .shared _ second _ _ => first == second
  | _, _ => false

/-- A node once the file of a number has another text and other permissions. -/
def renewed (node : Node Special) (number : Nat) (mode : Mode) (text : String) : Node Special :=
  match node with
  | .shared special own _ _ => if own = number then .shared special own mode text else node
  | _ => node

end Node

inductive Trouble
  | missing
  | other
deriving DecidableEq, Repr

structure Disk (Special : Type := Empty) where
  nodes : List (Location × Node Special)
  withheld : Mode
deriving DecidableEq, Repr

namespace Disk

variable {Special : Type}

def empty (Special : Type := Empty) : Disk Special := ⟨[([], .directory 0o755)], 0o022⟩

/-! ## Nodes -/

def find? (disk : Disk Special) (location : Location) : Option (Node Special) :=
  (disk.nodes.find? (·.1 == location)).map (·.2)

def put (disk : Disk Special) (location : Location) (node : Node Special) : Disk Special :=
  { disk with nodes := (location, node) :: disk.nodes.filter (·.1 != location) }

def remove (disk : Disk Special) (location : Location) : Disk Special :=
  { disk with nodes := disk.nodes.filter (·.1 != location) }

/-- Change what is at a location. A file changes under all of its names. -/
def change (disk : Disk Special) (location : Location) (node : Node Special) : Disk Special :=
  match node with
  | .shared _ number mode text =>
      { disk with nodes := disk.nodes.map fun (other, node) =>
          (other, node.renewed number mode text) }
  | _ => disk.put location node

@[simp] theorem find?_put_same (disk : Disk Special) (location : Location) (node : Node Special) :
    (disk.put location node).find? location = some node := by
  simp [find?, put]

theorem find?_put_other (disk : Disk Special) {location other : Location} (node : Node Special)
    (different : other ≠ location) :
    (disk.put location node).find? other = disk.find? other := by
  have unequal : (location == other) = false := by simpa using different.symm
  have kept (entries : List (Location × Node Special)) :
      (entries.filter (·.1 != location)).find? (·.1 == other) =
        entries.find? (·.1 == other) := by
    induction entries with
    | nil => rfl
    | cons entry rest induction =>
        by_cases removed : entry.1 = location
        · simp [removed, induction, unequal]
        · simp [removed, List.find?_cons, induction]
  simp [find?, put, unequal, kept]

/-! ## Finding the way -/

def longestName : Nat := 255

def longestPath : Nat := 4095

def isAskableStep : PathStep → Bool
  | .name name => !name.toList.contains '\x00'
  | _ => true

def isAskable (path : Path) : Bool :=
  decide (path.text.utf8ByteSize ≤ longestPath) && path.steps.all isAskableStep

/-- Go a step from a directory. Nothing need be where it leads. -/
def enter (disk : Disk Special) (location : Location) (step : PathStep) :
    Except Trouble Location :=
  match disk.find? location, step with
  | some (.directory _), .name name =>
      if name.utf8ByteSize ≤ longestName then .ok (location ++ [name]) else .error .other
  | some (.directory _), .up => .ok location.dropLast
  | some (.directory _), .here => .ok location
  | some _, _ => .error .other
  | none, _ => .error .missing

structure Reach where
  location : Location
  links : Nat
deriving DecidableEq, Repr

def mostLinks : Nat := 40

def linkAt? (disk : Disk Special) (location : Location) : Option Path :=
  (disk.find? location).bind (·.target?)

def baseOf (location : Location) (target : Path) : Location :=
  if target.absolute then [] else location.dropLast

/-- Go a step from a directory, and on through a link if there is one. -/
def passBy (disk : Disk Special) (follow : Reach → List PathStep → Except Trouble Reach)
    (reach : Reach) (step : PathStep) : Except Trouble Reach := do
  let location ← disk.enter reach.location step
  match disk.linkAt? location with
  | none => return ⟨location, reach.links⟩
  | some target =>
      if reach.links < mostLinks then
        follow ⟨baseOf location target, reach.links + 1⟩ target.steps.reverse
      else .error .other

/-- Go a step, and follow links to some depth. -/
def pass (disk : Disk Special) : Nat → Reach → PathStep → Except Trouble Reach
  | 0 => disk.passBy fun _ _ => .error .other
  | depth + 1 => disk.passBy fun reach steps => steps.foldlM (disk.pass depth) reach

def go (disk : Disk Special) (depth : Nat) (reach : Reach) (steps : List PathStep) :
    Except Trouble Reach :=
  steps.foldlM (disk.pass depth) reach

def goFromRoot (disk : Disk Special) (steps : List PathStep) : Except Trouble Reach :=
  disk.go mostLinks ⟨[], 0⟩ steps

/-- The location of the last name on a path, also if a link is there. -/
def entry (disk : Disk Special) (path : Path) : Except Trouble Location :=
  match path.way with
  | [] => .ok []
  | step :: outer => do
      let reach ← disk.goFromRoot outer.reverse
      disk.enter reach.location step

/-- The location that a path names. Nothing need be there, but all steps before the last
must lead through directories. Relative paths begin at the root. -/
def locate (disk : Disk Special) (path : Path) : Except Trouble Location :=
  if isAskable path then do
    let location ← disk.entry path
    if path.leadsInside then disk.enter location .here else return location
  else .error .other

/-- The location that a path leads to, through a link if it names one. -/
def resolve (disk : Disk Special) (path : Path) : Except Trouble Location :=
  if isAskable path then do
    let reach ← disk.goFromRoot path.steps.reverse
    return reach.location
  else .error .other

def nodeAt? (disk : Disk Special) (path : Path) : Option (Node Special) :=
  match disk.resolve path with
  | .ok location => disk.find? location
  | .error _ => none

def holds (disk : Disk Special) (path : Path) : Bool :=
  (disk.nodeAt? path).isSome

def holdsDirectory (disk : Disk Special) (path : Path) : Bool :=
  (disk.nodeAt? path).any (·.isDirectory)

def text? (disk : Disk Special) (path : Path) : Option String :=
  (disk.nodeAt? path).bind (·.text?)

/-! ## Operations -/

inductive Operation
  | makeDirectory (path : Path)
  | write (path : Path) (text : String)
  | setMode (path : Path) (mode : Mode)
  | rename (source target : Path)
  | delete (path : Path)
deriving DecidableEq, Repr

def granted (disk : Disk Special) (mode : Mode) : Mode :=
  mode &&& (0o777 ^^^ (disk.withheld &&& 0o777))

/-- The disk after an operation. Writing creates a file or replaces the text of one, which
keeps its permissions; renaming takes the place of a file that is there, but does nothing
between two names of a file. Only writing and setting permissions go through a link at the
end of a path. -/
def perform (disk : Disk Special) (operation : Operation) : Except Trouble (Disk Special) :=
  match operation with
  | .makeDirectory path => do
      let location ← disk.locate path
      match disk.find? location with
      | some _ => .error .other
      | none => .ok (disk.put location (.directory (disk.granted 0o777)))
  | .write path text => do
      let location ← disk.resolve path
      match disk.find? location with
      | some (.directory _) | some (.link ..) => .error .other
      | some (.file mode _) => .ok (disk.put location (.file mode text))
      | some (.shared special number mode _) =>
          .ok (disk.change location (.shared special number mode text))
      | some (.device ..) => .ok disk
      | none => .ok (disk.put location (.file (disk.granted 0o666) text))
  | .setMode path mode => do
      let location ← disk.resolve path
      match disk.find? location with
      | some node => .ok (disk.change location (node.withMode mode))
      | none => .error .missing
  | .rename source target => do
      let start ← disk.locate source
      let finish ← disk.locate target
      match disk.find? start with
      | none => .error .missing
      | some node =>
          if node.isDirectory || (disk.find? finish).any (·.isDirectory) then .error .other
          -- Two names of a file both stay, as if nothing had been asked for.
          else if (disk.find? finish).any node.isSameFile then .ok disk
          else .ok ((disk.remove start).put finish node)
  | .delete path => do
      let location ← disk.locate path
      match disk.find? location with
      | some node => if node.isDirectory then .error .other else .ok (disk.remove location)
      | none => .error .missing

/-! ## Furnishing a disk -/

def withParents (disk : Disk Special) (path : Path) : Disk Special :=
  path.ancestors.tail.foldr (fun parent disk =>
    match disk.perform (.makeDirectory parent) with
    | .ok disk => disk
    | .error _ => disk) disk

def withFile (disk : Disk Special) (path : Path) (text : String) : Disk Special :=
  let disk := disk.withParents path
  match disk.perform (.write path text) with
  | .ok disk => disk
  | .error _ => disk

end Disk
end GatewayConsole
