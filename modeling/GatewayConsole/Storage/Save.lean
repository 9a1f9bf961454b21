import GatewayConsole.Storage.Disk

/-!
# Saving files

A file is saved by writing its text to a file beside it, making that file the owner's
alone, and renaming it. Directories on the way are made when they are missing, and made
the owner's alone. Every operation may be refused, and writing may be cut short; saving
then stops where it is.
-/

namespace GatewayConsole

/-! ## Work on a disk -/

/-- What becomes of an operation: it is carried out, it is refused, or it breaks off. Only
writing can break off, after some characters. -/
inductive Hazard
  | none
  | refused
  | brokenOff (written : Nat)
deriving DecidableEq, Repr

structure Change (Special : Type := Empty) where
  operation : Disk.Operation
  before : Disk Special

/-- A disk that is being worked on, the changes so far, latest first, and the hazards that
lie ahead. When no more hazards are listed, there are none. -/
structure Work (Special : Type := Empty) where
  disk : Disk Special
  changes : List (Change Special)
  hazards : List Hazard

namespace Work

variable {Special : Type}

def start (disk : Disk Special) (hazards : List Hazard) : Work Special := ⟨disk, [], hazards⟩

def advance (work : Work Special) (operation : Disk.Operation) (disk : Disk Special) :
    Work Special :=
  { work with disk, changes := ⟨operation, work.disk⟩ :: work.changes }

def states (work : Work Special) : List (Disk Special) :=
  work.disk :: work.changes.map (·.before)

def remnant? (operation : Disk.Operation) (written : Nat) : Option Disk.Operation :=
  match operation with
  | .write path text => some (.write path (String.ofList (text.toList.take written)))
  | _ => none

def carryOut (work : Work Special) (operation : Disk.Operation) :
    Except Trouble Unit × Work Special :=
  match work.disk.perform operation with
  | .ok disk => (.ok (), work.advance operation disk)
  | .error trouble => (.error trouble, work)

def act (work : Work Special) (operation : Disk.Operation) :
    Except Trouble Unit × Work Special :=
  let later := { work with hazards := work.hazards.tail }
  match work.hazards.head?.getD .none with
  | .none => later.carryOut operation
  | .refused => (.error .other, later)
  | .brokenOff written =>
      match remnant? operation written with
      | some remnant => (.error .other, (later.carryOut remnant).2)
      | none => (.error .other, later)

def next (result : Except Trouble Unit × Work Special)
    (onward : Work Special → Except Trouble Unit × Work Special) :
    Except Trouble Unit × Work Special :=
  match result with
  | (.ok (), work) => onward work
  | (.error trouble, work) => (.error trouble, work)

def actAll (work : Work Special) : List Disk.Operation → Except Trouble Unit × Work Special
  | [] => (.ok (), work)
  | operation :: rest => next (work.act operation) fun work => work.actAll rest

/-! ## Directories -/

/-- Something that has failed is well if the directory is there all the same. -/
def unlessDirectory (path : Path) (result : Except Trouble Unit × Work Special) :
    Except Trouble Unit × Work Special :=
  match result with
  | (.error trouble, work) =>
      if work.disk.holdsDirectory path then (.ok (), work) else (.error trouble, work)
  | done => done

/-- Make a directory and the directories it is in. What it is in is made only when the
directory cannot be made without. -/
def makeDirectories (absolute : Bool) (work : Work Special) : List PathStep →
    Except Trouble Unit × Work Special
  | [] => (.ok (), work)
  | step :: outer =>
      let path : Path := ⟨absolute, step :: outer⟩
      match work.act (.makeDirectory path) with
      | (.error .missing, work) =>
          next (makeDirectories absolute work outer) fun work =>
            unlessDirectory path (work.act (.makeDirectory path))
      | result => unlessDirectory path result

def missingDirectories (disk : Disk Special) (path : Path) : List Path :=
  path.ancestors.takeWhile fun ancestor => !ancestor.isEmpty && !disk.holds ancestor

def ownerDirectory : Mode := 0o700

def ownerFile : Mode := 0o600

def makeParents (work : Work Special) (path : Path) : Except Trouble Unit × Work Special :=
  match path.parent? with
  | none => (.ok (), work)
  | some parent =>
      if parent.isEmpty || work.disk.holds parent then (.ok (), work)
      else
        let missing := missingDirectories work.disk parent
        next (makeDirectories parent.absolute work parent.steps) fun work =>
          work.actAll (missing.reverse.map (.setMode · ownerDirectory))

/-! ## Files -/

def temporary (path : Path) : Path :=
  path.withExtension "json.tmp"

def save (work : Work Special) (path : Path) (text : String) :
    Except Trouble Unit × Work Special :=
  next (work.makeParents path) fun work =>
    work.actAll
      [.write (temporary path) text, .setMode (temporary path) ownerFile,
        .rename (temporary path) path]

end Work

def Disk.save (disk : Disk) (path : Path) (text : String) : Except Trouble Unit × Disk :=
  let (result, work) := (Work.start disk []).save path text
  (result, work.disk)

example :
    let path := Path.ofText "/a/b.json"
    let disk := (Disk.empty.save path "x").2
    disk.nodeAt? path = some (.file 0o600 "x") ∧
      disk.nodeAt? (Path.ofText "/a") = some (.directory 0o700) ∧
      disk.holds (Path.ofText "/a/b.json.tmp") = false := by
  decide +kernel

end GatewayConsole
