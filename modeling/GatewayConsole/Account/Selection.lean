/-!
# Row selection

The rows selected in a table that is shown page by page. Rows are known by their ids, and
a selection holds each id once, in ascending order. Selecting a page leaves the rows of
other pages alone.
-/

namespace GatewayConsole

inductive PageState
  | none
  | partly
  | all
deriving DecidableEq, Repr

namespace PageState

def name : PageState → String
  | .none => "none"
  | .partly => "partial"
  | .all => "all"

end PageState

/-- The ids of selected rows, in strictly ascending order. -/
structure Selection where
  ids : List Int64
deriving DecidableEq, Repr

namespace Selection

def empty : Selection := ⟨[]⟩

instance : Inhabited Selection := ⟨empty⟩

def insertId (id : Int64) : List Int64 → List Int64
  | [] => [id]
  | other :: rest =>
      if id < other then id :: other :: rest
      else if id = other then other :: rest
      else other :: insertId id rest

def contains (selection : Selection) (id : Int64) : Bool :=
  selection.ids.contains id

def insert (selection : Selection) (id : Int64) : Selection :=
  ⟨insertId id selection.ids⟩

def erase (selection : Selection) (id : Int64) : Selection :=
  ⟨selection.ids.filter (· ≠ id)⟩

def ofIds (ids : List Int64) : Selection :=
  ids.foldl insert empty

def size (selection : Selection) : Nat :=
  selection.ids.length

def isEmpty (selection : Selection) : Bool :=
  selection.ids.isEmpty

def toggleRow (selection : Selection) (id : Int64) : Selection :=
  if selection.contains id then selection.erase id else selection.insert id

/-- The number of rows of a page that are selected. A page may show a row twice. -/
def countOnPage (selection : Selection) (page : List Int64) : Nat :=
  page.countP selection.contains

def pageState (selection : Selection) (page : List Int64) : PageState :=
  let count := selection.countOnPage page
  if count = 0 then .none else if count = page.length then .all else .partly

/-- Select every row of a page, or none if all of them were selected. -/
def togglePage (selection : Selection) (page : List Int64) : Selection :=
  if selection.pageState page = .all then page.foldl erase selection
  else page.foldl insert selection

example : (togglePage ⟨[5]⟩ [2, 2, 9]).ids = [2, 5, 9] := by decide +kernel

example : (togglePage ⟨[2, 5, 9]⟩ [2, 9]).ids = [5] := by decide +kernel

end Selection
end GatewayConsole
