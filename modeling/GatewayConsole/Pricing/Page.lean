/-!
# Pages

Cutting a list into pages of one size and showing one of them. Page numbers begin at one,
a number outside the list means the nearest page, and an empty list has one empty page.
Positions are 64-bit words.
-/

namespace GatewayConsole
namespace Page

structure Window where
  page : UInt64
  start : UInt64
  stop : UInt64
deriving DecidableEq, Repr

def partsFor (count size : UInt64) : UInt64 :=
  if count % size = 0 then count / size else count / size + 1

/-- The last page of a list. A size of zero counts as one. -/
def lastPage (count size : UInt64) : UInt64 :=
  max (partsFor count (max size 1)) 1

def window (count size page : UInt64) : Window :=
  let size := max size 1
  let page := min (max page 1) (lastPage count size)
  let start := (page - 1) * size
  ⟨page, start, min (start + size) count⟩

def paginate {α : Type} (items : List α) (page size : UInt64) : UInt64 × List α :=
  let shown := window (.ofNat items.length) size page
  (shown.page, (items.take shown.stop.toNat).drop shown.start.toNat)

example : paginate [1, 2, 3] 9 2 = (2, [3]) := by decide +kernel

example : paginate ([] : List Nat) 0 0 = (1, []) := by decide +kernel

end Page
end GatewayConsole
