import GatewayConsole.Power
import GatewayConsole.Pricing.Page
import Mathlib.Algebra.Order.Floor.Div

/-!
# Pages of a list

A list is cut into pages that hold all of it, each item once and in order. Only the last
page may hold fewer items than fit on it. All positions are counted without leaving the
words that they are kept in, as long as the length of the list has a bit to spare.
-/

namespace GatewayConsole
namespace Page

variable {α : Type} {count size page : UInt64}

/-! ## Pages inside a list -/

theorem max_eq (left right : UInt64) : max left right = if left ≤ right then right else left :=
  rfl

theorem min_eq (left right : UInt64) : min left right = if left ≤ right then left else right :=
  rfl

theorem one_le_lastPage (count size : UInt64) : 1 ≤ lastPage count size := by
  rw [lastPage, max_eq]
  grind

theorem window_page (count size page : UInt64) :
    window count size (window count size page).page = window count size page := by
  have first := one_le_lastPage count (max size 1)
  have inside : min (max (min (max page 1) (lastPage count (max size 1))) 1)
      (lastPage count (max size 1)) = min (max page 1) (lastPage count (max size 1)) := by
    generalize lastPage count (max size 1) = last at first
    rw [max_eq, min_eq, max_eq, min_eq]
    grind
  simp only [window, inside]

theorem paginate_page (items : List α) (page size : UInt64) :
    paginate items (paginate items page size).1 size = paginate items page size := by
  simp only [paginate, window_page]

/-! ## Counting pages -/

def pageCount (count size : Nat) : Nat :=
  max 1 (count ⌈/⌉ max size 1)

theorem pageCount_le_iff {count size pages : Nat} (some : 1 ≤ pages) :
    pageCount count size ≤ pages ↔ count ≤ max size 1 * pages := by
  have positive : 0 < max size 1 := Nat.lt_of_lt_of_le Nat.one_pos (Nat.le_max_right size 1)
  rw [pageCount, Nat.max_le, ceilDiv_le_iff_le_mul positive]
  exact and_iff_right some

theorem one_le_pageCount (count size : Nat) : 1 ≤ pageCount count size :=
  Nat.le_max_left 1 _

theorem le_pageCount_mul (count size : Nat) : count ≤ max size 1 * pageCount count size :=
  (pageCount_le_iff (one_le_pageCount count size)).mp (Nat.le_refl _)

theorem before_lt {count size page : Nat} (behind : 2 ≤ page)
    (inside : page ≤ pageCount count size) :
    max size 1 * (page - 1) < count := by
  by_contra enough
  have fewer := (pageCount_le_iff (by omega : 1 ≤ page - 1)).mpr (Nat.not_lt.mp enough)
  omega

theorem before_le {count size page : Nat} (inside : page ≤ pageCount count size) :
    max size 1 * (page - 1) ≤ count := by
  by_cases behind : 2 ≤ page
  · exact Nat.le_of_lt (before_lt behind inside)
  · have first : page - 1 = 0 := by omega
    rw [first, Nat.mul_zero]
    exact Nat.zero_le count

/-! ## Counting in words -/

theorem toNat_max (left right : UInt64) : (max left right).toNat = max left.toNat right.toNat := by
  rw [max_eq]
  split
  next below =>
    rw [UInt64.le_iff_toNat_le] at below
    exact (Nat.max_eq_right below).symm
  next above =>
    rw [UInt64.le_iff_toNat_le] at above
    omega

theorem toNat_min (left right : UInt64) : (min left right).toNat = min left.toNat right.toNat := by
  rw [min_eq]
  split
  next below =>
    rw [UInt64.le_iff_toNat_le] at below
    exact (Nat.min_eq_left below).symm
  next above =>
    rw [UInt64.le_iff_toNat_le] at above
    omega

theorem toNat_add_word {left right : UInt64} (room : left.toNat + right.toNat < 2 ^ 64) :
    (left + right).toNat = left.toNat + right.toNat := by
  rw [UInt64.toNat_add, Nat.mod_eq_of_lt room]

theorem toNat_mul_word {left right : UInt64} (room : left.toNat * right.toNat < 2 ^ 64) :
    (left * right).toNat = left.toNat * right.toNat := by
  rw [UInt64.toNat_mul, Nat.mod_eq_of_lt room]

theorem parts_lt (broken : count.toNat % size.toNat ≠ 0) :
    count.toNat / size.toNat + 1 < 2 ^ 64 := by
  have small := count.toNat_lt
  have some : size.toNat ≠ 1 := fun one => broken (one ▸ Nat.mod_one count.toNat)
  by_cases zero : size.toNat = 0
  · rw [zero, Nat.div_zero]
    decide
  · have half : count.toNat / size.toNat ≤ count.toNat / 2 :=
      Nat.div_le_div_left (by omega) (by decide)
    omega

theorem toNat_partsFor (positive : 0 < size.toNat) :
    (partsFor count size).toNat = count.toNat ⌈/⌉ size.toNat := by
  have zero : count % size = 0 ↔ count.toNat % size.toNat = 0 := by
    rw [← UInt64.toNat_inj, UInt64.toNat_mod, UInt64.toNat_zero]
  have cut := Nat.div_add_mod count.toNat size.toNat
  have rest := Nat.mod_lt count.toNat positive
  refine eq_of_forall_ge_iff fun parts => ?_
  rw [ceilDiv_le_iff_le_mul positive, partsFor]
  split
  next whole =>
    rw [zero.mp whole, Nat.add_zero] at cut
    rw [UInt64.toNat_div, ← Nat.mul_le_mul_left_iff positive, cut]
  next broken =>
    have room := parts_lt (mt zero.mpr broken)
    have more : (count / size + 1).toNat = count.toNat / size.toNat + 1 := by
      rw [toNat_add_word (by rwa [UInt64.toNat_div]), UInt64.toNat_div]
      rfl
    rw [more, Nat.succ_le_iff, Nat.div_lt_iff_lt_mul positive, Nat.mul_comm]
    refine ⟨Nat.le_of_lt, fun enough => Nat.lt_of_le_of_ne enough fun even => ?_⟩
    exact broken (zero.mpr (even ▸ Nat.mul_mod_right size.toNat parts))

theorem toNat_max_one (size : UInt64) : (max size 1).toNat = max size.toNat 1 :=
  toNat_max size 1

theorem positive_max_one (size : UInt64) : 0 < (max size 1).toNat := by
  rw [toNat_max_one]
  exact Nat.lt_of_lt_of_le Nat.one_pos (Nat.le_max_right size.toNat 1)

theorem lastPage_max_one (count size : UInt64) :
    lastPage count (max size 1) = max (partsFor count (max size 1)) 1 := by
  have same : max (max size 1) 1 = max size 1 := by
    rw [← UInt64.toNat_inj, toNat_max_one, toNat_max_one]
    exact Nat.max_eq_left (Nat.le_max_right size.toNat 1)
  rw [lastPage, same]

theorem toNat_lastPage (count size : UInt64) :
    (lastPage count (max size 1)).toNat = pageCount count.toNat size.toNat := by
  rw [lastPage_max_one, toNat_max, toNat_partsFor (positive_max_one size), toNat_max_one, pageCount]
  exact Nat.max_comm _ 1

theorem toNat_page (count size page : UInt64) :
    (window count size page).page.toNat =
      min (max page.toNat 1) (pageCount count.toNat size.toNat) := by
  rw [window, toNat_min, toNat_max_one, toNat_lastPage]

theorem one_le_page (count size page : UInt64) : 1 ≤ (window count size page).page := by
  rw [UInt64.le_iff_toNat_le, toNat_page]
  exact Nat.le_min.mpr ⟨Nat.le_max_right page.toNat 1, one_le_pageCount _ _⟩

theorem page_le (count size page : UInt64) :
    (window count size page).page.toNat ≤ pageCount count.toNat size.toNat := by
  rw [toNat_page]
  exact Nat.min_le_right _ _

theorem toNat_before (count size page : UInt64) :
    ((window count size page).page - 1).toNat = (window count size page).page.toNat - 1 :=
  UInt64.toNat_sub_of_le _ _ (one_le_page count size page)

theorem before_room (count size page : UInt64) :
    ((window count size page).page - 1).toNat * (max size 1).toNat < 2 ^ 64 := by
  have within := before_le (page_le count size page)
  rw [toNat_before, toNat_max_one, Nat.mul_comm]
  exact Nat.lt_of_le_of_lt within count.toNat_lt

theorem toNat_start (count size page : UInt64) :
    (window count size page).start.toNat =
      max size.toNat 1 * ((window count size page).page.toNat - 1) := by
  have product := toNat_mul_word (before_room count size page)
  rw [toNat_before, toNat_max_one, Nat.mul_comm] at product
  exact product

theorem stop_room (bounded : count.toNat < 2 ^ 63) (size page : UInt64) :
    (window count size page).start.toNat + (max size 1).toNat < 2 ^ 64 := by
  have inside := page_le count size page
  have each := (max size 1).toNat_lt
  rw [toNat_start]
  rw [toNat_max_one] at each ⊢
  by_cases behind : 2 ≤ (window count size page).page.toNat
  · have before := before_lt behind inside
    have once := Nat.le_mul_of_pos_right (max size.toNat 1)
      (by omega : 0 < (window count size page).page.toNat - 1)
    omega
  · have first : (window count size page).page.toNat - 1 = 0 := by omega
    rw [first, Nat.mul_zero, Nat.zero_add]
    exact each

theorem toNat_stop (bounded : count.toNat < 2 ^ 63) (size page : UInt64) :
    (window count size page).stop.toNat =
      min ((window count size page).start.toNat + max size.toNat 1) count.toNat := by
  have sum := toNat_add_word (stop_room bounded size page)
  rw [toNat_max_one] at sum
  rw [← sum]
  exact toNat_min _ _

theorem toNat_length {items : List α} (bounded : items.length < 2 ^ 63) :
    (UInt64.ofNat items.length).toNat = items.length :=
  UInt64.toNat_ofNat_of_lt' (bounded.trans (by decide))

/-! ## Checked operations -/

def word? (value : Nat) : Option UInt64 :=
  if value < 2 ^ 64 then some (.ofNat value) else none

def sum? (left right : UInt64) : Option UInt64 :=
  word? (left.toNat + right.toNat)

def product? (left right : UInt64) : Option UInt64 :=
  word? (left.toNat * right.toNat)

def difference? (left right : UInt64) : Option UInt64 :=
  if right ≤ left then some (left - right) else none

def partsFor? (count size : UInt64) : Option UInt64 :=
  if size = 0 then none
  else if count % size = 0 then some (count / size)
  else sum? (count / size) 1

def clamp? (value least greatest : UInt64) : Option UInt64 :=
  if least ≤ greatest then some (min (max value least) greatest) else none

def slice? (items : List α) (start stop : UInt64) : Option (List α) :=
  if start ≤ stop ∧ stop.toNat ≤ items.length then
    some ((items.take stop.toNat).drop start.toNat)
  else none

def window? (count size page : UInt64) : Option Window := do
  let size := max size 1
  let parts ← partsFor? count size
  let page ← clamp? page 1 (max parts 1)
  let before ← difference? page 1
  let start ← product? before size
  let stop ← sum? start size
  return ⟨page, start, min stop count⟩

def paginate? (items : List α) (page size : UInt64) : Option (UInt64 × List α) := do
  let count ← word? items.length
  let shown ← window? count size page
  let part ← slice? items shown.start shown.stop
  return (shown.page, part)

theorem sum?_of_room {left right : UInt64} (room : left.toNat + right.toNat < 2 ^ 64) :
    sum? left right = some (left + right) := by
  rw [sum?, word?, if_pos room, UInt64.ofNat_add, UInt64.ofNat_toNat, UInt64.ofNat_toNat]

theorem product?_of_room {left right : UInt64} (room : left.toNat * right.toNat < 2 ^ 64) :
    product? left right = some (left * right) := by
  rw [product?, word?, if_pos room, UInt64.ofNat_mul, UInt64.ofNat_toNat, UInt64.ofNat_toNat]

theorem partsFor?_eq (positive : 0 < size.toNat) :
    partsFor? count size = some (partsFor count size) := by
  have some : size ≠ 0 := by
    rintro rfl
    exact absurd positive (by decide)
  rw [partsFor?, if_neg some, partsFor]
  split
  · rfl
  next broken =>
    have rest : count.toNat % size.toNat ≠ 0 := by
      rwa [← UInt64.toNat_mod, ← UInt64.toNat_zero, Ne, UInt64.toNat_inj]
    have room := parts_lt rest
    rw [← UInt64.toNat_div] at room
    exact sum?_of_room room

theorem window?_eq (bounded : count.toNat < 2 ^ 63) (size page : UInt64) :
    window? count size page = some (window count size page) := by
  have parts : partsFor? count (max size 1) = _ := partsFor?_eq (positive_max_one size)
  have bounds := one_le_lastPage count (max size 1)
  have first := one_le_page count size page
  have start := product?_of_room (before_room count size page)
  have stop := sum?_of_room (stop_room bounded size page)
  simp only [window] at first start stop
  rw [lastPage_max_one] at bounds first start stop
  rw [window?, parts]
  simp only [Option.bind_eq_bind, Option.bind_some, clamp?, if_pos bounds, difference?,
    if_pos first, start, stop, window, lastPage_max_one, Option.pure_def]

theorem start_le_stop (bounded : count.toNat < 2 ^ 63) (size page : UInt64) :
    (window count size page).start ≤ (window count size page).stop := by
  have before := before_le (page_le count size page)
  rw [← toNat_start] at before
  rw [UInt64.le_iff_toNat_le, toNat_stop bounded]
  exact Nat.le_min.mpr ⟨Nat.le_add_right _ _, before⟩

theorem stop_le (bounded : count.toNat < 2 ^ 63) (size page : UInt64) :
    (window count size page).stop.toNat ≤ count.toNat := by
  rw [toNat_stop bounded]
  exact Nat.min_le_right _ _

theorem paginate?_eq {items : List α} (bounded : items.length < 2 ^ 63) (page size : UInt64) :
    paginate? items page size = some (paginate items page size) := by
  have count : word? items.length = some (.ofNat items.length) :=
    if_pos (bounded.trans (by decide))
  have length := toNat_length bounded
  have short : (UInt64.ofNat items.length).toNat < 2 ^ 63 := length.symm ▸ bounded
  have window := window?_eq short size page
  have inside := And.intro (start_le_stop short size page) (stop_le short size page)
  rw [length] at inside
  rw [paginate?, count, Option.bind_eq_bind, Option.bind_some, window, Option.bind_eq_bind,
    Option.bind_some, slice?, if_pos inside]
  rfl

/-! ## Pages one after another -/

def onPage (items : List α) (size : UInt64) (number : Nat) : List α :=
  (paginate items (.ofNat number) size).2

theorem pageCount_le (count size : Nat) : pageCount count size ≤ max 1 count := by
  rw [pageCount_le_iff (Nat.le_max_left 1 count)]
  calc
    count ≤ 1 * max 1 count := (Nat.one_mul _).symm ▸ Nat.le_max_right 1 count
    _ ≤ max size 1 * max 1 count := Nat.mul_le_mul_right _ (Nat.le_max_right size 1)

theorem pageCount_length_lt {items : List α} (bounded : items.length < 2 ^ 63) (size : Nat) :
    pageCount items.length size < 2 ^ 64 := by
  have few := pageCount_le items.length size
  omega

theorem onPage_eq {items : List α} (bounded : items.length < 2 ^ 63) {number : Nat}
    (positive : 1 ≤ number) (inside : number ≤ pageCount items.length size.toNat) :
    onPage items size number =
      (items.drop (max size.toNat 1 * (number - 1))).take (max size.toNat 1) := by
  have length := toNat_length bounded
  have room := inside.trans_lt (pageCount_length_lt bounded size.toNat)
  have page := toNat_page (.ofNat items.length) size (.ofNat number)
  rw [length, UInt64.toNat_ofNat_of_lt' room, Nat.max_eq_left positive, Nat.min_eq_left inside]
    at page
  have start := toNat_start (.ofNat items.length) size (.ofNat number)
  have stop := toNat_stop (length.symm ▸ bounded) size (.ofNat number)
  rw [page] at start
  rw [length, start] at stop
  rw [onPage, paginate, start, stop, ← List.take_eq_take_min, List.drop_take,
    Nat.add_sub_cancel_left]

theorem flatMap_parts (items : List α) (each pages : Nat) :
    (List.range' 1 pages).flatMap (fun number => (items.drop (each * (number - 1))).take each) =
      items.take (each * pages) := by
  induction pages with
  | zero => rfl
  | succ pages induction =>
      rw [List.range'_1_concat, List.flatMap_append, induction, List.flatMap_singleton,
        Nat.add_sub_cancel_left, Nat.mul_succ, List.take_add]

theorem flatMap_onPage {items : List α} (bounded : items.length < 2 ^ 63) (size : UInt64) :
    (List.range' 1 (pageCount items.length size.toNat)).flatMap (onPage items size) = items := by
  have parts : ∀ number ∈ List.range' 1 (pageCount items.length size.toNat),
      onPage items size number =
        (items.drop (max size.toNat 1 * (number - 1))).take (max size.toNat 1) := by
    intro number member
    rw [List.mem_range'_1] at member
    exact onPage_eq bounded member.1 (by omega)
  rw [List.flatMap_congr parts, flatMap_parts]
  exact List.take_of_length_le (le_pageCount_mul items.length size.toNat)

theorem length_onPage {items : List α} (bounded : items.length < 2 ^ 63) {number : Nat}
    (positive : 1 ≤ number) (before : number < pageCount items.length size.toNat) :
    (onPage items size number).length = max size.toNat 1 := by
  have full : max size.toNat 1 * (number - 1) + max size.toNat 1 ≤ items.length := by
    have enough := before_le (Nat.succ_le_of_lt before)
    rwa [Nat.succ_sub_one, ← Nat.sub_add_cancel positive, Nat.mul_succ] at enough
  rw [onPage_eq bounded positive before.le, List.length_take, List.length_drop]
  omega

theorem onPage_ne_nil {items : List α} (bounded : items.length < 2 ^ 63) (some : items ≠ []) :
    onPage items size (pageCount items.length size.toNat) ≠ [] := by
  have first := one_le_pageCount items.length size.toNat
  have inFront : max size.toNat 1 * (pageCount items.length size.toNat - 1) < items.length := by
    by_cases behind : 2 ≤ pageCount items.length size.toNat
    · exact before_lt behind (Nat.le_refl _)
    · have one : pageCount items.length size.toNat - 1 = 0 := by omega
      rw [one, Nat.mul_zero]
      exact List.length_pos_iff.mpr some
  rw [onPage_eq bounded first (Nat.le_refl _), ← List.length_pos_iff, List.length_take,
    List.length_drop]
  omega

/-- Pages are counted without leaving the words and without positions outside the list. The
page that is shown is the nearest one to the page asked for, and asking for it shows the same.
All pages, one after another, hold the list. Each before the last is full, and the last one
holds something unless the list is empty. -/
theorem paginate_divides (items : List α) (bounded : items.length < 2 ^ 63) (size : UInt64) :
    let last := pageCount items.length size.toNat
    last < 2 ^ 64 ∧
    (∀ page, paginate? items page size = some (paginate items page size) ∧
      (paginate items page size).1.toNat = min (max page.toNat 1) last ∧
      paginate items (paginate items page size).1 size = paginate items page size) ∧
    (List.range' 1 last).flatMap (onPage items size) = items ∧
    (∀ number, 1 ≤ number → number < last →
      (onPage items size number).length = max size.toNat 1) ∧
    (items ≠ [] → onPage items size last ≠ []) := by
  intro last
  refine ⟨pageCount_length_lt bounded size.toNat,
    fun page => ⟨paginate?_eq bounded page size, ?_, paginate_page items page size⟩,
    flatMap_onPage bounded size, fun number => length_onPage bounded, onPage_ne_nil bounded⟩
  have nearest := toNat_page (.ofNat items.length) size page
  rwa [toNat_length bounded] at nearest

/-- Five items fill two pages of two and leave one item for a third. -/
theorem paginate_divides_five :
    (paginate [1, 2, 3, 4, 5] 9 2).1.toNat = 3 ∧
      (onPage [1, 2, 3, 4, 5] 2 2).length = 2 ∧ onPage [1, 2, 3, 4, 5] 2 3 ≠ [] := by
  have short : [1, 2, 3, 4, 5].length < 2 ^ 63 := by decide
  have last : pageCount [1, 2, 3, 4, 5].length (2 : UInt64).toNat = 3 := by decide
  have divides := paginate_divides [1, 2, 3, 4, 5] short 2
  dsimp only at divides
  rw [last] at divides
  rcases divides with ⟨-, shown, -, full, rest⟩
  exact ⟨(shown 9).2.1, full 2 (by decide) (by decide), rest (List.cons_ne_nil 1 _)⟩

end Page
end GatewayConsole
