import Mathlib.Algebra.Order.Floor.Div
import Mathlib.Order.CompletePartialOrder
import Mathlib.Order.Interval.Set.Disjoint
import SqlComposer.Proofs.Builder.Counting
import SqlComposer.Proofs.Query.Pages

/-!
Going through the pages of a list of rows. The numbers of a page are those of arithmetic without
bounds (`Page.Numbered`), and so the next page of each, from the first on, leads through all pages
in order and the rows that they ask for are apart and make up the list (`Page.Tour`).
-/

namespace SqlComposer

/-- The rows that a statement asks for, by the limit and the offset of the whole. -/
def Builder.rowRange (b : Builder) : Set Nat :=
  let (limit, offset) :=
    if b.clauses.unions.isEmpty then (b.clauses.limit, b.clauses.offset)
    else (b.clauses.unionLimit, b.clauses.unionOffset)
  let first := offset.elim 0 UInt64.toNat
  {row | first ≤ row ∧ ∀ n ∈ limit, row < first + n.toNat}

theorem Builder.rowRange_shown (b : Builder) (perPage page : UInt64) :
    (b.shown perPage page).rowRange =
      let (perPage, page) := Page.normalize perPage page
      let first := (pageOffset page perPage).toNat
      Set.Ico first (first + perPage.toNat) := by
  ext row
  cases alone : b.clauses.unions.isEmpty <;>
    simp [rowRange, shown, Builder.page, limit, offset, alone]

namespace Page

/-- The pages that one comes to from a page on, going on to the next as long as there is one. -/
inductive Visits (total perPage : UInt64) : UInt64 → List UInt64 → Prop
  | last {page : UInt64} {items : List Row}
      (ends : (ofRows total perPage page items).nextPage = none) :
      Visits total perPage page [page]
  | next {page following : UInt64} {items : List Row} {rest : List UInt64}
      (leads : (ofRows total perPage page items).nextPage = some following)
      (visits : Visits total perPage following rest) :
      Visits total perPage page (page :: rest)

/-- The numbers of a page, none of which has been cut off. -/
structure Numbered (total perPage page : UInt64) (p : Page) : Prop where
  perPage : p.perPage = if perPage = 0 then 15 else perPage
  currentPage : p.currentPage = if page = 0 then 1 else page
  perPage_pos : 0 < p.perPage.toNat
  lastPage : p.lastPage.toNat = max 1 (total.toNat ⌈/⌉ p.perPage.toNat)
  nextPage : p.nextPage.map UInt64.toNat =
    if p.currentPage < p.lastPage then some (p.currentPage.toNat + 1) else none
  previousPage : p.previousPage.map UInt64.toNat =
    if 1 < p.currentPage then some (p.currentPage.toNat - 1) else none

section Size

variable {total size : UInt64} (given : size ≠ 0)
include given

theorem toNat_pageCount_eq_ceilDiv :
    (pageCount total size).toNat = max 1 (total.toNat ⌈/⌉ size.toNat) := by
  have counted := toNat_pageCount given total.toNat_lt
  rwa [UInt64.ofNat_toNat, ← Nat.ceilDiv_eq_add_pred_div] at counted

theorem lt_pageCount_iff {page : Nat} (numbered : 0 < page) :
    page < (pageCount total size).toNat ↔ page * size.toNat < total.toNat := by
  have positive := toNat_pos_of_ne_zero given
  have first : ¬page < 1 := by omega
  rw [toNat_pageCount_eq_ceilDiv given, lt_max_iff, or_iff_right first, ← not_le, ← not_le,
    ceilDiv_le_iff_le_mul positive, Nat.mul_comm]

theorem leads_iff {page : UInt64} (numbered : page ≠ 0) :
    (min (page.toNat * size.toNat) (UInt64.size - 1) < total.toNat ∧
        page.toNat < UInt64.size - 1) ↔ page < pageCount total size := by
  have positive := toNat_pos_of_ne_zero given
  have bounded : total.toNat < UInt64.size := total.toNat_lt
  rw [UInt64.lt_iff_toNat_lt, lt_pageCount_iff given (toNat_pos_of_ne_zero numbered)]
  have behind : page.toNat ≤ page.toNat * size.toNat := Nat.le_mul_of_pos_right _ positive
  constructor <;> omega

end Size

theorem toNat_add_one {page last : UInt64} (before : page < last) :
    (page + 1).toNat = page.toNat + 1 := by
  have bounded := last.toNat_lt
  have below := UInt64.lt_iff_toNat_lt.mp before
  have one : (1 : UInt64).toNat = 1 := by decide
  rw [UInt64.toNat_add, one]
  exact Nat.mod_eq_of_lt (by omega)

theorem exists_normalize (perPage page : UInt64) : ∃ size number,
    normalize perPage page = (size, number) ∧ size ≠ 0 ∧ number ≠ 0 := by
  refine ⟨_, _, rfl, ?_, ?_⟩
  · split
    · decide
    · assumption
  · split
    · decide
    · assumption

section Numbers

variable {total perPage page size number : UInt64}
  (standing : normalize perPage page = (size, number)) (given : size ≠ 0) (numbered : number ≠ 0)
include standing given numbered

theorem nextPage_ofRows (items : List Row) : (ofRows total perPage page items).nextPage =
    if number < pageCount total size then some (number + 1) else none := by
  rw [ofRows, standing]
  exact if_congr (leads_iff given numbered) rfl rfl

theorem numbered_ofRows_of_normalize (items : List Row) :
    (ofRows total perPage page items).Numbered total perPage page := by
  have next : (ofRows total perPage page items).nextPage = _ :=
    nextPage_ofRows standing given numbered items
  have last : (pageCount total size).toNat = _ := toNat_pageCount_eq_ceilDiv given
  rw [ofRows, standing] at next ⊢
  constructor
  · exact congrArg Prod.fst standing.symm
  · exact congrArg Prod.snd standing.symm
  · exact toNat_pos_of_ne_zero given
  · exact last
  · rw [next]
    split
    · next before => exact congrArg some (toNat_add_one before)
    · rfl
  · change Option.map UInt64.toNat (if 1 < number then some (number - 1) else none) = _
    split
    · next later =>
      have one : (1 : UInt64) ≤ number := UInt64.le_of_lt later
      exact congrArg some (UInt64.toNat_sub_of_le _ _ one)
    · rfl

end Numbers

theorem numbered_ofRows (total perPage page : UInt64) (items : List Row) :
    (ofRows total perPage page items).Numbered total perPage page := by
  obtain ⟨size, number, standing, given, numbered⟩ := exists_normalize perPage page
  exact numbered_ofRows_of_normalize standing given numbered items

/-! ## From the first page on -/

section Visits

variable {total perPage size : UInt64} (standing : (normalize perPage 1).1 = size)
  (given : size ≠ 0)
include standing given

omit given in
theorem normalize_of_ne_zero {page : UInt64} (numbered : page ≠ 0) :
    normalize perPage page = (size, page) :=
  Prod.ext standing (if_neg numbered)

theorem visits_cons_iff {page : UInt64} (numbered : page ≠ 0) {numbers : List UInt64} :
    Visits total perPage page numbers ↔
      if page < pageCount total size then
        ∃ rest, numbers = page :: rest ∧ Visits total perPage (page + 1) rest
      else numbers = [page] := by
  have next : ∀ items, (ofRows total perPage page items).nextPage = _ :=
    nextPage_ofRows (normalize_of_ne_zero standing numbered) given numbered
  split at next
  · next before =>
    rw [if_pos before]
    constructor
    · intro visits
      cases visits with
      | last ends => cases ends.symm.trans (next _)
      | next leads visits =>
        cases leads.symm.trans (next _)
        exact ⟨_, rfl, visits⟩
    · rintro ⟨rest, rfl, visits⟩
      exact .next (next []) visits
  · next ends =>
    rw [if_neg ends]
    constructor
    · intro visits
      cases visits with
      | last => rfl
      | next leads => cases leads.symm.trans (next _)
    · rintro rfl
      exact .last (next [])

/-- The next pages count up to the last. -/
theorem visits_iff {page : UInt64} (numbered : page ≠ 0) {more : Nat}
    (upTo : page.toNat + more = (pageCount total size).toNat) {numbers : List UInt64} :
    Visits total perPage page numbers ↔
      numbers.map UInt64.toNat = List.range' page.toNat (more + 1) := by
  induction more generalizing page numbers with
  | zero =>
    have ends : ¬page < pageCount total size := by
      rw [UInt64.lt_iff_toNat_lt]
      omega
    rw [visits_cons_iff standing given numbered, if_neg ends]
    constructor
    · rintro rfl
      rfl
    · intro same
      obtain ⟨only, rfl, number⟩ := List.map_eq_singleton_iff.mp same
      rw [UInt64.toNat_inj.mp number]
  | succ more ih =>
    have before : page < pageCount total size := by
      rw [UInt64.lt_iff_toNat_lt]
      omega
    have number := toNat_add_one before
    have later : page + 1 ≠ 0 := by
      intro zero
      rw [zero] at number
      cases number
    rw [visits_cons_iff standing given numbered, if_pos before, List.range'_succ]
    constructor
    · rintro ⟨rest, rfl, visits⟩
      rw [ih later (by omega)] at visits
      rw [List.map_cons, visits, number]
    · intro same
      obtain ⟨first, rest, rfl, start, tail⟩ := List.map_eq_cons_iff.mp same
      refine ⟨rest, ?_, ?_⟩
      · rw [UInt64.toNat_inj.mp start]
      · rw [ih later (by omega), number]
        exact tail

end Visits

structure Tour (total perPage : UInt64) (b : Builder) (numbers : List UInt64) : Prop where
  followed : ∀ others, Visits total perPage 1 others ↔ others = numbers
  counted : numbers.map UInt64.toNat =
    List.range' 1 (max 1 (total.toNat ⌈/⌉ (normalize perPage 1).1.toNat))
  /-- The offset of no page has been cut off. -/
  ranges : ∀ page ∈ numbers, (b.shown perPage page).rowRange =
    Set.Ico ((page.toNat - 1) * (normalize perPage 1).1.toNat)
      ((page.toNat - 1) * (normalize perPage 1).1.toNat + (normalize perPage 1).1.toNat)
  apart : numbers.Pairwise fun page later =>
    Disjoint (b.shown perPage page).rowRange (b.shown perPage later).rowRange
  covered : ∀ row < total.toNat, ∃ page ∈ numbers, row ∈ (b.shown perPage page).rowRange

section Tours

variable {total perPage size : UInt64} (standing : (normalize perPage 1).1 = size)
  (given : size ≠ 0) {numbers : List UInt64}
  (counted : numbers.map UInt64.toNat = List.range' 1 (pageCount total size).toNat)

include counted in
theorem mem_numbers_iff {page : UInt64} :
    page ∈ numbers ↔ page ≠ 0 ∧ page.toNat ≤ (pageCount total size).toNat := by
  have listed : page ∈ numbers ↔ page.toNat ∈ numbers.map UInt64.toNat := by
    constructor
    · exact List.mem_map_of_mem
    · intro number
      obtain ⟨other, member, same⟩ := List.mem_map.mp number
      exact UInt64.toNat_inj.mp same ▸ member
  have nonzero : page ≠ 0 ↔ 1 ≤ page.toNat := by
    rw [Nat.one_le_iff_ne_zero]
    exact not_congr UInt64.toNat_inj.symm
  rw [listed, counted, List.mem_range'_1, nonzero]
  omega

include standing given counted

theorem rowRange_of_mem (b : Builder) {page : UInt64} (member : page ∈ numbers) :
    (b.shown perPage page).rowRange =
      Set.Ico ((page.toNat - 1) * size.toNat) ((page.toNat - 1) * size.toNat + size.toNat) := by
  obtain ⟨numbered, within⟩ := (mem_numbers_iff counted).mp member
  have positive := toNat_pos_of_ne_zero numbered
  have offset := toNat_pageOffset given total.toNat_lt (i := page.toNat - 1)
  rw [Nat.sub_add_cancel positive, UInt64.ofNat_toNat, UInt64.ofNat_toNat] at offset
  rw [Builder.rowRange_shown, normalize_of_ne_zero standing numbered]
  simp only [offset (by omega)]

theorem pairwise_disjoint_rowRange (b : Builder) : numbers.Pairwise fun page later =>
    Disjoint (b.shown perPage page).rowRange (b.shown perPage later).rowRange := by
  have ordered : numbers.Pairwise fun page later => page.toNat < later.toNat := by
    have numbers := List.pairwise_lt_range' (s := 1) (n := (pageCount total size).toNat)
    rw [← counted, List.pairwise_map] at numbers
    exact numbers
  refine ordered.imp_of_mem fun {page later} member known before => ?_
  have positive := toNat_pos_of_ne_zero ((mem_numbers_iff counted).mp member).1
  have behind : (page.toNat - 1) * size.toNat + size.toNat ≤ (later.toNat - 1) * size.toNat := by
    rw [← Nat.succ_mul]
    exact Nat.mul_le_mul_right _ (by omega)
  rw [rowRange_of_mem standing given counted b member,
    rowRange_of_mem standing given counted b known, Set.disjoint_left]
  intro row inside other
  exact absurd (Nat.lt_of_lt_of_le inside.2 behind) (Nat.not_lt.mpr other.1)

theorem exists_rowRange_of_lt (b : Builder) {row : Nat} (within : row < total.toNat) :
    ∃ page ∈ numbers, row ∈ (b.shown perPage page).rowRange := by
  have positive := toNat_pos_of_ne_zero given
  have last := le_pageCount_mul given total.toNat_lt
  rw [UInt64.ofNat_toNat] at last
  have before : row / size.toNat < (pageCount total size).toNat := by
    apply Nat.div_lt_of_lt_mul
    rw [Nat.mul_comm]
    exact Nat.lt_of_lt_of_le within last
  obtain ⟨page, number⟩ : ∃ page : UInt64, page.toNat = row / size.toNat + 1 := by
    have bounded : (pageCount total size).toNat < UInt64.size := (pageCount total size).toNat_lt
    exact ⟨.ofNat (row / size.toNat + 1), UInt64.toNat_ofNat_of_lt' (by omega)⟩
  have member : page ∈ numbers := by
    apply (mem_numbers_iff counted).mpr
    refine ⟨?_, by omega⟩
    rintro rfl
    cases number
  refine ⟨page, member, ?_⟩
  rw [rowRange_of_mem standing given counted b member, number, Nat.add_sub_cancel]
  exact ⟨Nat.div_mul_le_self _ _, Nat.lt_div_mul_add positive⟩

end Tours

theorem exists_tour (total perPage : UInt64) (b : Builder) :
    ∃ numbers, Tour total perPage b numbers := by
  obtain ⟨size, standing, given⟩ : ∃ size, (normalize perPage 1).1 = size ∧ size ≠ 0 := by
    obtain ⟨size, number, standing, given, -⟩ := exists_normalize perPage 1
    exact ⟨size, congrArg Prod.fst standing, given⟩
  have first : 1 ≤ (pageCount total size).toNat := by
    rw [toNat_pageCount_eq_ceilDiv given]
    exact Nat.le_max_left _ _
  obtain ⟨numbers, counted⟩ : ∃ numbers : List UInt64,
      numbers.map UInt64.toNat = List.range' 1 (pageCount total size).toNat := by
    refine ⟨(List.range' 1 (pageCount total size).toNat).map UInt64.ofNat, ?_⟩
    rw [List.map_map, List.map_congr_left (g := id), List.map_id]
    intro number member
    have bounded : (pageCount total size).toNat < UInt64.size := (pageCount total size).toNat_lt
    have within := (List.mem_range'_1.mp member).2
    exact UInt64.toNat_ofNat_of_lt' (by omega)
  refine ⟨numbers, ?_, ?_, ?_, ?_, ?_⟩
  · intro others
    have one : (1 : UInt64).toNat = 1 := by decide
    have upTo : (1 : UInt64).toNat + ((pageCount total size).toNat - 1) =
        (pageCount total size).toNat := by omega
    rw [visits_iff standing given (by decide) upTo, one, Nat.sub_add_cancel first, ← counted]
    exact (List.map_injective_iff.mpr fun _ _ => UInt64.toNat_inj.mp).eq_iff
  · rw [standing, ← toNat_pageCount_eq_ceilDiv given]
    exact counted
  · rw [standing]
    intro page member
    exact rowRange_of_mem standing given counted b member
  · exact pairwise_disjoint_rowRange standing given counted b
  · intro row within
    exact exists_rowRange_of_lt standing given counted b within

/-- Nothing is cut off in the numbers of a page, and going on to the next page leads through all
pages, whose rows are apart and make up the list. -/
theorem numbered_and_exists_tour (total perPage page : UInt64) (items : List Row) (b : Builder) :
    (ofRows total perPage page items).Numbered total perPage page ∧
      ∃ numbers, Tour total perPage b numbers :=
  ⟨numbered_ofRows total perPage page items, exists_tour total perPage b⟩

end Page

end SqlComposer
