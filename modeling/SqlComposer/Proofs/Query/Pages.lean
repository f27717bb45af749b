import Mathlib.Algebra.GroupWithZero.Nat
import SqlComposer.Builder.Basic
import SqlComposer.Page

/-!
The rows that a limit and an offset leave of a list, and the pages that make up the whole list.
-/

namespace SqlComposer

def window {A : Type} (limit offset : Option UInt64) (rows : List A) : List A :=
  let rest := rows.drop (offset.elim 0 UInt64.toNat)
  limit.elim rest fun n => rest.take n.toNat

variable {A : Type}

theorem length_window (limit offset : UInt64) (rows : List A) :
    (window (some limit) (some offset) rows).length =
      min limit.toNat (rows.length - offset.toNat) := by
  simp [window, List.length_take, List.length_drop]

/-- Pages of one size hold no row twice and leave none out. -/
theorem sum_min_pages (size total count : Nat) :
    ((List.range count).map fun i => min size (total - i * size)).sum =
      min (count * size) total := by
  induction count with
  | zero => simp
  | succ count ih =>
    rw [List.range_succ, List.map_append, List.sum_append, ih, Nat.succ_mul]
    simp only [List.map_cons, List.map_nil, List.sum_cons, List.sum_nil]
    omega

section Counts

variable {total : Nat} {size : UInt64} (given : size ≠ 0) (fits : total < UInt64.size)
include given

theorem toNat_pos_of_ne_zero : 0 < size.toNat :=
  Nat.pos_of_ne_zero fun zero => given (UInt64.toNat_inj.mp zero)

theorem le_pages_mul : total ≤ (total + size.toNat - 1) / size.toNat * size.toNat := by
  have positive := toNat_pos_of_ne_zero given
  have above := Nat.lt_mul_div_succ (total + size.toNat - 1) positive
  rw [Nat.mul_succ, Nat.mul_comm] at above
  omega

include fits

theorem toNat_pageCount : (Page.pageCount (.ofNat total) size).toNat =
    max 1 ((total + size.toNat - 1) / size.toNat) := by
  have positive := toNat_pos_of_ne_zero given
  have small : (total + size.toNat - 1) / size.toNat ≤ max 1 total := by
    apply Nat.div_le_of_le_mul
    cases total with
    | zero =>
      rw [Nat.max_eq_left (Nat.zero_le 1), Nat.mul_one]
      omega
    | succ rest =>
      have more : rest ≤ size.toNat * rest := Nat.le_mul_of_pos_left rest positive
      rw [Nat.max_eq_right (Nat.le_add_left 1 rest), Nat.mul_succ]
      omega
  rw [Page.pageCount, UInt64.toNat_ofNat_of_lt' fits, UInt64.toNat_ofNat_of_lt']
  have one : 1 < UInt64.size := by decide
  omega

theorem le_pageCount_mul : total ≤ (Page.pageCount (.ofNat total) size).toNat * size.toNat := by
  rw [toNat_pageCount given fits]
  exact Nat.le_trans (le_pages_mul given) (Nat.mul_le_mul_right _ (Nat.le_max_right _ _))

theorem toNat_pageOffset {i : Nat} (within : i < (Page.pageCount (.ofNat total) size).toNat) :
    (Builder.pageOffset (.ofNat (i + 1)) size).toNat = i * size.toNat := by
  have page : (UInt64.ofNat (i + 1)).toNat = i + 1 := by
    have below : (Page.pageCount (.ofNat total) size).toNat < UInt64.size := UInt64.toNat_lt _
    exact UInt64.toNat_ofNat_of_lt' (by omega)
  -- A page after the first begins behind a row that is there.
  have small : i * size.toNat < UInt64.size := by
    rw [toNat_pageCount given fits] at within
    cases i with
    | zero =>
      rw [Nat.zero_mul]
      decide
    | succ i =>
      have later : i + 2 ≤ (total + size.toNat - 1) / size.toNat := by omega
      have reached := Nat.le_trans (Nat.mul_le_mul_right size.toNat later) (Nat.div_mul_le_self _ _)
      have whole : (i + 2) * size.toNat = (i + 1) * size.toNat + size.toNat := Nat.succ_mul _ _
      have positive := toNat_pos_of_ne_zero given
      omega
  rw [Builder.pageOffset, page, Nat.add_sub_cancel, Nat.min_eq_left (Nat.le_sub_one_of_lt small)]
  exact UInt64.toNat_ofNat_of_lt' small

end Counts

theorem sum_length_pages (rows : List A) {size : UInt64} (given : size ≠ 0)
    (fits : rows.length < UInt64.size) :
    ((List.range (Page.pageCount (.ofNat rows.length) size).toNat).map fun i =>
      (window (some size) (some (Builder.pageOffset (.ofNat (i + 1)) size)) rows).length).sum =
        rows.length := by
  have pages : ∀ i ∈ List.range (Page.pageCount (.ofNat rows.length) size).toNat,
      (window (some size) (some (Builder.pageOffset (.ofNat (i + 1)) size)) rows).length =
        min size.toNat (rows.length - i * size.toNat) := by
    intro i within
    rw [length_window, toNat_pageOffset given fits (List.mem_range.mp within)]
  rw [List.map_congr_left pages, sum_min_pages]
  exact Nat.min_eq_right (le_pageCount_mul given fits)

theorem sum_length_normalized_pages (rows : List A) (perPage : UInt64)
    (fits : rows.length < UInt64.size) :
    ((List.range (Page.pageCount (.ofNat rows.length) (Page.normalize perPage 1).1).toNat).map
      fun i =>
        let page := Page.normalize perPage (.ofNat (i + 1))
        (window (some page.1) (some (Builder.pageOffset page.2 page.1)) rows).length).sum =
      rows.length := by
  obtain ⟨size, named, given⟩ : ∃ size, (Page.normalize perPage 1).1 = size ∧ size ≠ 0 := by
    by_cases none : perPage = 0
    · exact ⟨Page.defaultPerPage, if_pos none, by decide⟩
    · exact ⟨perPage, if_neg none, none⟩
  rw [named]
  refine Eq.trans (congrArg List.sum (List.map_congr_left ?_)) (sum_length_pages rows given fits)
  intro i within
  have below : (Page.pageCount (.ofNat rows.length) size).toNat < UInt64.size := UInt64.toNat_lt _
  have page : UInt64.ofNat (i + 1) ≠ 0 := by
    intro zero
    have number := congrArg UInt64.toNat zero
    rw [UInt64.toNat_ofNat_of_lt' (by have := List.mem_range.mp within; omega)] at number
    cases number
  have kept : Page.normalize perPage (.ofNat (i + 1)) = (size, .ofNat (i + 1)) :=
    Prod.ext named (if_neg page)
  rw [kept]

end SqlComposer
