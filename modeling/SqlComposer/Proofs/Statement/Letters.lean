import Mathlib.Algebra.GroupWithZero.Nat
import SqlComposer.Proofs.Statement.Reading

/-!
How often a letter stands in the text of a fragment. A letter that is neither blank nor in the mark
of a slot is counted segment by segment, whatever numbers the slots have and wherever the text is
trimmed (`Fragment.letters_joined`). Two texts are told apart by such a letter.
-/

namespace SqlComposer

/-- A letter that is seen, and that no slot is marked with. -/
structure Legible (letter : Char) : Prop where
  visible : Text.isBlank letter = false
  unmarked : letter ≠ '?' ∧ letter ≠ '$'
  nondigit : letter.isDigit = false

theorem legible_paren : Legible '(' := ⟨by decide, by decide, by decide⟩

theorem legible_d : Legible 'd' := ⟨by decide, by decide, by decide⟩

namespace Piece

variable {letter : Char}

def letters (letter quote : Char) : Piece → Nat
  | text s => s.toList.count letter
  | ident name => (quoteIdentifier quote name).toList.count letter
  | slot => 0

section Legible

variable (legible : Legible letter)
include legible

theorem count_mark (placeholder : Placeholder) (n : Nat) :
    (placeholder.mark n).toList.count letter = 0 := by
  apply List.count_eq_zero.mpr
  intro member
  cases placeholder with
  | question => exact legible.unmarked.1 (by simpa [Placeholder.mark] using member)
  | numbered =>
    rw [Placeholder.mark, String.toList_append, List.mem_append] at member
    rcases member with sign | digit
    · exact legible.unmarked.2 (by simpa using sign)
    · exact Bool.eq_false_iff.mp legible.nondigit (Text.isDigit_of_mem_toString digit)

theorem count_render (style : Style) (next : Nat) (pieces : List Piece) :
    (render style next pieces).toList.count letter =
      (pieces.map (letters letter style.quote)).sum := by
  induction pieces generalizing next with
  | nil => rfl
  | cons piece rest ih => cases piece <;> simp [render, letters, ih, count_mark legible]

theorem letters_trimEndPieces (quote : Char) (pieces : List Piece) :
    ((Fragment.trimEndPieces pieces).map (letters letter quote)).sum =
      (pieces.map (letters letter quote)).sum := by
  obtain ⟨blanks, blank, whole⟩ := exists_blanks_trimEndPieces ⟨quote, .question⟩ 1 pieces
  have none : blanks.count letter = 0 := by
    apply List.count_eq_zero.mpr
    exact fun member => Bool.eq_false_iff.mp legible.visible (blank _ member)
  have counts := congrArg (List.count letter) whole
  rw [List.count_append, none, count_render legible, count_render legible] at counts
  exact counts.symm

end Legible

end Piece

namespace Fragment

variable {letter : Char}

def letters (letter quote : Char) (f : Fragment) : Nat :=
  (f.pieces.map (Piece.letters letter quote)).sum

theorem letters_cat (quote : Char) (fragments : List Fragment) :
    (cat fragments).letters letter quote = (fragments.map (letters letter quote)).sum := by
  induction fragments with
  | nil => rfl
  | cons f rest ih => simp_all [letters, cat]

theorem letters_of_isBlank (quote : Char) {f : Fragment} (blank : f.isBlank = true) :
    f.letters letter quote = 0 := by
  have silent : ∀ n ∈ f.pieces.map (Piece.letters letter quote), n = 0 := by
    intro n member
    obtain ⟨piece, inside, rfl⟩ := List.mem_map.mp member
    rw [beq_iff_eq.mp (List.all_eq_true.mp blank piece inside)]
    rfl
  exact List.sum_eq_zero_iff_forall_eq_nat.mpr silent

section Legible

variable (legible : Legible letter)
include legible

theorem count_statement (style : Style) (f : Fragment) :
    (f.statement style).sql.toList.count letter = f.letters letter style.quote :=
  Piece.count_render legible style 1 f.pieces

theorem letters_separated (quote : Char) (fragments : List Fragment) :
    (separated " " fragments).letters letter quote =
      (fragments.map (letters letter quote)).sum := by
  have space : (ofText " ").letters letter quote = 0 := by
    have other : letter ≠ ' ' := by
      rintro rfl
      exact absurd legible.visible (by decide)
    have absent : letter ∉ " ".toList := by simpa using other
    simpa [letters, Piece.letters] using List.count_eq_zero.mpr absent
  rw [separated, letters_cat]
  induction fragments with
  | nil => rfl
  | cons f rest ih => cases rest <;> simp_all

theorem letters_joined (quote : Char) (fragments : List Fragment) :
    (joined fragments).letters letter quote = (fragments.map (letters letter quote)).sum := by
  calc
    _ = (separated " " (fragments.filter (!·.isBlank))).letters letter quote :=
      Piece.letters_trimEndPieces legible quote _
    _ = ((fragments.filter (!·.isBlank)).map (letters letter quote)).sum :=
      letters_separated legible quote _
    _ = (fragments.map (letters letter quote)).sum := by
      induction fragments with
      | nil => rfl
      | cons f rest ih => cases blank : f.isBlank <;> simp_all [letters_of_isBlank]

end Legible

end Fragment

end SqlComposer
