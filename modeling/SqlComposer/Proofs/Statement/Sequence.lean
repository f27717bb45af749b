import SqlComposer.Proofs.Statement.KeyQualifier
import SqlComposer.Proofs.Statement.Reading

/-!
The text of segments that are written one after the other. Each begins with the number of slots
before it, and what is written at last are their texts with the separator between them, without
the blanks at the end (`Fragment.render_joined`).
-/

namespace SqlComposer

namespace Text

theorem dropEndBlanks_append_of_blank {cs blanks : List Char}
    (blank : ∀ c ∈ blanks, isBlank c = true) : dropEndBlanks (cs ++ blanks) = dropEndBlanks cs := by
  have reversed : ∀ c ∈ blanks.reverse, isBlank c = true :=
    fun c mem => blank c (List.mem_reverse.mp mem)
  rw [dropEndBlanks, List.reverse_append, List.dropWhile_append_of_pos reversed, dropEndBlanks]

theorem dropEndBlanks_of_getLast? {cs : List Char} {c : Char} (last : cs.getLast? = some c)
    (visible : isBlank c = false) : dropEndBlanks cs = cs := by
  obtain ⟨front, rfl⟩ := List.getLast?_eq_some_iff.mp last
  exact dropEndBlanks_append_of_visible visible front

theorem exists_visible_dropEndBlanks {cs : List Char} (shown : dropEndBlanks cs ≠ []) :
    ∃ c, (dropEndBlanks cs).getLast? = some c ∧ isBlank c = false := by
  have reversed : cs.reverse.dropWhile isBlank ≠ [] := by
    intro empty
    rw [dropEndBlanks, empty] at shown
    exact shown rfl
  refine ⟨_, ?_, List.head_dropWhile_not isBlank reversed⟩
  rw [dropEndBlanks, List.getLast?_reverse, List.head?_eq_some_head reversed]

theorem trimEnd_ne_empty {s : String} {c : Char} (mem : c ∈ s.toList)
    (visible : isBlank c = false) : trimEnd s ≠ "" := by
  intro empty
  obtain ⟨blanks, blank, whole⟩ := exists_blanks_dropEndBlanks s.toList
  rw [← toList_trimEnd, empty] at whole
  rw [whole] at mem
  exact absurd (blank c mem) (Bool.eq_false_iff.mp visible)

theorem trimEnd_append {t : String} (visible : trimEnd t ≠ "") (s : String) :
    trimEnd (s ++ t) = s ++ trimEnd t := by
  obtain ⟨blanks, blank, whole⟩ := exists_blanks_dropEndBlanks t.toList
  have shown : dropEndBlanks t.toList ≠ [] := by
    rw [← toList_trimEnd]
    exact fun empty => visible (String.toList_eq_nil_iff.mp empty)
  obtain ⟨c, last, ends⟩ := exists_visible_dropEndBlanks shown
  apply String.toList_injective
  rw [toList_trimEnd, String.toList_append, String.toList_append, toList_trimEnd]
  calc
    dropEndBlanks (s.toList ++ t.toList) =
        dropEndBlanks (s.toList ++ dropEndBlanks t.toList ++ blanks) := by
      rw [List.append_assoc, ← whole]
    _ = dropEndBlanks (s.toList ++ dropEndBlanks t.toList) := dropEndBlanks_append_of_blank blank
    _ = s.toList ++ dropEndBlanks t.toList := by
      apply dropEndBlanks_of_getLast? _ ends
      rw [List.getLast?_append_of_ne_nil _ shown, last]

end Text

/-! ## Trimmed pieces -/

namespace Piece

variable {d : Dialect}

theorem exists_visible_quoteIdentifier (d : Dialect) (name : String) :
    ∃ c, (quoteIdentifier d.style.quote name).toList.getLast? = some c ∧
      Text.isBlank c = false := by
  unfold quoteIdentifier
  split
  · exact ⟨'*', rfl, by decide⟩
  · refine ⟨d.quote, ?_, by cases d <;> decide⟩
    rw [Text.enclosed, String.toList_ofList]
    exact List.getLast?_concat

theorem exists_visible_mark (placeholder : Placeholder) (n : Nat) :
    ∃ c, (placeholder.mark n).toList.getLast? = some c ∧ Text.isBlank c = false := by
  cases placeholder with
  | question => exact ⟨'?', (by decide : "?".toList.getLast? = some '?'), by decide⟩
  | numbered =>
    have shown : (toString n).toList ≠ [] := by
      rw [Nat.toString_eq_repr, Nat.toList_repr]
      exact List.ne_nil_of_length_pos Nat.length_toDigits_pos
    refine ⟨(toString n).toList.getLast shown, ?_, ?_⟩
    · rw [Placeholder.mark, String.toList_append, List.getLast?_append_of_ne_nil _ shown,
        List.getLast?_eq_some_getLast]
    · rw [Bool.eq_false_iff]
      intro blank
      have digit := Text.isDigit_of_mem_toString (List.getLast_mem shown)
      rw [Text.isDigit_of_isBlank blank] at digit
      cases digit

theorem exists_visible_of_trimEndPieces {pieces : List Piece}
    (kept : Fragment.trimEndPieces pieces ≠ []) (next : Nat) :
    ∃ c, (render d.style next (Fragment.trimEndPieces pieces)).toList.getLast? = some c ∧
      Text.isBlank c = false := by
  induction pieces generalizing next with
  | nil => exact absurd rfl kept
  | cons piece rest ih =>
    unfold Fragment.trimEndPieces at kept ⊢
    cases more : Fragment.trimEndPieces rest with
    | cons first others =>
      obtain ⟨c, last, visible⟩ := ih (more ▸ List.cons_ne_nil _ _) (next + slots [piece])
      rw [more] at last
      refine ⟨c, ?_, visible⟩
      have shown : (render d.style (next + slots [piece]) (first :: others)).toList ≠ [] := by
        intro empty
        rw [empty] at last
        cases last
      simp only
      rw [← List.singleton_append, render_append, String.toList_append,
        List.getLast?_append_of_ne_nil _ shown, last]
    | nil =>
      simp only [more] at kept ⊢
      cases piece with
      | ident name => simpa [render] using exists_visible_quoteIdentifier d name
      | slot => simpa [render] using exists_visible_mark d.style.placeholder next
      | text s =>
        simp only at kept ⊢
        split at kept
        · exact absurd rfl kept
        · next shown =>
          rw [if_neg shown]
          have letters : Text.dropEndBlanks s.toList ≠ [] := by
            rw [← Text.toList_trimEnd]
            exact fun empty => shown (String.toList_eq_nil_iff.mp empty)
          simpa [render, Text.toList_trimEnd] using Text.exists_visible_dropEndBlanks letters

theorem render_trimEndPieces (next : Nat) (pieces : List Piece) :
    render d.style next (Fragment.trimEndPieces pieces) =
      Text.trimEnd (render d.style next pieces) := by
  obtain ⟨blanks, blank, whole⟩ := exists_blanks_trimEndPieces d.style next pieces
  apply String.toList_injective
  rw [Text.toList_trimEnd, whole, Text.dropEndBlanks_append_of_blank blank]
  by_cases kept : Fragment.trimEndPieces pieces = []
  · rw [kept]
    rfl
  · obtain ⟨c, last, visible⟩ := exists_visible_of_trimEndPieces (d := d) kept next
    exact (Text.dropEndBlanks_of_getLast? last visible).symm

end Piece

/-! ## Segments -/

namespace Fragment

variable {d : Dialect} {style : Style} {next : Nat}

def texts (style : Style) : Nat → List Fragment → List String
  | _, [] => []
  | next, f :: rest =>
    Piece.render style next f.pieces :: texts style (next + Piece.slots f.pieces) rest

def slots (fragments : List Fragment) : Nat := (fragments.map fun f => Piece.slots f.pieces).sum

theorem texts_append (next : Nat) (first second : List Fragment) :
    texts style next (first ++ second) =
      texts style next first ++ texts style (next + slots first) second := by
  induction first generalizing next with
  | nil => rfl
  | cons f rest ih =>
    have count : next + slots (f :: rest) = next + Piece.slots f.pieces + slots rest := by
      simp [slots, Nat.add_assoc]
    rw [List.cons_append, texts, texts, ih, count, List.cons_append]

theorem render_separated (separator : String) (next : Nat) (fragments : List Fragment) :
    Piece.render style next (separated separator fragments).pieces =
      separator.intercalate (texts style next fragments) := by
  induction fragments generalizing next with
  | nil => simp [separated, texts, Piece.render]
  | cons f rest ih =>
    cases rest with
    | nil => simp [separated, texts]
    | cons g rest =>
      rw [pieces_separated_cons_cons, Piece.render_append, Piece.render, ih]
      simp only [texts, String.intercalate_cons_cons, String.append_assoc]

theorem render_joined (next : Nat) (segments : List Fragment) :
    Piece.render d.style next (joined segments).pieces =
      Text.trimEnd (" ".intercalate (texts d.style next (segments.filter (!·.isBlank)))) := by
  rw [joined, Piece.render_trimEndPieces, render_separated]

end Fragment

end SqlComposer
