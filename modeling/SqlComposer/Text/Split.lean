/-!
Cutting text at the last occurrence of a mark. Both parts are kept and the mark is dropped.
-/

namespace SqlComposer.Text

def cutLast (mark : Char) : List Char → Option (List Char × List Char)
  | [] => none
  | c :: cs =>
    match cutLast mark cs with
    | some (before, after) => some (c :: before, after)
    | none => if c = mark then some ([], cs) else none

def afterAs : List Char → Option (List Char)
  | ' ' :: a :: s :: ' ' :: rest =>
    if a.toLower = 'a' ∧ s.toLower = 's' then some rest else none
  | _ => none

/-- Cuts at the last ` as `; occurrences may share a space. -/
def cutLastAs : List Char → Option (List Char × List Char)
  | [] => none
  | c :: cs =>
    match cutLastAs cs with
    | some (before, after) => some (c :: before, after)
    | none => (afterAs (c :: cs)).map fun rest => ([], rest)

def cutLastDot (s : String) : Option (String × String) :=
  (cutLast '.' s.toList).map fun (before, after) => (String.ofList before, String.ofList after)

def splitWhere (separates : Char → Bool) : List Char → List (List Char)
  | [] => [[]]
  | c :: cs =>
    if separates c then [] :: splitWhere separates cs
    else
      match splitWhere separates cs with
      | [] => [[c]]
      | part :: parts => (c :: part) :: parts

def splitAt (mark : Char) (cs : List Char) : List (List Char) := splitWhere (· = mark) cs

theorem cutLast_eq_none_iff {mark : Char} {cs : List Char} :
    cutLast mark cs = none ↔ mark ∉ cs := by
  induction cs with
  | nil => simp [cutLast]
  | cons c cs ih =>
    cases h : cutLast mark cs with
    | none =>
      have := ih.mp h
      by_cases hc : c = mark <;> simp [cutLast, h, hc, this]
      exact fun e => hc e.symm
    | some parts =>
      have : mark ∈ cs := by
        false_or_by_contra
        rename_i absent
        simp [ih.mpr absent] at h
      simp [cutLast, h, this]

theorem eq_append_of_cutLast {mark : Char} {cs before after : List Char}
    (cut : cutLast mark cs = some (before, after)) :
    cs = before ++ mark :: after ∧ mark ∉ after := by
  induction cs generalizing before with
  | nil => simp [cutLast] at cut
  | cons c cs ih =>
    cases h : cutLast mark cs with
    | none =>
      by_cases hc : c = mark
      · simp only [cutLast, h, hc, if_true, Option.some.injEq, Prod.mk.injEq] at cut
        obtain ⟨rfl, rfl⟩ := cut
        exact ⟨by simp [hc], cutLast_eq_none_iff.mp h⟩
      · simp [cutLast, h, hc] at cut
    | some parts =>
      obtain ⟨first, second⟩ := parts
      simp only [cutLast, h, Option.some.injEq, Prod.mk.injEq] at cut
      obtain ⟨rfl, rfl⟩ := cut
      obtain ⟨whole, free⟩ := ih h
      exact ⟨by simp [whole], free⟩

end SqlComposer.Text
