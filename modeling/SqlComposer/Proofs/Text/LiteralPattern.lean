import SqlComposer.Proofs.Text.Literals

/-!
The literals of a list as the matches of a pattern. A match begins at the first quote behind which
a closing one can be found, and goes up to the last closing quote that a doubled text leads to. The
reader of literals finds these matches and no others (`Text.literals_eq_iff_matches`), and those of
a list of options are the options (`Text.listsOptions_quotedOptions`).
-/

namespace SqlComposer.Text

variable {quote c : Char} {cs text rest : List Char}

/-! ## Closing quotes -/

def Closes (quote : Char) (cs text rest : List Char) : Prop :=
  cs = doubled quote text ++ quote :: rest

/-- Of all closing quotes, the one behind the longest text. -/
structure ClosesLast (quote : Char) (cs text rest : List Char) : Prop where
  closes : Closes quote cs text rest
  longest : ∀ other behind, Closes quote cs other behind → other.length ≤ text.length

def Unclosed (quote : Char) (cs : List Char) : Prop := ∀ text rest, ¬Closes quote cs text rest

theorem closes_cons_iff (other : c ≠ quote) :
    Closes quote (c :: cs) text rest ↔ ∃ tail, text = c :: tail ∧ Closes quote cs tail rest := by
  cases text with
  | nil => simp [Closes, doubled, other]
  | cons d tail =>
    by_cases same : d = quote
    · simp [Closes, doubled, same, other, Ne.symm other]
    · simp [Closes, doubled, same, and_assoc, eq_comm]

theorem closes_quote_iff :
    Closes quote (quote :: cs) text rest ↔
      text = [] ∧ rest = cs ∨
        ∃ tail behind, text = quote :: tail ∧ cs = quote :: behind ∧
          Closes quote behind tail rest := by
  cases text with
  | nil => simp [Closes, doubled, eq_comm]
  | cons d tail =>
    by_cases same : d = quote
    · simp [Closes, doubled, same]
    · simp [Closes, doubled, same, Ne.symm same]

theorem unclosed_nil : Unclosed quote [] := by
  intro text rest closed
  exact List.append_ne_nil_of_right_ne_nil _ (List.cons_ne_nil quote rest) closed.symm

theorem unclosed_cons_iff (other : c ≠ quote) : Unclosed quote (c :: cs) ↔ Unclosed quote cs := by
  constructor
  · intro unclosed text rest closed
    exact unclosed (c :: text) rest ((closes_cons_iff other).mpr ⟨text, rfl, closed⟩)
  · intro unclosed text rest closed
    rcases (closes_cons_iff other).mp closed with ⟨tail, rfl, shorter⟩
    exact unclosed tail rest shorter

namespace ClosesLast

theorem cons (other : c ≠ quote) (last : ClosesLast quote cs text rest) :
    ClosesLast quote (c :: cs) (c :: text) rest where
  closes := (closes_cons_iff other).mpr ⟨text, rfl, last.closes⟩
  longest further behind closed := by
    rcases (closes_cons_iff other).mp closed with ⟨tail, rfl, shorter⟩
    exact Nat.succ_le_succ (last.longest tail behind shorter)

theorem pair (last : ClosesLast quote cs text rest) :
    ClosesLast quote (quote :: quote :: cs) (quote :: text) rest where
  closes := closes_quote_iff.mpr (.inr ⟨text, cs, rfl, rfl, last.closes⟩)
  longest further behind closed := by
    rcases closes_quote_iff.mp closed with ⟨rfl, -⟩ | ⟨tail, after, rfl, same, shorter⟩
    · exact Nat.zero_le _
    · cases same
      exact Nat.succ_le_succ (last.longest tail behind shorter)

theorem alone (unpaired : ∀ behind, cs = quote :: behind → Unclosed quote behind) :
    ClosesLast quote (quote :: cs) [] cs where
  closes := closes_quote_iff.mpr (.inl ⟨rfl, rfl⟩)
  longest further behind closed := by
    rcases closes_quote_iff.mp closed with ⟨rfl, -⟩ | ⟨tail, after, -, same, shorter⟩
    · exact Nat.le_refl 0
    · exact absurd shorter (unpaired after same tail behind)

end ClosesLast

inductive Closing (quote : Char) (cs : List Char) : Option (List Char × List Char) → Prop where
  | closed {text rest : List Char} :
      ClosesLast quote cs text rest → Closing quote cs (some (text, rest))
  | unclosed : Unclosed quote cs → Closing quote cs none

theorem closing_closeQuoted (quote : Char) (cs : List Char) :
    Closing quote cs (closeQuoted quote cs) := by
  fun_induction closeQuoted quote cs with
  | case1 => exact .unclosed unclosed_nil
  | case2 =>
    apply Closing.closed
    apply ClosesLast.alone
    intro behind follows
    cases follows
  | case3 c other => exact .unclosed ((unclosed_cons_iff other).mpr unclosed_nil)
  | case4 cs text rest found ih =>
    rw [found] at ih
    cases ih with
    | closed last => exact .closed last.pair
  | case5 cs missing ih =>
    rw [missing] at ih
    cases ih with
    | unclosed none =>
      apply Closing.closed
      apply ClosesLast.alone
      rintro behind ⟨⟩
      exact none
  | case6 d cs other =>
    apply Closing.closed
    apply ClosesLast.alone
    rintro behind ⟨⟩
    exact absurd rfl other
  | case7 c d cs other ih =>
    generalize closeQuoted quote (d :: cs) = found at ih ⊢
    cases ih with
    | unclosed none => exact .unclosed ((unclosed_cons_iff other).mpr none)
    | closed last => exact .closed (.cons other last)

theorem closeQuoted_eq_none_of_unclosed (unclosed : Unclosed quote cs) :
    closeQuoted quote cs = none := by
  have closing := closing_closeQuoted quote cs
  generalize closeQuoted quote cs = found at closing ⊢
  cases closing with
  | unclosed _ => rfl
  | closed last => exact absurd last.closes (unclosed _ _)

theorem Closes.unique {other behind : List Char} (one : Closes quote cs text rest)
    (two : Closes quote cs other behind) (same : text.length = other.length) :
    text = other ∧ rest = behind := by
  induction text generalizing cs other with
  | nil =>
    have empty := List.length_eq_zero_iff.mp same.symm
    subst empty
    have whole := one.symm.trans two
    exact ⟨rfl, List.tail_eq_of_cons_eq whole⟩
  | cons c text ih =>
    rw [Closes, doubled] at one
    by_cases first : c = quote
    · rw [if_pos first, first, List.cons_append, List.cons_append] at one
      rw [one] at two
      rcases closes_quote_iff.mp two with ⟨rfl, -⟩ | ⟨tail, after, rfl, follows, shorter⟩
      · cases same
      · cases follows
        rcases ih rfl shorter (Nat.succ.inj same) with ⟨rfl, rfl⟩
        exact ⟨by rw [first], rfl⟩
    · rw [if_neg first, List.cons_append] at one
      rw [one] at two
      rcases (closes_cons_iff first).mp two with ⟨tail, rfl, shorter⟩
      rcases ih rfl shorter (Nat.succ.inj same) with ⟨rfl, rfl⟩
      exact ⟨rfl, rfl⟩

theorem ClosesLast.closeQuoted_eq (last : ClosesLast quote cs text rest) :
    closeQuoted quote cs = some (text, rest) := by
  have closing := closing_closeQuoted quote cs
  generalize closeQuoted quote cs = result at closing ⊢
  cases closing with
  | unclosed none => exact absurd last.closes (none text rest)
  | closed found =>
    have same := Nat.le_antisymm (last.longest _ _ found.closes) (found.longest _ _ last.closes)
    rcases found.closes.unique last.closes same with ⟨rfl, rfl⟩
    rfl

/-! ## Matches -/

/-- No match begins at any of the quotes. -/
def Barren (front back : List Char) : Prop :=
  ∀ before behind, front = before ++ '\'' :: behind → Unclosed '\'' (behind ++ back)

/-- The texts of the matches from left to right, each behind the first quote that opens one and up
to the last one that can close it. -/
inductive Matches : List Char → List (List Char) → Prop where
  | none {cs : List Char} : Barren cs [] → Matches cs []
  | next {front back text rest : List Char} {texts : List (List Char)} :
      Barren front ('\'' :: back) → ClosesLast '\'' back text rest → Matches rest texts →
        Matches (front ++ '\'' :: back) (text :: texts)

theorem barren_cons_iff {front back : List Char} :
    Barren (c :: front) back ↔
      (c = '\'' → Unclosed '\'' (front ++ back)) ∧ Barren front back := by
  constructor
  · intro barren
    refine ⟨fun same => barren [] front (by rw [same]; rfl), fun before behind split => ?_⟩
    exact barren (c :: before) behind (by rw [split]; rfl)
  · rintro ⟨first, barren⟩ before behind split
    cases before with
    | nil =>
      cases split
      exact first rfl
    | cons d before =>
      cases split
      exact barren before behind rfl

theorem Matches.cons {texts : List (List Char)} (first : c = '\'' → Unclosed '\'' cs)
    (found : Matches cs texts) : Matches (c :: cs) texts := by
  cases found with
  | none barren => exact .none (barren_cons_iff.mpr ⟨by simpa using first, barren⟩)
  | next barren closes more =>
    rw [← List.cons_append]
    exact .next (barren_cons_iff.mpr ⟨first, barren⟩) closes more

theorem matches_literals (cs : List Char) : Matches cs (literals cs) := by
  fun_induction literals cs with
  | case1 => exact .none fun before behind split => by simp at split
  | case2 cs text rest found _ ih =>
    have closing := closing_closeQuoted '\'' cs
    rw [found] at closing
    have nothing : Barren [] ('\'' :: cs) := fun before behind split => by simp at split
    cases closing with
    | closed last => exact .next nothing last ih
  | case3 cs missing ih =>
    have closing := closing_closeQuoted '\'' cs
    rw [missing] at closing
    cases closing with
    | unclosed none => exact ih.cons fun _ => none
  | case4 c cs other ih => exact ih.cons fun same => absurd same other

theorem literals_append_of_barren {front back : List Char} (barren : Barren front back) :
    literals (front ++ back) = literals back := by
  induction front with
  | nil => rfl
  | cons c front ih =>
    rcases barren_cons_iff.mp barren with ⟨first, barren⟩
    rw [List.cons_append, ← ih barren]
    by_cases same : c = '\''
    · rw [same, literals_quote_of_none (closeQuoted_eq_none_of_unclosed (first same))]
    · exact literals_cons_of_ne same _

theorem literals_eq_iff_matches {texts : List (List Char)} :
    literals cs = texts ↔ Matches cs texts := by
  constructor
  · rintro rfl
    exact matches_literals cs
  · intro found
    induction found with
    | @none cs barren =>
      have bare := literals_append_of_barren barren
      rw [List.append_nil] at bare
      rw [bare, literals]
    | next barren closes _ ih =>
      rw [literals_append_of_barren barren, literals_quote_of_some closes.closeQuoted_eq, ih]

/-! ## Options -/

def ListsOptions (list : String) (options : List String) : Prop :=
  (literals list.toList).map String.ofList = options ∧
    ∀ texts, Matches list.toList texts ↔ texts = options.map (·.toList)

theorem listsOptions_intercalate {separator : String} (shown : separator ≠ "")
    (bare : '\'' ∉ separator.toList) (options : List String) :
    ListsOptions (separator.intercalate (options.map literal)) options := by
  have read := literals_intercalate shown bare options
  refine ⟨?_, fun texts => ?_⟩
  · rw [read, List.map_map]
    simp
  · rw [← literals_eq_iff_matches, read, eq_comm]

/-- Whatever the options hold, they are read back from the list of their literals, with or without
blanks behind its commas. -/
theorem listsOptions_quotedOptions (options : List String) :
    ListsOptions (quotedOptions options) options ∧
      ListsOptions (",".intercalate (options.map literal)) options :=
  ⟨listsOptions_intercalate (by decide) (by decide) options,
    listsOptions_intercalate (by decide) (by decide) options⟩

end SqlComposer.Text
