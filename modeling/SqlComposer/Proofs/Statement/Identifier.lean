import Mathlib.Data.List.Infix
import SqlComposer.Fragment.Context
import SqlComposer.Fragment.Names

/-!
Names cut at points and labels, and identifiers in quotes. A quoted identifier can be told from
what follows it, so two texts made of quoted segments are alike only if the segments are.
-/

namespace SqlComposer

namespace Text

theorem cutLast_append {mark : Char} (before : List Char) {after : List Char}
    (free : mark ∉ after) : cutLast mark (before ++ mark :: after) = some (before, after) := by
  induction before with
  | nil => simp [cutLast, cutLast_eq_none_iff.mpr free]
  | cons c before ih => simp [cutLast, ih]

theorem cutLastDot_append (schema : String) {table : String} (free : '.' ∉ table.toList) :
    cutLastDot (schema ++ "." ++ table) = some (schema, table) := by
  simp [cutLastDot, cutLast_append _ free]

theorem cutLastDot_eq_none {name : String} (free : '.' ∉ name.toList) : cutLastDot name = none := by
  rw [cutLastDot, cutLast_eq_none_iff.mpr free]
  rfl

theorem exists_segments {name : String} (dot : '.' ∈ name.toList) :
    ∃ schema table, name = schema ++ "." ++ table ∧ '.' ∉ table.toList := by
  cases cut : cutLast '.' name.toList with
  | none => exact absurd dot (cutLast_eq_none_iff.mp cut)
  | some parts =>
    obtain ⟨whole, free⟩ := eq_append_of_cutLast cut
    refine ⟨String.ofList parts.1, String.ofList parts.2, ?_, by simpa using free⟩
    apply String.toList_injective
    simpa using whole

/-- A label is cut off only where ` as ` stands, in either case of its letters. -/
theorem label_of_cutLastAs {cs : List Char} {parts : List Char × List Char}
    (cut : cutLastAs cs = some parts) : " as ".toList <:+: cs.map Char.toLower := by
  induction cs generalizing parts with
  | nil => cases cut
  | cons c cs ih =>
    rw [cutLastAs] at cut
    cases later : cutLastAs cs with
    | some rest =>
      rw [List.map_cons]
      exact (ih later).trans (List.suffix_cons _ _).isInfix
    | none =>
      rw [later] at cut
      obtain ⟨rest, found, -⟩ := Option.map_eq_some_iff.mp cut
      unfold afterAs at found
      split at found
      · next a s rest whole =>
        obtain ⟨⟨first, second⟩, -⟩ := Option.ite_none_right_eq_some.mp found
        rw [whole]
        refine ⟨[], rest.map Char.toLower, ?_⟩
        simp [first, second]
      · cases found

def trimStart (s : String) : String := String.ofList (dropBlanks s.toList)

theorem afterAs_eq_some_iff {cs rest : List Char} :
    afterAs cs = some rest ↔
      ∃ a s, cs = ' ' :: a :: s :: ' ' :: rest ∧ a.toLower = 'a' ∧ s.toLower = 's' := by
  constructor
  · intro found
    unfold afterAs at found
    split at found
    · next a s tail =>
      obtain ⟨letters, same⟩ := Option.ite_none_right_eq_some.mp found
      cases same
      exact ⟨a, s, rfl, letters⟩
    · cases found
  · rintro ⟨a, s, rfl, letters⟩
    exact if_pos letters

theorem afterAs_append_of_some {cs rest : List Char} (found : afterAs cs = some rest)
    (more : List Char) : afterAs (cs ++ more) = some (rest ++ more) := by
  obtain ⟨a, s, rfl, letters⟩ := afterAs_eq_some_iff.mp found
  exact afterAs_eq_some_iff.mpr ⟨a, s, rfl, letters⟩

theorem afterAs_append_eq_none_iff {cs more : List Char} (unspaced : ' ' ∉ more) :
    afterAs (cs ++ more) = none ↔ afterAs cs = none := by
  constructor
  · intro none
    by_contra some
    obtain ⟨rest, found⟩ := Option.ne_none_iff_exists'.mp some
    rw [afterAs_append_of_some found] at none
    cases none
  · intro none
    by_contra some
    obtain ⟨rest, found⟩ := Option.ne_none_iff_exists'.mp some
    obtain ⟨a, s, whole, letters⟩ := afterAs_eq_some_iff.mp found
    -- The second space of the mark stands in the first part, and so does the whole mark.
    match cs with
    | [] | [_] | [_, _] | [_, _, _] =>
      apply unspaced
      simp only [List.cons_append, List.nil_append, List.cons.injEq] at whole
      simp [whole]
    | _ :: _ :: _ :: _ :: tail =>
      simp only [List.cons_append, List.cons.injEq] at whole
      obtain ⟨rfl, rfl, rfl, rfl, -⟩ := whole
      rw [afterAs_eq_some_iff.mpr ⟨_, _, rfl, letters⟩] at none
      cases none

theorem cutLastAs_cons_eq_none_iff {c : Char} {cs : List Char} :
    cutLastAs (c :: cs) = none ↔ cutLastAs cs = none ∧ afterAs (c :: cs) = none := by
  rw [cutLastAs]
  cases cutLastAs cs <;> simp

theorem cutLastAs_eq_none_iff {cs : List Char} :
    cutLastAs cs = none ↔ ∀ tail, tail <:+ cs → afterAs tail = none := by
  induction cs with
  | nil => simp [cutLastAs, afterAs]
  | cons c cs ih =>
    rw [cutLastAs_cons_eq_none_iff, ih]
    constructor
    · rintro ⟨later, here⟩ tail suffix
      rcases List.suffix_cons_iff.mp suffix with rfl | inside
      · exact here
      · exact later tail inside
    · intro all
      exact ⟨fun tail inside => all tail (inside.trans (List.suffix_cons c cs)),
        all _ List.suffix_rfl⟩

theorem cutLastAs_append_eq_none_iff {cs more : List Char} (unspaced : ' ' ∉ more) :
    cutLastAs (cs ++ more) = none ↔ cutLastAs cs = none := by
  induction cs with
  | nil =>
    refine iff_of_true (cutLastAs_eq_none_iff.mpr fun tail suffix => ?_) rfl
    have later : ' ' ∉ tail := fun member => unspaced (suffix.mem member)
    have alone : afterAs ([] ++ tail) = none ↔ afterAs [] = none := afterAs_append_eq_none_iff later
    exact alone.mpr rfl
  | cons c cs ih =>
    have here : afterAs (c :: cs ++ more) = none ↔ afterAs (c :: cs) = none :=
      afterAs_append_eq_none_iff unspaced
    rw [List.cons_append] at here
    rw [List.cons_append, cutLastAs_cons_eq_none_iff, cutLastAs_cons_eq_none_iff, ih, here]

/-- A part of a text without a label mark has none. -/
theorem cutLastAs_eq_none_of_infix {part cs : List Char} (inside : part <:+: cs)
    (unmarked : cutLastAs cs = none) : cutLastAs part = none := by
  obtain ⟨before, after, rfl⟩ := inside
  refine cutLastAs_eq_none_iff.mpr fun tail suffix => ?_
  by_contra some
  obtain ⟨rest, found⟩ := Option.ne_none_iff_exists'.mp some
  obtain ⟨front, rfl⟩ := suffix
  have ending : tail ++ after <:+ before ++ (front ++ tail) ++ after :=
    ⟨before ++ front, by simp⟩
  have free := cutLastAs_eq_none_iff.mp unmarked _ ending
  rw [afterAs_append_of_some found] at free
  cases free

/-- The last mark is cut at, so that what follows it has none. -/
theorem cutLastAs_after {cs before after : List Char} (cut : cutLastAs cs = some (before, after)) :
    cutLastAs after = none := by
  induction cs generalizing before with
  | nil => cases cut
  | cons c cs ih =>
    rw [cutLastAs] at cut
    cases later : cutLastAs cs with
    | some parts =>
      rw [later] at cut
      cases cut
      exact ih later
    | none =>
      rw [later] at cut
      obtain ⟨rest, found, same⟩ := Option.map_eq_some_iff.mp cut
      cases same
      obtain ⟨a, s, whole, -⟩ := afterAs_eq_some_iff.mp found
      have inside : after <:+: cs := ⟨[a, s, ' '], [], by simp_all⟩
      exact cutLastAs_eq_none_of_infix inside later

theorem isPrefix_dropEndBlanks (cs : List Char) : dropEndBlanks cs <+: cs := by
  have beginning := List.reverse_prefix.mpr (List.dropWhile_suffix isBlank : _ <:+ cs.reverse)
  rwa [List.reverse_reverse] at beginning

theorem trim_infix (s : String) : (trim s).toList <:+: s.toList := by
  have ending : dropBlanks s.toList <:+ s.toList := List.dropWhile_suffix _
  rw [toList_trim]
  exact (isPrefix_dropEndBlanks _).isInfix.trans ending.isInfix

theorem trimStart_trim (s : String) : trimStart (trim s) = trim s := by
  apply String.toList_injective
  rw [trimStart, String.toList_ofList, toList_trim]
  obtain ⟨after, whole⟩ := isPrefix_dropEndBlanks (dropBlanks s.toList)
  cases kept : dropEndBlanks (dropBlanks s.toList) with
  | nil => rfl
  | cons c rest =>
    have first : (s.toList.dropWhile isBlank).head? = some c := by
      change (dropBlanks s.toList).head? = some c
      rw [← whole, kept]
      rfl
    have visible := List.head?_dropWhile_not isBlank s.toList
    rw [first] at visible
    exact List.dropWhile_cons_of_neg (by simpa using visible)

theorem dropBlanks_append_of_visible {c : Char} (visible : isBlank c = false)
    (cs more : List Char) :
    dropBlanks (cs ++ c :: more) = dropBlanks cs ++ c :: more := by
  unfold dropBlanks
  rw [List.dropWhile_append]
  split
  · next empty => simp [List.isEmpty_iff.mp empty, visible]
  · rfl

theorem dropEndBlanks_append_of_visible {c : Char} (visible : isBlank c = false) (cs : List Char) :
    dropEndBlanks (cs ++ [c]) = cs ++ [c] := by
  simp [dropEndBlanks, visible]

theorem trim_append_point (s : String) {name : String}
    (visible : ∀ c ∈ name.toList, isBlank c = false) :
    trim (s ++ "." ++ name) = trimStart s ++ "." ++ name := by
  apply String.toList_injective
  have started := dropBlanks_append_of_visible (c := '.') (by decide) s.toList name.toList
  rw [toList_trim]
  simp only [String.toList_append, trimStart, String.toList_ofList, List.append_assoc]
  change dropEndBlanks (dropBlanks (s.toList ++ '.' :: name.toList)) = _
  rw [started]
  change _ = dropBlanks s.toList ++ '.' :: name.toList
  rcases List.eq_nil_or_concat name.toList with empty | ⟨front, last, whole⟩
  · rw [empty]
    exact dropEndBlanks_append_of_visible (by decide) _
  · rw [List.concat_eq_append] at whole
    rw [whole, ← List.cons_append, ← List.append_assoc]
    exact dropEndBlanks_append_of_visible (visible last (by simp [whole])) _

end Text

theorem Name.parse_of_plain {name : String} (trimmed : Text.trim name = name)
    (unlabelled : ¬" as ".toList <:+: name.toList.map Char.toLower) :
    Name.parse name = { table := name } := by
  have uncut : Text.cutLastAs name.toList = none := by
    cases cut : Text.cutLastAs name.toList with
    | none => rfl
    | some parts => exact absurd (Text.label_of_cutLastAs cut) unlabelled
  rw [Name.parse, splitLabel, uncut, trimmed]

/-- A quoted identifier can be told from what follows it. -/
theorem quoteIdentifier_append_inj {quote : Char} (other : quote ≠ '*') {a b : String}
    {r s : List Char} (left : r.head? ≠ some quote) (right : s.head? ≠ some quote)
    (same : (quoteIdentifier quote a).toList ++ r = (quoteIdentifier quote b).toList ++ s) :
    a = b ∧ r = s := by
  have quoted : ∀ {name}, name ≠ "*" → (quoteIdentifier quote name).toList =
      quote :: (Text.doubled quote name.toList ++ [quote]) := by
    intro name plain
    simp [quoteIdentifier, plain, Text.enclosed]
  by_cases starA : a = "*" <;> by_cases starB : b = "*"
  · subst starA
    subst starB
    exact ⟨rfl, List.append_cancel_left same⟩
  · rw [quoted starB, starA] at same
    have first : '*' = quote := by simpa [quoteIdentifier] using congrArg List.head? same
    exact absurd first.symm other
  · rw [quoted starA, starB] at same
    have first : quote = '*' := by simpa [quoteIdentifier] using congrArg List.head? same
    exact absurd first other
  · rw [quoted starA, quoted starB] at same
    have bodies : Text.doubled quote a.toList ++ quote :: r =
        Text.doubled quote b.toList ++ quote :: s := by
      simpa using same
    have read := congrArg (Text.closeQuoted quote) bodies
    rw [Text.closeQuoted_doubled quote _ _ left, Text.closeQuoted_doubled quote _ _ right] at read
    have both := Option.some.inj read
    exact ⟨String.toList_injective (congrArg Prod.fst both), congrArg Prod.snd both⟩

theorem quoteIdentifier_inj {quote : Char} (other : quote ≠ '*') {a b : String} :
    quoteIdentifier quote a = quoteIdentifier quote b ↔ a = b := by
  refine ⟨fun same => ?_, congrArg (quoteIdentifier quote)⟩
  have texts := congrArg (fun text => text.toList ++ []) same
  exact (quoteIdentifier_append_inj other (by simp) (by simp) texts).1

/-! ## Identifiers with points between them -/

namespace Fragment

def segments (tablePrefix table : String) : List String :=
  match Text.cutLastDot table with
  | some (schema, table) => [schema, tablePrefix ++ table]
  | none => [tablePrefix ++ table]

def dotted (names : List String) : Fragment := separated "." (names.map ident)

theorem prefixed_eq_dotted (tablePrefix table : String) :
    prefixed tablePrefix table = dotted (segments tablePrefix table) := by
  unfold prefixed segments
  cases Text.cutLastDot table <;> rfl

end Fragment

namespace Style

variable {style : Style}

def dotted (style : Style) : List String → String
  | [] => ""
  | [name] => quoteIdentifier style.quote name
  | name :: other :: rest => quoteIdentifier style.quote name ++ "." ++ style.dotted (other :: rest)

theorem render_dotted (next : Nat) (names : List String) :
    Piece.render style next (Fragment.dotted names).pieces = style.dotted names := by
  induction names with
  | nil => rfl
  | cons name rest ih =>
    cases rest with
    | nil => exact String.append_empty
    | cons other rest =>
      change quoteIdentifier style.quote name ++ ("." ++ Piece.render style next
        (Fragment.dotted (other :: rest)).pieces) = _
      rw [ih, dotted, String.append_assoc]

theorem dotted_append_singleton {names : List String} (given : names ≠ []) (last : String) :
    style.dotted (names ++ [last]) =
      style.dotted names ++ "." ++ quoteIdentifier style.quote last := by
  induction names with
  | nil => exact absurd rfl given
  | cons name rest ih =>
    cases rest with
    | nil => rfl
    | cons other rest =>
      change quoteIdentifier style.quote name ++ "." ++ style.dotted (other :: rest ++ [last]) = _
      rw [ih (List.cons_ne_nil _ _), dotted]
      simp only [String.append_assoc]

/-- Dotted names can be told apart as long as what follows them goes on with neither a quote nor
a point. -/
theorem dotted_append_inj (star : style.quote ≠ '*') (point : style.quote ≠ '.')
    {a b : List String} {r s : List Char} (given : a ≠ []) (other : b ≠ [])
    (left : r.head? ≠ some style.quote ∧ r.head? ≠ some '.')
    (right : s.head? ≠ some style.quote ∧ s.head? ≠ some '.')
    (same : (style.dotted a).toList ++ r = (style.dotted b).toList ++ s) : a = b ∧ r = s := by
  have pointed : ∀ rest : List Char, ('.' :: rest).head? ≠ some style.quote :=
    fun rest begins => point (Option.some.inj begins).symm
  have split : ∀ (name next : String) (rest : List String) (more : List Char),
      (style.dotted (name :: next :: rest)).toList ++ more =
        (quoteIdentifier style.quote name).toList ++
          '.' :: ((style.dotted (next :: rest)).toList ++ more) := by
    intro name next rest more
    simp [dotted]
  induction a generalizing b with
  | nil => exact absurd rfl given
  | cons first rest ih =>
    cases b with
    | nil => exact absurd rfl other
    | cons name names =>
      cases rest with
      | nil =>
        cases names with
        | nil =>
          obtain ⟨rfl, rests⟩ := quoteIdentifier_append_inj star left.1 right.1 same
          exact ⟨rfl, rests⟩
        | cons next more =>
          rw [split] at same
          obtain ⟨-, rests⟩ := quoteIdentifier_append_inj star left.1 (pointed _) same
          exact absurd (congrArg List.head? rests) left.2
      | cons second rest =>
        rw [split] at same
        cases names with
        | nil =>
          obtain ⟨-, rests⟩ := quoteIdentifier_append_inj star (pointed _) right.1 same
          exact absurd (congrArg List.head? rests.symm) right.2
        | cons next more =>
          rw [split] at same
          obtain ⟨rfl, rests⟩ := quoteIdentifier_append_inj star (pointed _) (pointed _) same
          obtain ⟨later, ends⟩ := ih (List.cons_ne_nil _ _) (List.cons_ne_nil _ _)
            (List.cons.inj rests).2
          exact ⟨congrArg (first :: ·) later, ends⟩

end Style

end SqlComposer
