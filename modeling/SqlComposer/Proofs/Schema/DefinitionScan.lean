import Mathlib.Data.List.Infix
import SqlComposer.Proofs.Text.Literals
import SqlComposer.Schema.Ddl
import SqlComposer.Schema.Definition

/-!
Scanning the text that made a table. A clause begins with a word of its own, so a part of the
text without that word holds none, and parts can be looked at one by one where no word runs from
one into the next: each begins with a character that is no letter.
-/

namespace SqlComposer.Definition

open Text

/-! ## Words -/

def unlettered (c : Char) : Bool := !c.isAlpha && c != '\u212A'

/-- No word runs into a text that begins so. -/
def Breaks (cs : List Char) : Prop := ∀ c ∈ cs.head?, unlettered c = true

theorem breaks_cons {c : Char} (other : unlettered c = true) (cs : List Char) :
    Breaks (c :: cs) := by
  intro d head
  cases head
  exact other

def Small (letters : List Char) : Prop := ∀ letter ∈ letters, letter.isLower = true

instance (cs : List Char) : Decidable (Breaks cs) :=
  decidable_of_iff (cs.head?.all unlettered = true) (by simp [Breaks, Option.all_eq_true])

instance (letters : List Char) : Decidable (Small letters) :=
  decidable_of_iff (letters.all Char.isLower = true) List.all_eq_true

theorem isAlpha_of_isLower_toLower {c : Char} (small : c.toLower.isLower = true) :
    c.isAlpha = true := by
  unfold Char.toLower at small
  split at small
  · next capital =>
    have upper : c.isUpper = true := by
      delta Char.isUpper
      simpa using capital
    exact (Bool.or_eq_true _ _).mpr (.inl upper)
  · exact (Bool.or_eq_true _ _).mpr (.inr small)

theorem sameLetter_of_unlettered {letter c : Char} (small : letter.isLower = true)
    (other : unlettered c = true) : sameLetter letter c = false := by
  simp only [unlettered, Bool.and_eq_true, Bool.not_eq_true', bne_iff_ne, ne_eq] at other
  have lower : c.toLower ≠ letter := by
    rintro rfl
    rw [isAlpha_of_isLower_toLower small] at other
    cases other.1
  simp [sameLetter, lower, other.2]

theorem afterWord_append {letters rest : List Char} (small : Small letters) (breaks : Breaks rest)
    (cs : List Char) : afterWord letters (cs ++ rest) = (afterWord letters cs).map (· ++ rest) := by
  induction letters generalizing cs with
  | nil => rfl
  | cons letter letters ih =>
    have first : letter.isLower = true := small letter List.mem_cons_self
    have others : Small letters := fun l mem => small l (List.mem_cons_of_mem _ mem)
    cases cs with
    | nil =>
      cases rest with
      | nil => rfl
      | cons c rest =>
        have other := sameLetter_of_unlettered first (breaks c rfl)
        simp [afterWord, other]
    | cons c cs =>
      rw [List.cons_append, afterWord, afterWord]
      split
      · exact ih others cs
      · rfl

theorem afterWord_of_breaks {letters cs : List Char} (small : Small letters)
    (spelled : letters ≠ []) (breaks : Breaks cs) : afterWord letters cs = none := by
  have cut := afterWord_append small breaks []
  cases letters with
  | nil => exact absurd rfl spelled
  | cons letter letters => exact cut

def Found (read : List Char → Option (List Char)) (text : List Char) : Prop :=
  ∃ cs, cs <:+ text ∧ (read cs).isSome = true

instance (read : List Char → Option (List Char)) (text : List Char) :
    Decidable (Found read text) :=
  decidable_of_iff (∃ cs ∈ text.tails, (read cs).isSome = true) (by simp [Found])

/-- A word stands in a text, in either case of its letters. -/
def Mentions (word : String) (text : List Char) : Prop := Found (afterWord word.toList) text

instance (word : String) (text : List Char) : Decidable (Mentions word text) :=
  inferInstanceAs (Decidable (Found _ _))

def afterBlank : List Char → Option (List Char)
  | [] => none
  | c :: cs => if isBlank c then some cs else none

def MentionsApart (word : String) (text : List Char) : Prop :=
  Found (fun cs => (afterBlank cs).bind (afterWord word.toList)) text

instance (word : String) (text : List Char) : Decidable (MentionsApart word text) :=
  inferInstanceAs (Decidable (Found _ _))

theorem Found.of_suffix {read : List Char → Option (List Char)} {cs text : List Char}
    (found : Found read cs) (suffix : cs <:+ text) : Found read text := by
  obtain ⟨place, within, reads⟩ := found
  exact ⟨place, within.trans suffix, reads⟩

theorem found_append {read : List Char → Option (List Char)} {first second : List Char}
    (cut : ∀ c cs, (read (c :: cs ++ second)).isSome = true → (read (c :: cs)).isSome = true)
    (found : Found read (first ++ second)) : Found read first ∨ Found read second := by
  induction first with
  | nil => exact .inr found
  | cons c first ih =>
    obtain ⟨cs, suffix, reads⟩ := found
    rcases List.suffix_cons_iff.mp suffix with rfl | later
    · exact .inl ⟨c :: first, List.suffix_rfl, cut c first reads⟩
    · rcases ih ⟨cs, later, reads⟩ with within | after
      · exact .inl (within.of_suffix (List.suffix_cons c first))
      · exact .inr after

section Words

variable {word : String} {first second : List Char}

theorem mentions_append (small : Small word.toList) (breaks : Breaks second)
    (mentions : Mentions word (first ++ second)) :
    Mentions word first ∨ Mentions word second := by
  refine found_append (fun c cs reads => ?_) mentions
  rwa [afterWord_append small breaks, Option.isSome_map] at reads

theorem not_mentions_cons (small : Small word.toList) (spelled : word.toList ≠ []) {c : Char}
    {cs : List Char} (other : unlettered c = true) (absent : ¬ Mentions word cs) :
    ¬ Mentions word (c :: cs) := by
  rintro ⟨place, suffix, reads⟩
  rcases List.suffix_cons_iff.mp suffix with rfl | later
  · rw [afterWord_of_breaks small spelled (breaks_cons other cs)] at reads
    cases reads
  · exact absent ⟨place, later, reads⟩

theorem mentionsApart_append (small : Small word.toList) (breaks : Breaks second)
    (mentions : MentionsApart word (first ++ second)) :
    MentionsApart word first ∨ MentionsApart word second := by
  refine found_append (fun c cs reads => ?_) mentions
  simp only [List.cons_append, afterBlank] at reads ⊢
  split
  · next blank =>
    rwa [if_pos blank, Option.bind_some, afterWord_append small breaks, Option.isSome_map] at reads
  · next visible =>
    rw [if_neg visible] at reads
    cases reads

theorem mentionsApart_iff {text : List Char} :
    MentionsApart word text ↔
      ∃ c cs, c :: cs <:+ text ∧ isBlank c = true ∧ (afterWord word.toList cs).isSome = true := by
  constructor
  · rintro ⟨cs, suffix, reads⟩
    cases cs with
    | nil => cases reads
    | cons c cs =>
      simp only [afterBlank] at reads
      split at reads
      · next blank => exact ⟨c, cs, suffix, blank, reads⟩
      · cases reads
  · rintro ⟨c, cs, suffix, blank, reads⟩
    exact ⟨c :: cs, suffix, by simpa only [afterBlank, if_pos blank, Option.bind_some]⟩

theorem MentionsApart.mentions {text : List Char} (apart : MentionsApart word text) :
    Mentions word text := by
  obtain ⟨c, cs, suffix, -, reads⟩ := mentionsApart_iff.mp apart
  exact ⟨cs, (List.suffix_cons c cs).trans suffix, reads⟩

theorem not_mentionsApart_of_visible {text : List Char}
    (visible : ∀ c ∈ text, isBlank c = false) : ¬ MentionsApart word text := by
  intro apart
  obtain ⟨c, cs, suffix, blank, -⟩ := mentionsApart_iff.mp apart
  rw [visible c (suffix.subset List.mem_cons_self)] at blank
  cases blank

theorem not_mentions_of_unlettered {text : List Char} (small : Small word.toList)
    (spelled : word.toList ≠ []) (none : ∀ c ∈ text, unlettered c = true) :
    ¬ Mentions word text := by
  rintro ⟨cs, suffix, reads⟩
  have breaks : Breaks cs := fun c mem => none c (suffix.subset (List.mem_of_head? mem))
  rw [afterWord_of_breaks small spelled breaks] at reads
  cases reads

end Words

/-! ## Checks -/

theorem checks_of_readCheck {cs rest : List Char} {check : Check}
    (read : readCheck cs = some (check, rest)) : checks cs = check :: checks rest := by
  rw [checks]
  split
  · next found => cases found.symm.trans read; rfl
  · next absent => cases absent.symm.trans read

theorem checks_cons_of_none {c : Char} {cs : List Char} (none : readCheck (c :: cs) = none) :
    checks (c :: cs) = checks cs := by
  rw [checks]
  split
  · next found => cases found.symm.trans none
  · rfl

theorem checks_append_of_silent {first second : List Char}
    (silent : ∀ c cs, c :: cs <:+ first → readCheck (c :: cs ++ second) = none) :
    checks (first ++ second) = checks second := by
  induction first with
  | nil => rfl
  | cons c first ih =>
    have none := silent c first List.suffix_rfl
    rw [List.cons_append] at none ⊢
    rw [checks_cons_of_none none]
    exact ih fun d cs suffix => silent d cs (suffix.trans (List.suffix_cons c first))

/-- A word that begins within a text without it would have to run on behind the text. -/
theorem checks_append_of_not_mentions {first second : List Char} (absent : ¬ Mentions "check" first)
    (breaks : Breaks second) : checks (first ++ second) = checks second := by
  refine checks_append_of_silent fun c cs suffix => ?_
  have none : afterWord "check".toList (c :: cs) = none := by
    rw [← Option.not_isSome_iff_eq_none]
    exact fun reads => absent ⟨c :: cs, suffix, reads⟩
  rw [readCheck, afterWord_append (by decide) breaks, none]
  rfl

/-! ## Names -/

def isNameChar (c : Char) : Bool := c.isAlphanum || c = '_'

structure IsName (name : String) : Prop where
  shown : name.toList ≠ []
  chars : ∀ c ∈ name.toList, isNameChar c = true

instance (name : String) : Decidable (IsName name) :=
  decidable_of_iff (name.toList ≠ [] ∧ name.toList.all isNameChar = true)
    ⟨fun ⟨shown, chars⟩ => ⟨shown, List.all_eq_true.mp chars⟩,
      fun known => ⟨known.shown, List.all_eq_true.mpr known.chars⟩⟩

theorem toNat_lt_of_isNameChar {c : Char} (known : isNameChar c = true) : c.toNat < 128 := by
  delta isNameChar Char.isAlphanum Char.isAlpha Char.isUpper Char.isLower Char.isDigit at known
  simp only [Bool.or_eq_true, Bool.and_eq_true, decide_eq_true_eq, UInt32.le_iff_toNat_le] at known
  rcases known with ((capital | small) | digit) | rfl
  · exact Nat.lt_of_le_of_lt capital.2 (by decide)
  · exact Nat.lt_of_le_of_lt small.2 (by decide)
  · exact Nat.lt_of_le_of_lt digit.2 (by decide)
  · decide

/-- What holds of every name character can be checked one by one. -/
theorem of_isNameChar {p : Char → Bool}
    (each : ∀ n < 128, isNameChar (Char.ofNat n) = true → p (Char.ofNat n) = true) {c : Char}
    (known : isNameChar c = true) : p c = true := by
  have small := each c.toNat (toNat_lt_of_isNameChar known)
  rw [Char.ofNat_toNat] at small
  exact small known

theorem isWord_of_isNameChar {c : Char} (known : isNameChar c = true) : isWord c = true :=
  of_isNameChar (p := isWord) (by decide +kernel) known

theorem isBlank_of_isNameChar {c : Char} (known : isNameChar c = true) : isBlank c = false := by
  have visible := of_isNameChar (p := fun c => !isBlank c) (by decide +kernel) known
  simpa using visible

theorem suffix_of_afterWord {letters cs rest : List Char}
    (read : afterWord letters cs = some rest) : rest <:+ cs := by
  fun_induction afterWord letters cs with
  | case1 cs => cases read; exact List.suffix_rfl
  | case2 letter letters c cs same ih => exact (ih read).trans (List.suffix_cons c cs)
  | case3 => cases read
  | case4 => cases read

theorem readCheck_of_closed {cs : List Char}
    (closed : ∀ rest, afterWord "check".toList cs = some rest →
      ∀ c ∈ rest.head?, isBlank c = false ∧ c ≠ '(') : readCheck cs = none := by
  unfold readCheck
  cases read : afterWord "check".toList cs with
  | none => rfl
  | some rest =>
    have opened : afterMark '(' (dropBlanks rest) = none := by
      cases rest with
      | nil => rfl
      | cons c rest =>
        obtain ⟨visible, other⟩ := closed _ read c rfl
        rw [dropBlanks, List.dropWhile_cons_of_neg (by simp [visible]), afterMark, if_neg other]
    simp [opened]

/-- A name is no check even if the word is part of it, since it ends with a quote. -/
theorem checks_name {name : String} (known : IsName name) (rest : List Char) :
    checks ('`' :: name.toList ++ '`' :: rest) = checks rest := by
  have inner : ∀ c ∈ '`' :: name.toList, isBlank c = false ∧ c ≠ '(' := by
    intro c mem
    rcases List.mem_cons.mp mem with rfl | mem
    · decide
    · have named := known.chars c mem
      refine ⟨isBlank_of_isNameChar named, ?_⟩
      rintro rfl
      cases named
  have whole : '`' :: name.toList ++ '`' :: rest = ('`' :: name.toList ++ ['`']) ++ rest := by simp
  rw [whole]
  refine checks_append_of_silent fun c cs suffix => readCheck_of_closed fun tail read => ?_
  rcases List.suffix_concat_iff.mp suffix with empty | ⟨part, split, within⟩
  · cases empty
  · rw [split, List.append_assoc, List.singleton_append,
      afterWord_append (by decide) (breaks_cons (by decide) rest)] at read
    obtain ⟨after, found, rfl⟩ := Option.map_eq_some_iff.mp read
    have left := (suffix_of_afterWord found).trans within
    intro d head
    cases after with
    | nil =>
      cases head
      decide
    | cons e after =>
      cases head
      exact inner _ (left.subset List.mem_cons_self)

/-! ## Clauses -/

theorem readLiterals_doubled (text : List Char) (comma : Bool) (cs : List Char) :
    readLiterals true comma (doubled '\'' text ++ '\'' :: cs) =
      (readLiterals false true cs).map fun (list, rest) =>
        (doubled '\'' text ++ '\'' :: list, rest) := by
  induction text generalizing comma with
  | nil => rfl
  | cons c text ih =>
    by_cases quote : c = '\''
    · subst quote
      have doubly : doubled '\'' ('\'' :: text) = '\'' :: '\'' :: doubled '\'' text := by
        simp [doubled]
      rw [doubly, List.cons_append, List.cons_append, readLiterals, if_pos rfl]
      simp only [ne_eq, not_true_eq_false, decide_false]
      rw [readLiterals, ih]
      simp [Option.map_map, Function.comp_def]
    · have once : doubled '\'' (c :: text) = c :: doubled '\'' text := by
        simp [doubled, quote]
      rw [once, List.cons_append, readLiterals, if_pos rfl]
      simp only [ne_eq, quote, not_false_eq_true, decide_true]
      rw [ih]
      simp [Option.map_map, Function.comp_def]

theorem readLiterals_literal (comma : Bool) (text : String) (cs : List Char) :
    readLiterals false comma ((literal text).toList ++ cs) =
      (readLiterals false true cs).map fun (list, rest) =>
        ((literal text).toList ++ list, rest) := by
  rw [toList_literal, List.cons_append, List.append_assoc, List.singleton_append, readLiterals,
    readLiterals_doubled]
  simp [Option.map_map, Function.comp_def]

theorem readLiterals_furtherLiterals (texts : List String) (cs : List Char) :
    readLiterals false true (furtherLiterals texts ++ ')' :: cs) =
      some (furtherLiterals texts, cs) := by
  induction texts with
  | nil => rfl
  | cons text texts ih =>
    have next : furtherLiterals (text :: texts) =
        ',' :: ' ' :: ((literal text).toList ++ furtherLiterals texts) := by
      simp [furtherLiterals]
    have blank : isBlank ' ' = true := by decide
    simp only [next, List.cons_append, List.append_assoc, readLiterals]
    simp [readLiterals_literal, ih, blank]

/-- The list of a check ends at the parenthesis behind it, whatever its texts hold. -/
theorem readLiterals_quotedOptions (options : List String) (cs : List Char) :
    readLiterals false false ((quotedOptions options).toList ++ ')' :: cs) =
      some ((quotedOptions options).toList, cs) := by
  cases options with
  | nil => rfl
  | cons option options =>
    rw [toList_quotedOptions_cons, List.append_assoc, readLiterals_literal,
      readLiterals_furtherLiterals]
    rfl

theorem toList_quoteIdentifier {name : String} (known : IsName name) :
    (Dialect.sqlite.quoteIdentifier name).toList = '`' :: (name.toList ++ ['`']) := by
  have plain : '`' ∉ name.toList := fun mem => by cases known.chars _ mem
  have bare : name ≠ "*" := by
    rintro rfl
    cases known.chars '*' (by decide)
  rw [Dialect.quoteIdentifier, SqlComposer.quoteIdentifier, if_neg bare, enclosed,
    String.toList_ofList]
  show '`' :: doubled '`' name.toList ++ ['`'] = _
  rw [doubled_of_not_mem plain, List.cons_append]

theorem readName_quoted {name : String} (known : IsName name) (cs : List Char) :
    readName ('`' :: (name.toList ++ '`' :: cs)) = some (name.toList, cs) := by
  have words : ∀ c ∈ name.toList, isWord c = true :=
    fun c mem => isWord_of_isNameChar (known.chars c mem)
  have quote : ¬ isWord '`' = true := by decide
  have taken : (name.toList ++ '`' :: cs).takeWhile isWord = name.toList := by
    rw [List.takeWhile_append_of_pos words, List.takeWhile_cons_of_neg quote, List.append_nil]
  have dropped : (name.toList ++ '`' :: cs).dropWhile isWord = '`' :: cs := by
    rw [List.dropWhile_append_of_pos words, List.dropWhile_cons_of_neg quote]
  have opened : pastAny ['`', '"', '['] ('`' :: (name.toList ++ '`' :: cs)) =
      name.toList ++ '`' :: cs := rfl
  have closed : pastAny ['`', '"', ']'] ('`' :: cs) = cs := rfl
  simp only [readName, opened, taken, dropped, closed]
  split
  · next empty => exact absurd empty known.shown
  · rfl

theorem readCheck_checkText {name : String} (known : IsName name) (options : List String)
    (cs : List Char) :
    readCheck ((Dialect.sqlite.checkText name options).toList ++ cs) =
      some (⟨name, options⟩, cs) := by
  have text : (Dialect.sqlite.checkText name options).toList ++ cs =
      "CHECK (".toList ++ '`' :: (name.toList ++ '`' :: (" IN (".toList ++
        ((quotedOptions options).toList ++ ')' :: ')' :: cs))) := by
    simp [Dialect.checkText, toList_quoteIdentifier known]
  have check (rest : List Char) : afterWord "check".toList ("CHECK (".toList ++ rest) =
      some (' ' :: '(' :: rest) := rfl
  have opened (rest : List Char) :
      afterMark '(' (dropBlanks (' ' :: '(' :: rest)) = some rest := rfl
  have started (rest : List Char) : dropBlanks ('`' :: rest) = '`' :: rest := rfl
  have spaced (rest : List Char) : afterBlanks (" IN (".toList ++ rest) =
      some ('I' :: 'N' :: ' ' :: '(' :: rest) := rfl
  have member (rest : List Char) : afterWord "in".toList ('I' :: 'N' :: ' ' :: '(' :: rest) =
      some (' ' :: '(' :: rest) := rfl
  have closed (rest : List Char) : afterMark ')' (dropBlanks (')' :: rest)) = some rest := rfl
  simp only [text, readCheck, check, opened, started, readName_quoted known, spaced, member,
    readLiterals_quotedOptions, closed, literals_quotedOptions, Option.bind_eq_bind,
    Option.bind_some, Option.pure_def, String.ofList_toList, List.map_map, Function.comp_def,
    List.map_id']

/-! ## The column that numbers the rows -/

theorem suffix_of_pastAny (marks cs : List Char) : pastAny marks cs <:+ cs := by
  cases cs with
  | nil => exact List.suffix_rfl
  | cons c cs =>
    rw [pastAny]
    split
    · exact List.suffix_cons c cs
    · exact List.suffix_rfl

theorem suffix_of_readName {cs name rest : List Char} (read : readName cs = some (name, rest)) :
    rest <:+ cs := by
  simp only [readName] at read
  split at read
  · cases read
  · cases read
    exact ((suffix_of_pastAny _ _).trans (List.dropWhile_suffix _)).trans (suffix_of_pastAny _ _)

theorem exists_blank_of_afterBlanks {cs rest : List Char} (read : afterBlanks cs = some rest) :
    ∃ c, isBlank c = true ∧ c :: rest <:+ cs := by
  induction cs with
  | nil => cases read
  | cons c cs ih =>
    have blank : isBlank c = true := by
      by_contra visible
      simp [afterBlanks, visible] at read
    rw [afterBlanks, if_pos blank, Option.some.injEq] at read
    cases cs with
    | nil => exact ⟨c, blank, by rw [← read]; exact List.suffix_rfl⟩
    | cons d cs =>
      by_cases more : isBlank d = true
      · have again : afterBlanks (d :: cs) = some rest := by
          rw [afterBlanks, if_pos more, ← read, dropBlanks, dropBlanks,
            List.dropWhile_cons_of_pos more]
        obtain ⟨e, found, suffix⟩ := ih again
        exact ⟨e, found, suffix.trans (List.suffix_cons c _)⟩
      · rw [dropBlanks, List.dropWhile_cons_of_neg more] at read
        exact ⟨c, blank, by rw [read]⟩

theorem exists_blank_of_afterSpacedWord {letters cs rest : List Char}
    (read : afterSpacedWord letters cs = some rest) :
    ∃ c, isBlank c = true ∧ c :: rest <:+ cs := by
  obtain ⟨after, word, blanks⟩ := Option.bind_eq_some_iff.mp read
  obtain ⟨c, blank, suffix⟩ := exists_blank_of_afterBlanks blanks
  exact ⟨c, blank, suffix.trans (suffix_of_afterWord word)⟩

theorem suffix_of_afterSpacedWord {letters cs rest : List Char}
    (read : afterSpacedWord letters cs = some rest) : rest <:+ cs := by
  obtain ⟨c, -, suffix⟩ := exists_blank_of_afterSpacedWord read
  exact (List.suffix_cons c rest).trans suffix

theorem mentionsApart_of_readNumbered {cs name : List Char} (read : readNumbered cs = some name) :
    MentionsApart "autoincrement" cs := by
  simp only [readNumbered, Option.bind_eq_bind, Option.pure_def, Option.bind_eq_some_iff,
    Prod.exists] at read
  obtain ⟨_, first, named, second, spaced, third, integer, fifth, primary, sixth, key, _, word,
    _⟩ := read
  have optional : ((afterSpacedWord "not".toList third).bind
      (afterSpacedWord "null".toList)).getD third <:+ third := by
    cases refused : (afterSpacedWord "not".toList third).bind (afterSpacedWord "null".toList) with
    | none => exact List.suffix_rfl
    | some fourth =>
      obtain ⟨middle, not, null⟩ := Option.bind_eq_some_iff.mp refused
      exact (suffix_of_afterSpacedWord null).trans (suffix_of_afterSpacedWord not)
  obtain ⟨b, -, blanks⟩ := exists_blank_of_afterBlanks spaced
  obtain ⟨c, blank, last⟩ := exists_blank_of_afterSpacedWord key
  have suffix : c :: sixth <:+ cs :=
    calc c :: sixth
      _ <:+ fifth := last
      _ <:+ _ := suffix_of_afterSpacedWord primary
      _ <:+ third := optional
      _ <:+ second := suffix_of_afterSpacedWord integer
      _ <:+ first := (List.suffix_cons b second).trans blanks
      _ <:+ cs := suffix_of_readName named
  exact mentionsApart_iff.mpr ⟨c, sixth, suffix, blank, Option.isSome_of_eq_some word⟩

theorem numbered?_eq_none {cs : List Char} (absent : ¬ MentionsApart "autoincrement" cs) :
    numbered? cs = none := by
  induction cs with
  | nil => rfl
  | cons c cs ih =>
    rw [numbered?]
    split
    · next name read => exact absurd (mentionsApart_of_readNumbered read) absent
    · exact ih fun later => absent (later.of_suffix (List.suffix_cons c cs))

/-! ### Reading up to a quoted name

Behind the name it begins with, the clause has only words and blanks, so it does not run into the
quote of a later name. -/

section Before

variable (rest : List Char)

theorem dropBlanks_append_quote (cs : List Char) :
    dropBlanks (cs ++ '`' :: rest) = dropBlanks cs ++ '`' :: rest := by
  induction cs with
  | nil => rfl
  | cons c cs ih =>
    by_cases blank : isBlank c = true
    · simpa [dropBlanks, List.dropWhile_cons_of_pos blank] using ih
    · simp [dropBlanks, List.dropWhile_cons_of_neg blank]

theorem afterBlanks_append_quote (cs : List Char) :
    afterBlanks (cs ++ '`' :: rest) = (afterBlanks cs).map (· ++ '`' :: rest) := by
  cases cs with
  | nil => rfl
  | cons c cs =>
    rw [List.cons_append, afterBlanks, afterBlanks, dropBlanks_append_quote]
    split <;> rfl

theorem afterSpacedWord_append_quote {letters : List Char} (small : Small letters)
    (cs : List Char) :
    afterSpacedWord letters (cs ++ '`' :: rest) =
      (afterSpacedWord letters cs).map (· ++ '`' :: rest) := by
  rw [afterSpacedWord, afterSpacedWord, afterWord_append small (breaks_cons (by decide) rest)]
  cases afterWord letters cs with
  | none => rfl
  | some after => exact afterBlanks_append_quote rest after

/-- A character that ends a name and opens none. -/
def endsName (c : Char) : Bool := !isWord c && !(['`', '"', '['].contains c)

theorem pastAny_append {marks cs : List Char} (some : cs ≠ []) :
    pastAny marks (cs ++ rest) = pastAny marks cs ++ rest := by
  cases cs with
  | nil => exact absurd rfl some
  | cons c cs =>
    rw [List.cons_append, pastAny, pastAny]
    split <;> rfl

theorem exists_pastAny_eq {marks : List Char} {c : Char} (other : c ∉ marks) (before : List Char) :
    ∃ kept, pastAny marks (before ++ [c]) = kept ++ [c] := by
  cases before with
  | nil => exact ⟨[], by simp [pastAny, other]⟩
  | cons d before =>
    rw [List.cons_append, pastAny]
    split
    · exact ⟨before, rfl⟩
    · exact ⟨d :: before, rfl⟩

theorem takeWhile_append_stop {p : Char → Bool} {c : Char} (stop : p c = false)
    (before : List Char) : (before ++ [c] ++ rest).takeWhile p = (before ++ [c]).takeWhile p := by
  induction before with
  | nil => simp [stop]
  | cons d before ih =>
    rw [List.cons_append, List.cons_append, List.takeWhile_cons, List.takeWhile_cons, ih]

theorem dropWhile_append_stop {p : Char → Bool} {c : Char} (stop : p c = false)
    (before : List Char) :
    (before ++ [c] ++ rest).dropWhile p = (before ++ [c]).dropWhile p ++ rest := by
  induction before with
  | nil => simp [stop]
  | cons d before ih =>
    rw [List.cons_append, List.cons_append, List.dropWhile_cons, List.dropWhile_cons, ih]
    split <;> rfl

theorem dropWhile_ne_nil_of_stop {p : Char → Bool} {c : Char} (stop : p c = false)
    (before : List Char) : (before ++ [c]).dropWhile p ≠ [] := by
  induction before with
  | nil => simp [stop]
  | cons d before ih =>
    rw [List.cons_append, List.dropWhile_cons]
    split
    · exact ih
    · exact List.cons_ne_nil _ _

theorem readName_append {c : Char} (ends : endsName c = true) (before : List Char) :
    readName (before ++ [c] ++ rest) =
      (readName (before ++ [c])).map fun (name, after) => (name, after ++ rest) := by
  simp only [endsName, Bool.and_eq_true, Bool.not_eq_true'] at ends
  have other : c ∉ ['`', '"', '['] := by simpa using ends.2
  obtain ⟨kept, opened⟩ := exists_pastAny_eq other before
  simp only [readName, pastAny_append rest (List.append_ne_nil_of_right_ne_nil before
    (List.cons_ne_nil c [])), opened, takeWhile_append_stop rest ends.1 kept,
    dropWhile_append_stop rest ends.1 kept,
    pastAny_append rest (dropWhile_ne_nil_of_stop ends.1 kept)]
  split <;> rfl

theorem readNumbered_append {c : Char} (ends : endsName c = true) (before : List Char) :
    readNumbered (before ++ [c] ++ '`' :: rest) = readNumbered (before ++ [c]) := by
  have integer := afterSpacedWord_append_quote rest (by decide : Small "integer".toList)
  have not := afterSpacedWord_append_quote rest (by decide : Small "not".toList)
  have null := afterSpacedWord_append_quote rest (by decide : Small "null".toList)
  have primary := afterSpacedWord_append_quote rest (by decide : Small "primary".toList)
  have key := afterSpacedWord_append_quote rest (by decide : Small "key".toList)
  have numbers := afterWord_append (by decide : Small "autoincrement".toList)
    (breaks_cons (by decide : unlettered '`' = true) rest)
  have optional (cs : List Char) :
      ((afterSpacedWord "not".toList (cs ++ '`' :: rest)).bind
          (afterSpacedWord "null".toList)).getD (cs ++ '`' :: rest) =
        ((afterSpacedWord "not".toList cs).bind (afterSpacedWord "null".toList)).getD cs ++
          '`' :: rest := by
    rw [not]
    cases afterSpacedWord "not".toList cs with
    | none => rfl
    | some after =>
      simp only [Option.map_some, Option.bind_some, null]
      cases afterSpacedWord "null".toList after <;> rfl
  unfold readNumbered
  rw [readName_append _ ends]
  simp only [afterBlanks_append_quote, integer, optional, primary, key, numbers,
    Option.bind_eq_bind, Option.bind_map, Function.comp_def]

theorem numbered?_append {cs : List Char} (ends : ∀ c ∈ cs.getLast?, endsName c = true)
    (absent : ¬ MentionsApart "autoincrement" cs) :
    numbered? (cs ++ '`' :: rest) = numbered? ('`' :: rest) := by
  induction cs with
  | nil => rfl
  | cons c cs ih =>
    obtain ⟨before, last, split⟩ := (c :: cs).eq_nil_or_concat'.resolve_left (List.cons_ne_nil c cs)
    have stops : endsName last = true := ends last (by simp [split])
    have none : readNumbered (c :: (cs ++ '`' :: rest)) = none := by
      rw [← List.cons_append, split, readNumbered_append rest stops before, ← split]
      by_contra found
      obtain ⟨name, read⟩ := Option.ne_none_iff_exists'.mp found
      exact absent (mentionsApart_of_readNumbered read)
    rw [List.cons_append, numbered?, none]
    have later : ¬ MentionsApart "autoincrement" cs :=
      fun found => absent (found.of_suffix (List.suffix_cons c cs))
    refine ih (fun d found => ends d ?_) later
    rw [List.getLast?_cons, Option.mem_def.mp found]
    rfl

theorem numbered?_clause {name : String} (known : IsName name) :
    numbered? ('`' :: (name.toList ++ '`' ::
      (" INTEGER NOT NULL PRIMARY KEY AUTOINCREMENT".toList ++ rest))) = some name := by
  have spaced : afterBlanks (" INTEGER NOT NULL PRIMARY KEY AUTOINCREMENT".toList ++ rest) =
      some ("INTEGER NOT NULL PRIMARY KEY AUTOINCREMENT".toList ++ rest) := rfl
  have read : readNumbered ('`' :: (name.toList ++ '`' ::
      (" INTEGER NOT NULL PRIMARY KEY AUTOINCREMENT".toList ++ rest))) = some name.toList := by
    simp only [readNumbered, readName_quoted known, Option.bind_eq_bind, Option.bind_some, spaced]
    rfl
  rw [numbered?, read]
  exact congrArg some String.ofList_toList

end Before

end SqlComposer.Definition
