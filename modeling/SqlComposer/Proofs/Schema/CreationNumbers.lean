import SqlComposer.Proofs.Schema.CreationText

/-!
Which column numbers the rows, as the text that makes a table tells it. No part of the text but the
declaration of that column holds the word that tells of it, apart from quoted names, which do not
begin with a blank (`Table.numbered?_creationText`).
-/

namespace SqlComposer

open Definition Text

namespace Definition

def Unnumbered (text : List Char) : Prop := ¬ MentionsApart "autoincrement" text

instance (text : List Char) : Decidable (Unnumbered text) :=
  inferInstanceAs (Decidable (¬ MentionsApart "autoincrement" text))

theorem Unnumbered.append {first second : List Char} (before : Unnumbered first)
    (after : Unnumbered second) (breaks : Breaks second) : Unnumbered (first ++ second) := by
  intro mentions
  rcases mentionsApart_append (by decide) breaks mentions with found | found
  · exact before found
  · exact after found

theorem unnumbered_cons {c : Char} {cs : List Char} (apart : isBlank c = false ∨ Breaks cs)
    (rest : Unnumbered cs) : Unnumbered (c :: cs) := by
  intro mentions
  obtain ⟨d, after, suffix, blank, reads⟩ := mentionsApart_iff.mp mentions
  rcases List.suffix_cons_iff.mp suffix with same | later
  · cases same
    rcases apart with visible | breaks
    · rw [visible] at blank
      cases blank
    · rw [afterWord_of_breaks (by decide) (by decide) breaks] at reads
      cases reads
  · exact rest (mentionsApart_iff.mpr ⟨d, after, later, blank, reads⟩)

theorem Quiet.unnumbered {text : List Char} (quiet : Quiet "autoincrement" text) :
    Unnumbered text :=
  fun apart => quiet.1 apart.mentions

theorem Unnumbered.of_suffix {text cs : List Char} (whole : Unnumbered text)
    (suffix : cs <:+ text) : Unnumbered cs :=
  fun mentions => whole (mentions.of_suffix suffix)

theorem breaks_name {name : String} (known : IsName name) (rest : List Char) :
    Breaks ((Dialect.sqlite.quoteIdentifier name).toList ++ rest) := by
  rw [toList_quoteIdentifier known]
  exact breaks_cons (by decide) _

theorem unnumbered_item {item more : List Char} (one : Unnumbered (' ' :: item))
    (others : Unnumbered (' ' :: more)) : Unnumbered (' ' :: (item ++ ", ".toList ++ more)) := by
  have next : Unnumbered (',' :: ' ' :: more) := unnumbered_cons (.inl (by decide)) others
  have whole : ' ' :: (item ++ ", ".toList ++ more) = (' ' :: item) ++ ',' :: ' ' :: more := by
    rw [List.append_assoc]
    rfl
  rw [whole]
  exact one.append next (breaks_cons (by decide) _)

section Items

variable {A : Type} {list : List A} {text : A → String}
    (each : ∀ a ∈ list, Unnumbered (' ' :: (text a).toList))

include each

theorem unnumbered_flatMap :
    Unnumbered (' ' :: list.flatMap fun a => (text a).toList ++ ", ".toList) := by
  induction list with
  | nil => exact (by decide : Unnumbered [' '])
  | cons a list ih =>
    have others := ih fun b mem => each b (List.mem_cons_of_mem a mem)
    rw [List.flatMap_cons]
    exact unnumbered_item (each a List.mem_cons_self) others

theorem unnumbered_intercalate :
    Unnumbered (' ' :: (", ".intercalate (list.map text)).toList) := by
  induction list with
  | nil => exact (by decide : Unnumbered [' '])
  | cons a list ih =>
    have others := ih fun b mem => each b (List.mem_cons_of_mem a mem)
    cases list with
    | nil => simpa using each a List.mem_cons_self
    | cons b list =>
      rw [List.map_cons, List.map_cons, String.intercalate_cons_cons, String.toList_append,
        String.toList_append]
      exact unnumbered_item (each a List.mem_cons_self) others

end Items

theorem unnumbered_name {name : String} (known : IsName name) :
    Unnumbered (Dialect.sqlite.quoteIdentifier name).toList := by
  apply not_mentionsApart_of_visible
  intro c mem
  rw [toList_quoteIdentifier known, List.mem_cons, List.mem_append, List.mem_singleton] at mem
  rcases mem with rfl | mem | rfl
  · decide
  · exact isBlank_of_isNameChar (known.chars c mem)
  · decide

theorem isSome_afterWord_doubled {letters : List Char} (small : Small letters) (cs : List Char) :
    (afterWord letters (doubled '\'' cs)).isSome = (afterWord letters cs).isSome := by
  induction letters generalizing cs with
  | nil => rfl
  | cons letter letters ih =>
    cases cs with
    | nil => rfl
    | cons c cs =>
      by_cases quote : c = '\''
      · subst quote
        have stops (rest : List Char) : afterWord (letter :: letters) ('\'' :: rest) = none :=
          afterWord_of_breaks small (List.cons_ne_nil _ _) (breaks_cons (by decide) rest)
        have doubly : doubled '\'' ('\'' :: cs) = '\'' :: '\'' :: doubled '\'' cs := by
          simp [doubled]
        rw [doubly, stops, stops]
      · have once : doubled '\'' (c :: cs) = c :: doubled '\'' cs := by
          simp [doubled, quote]
        rw [once, afterWord, afterWord]
        split
        · exact ih (fun l mem => small l (List.mem_cons_of_mem _ mem)) cs
        · rfl

theorem not_mentions_doubled {word : String} (known : word ∈ clauseWords) {cs : List Char}
    (absent : ¬ Mentions word cs) : ¬ Mentions word (doubled '\'' cs) := by
  induction cs with
  | nil => exact absent
  | cons c cs ih =>
    have rest := ih fun later => absent (later.of_suffix (List.suffix_cons c cs))
    by_cases quote : c = '\''
    · subst quote
      have doubly : doubled '\'' ('\'' :: cs) = '\'' :: '\'' :: doubled '\'' cs := by
        simp [doubled]
      rw [doubly]
      exact (quiet_cons known (by decide) (quiet_cons known (by decide) rest).1).1
    · have once : doubled '\'' (c :: cs) = c :: doubled '\'' cs := by
        simp [doubled, quote]
      rintro ⟨place, suffix, reads⟩
      rw [once] at suffix
      rcases List.suffix_cons_iff.mp suffix with rfl | later
      · rw [← once, isSome_afterWord_doubled (small_of_mem_clauseWords known)] at reads
        exact absent ⟨c :: cs, List.suffix_rfl, reads⟩
      · exact rest ⟨place, later, reads⟩

theorem quiet_literal {word : String} (known : word ∈ clauseWords) {text : String}
    (absent : ¬ Mentions word text.toList) : Quiet word (literal text).toList := by
  have closing : Quiet word ['\''] :=
    quiet_of_unlettered known fun c mem => by rw [List.mem_singleton.mp mem]; decide
  have inner : ¬ Mentions word (doubled '\'' text.toList ++ ['\'']) := by
    intro mentions
    rcases mentions_append (small_of_mem_clauseWords known) closing.2 mentions with found | found
    · exact not_mentions_doubled known absent found
    · exact closing.1 found
  rw [toList_literal]
  exact quiet_cons known (by decide) inner

theorem quiet_furtherLiterals {word : String} (known : word ∈ clauseWords) {texts : List String}
    (quiet : ∀ text ∈ texts, ¬ Mentions word text.toList) :
    Quiet word (furtherLiterals texts) := by
  induction texts with
  | nil => exact quiet_of_unlettered known fun _ mem => by cases mem
  | cons text texts ih =>
    have comma : Quiet word ", ".toList :=
      quiet_of_unlettered known
        (List.all_eq_true.mp (by decide : ", ".toList.all unlettered = true))
    have first := quiet_literal known (quiet text List.mem_cons_self)
    have others := ih fun later mem => quiet later (List.mem_cons_of_mem text mem)
    exact (comma.append known first).append known others

theorem quiet_quotedOptions {word : String} (known : word ∈ clauseWords) {options : List String}
    (quiet : ∀ option ∈ options, ¬ Mentions word option.toList) :
    Quiet word (quotedOptions options).toList := by
  cases options with
  | nil => exact quiet_of_unlettered known fun _ mem => by cases mem
  | cons option options =>
    rw [toList_quotedOptions_cons]
    exact (quiet_literal known (quiet option List.mem_cons_self)).append known
      (quiet_furtherLiterals known fun later mem => quiet later (List.mem_cons_of_mem option mem))

end Definition

namespace Column

variable {c : Column} (known : IsName c.name) (legible : c.Legible)
include known legible

theorem unnumbered_checkText (listed : c.isEnum = true) :
    Unnumbered (" " ++ Dialect.sqlite.checkText c.name c.options).toList := by
  have text : (" " ++ Dialect.sqlite.checkText c.name c.options).toList =
      " CHECK (".toList ++ ((Dialect.sqlite.quoteIdentifier c.name).toList ++
        (" IN (".toList ++ ((quotedOptions c.options).toList ++ "))".toList))) := by
    simp [Dialect.checkText]
  have opening : Unnumbered " CHECK (".toList := by decide
  have among : Unnumbered " IN (".toList := by decide
  have closing : Unnumbered "))".toList := by decide
  have options := quiet_quotedOptions (by decide) (legible.options listed)
  have list := options.unnumbered.append closing (by decide)
  have member := among.append list (options.2.append (by decide))
  have named := (unnumbered_name known).append member (breaks_cons (by decide) _)
  rw [text]
  exact opening.append named (breaks_name known _)

theorem unnumbered_columnText (plain : c.autoIncrement = false) :
    Unnumbered (' ' :: (Dialect.sqlite.columnText (Dialect.sqlite.define c)).toList) := by
  have declared : Quiet "autoincrement" c.declaredText.toList :=
    quiet_declaredText (by decide) legible.unnumbered fun numbered => by
      rw [plain] at numbered
      cases numbered
  have check : Unnumbered
      (if c.isEnum then " " ++ Dialect.sqlite.checkText c.name c.options else "").toList := by
    split
    · next listed => exact unnumbered_checkText known legible listed
    · decide
  have behind : Breaks
      (if c.isEnum then " " ++ Dialect.sqlite.checkText c.name c.options else "").toList := by
    split
    · rw [String.toList_append]
      exact breaks_cons (by decide) _
    · decide
  rw [columnText_define, String.toList_append, String.toList_append, List.append_assoc]
  exact unnumbered_cons (.inr (breaks_name known _))
    ((unnumbered_name known).append (declared.unnumbered.append check behind)
      (declared.2.append behind))

theorem columnText_of_autoIncrement (numbered : c.autoIncrement = true) :
    (Dialect.sqlite.columnText (Dialect.sqlite.define c)).toList =
      '`' :: (c.name.toList ++ '`' :: " INTEGER NOT NULL PRIMARY KEY AUTOINCREMENT".toList) := by
  have single := legible.isEnum_eq_false numbered
  have type : Dialect.sqlite.typeName c = "INTEGER" := by
    rw [Dialect.typeName, Dialect.nativeType, if_pos numbered]
    rfl
  have bare : (Dialect.sqlite.define c).default = none := if_pos numbered
  have declared : c.declaredText = " INTEGER NOT NULL PRIMARY KEY AUTOINCREMENT" := by
    rw [declaredText, type, bare, numbered, Bool.not_true, Bool.and_false]
    decide
  rw [columnText_define, declared, single, String.toList_append, String.toList_append,
    toList_quoteIdentifier known]
  simp

end Column

theorem Dialect.unnumbered_primaryText {k : PrimaryKey} (names : ∀ name ∈ k.columns, IsName name) :
    Unnumbered (' ' :: (Dialect.sqlite.primaryText k).toList) := by
  have listed : Unnumbered (' ' :: (Dialect.sqlite.quoteNames k.columns).toList) := by
    refine unnumbered_intercalate fun name mem => ?_
    exact unnumbered_cons (.inr (by simpa using breaks_name (names name mem) []))
      (unnumbered_name (names name mem))
  have text : ' ' :: (Dialect.sqlite.primaryText k).toList =
      " PRIMARY KEY".toList ++
        ' ' :: '(' :: ((Dialect.sqlite.quoteNames k.columns).toList ++ [')']) := by
    simp [primaryText]
  have opening : Unnumbered " PRIMARY KEY".toList := by decide
  have closing : Unnumbered [')'] := by decide
  have names := (listed.of_suffix (List.suffix_cons ' ' _)).append closing (by decide)
  rw [text]
  exact opening.append (unnumbered_cons (.inr (breaks_cons (by decide) _))
    (unnumbered_cons (.inl (by decide)) names)) (breaks_cons (by decide) _)

namespace Table

variable {t : Table}

def openingText (t : Table) (ifAbsent : Bool) : List Char :=
  ("CREATE TABLE " ++ if ifAbsent then "IF NOT EXISTS " else "").toList ++
    ((Dialect.sqlite.quoteIdentifier t.fullName).toList ++ [' ', '('])

theorem unnumbered_openingText (named : IsName t.fullName) (ifAbsent : Bool) {text : List Char}
    (rest : Unnumbered text) : Unnumbered (t.openingText ifAbsent ++ text) := by
  have header :
      Unnumbered ("CREATE TABLE " ++ if ifAbsent then "IF NOT EXISTS " else "").toList := by
    cases ifAbsent <;> decide
  have body : Unnumbered (' ' :: '(' :: text) :=
    unnumbered_cons (.inr (breaks_cons (by decide) _)) (unnumbered_cons (.inl (by decide)) rest)
  rw [openingText, List.append_assoc, List.append_assoc]
  exact header.append ((unnumbered_name named).append body (breaks_cons (by decide) _))
    (breaks_name named _)

theorem endsName_openingText (t : Table) (ifAbsent : Bool) (texts : List String) :
    ∀ c ∈ (t.openingText ifAbsent ++
        texts.flatMap fun text => text.toList ++ ", ".toList).getLast?, endsName c = true := by
  rcases List.eq_nil_or_concat' texts with rfl | ⟨before, last, rfl⟩
  · have closing : t.openingText ifAbsent =
        ("CREATE TABLE " ++ if ifAbsent then "IF NOT EXISTS " else "").toList ++
          ((Dialect.sqlite.quoteIdentifier t.fullName).toList ++ [' ']) ++ ['('] := by
      simp [openingText]
    rw [List.flatMap_nil, List.append_nil, closing, List.getLast?_concat]
    intro c last
    cases last
    decide
  · have closing : t.openingText ifAbsent ++
          (before ++ [last]).flatMap (fun text => text.toList ++ ", ".toList) =
        t.openingText ifAbsent ++ before.flatMap (fun text => text.toList ++ ", ".toList) ++
          last.toList ++ [','] ++ [' '] := by
      simp
    rw [closing, List.getLast?_concat]
    intro c last
    cases last
    decide

/-- The text that makes a table tells which of its columns numbers the rows. -/
theorem numbered?_creationText (legible : t.Legible) (ifAbsent : Bool) :
    numbered? (t.creationText ifAbsent).toList =
      (t.columns.find? (·.autoIncrement)).map (·.name) := by
  have text : (t.creationText ifAbsent).toList =
      t.openingText ifAbsent ++ ((", ".intercalate (t.items.map (·.1))).toList ++ [')']) := by
    rw [toList_creationText legible.name, openingText]
    simp
  have plain {c : Column} (listed : c ∈ t.columns) (numbers : ¬ c.autoIncrement = true) :
      Unnumbered (' ' :: (Dialect.sqlite.columnText (Dialect.sqlite.define c)).toList) :=
    Column.unnumbered_columnText (legible.spelled c listed) (legible.columns c listed)
      (Bool.eq_false_iff.mpr numbers)
  rw [text]
  cases found : t.columns.find? (·.autoIncrement) with
  | none =>
    have others := List.find?_eq_none.mp found
    have each : ∀ item ∈ t.items, Unnumbered (' ' :: item.1.toList) := by
      intro item mem
      rcases List.mem_append.mp mem with column | key
      · obtain ⟨c, listed, rfl⟩ := List.mem_map.mp column
        exact plain listed (others c listed)
      · obtain ⟨k, listed, rfl⟩ := List.mem_map.mp key
        exact Dialect.unnumbered_primaryText (legible.key_of_mem_items listed)
    have items := (unnumbered_intercalate each).of_suffix (List.suffix_cons ' ' _)
    have closing : Unnumbered [')'] := by decide
    rw [numbered?_eq_none (unnumbered_openingText legible.name ifAbsent
      (items.append closing (by decide)))]
    rfl
  | some c =>
    obtain ⟨numbers, before, after, split, others⟩ := List.find?_eq_some_iff_append.mp found
    have listed : c ∈ t.columns := by simp [split]
    have earlier : ∀ d ∈ before,
        Unnumbered (' ' :: (Dialect.sqlite.columnText (Dialect.sqlite.define d)).toList) := by
      intro d mem
      exact plain (by simp [split, mem]) (by simpa using others d mem)
    have opening := unnumbered_openingText legible.name ifAbsent
      ((unnumbered_flatMap earlier).of_suffix (List.suffix_cons ' ' _))
    have ends := t.endsName_openingText ifAbsent
      (before.map fun d => Dialect.sqlite.columnText (Dialect.sqlite.define d))
    rw [List.flatMap_map] at ends
    obtain ⟨behind, items⟩ : ∃ behind, t.openingText ifAbsent ++
          ((", ".intercalate (t.items.map (·.1))).toList ++ [')']) =
        t.openingText ifAbsent ++ before.flatMap (fun d =>
            (Dialect.sqlite.columnText (Dialect.sqlite.define d)).toList ++ ", ".toList) ++
          ((Dialect.sqlite.columnText (Dialect.sqlite.define c)).toList ++ behind) := by
      rw [Table.items, split]
      simp only [List.map_append, List.map_cons, List.map_map, Function.comp_def, List.append_assoc,
        List.cons_append, toList_intercalate_append, List.flatMap_map]
      exact ⟨_, rfl⟩
    rw [items, Column.columnText_of_autoIncrement (legible.spelled c listed)
      (legible.columns c listed) numbers]
    simp only [List.cons_append, List.append_assoc]
    rw [← List.append_assoc, numbered?_append _ ends opening,
      numbered?_clause _ (legible.spelled c listed)]
    rfl

end Table

end SqlComposer
