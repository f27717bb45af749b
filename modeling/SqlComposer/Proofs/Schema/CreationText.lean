import SqlComposer.Proofs.Schema.Address
import SqlComposer.Proofs.Schema.DefinitionScan
import SqlComposer.Proofs.Schema.TypeReading
import SqlComposer.Schema.Alteration

/-!
The text that makes a table, and the checks in it. Each column with options has its check, found in
the order of the columns and with the options as they are, and there is no other
(`Table.checks_creationText`).
-/

namespace SqlComposer

open Definition Text

/-- A column whose declaration can be told from its text: nothing but its own clauses looks like
one. -/
structure Column.Legible (c : Column) : Prop where
  unchecked : ∀ value ∈ c.default, ¬ Mentions "check" value.sql.toList
  unnumbered : ∀ value ∈ c.default, ¬ Mentions "autoincrement" value.sql.toList
  options : c.isEnum = true → ∀ option ∈ c.options, ¬ Mentions "autoincrement" option.toList
  integer : c.autoIncrement = true → c.type.isInteger = true

instance (c : Column) : Decidable c.Legible :=
  decidable_of_iff ((∀ value ∈ c.default, ¬ Mentions "check" value.sql.toList) ∧
      (∀ value ∈ c.default, ¬ Mentions "autoincrement" value.sql.toList) ∧
      (c.isEnum = true → ∀ option ∈ c.options, ¬ Mentions "autoincrement" option.toList) ∧
      (c.autoIncrement = true → c.type.isInteger = true))
    ⟨fun ⟨unchecked, unnumbered, options, integer⟩ => ⟨unchecked, unnumbered, options, integer⟩,
      fun legible =>
        ⟨legible.unchecked, legible.unnumbered, legible.options, legible.integer⟩⟩

theorem Column.Legible.isEnum_eq_false {c : Column} (legible : c.Legible)
    (numbers : c.autoIncrement = true) : c.isEnum = false := by
  have integer := legible.integer numbers
  rw [Column.isEnum, decide_eq_false_iff_not]
  intro enum
  rw [enum] at integer
  cases integer

namespace Definition

variable {word : String}

def clauseWords : List String := ["check", "autoincrement"]

theorem small_of_mem_clauseWords (known : word ∈ clauseWords) : Small word.toList := by
  have each : ∀ word ∈ clauseWords, Small word.toList := by decide
  exact each word known

theorem spelled_of_mem_clauseWords (known : word ∈ clauseWords) : word.toList ≠ [] := by
  have each : ∀ word ∈ clauseWords, word.toList ≠ [] := by decide
  exact each word known

/-- A text without a word, and into which no word runs from before. -/
def Quiet (word : String) (text : List Char) : Prop := ¬ Mentions word text ∧ Breaks text

instance (word : String) (text : List Char) : Decidable (Quiet word text) :=
  inferInstanceAs (Decidable (_ ∧ _))

theorem Quiet.append (known : word ∈ clauseWords) {first second : List Char}
    (before : Quiet word first) (after : Quiet word second) : Quiet word (first ++ second) := by
  constructor
  · intro mentions
    rcases mentions_append (small_of_mem_clauseWords known) after.2 mentions with found | found
    · exact before.1 found
    · exact after.1 found
  · cases first with
    | nil => exact after.2
    | cons c first => exact breaks_cons (before.2 c rfl) _

theorem quiet_cons (known : word ∈ clauseWords) {c : Char} {cs : List Char}
    (other : unlettered c = true) (absent : ¬ Mentions word cs) : Quiet word (c :: cs) :=
  ⟨not_mentions_cons (small_of_mem_clauseWords known) (spelled_of_mem_clauseWords known) other
      absent,
    breaks_cons other cs⟩

theorem quiet_of_unlettered (known : word ∈ clauseWords) {text : List Char}
    (none : ∀ c ∈ text, unlettered c = true) : Quiet word text :=
  ⟨not_mentions_of_unlettered (small_of_mem_clauseWords known) (spelled_of_mem_clauseWords known)
      none,
    fun c head => none c (List.mem_of_head? head)⟩

theorem unlettered_of_isDigit {c : Char} (digit : c.isDigit = true) : unlettered c = true := by
  have named : isNameChar c = true := by
    simp [isNameChar, Char.isAlphanum, digit]
  have other := of_isNameChar (p := fun c => !c.isDigit || unlettered c) (by decide +kernel) named
  simpa [digit] using other

theorem not_mentions_of_arguments (known : word ∈ clauseWords) {name arguments : String}
    (bare : ¬ Mentions word name.toList) (none : ∀ c ∈ arguments.toList, unlettered c = true) :
    ¬ Mentions word (name ++ "(" ++ arguments ++ ")").toList := by
  have split : (name ++ "(" ++ arguments ++ ")").toList =
      name.toList ++ '(' :: (arguments.toList ++ [')']) := by
    simp
  have bracketed : ∀ c ∈ '(' :: (arguments.toList ++ [')']), unlettered c = true := by
    intro c mem
    simp only [List.mem_cons, List.mem_append, List.not_mem_nil, or_false] at mem
    rcases mem with rfl | mem | rfl
    · decide
    · exact none c mem
    · decide
  have quiet : Quiet word ('(' :: (arguments.toList ++ [')'])) :=
    quiet_of_unlettered known bracketed
  rw [split]
  intro mentions
  rcases mentions_append (small_of_mem_clauseWords known) quiet.2 mentions with found | found
  · exact bare found
  · exact quiet.1 found

theorem unlettered_of_mem_toString {n : Nat} {c : Char} (mem : c ∈ (toString n).toList) :
    unlettered c = true :=
  unlettered_of_isDigit (Text.isDigit_of_mem_toString mem)

theorem unlettered_of_mem_decimalArguments {precision scale : UInt32} {c : Char}
    (mem : c ∈ (NativeType.decimalArguments precision scale).toList) : unlettered c = true := by
  rw [NativeType.decimalArguments, String.toList_append, String.toList_append, List.mem_append,
    List.mem_append] at mem
  rcases mem with (digit | comma) | digit
  · exact unlettered_of_mem_toString digit
  · exact List.all_eq_true.mp (by decide : ", ".toList.all unlettered = true) c comma
  · exact unlettered_of_mem_toString digit

open NativeType in
theorem not_mentions_typeName (known : word ∈ clauseWords) (c : Column) :
    ¬ Mentions word (Dialect.sqlite.typeName c).toList := by
  unfold Dialect.typeName Dialect.nativeType
  have plain {name : String} (bare : ∀ word ∈ clauseWords, ¬ Mentions word name.toList) :
      ¬ Mentions word ((NativeType.plain name).sql .sqlite).toList := bare word known
  have sized {name : String} (n : UInt32)
      (bare : ∀ word ∈ clauseWords, ¬ Mentions word name.toList) :
      ¬ Mentions word ((NativeType.sized name n).sql .sqlite).toList :=
    not_mentions_of_arguments known (bare word known) fun _ mem => unlettered_of_mem_toString mem
  have decimal (precision scale : UInt32) :
      ¬ Mentions word ((NativeType.decimal precision scale).sql .sqlite).toList := by
    have bare : ∀ word ∈ clauseWords, ¬ Mentions word "DECIMAL".toList := by decide
    rw [sql_decimal]
    exact not_mentions_of_arguments known (bare word known)
      fun _ mem => unlettered_of_mem_decimalArguments mem
  cases c.autoIncrement
  · simp only [Bool.false_eq_true, if_false]
    cases h : c.type <;> simp only [NativeType.sqlite, h, varchar, NativeType.char, decimalOf]
    case string => exact sized _ (by decide)
    case char => exact sized _ (by decide)
    case decimal => exact decimal _ _
    all_goals exact plain (by decide)
  · simp only [if_true]
    exact plain (by decide)

end Definition

namespace Column

variable {c : Column}

def declaredText (c : Column) : String :=
  " " ++ Dialect.sqlite.typeName c ++
    (if c.nullable && !c.autoIncrement then " NULL" else " NOT NULL") ++
    (match (Dialect.sqlite.define c).default with | some sql => " DEFAULT " ++ sql | none => "") ++
    (if c.autoIncrement then " PRIMARY KEY AUTOINCREMENT" else "")

theorem columnText_define (c : Column) :
    Dialect.sqlite.columnText (Dialect.sqlite.define c) =
      Dialect.sqlite.quoteIdentifier c.name ++ c.declaredText ++
        (if c.isEnum then " " ++ Dialect.sqlite.checkText c.name c.options else "") := by
  have unsigned : (Dialect.sqlite.define c).unsigned = false := by
    simp [Dialect.define, Dialect.supportsUnsigned]
  have check : (Dialect.sqlite.define c).check = if c.isEnum then some c.options else none := by
    simp [Dialect.define]
  have comment : (Dialect.sqlite.define c).comment = none := rfl
  rw [Dialect.columnText, unsigned, check, comment, declaredText]
  simp only [Bool.false_eq_true, if_false, String.append_empty, String.append_assoc]
  cases c.isEnum <;> rfl

theorem quiet_declaredText {word : String} (known : word ∈ clauseWords)
    (quiet : ∀ value ∈ c.default, ¬ Mentions word value.sql.toList)
    (numbers : c.autoIncrement = true → word = "check") : Quiet word c.declaredText.toList := by
  have fixed {text : List Char} (each : ∀ word ∈ clauseWords, Quiet word text) : Quiet word text :=
    each word known
  have type : Quiet word (" " ++ Dialect.sqlite.typeName c).toList := by
    rw [String.toList_append]
    exact quiet_cons known (by decide) (not_mentions_typeName known c)
  have null : Quiet word
      (if c.nullable && !c.autoIncrement then " NULL" else " NOT NULL").toList := by
    split <;> exact fixed (by decide)
  have default : Quiet word (match (Dialect.sqlite.define c).default with
      | some sql => " DEFAULT " ++ sql
      | none => "").toList := by
    split
    · next sql written =>
      have kept : ∃ value ∈ c.default, value.sql = sql := by
        simp only [Dialect.define] at written
        split at written
        · cases written
        · exact Option.map_eq_some_iff.mp written
      obtain ⟨value, given, rfl⟩ := kept
      have words : (" DEFAULT " ++ value.sql).toList =
          " DEFAULT".toList ++ ' ' :: value.sql.toList :=
        String.toList_append
      rw [words]
      exact (fixed (by decide)).append known (quiet_cons known (by decide) (quiet value given))
    · exact fixed (by decide)
  have number : Quiet word
      (if c.autoIncrement then " PRIMARY KEY AUTOINCREMENT" else "").toList := by
    split
    · next numbered =>
      rw [numbers numbered]
      decide
    · exact fixed (by decide)
  rw [declaredText, String.toList_append, String.toList_append, String.toList_append]
  exact ((type.append known null).append known default).append known number

end Column

/-! ## Checks -/

namespace Definition

/-- The checks that are found in a text, whatever follows it. -/
def ReadsChecks (text : List Char) (found : List Check) : Prop :=
  ∀ rest, Breaks rest → checks (text ++ rest) = found ++ checks rest

theorem Breaks.append {first second : List Char} (before : Breaks first) (after : Breaks second) :
    Breaks (first ++ second) := by
  cases first with
  | nil => exact after
  | cons c first => exact breaks_cons (before c rfl) _

theorem readsChecks_of_not_mentions {text : List Char} (absent : ¬ Mentions "check" text) :
    ReadsChecks text [] :=
  fun _ breaks => checks_append_of_not_mentions absent breaks

theorem readsChecks_name {name : String} (known : IsName name) :
    ReadsChecks (Dialect.sqlite.quoteIdentifier name).toList [] := by
  intro rest _
  rw [toList_quoteIdentifier known, List.cons_append, List.append_assoc, ← List.cons_append]
  exact checks_name known rest

theorem readsChecks_checkText {name : String} (known : IsName name) (options : List String) :
    ReadsChecks (Dialect.sqlite.checkText name options).toList [⟨name, options⟩] :=
  fun rest _ => checks_of_readCheck (readCheck_checkText known options rest)

theorem ReadsChecks.append {first second : List Char} {before after : List Check}
    (one : ReadsChecks first before) (two : ReadsChecks second after) (breaks : Breaks second) :
    ReadsChecks (first ++ second) (before ++ after) := by
  intro rest breaks'
  rw [List.append_assoc, one _ (breaks.append breaks'), two rest breaks', List.append_assoc]

theorem ReadsChecks.cons {c : Char} {text : List Char} {found : List Check}
    (other : unlettered c = true) (reads : ReadsChecks text found) :
    ReadsChecks (c :: text) found := by
  intro rest breaks
  have none : readCheck (c :: (text ++ rest)) = none := by
    rw [readCheck, afterWord_of_breaks (by decide) (by decide) (breaks_cons other _)]
    rfl
  rw [List.cons_append, checks_cons_of_none none, reads rest breaks]

theorem readsChecks_intercalate {A : Type} {list : List A} {text : A → String}
    {found : A → List Check} (each : ∀ a ∈ list, ReadsChecks (text a).toList (found a)) :
    ReadsChecks (", ".intercalate (list.map text)).toList (list.flatMap found) := by
  induction list with
  | nil => exact fun _ _ => rfl
  | cons a list ih =>
    have first := each a List.mem_cons_self
    have others := ih fun later mem => each later (List.mem_cons_of_mem a mem)
    cases list with
    | nil => simpa using first
    | cons b list =>
      have split : (", ".intercalate ((a :: b :: list).map text)).toList =
          (text a).toList ++ ',' :: ' ' :: (", ".intercalate ((b :: list).map text)).toList := by
        rw [List.map_cons, List.map_cons, String.intercalate_cons_cons, String.toList_append,
          String.toList_append, List.append_assoc]
        rfl
      rw [split, List.flatMap_cons]
      exact first.append ((others.cons (by decide)).cons (by decide)) (breaks_cons (by decide) _)

end Definition

/-! ## Texts of tables -/

structure Table.Legible (t : Table) : Prop where
  name : IsName t.fullName
  spelled : ∀ c ∈ t.columns, IsName c.name
  columns : ∀ c ∈ t.columns, c.Legible
  distinct : t.columnNames.Nodup
  single : t.columns.countP (·.autoIncrement) ≤ 1
  key : ∀ k ∈ t.primary, ∀ name ∈ k.columns, IsName name

namespace Column

def check? (c : Column) : Option Check := if c.isEnum then some ⟨c.name, c.options⟩ else none

theorem readsChecks_columnText {c : Column} (known : IsName c.name) (legible : c.Legible) :
    ReadsChecks (Dialect.sqlite.columnText (Dialect.sqlite.define c)).toList c.check?.toList := by
  have quiet := quiet_declaredText (by decide) legible.unchecked fun _ => rfl
  have declared := (readsChecks_name known).append (readsChecks_of_not_mentions quiet.1) quiet.2
  rw [columnText_define, String.toList_append, String.toList_append, check?]
  split
  · have check := (readsChecks_checkText known c.options).cons (by decide : unlettered ' ' = true)
    have behind : (" " ++ Dialect.sqlite.checkText c.name c.options).toList =
        ' ' :: (Dialect.sqlite.checkText c.name c.options).toList := String.toList_append
    rw [behind]
    exact declared.append check (breaks_cons (by decide) _)
  · simpa using declared

end Column

theorem Dialect.readsChecks_primaryText {k : PrimaryKey} (names : ∀ name ∈ k.columns, IsName name) :
    ReadsChecks (Dialect.sqlite.primaryText k).toList [] := by
  have listed : ReadsChecks (Dialect.sqlite.quoteNames k.columns).toList [] := by
    have each := readsChecks_intercalate fun name mem => readsChecks_name (names name mem)
    have none : k.columns.flatMap (fun _ => ([] : List Check)) = [] := by simp
    rwa [none] at each
  have text : (Dialect.sqlite.primaryText k).toList =
      "PRIMARY KEY".toList ++
        ' ' :: '(' :: ((Dialect.sqlite.quoteNames k.columns).toList ++ [')']) := by
    simp [primaryText]
  have opening : ReadsChecks "PRIMARY KEY".toList [] := readsChecks_of_not_mentions (by decide)
  have closing : ReadsChecks [')'] [] := readsChecks_of_not_mentions (by decide)
  rw [text]
  exact opening.append
    (((listed.append closing (by decide)).cons (by decide)).cons (by decide))
    (breaks_cons (by decide) _)

namespace Table

variable {t : Table}

def items (t : Table) : List (String × List Check) :=
  t.columns.map (fun c => (Dialect.sqlite.columnText (Dialect.sqlite.define c), c.check?.toList)) ++
    (if t.declaresPrimaryInline then none else t.primary).toList.map fun k =>
      (Dialect.sqlite.primaryText k, [])

def creationText (t : Table) (ifAbsent : Bool) : String :=
  (Ddl.createTable ifAbsent (Dialect.sqlite.defineTable t)).sql .sqlite

theorem toList_creationText (named : IsName t.fullName) (ifAbsent : Bool) :
    (t.creationText ifAbsent).toList =
      ("CREATE TABLE " ++ if ifAbsent then "IF NOT EXISTS " else "").toList ++
        ((Dialect.sqlite.quoteIdentifier t.fullName).toList ++
          ' ' :: '(' :: ((", ".intercalate (t.items.map (·.1))).toList ++ [')'])) := by
  have free : '.' ∉ t.name.toList := by
    intro mem
    have point := named.chars '.' (by simp [fullName, mem])
    cases point
  have table := Dialect.sqlite.quoteTable_of_free t.tablePrefix free
  have items : t.items.map (·.1) =
      (t.columns.map Dialect.sqlite.define).map Dialect.sqlite.columnText ++
        (if t.declaresPrimaryInline then none else t.primary).toList.map
          Dialect.sqlite.primaryText := by
    simp [Table.items, Function.comp_def]
  have text : Dialect.sqlite.tableText (Dialect.sqlite.defineTable t) =
      Dialect.sqlite.quoteIdentifier t.fullName ++ " (" ++
        ", ".intercalate (t.items.map (·.1) ++ []) ++ ")" ++ "" := by
    rw [items, fullName, ← table]
    rfl
  have opening (cs : List Char) : " (".toList ++ cs = ' ' :: '(' :: cs := rfl
  have closing : ")".toList = [')'] := rfl
  have statement : t.creationText ifAbsent =
      "CREATE TABLE " ++ (if ifAbsent then "IF NOT EXISTS " else "") ++
        Dialect.sqlite.tableText (Dialect.sqlite.defineTable t) := rfl
  rw [statement, text, List.append_nil, String.append_empty]
  simp only [String.toList_append, List.append_assoc, List.cons_append, opening, closing]

theorem Legible.key_of_mem_items (legible : t.Legible) {k : PrimaryKey}
    (declared : k ∈ (if t.declaresPrimaryInline then none else t.primary).toList) :
    ∀ name ∈ k.columns, IsName name := by
  split at declared
  · cases declared
  · exact legible.key k (Option.mem_toList.mp declared)

/-- The checks of the text that makes a table are those of its columns. -/
theorem checks_creationText (legible : t.Legible) (ifAbsent : Bool) :
    checks (t.creationText ifAbsent).toList = t.columns.filterMap Column.check? := by
  have items : ReadsChecks (", ".intercalate (t.items.map (·.1))).toList
      (t.items.flatMap (·.2)) := by
    refine readsChecks_intercalate fun item mem => ?_
    rcases List.mem_append.mp mem with column | key
    · obtain ⟨c, listed, rfl⟩ := List.mem_map.mp column
      exact Column.readsChecks_columnText (legible.spelled c listed) (legible.columns c listed)
    · obtain ⟨k, listed, rfl⟩ := List.mem_map.mp key
      exact Dialect.readsChecks_primaryText (legible.key_of_mem_items listed)
  have header : ReadsChecks ("CREATE TABLE " ++ if ifAbsent then "IF NOT EXISTS " else "").toList
      [] := readsChecks_of_not_mentions (by cases ifAbsent <;> decide)
  have closing : ReadsChecks [')'] [] := readsChecks_of_not_mentions (by decide)
  have body := ((items.append closing (by decide)).cons (by decide : unlettered '(' = true)).cons
    (by decide : unlettered ' ' = true)
  have named := (readsChecks_name legible.name).append body (breaks_cons (by decide) _)
  have quoted : Breaks (Dialect.sqlite.quoteIdentifier t.fullName).toList := by
    rw [toList_quoteIdentifier legible.name]
    exact breaks_cons (by decide) _
  have whole := header.append named (quoted.append (breaks_cons (by decide) _)) [] (by decide)
  have found : t.items.flatMap (·.2) = t.columns.filterMap Column.check? := by
    simp [Table.items, List.flatMap_map, List.filterMap_eq_flatMap_toList]
  have none : checks [] = [] := by rw [checks]; rfl
  rw [List.append_nil, ← toList_creationText legible.name, found, none] at whole
  simpa using whole

end Table

end SqlComposer
