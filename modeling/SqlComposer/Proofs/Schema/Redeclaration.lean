import SqlComposer.Proofs.Schema.CreationNumbers
import SqlComposer.Proofs.Schema.RebuiltShape
import SqlComposer.Proofs.Schema.ReportedRows
import SqlComposer.Proofs.Schema.Spelling

/-!
Reading a table back undoes its creation: from the rows that report its columns and the text that
made it, each column is declared by the same text again, whatever options it is held to
(`Schema.redeclares_blueprint`). What the rows leave open, the options of a column and whether it
numbers the rows, the text tells.
-/

namespace SqlComposer

open Definition

/-! ## What the text tells of a column -/

namespace Column

def heldTo (c : Column) (check : Check) : Column :=
  if c.name = check.column then { c with type := .enum, options := check.options } else c

def numberedBy (c : Column) (name : String) : Column :=
  if c.name = name then
    { c with type := .bigInteger, autoIncrement := true, primary := true, default := none }
  else c

@[simp] theorem name_heldTo (c : Column) (check : Check) : (c.heldTo check).name = c.name := by
  unfold heldTo
  split <;> rfl

@[simp] theorem name_foldl_heldTo (c : Column) (checks : List Check) :
    (checks.foldl heldTo c).name = c.name := by
  induction checks generalizing c with
  | nil => rfl
  | cons check checks ih => rw [List.foldl_cons, ih, name_heldTo]

theorem autoIncrement_foldl_heldTo (c : Column) (checks : List Check) :
    (checks.foldl heldTo c).autoIncrement = c.autoIncrement := by
  induction checks generalizing c with
  | nil => rfl
  | cons check checks ih =>
    rw [List.foldl_cons, ih, heldTo]
    split <;> rfl

def completed (text : String) (c : Column) : Column :=
  match numbered? text.toList with
  | some name => ((checks text.toList).foldl heldTo c).numberedBy name
  | none => (checks text.toList).foldl heldTo c

/-- A column is known to number the rows only together with being of the key. -/
theorem primary_completed {text : String} {c : Column} (plain : c.autoIncrement = false)
    (numbers : (c.completed text).autoIncrement = true) : (c.completed text).primary = true := by
  have checked := (autoIncrement_foldl_heldTo c (checks text.toList)).trans plain
  unfold completed at numbers ⊢
  cases found : numbered? text.toList with
  | none =>
    rw [found] at numbers
    exact absurd numbers (Bool.eq_false_iff.mp checked)
  | some name =>
    rw [found] at numbers
    simp only [numberedBy] at numbers ⊢
    split at numbers
    · next own => rw [if_pos own]
    · exact absurd numbers (Bool.eq_false_iff.mp checked)

theorem foldl_heldTo_of_others {checks : List Check} {c : Column}
    (others : ∀ check ∈ checks, c.name ≠ check.column) : checks.foldl heldTo c = c := by
  induction checks with
  | nil => rfl
  | cons check checks ih =>
    have own : c.heldTo check = c := if_neg (others check List.mem_cons_self)
    rw [List.foldl_cons, own]
    exact ih fun later mem => others later (List.mem_cons_of_mem check mem)

theorem foldl_heldTo_checks {columns : List Column} (unique : (columns.map (·.name)).Nodup)
    {c d : Column} (member : c ∈ columns) (same : d.name = c.name) :
    (columns.filterMap check?).foldl heldTo d =
      if c.isEnum then { d with type := .enum, options := c.options } else d := by
  obtain ⟨before, after, rfl⟩ := List.append_of_mem member
  have apart {list : List Column} {d : Column} (known : d.name = c.name)
      (fresh : c.name ∉ list.map (·.name)) :
      (list.filterMap check?).foldl heldTo d = d := by
    refine foldl_heldTo_of_others fun check mem named => fresh ?_
    obtain ⟨other, listed, own⟩ := List.mem_filterMap.mp mem
    have column : check.column = other.name := by
      unfold check? at own
      split at own
      · cases own
        rfl
      · cases own
    rw [← known, named, column]
    exact List.mem_map_of_mem listed
  rw [List.map_append, List.map_cons, List.nodup_middle, List.nodup_cons, List.mem_append,
    not_or] at unique
  have first := apart same unique.1.1
  rw [List.filterMap_append, List.foldl_append, first, List.filterMap_cons]
  cases enum : c.isEnum
  · have none : check? c = none := by simp [check?, enum]
    rw [none]
    exact apart same unique.1.2
  · have own : check? c = some ⟨c.name, c.options⟩ := if_pos enum
    have held : d.heldTo ⟨c.name, c.options⟩ = { d with type := .enum, options := c.options } :=
      if_pos same
    rw [own, List.foldl_cons, held]
    exact apart same unique.1.2

section Restored

variable {c d : Column} (listed : c.Listed d)
include listed

theorem define_heldTo (enum : c.isEnum = true) (plain : c.autoIncrement = false) :
    Dialect.sqlite.define { d with type := .enum, options := c.options } =
      Dialect.sqlite.define c := by
  have type : c.type = .enum := of_decide_eq_true enum
  have held : Dialect.sqlite.define { d with type := .enum, options := c.options } =
      { Dialect.sqlite.define d with type := .plain "TEXT", check := some c.options } := by
    simp [Dialect.define, Dialect.nativeType, NativeType.sqlite, Dialect.commentClause, isEnum,
      listed.unnumbered]
  rw [held, listed.define]
  simp [Dialect.define, Dialect.nativeType, NativeType.sqlite, enum, plain, type]

theorem define_numbered (numbers : c.autoIncrement = true) (single : c.isEnum = false) :
    Dialect.sqlite.define
        { d with type := .bigInteger, autoIncrement := true, primary := true, default := none } =
      Dialect.sqlite.define c := by
  have numbered : Dialect.sqlite.define
        { d with type := .bigInteger, autoIncrement := true, primary := true, default := none } =
      { Dialect.sqlite.define d with
        type := .plain "INTEGER", nullable := false, default := none, autoIncrement := true,
        check := none } := by
    simp [Dialect.define, Dialect.nativeType, Dialect.commentClause, isEnum]
  rw [numbered, listed.define]
  simp [Dialect.define, Dialect.nativeType, numbers, single]

theorem define_plain (plain : c.autoIncrement = false) (single : c.isEnum = false) :
    Dialect.sqlite.define d = Dialect.sqlite.define c := by
  rw [listed.define]
  simp [Dialect.define, plain, single]

end Restored

end Column

namespace Table

variable {t : Table}

section Unique

variable (unique : t.columnNames.Nodup)
include unique

theorem columns_foldl_withCheck (checks : List Check) :
    (checks.foldl withCheck t).columns = t.columns.map fun c => checks.foldl Column.heldTo c := by
  induction checks generalizing t with
  | nil => simp
  | cons check checks ih =>
    have held : (t.withCheck check).columns = t.columns.map fun c => c.heldTo check :=
      Column.modifyNamed_eq_map unique check.column
    have still : (t.withCheck check).columnNames = t.columnNames := by
      rw [columnNames, held]
      simp [columnNames, Function.comp_def]
    rw [List.foldl_cons, ih (still ▸ unique), held, List.map_map]
    rfl

theorem columns_withDefinition (text : String) :
    (t.withDefinition text).columns = t.columns.map (Column.completed text) := by
  have checked := columns_foldl_withCheck unique (checks text.toList)
  unfold withDefinition Column.completed
  cases numbered? text.toList with
  | none => exact checked
  | some name =>
    have still : ((checks text.toList).foldl withCheck t).columnNames.Nodup := by
      have names : ((checks text.toList).foldl withCheck t).columnNames = t.columnNames := by
        simp [columnNames, checked, Function.comp_def]
      rwa [names]
    have numbered : (((checks text.toList).foldl withCheck t).withNumbered name).columns =
        ((checks text.toList).foldl withCheck t).columns.map fun c => c.numberedBy name :=
      Column.modifyNamed_eq_map still name
    rw [numbered, checked, List.map_map]
    rfl

end Unique

theorem columnNames_of_listed {u : Table}
    (listed : List.Forall₂ Column.Listed t.columns u.columns) : t.columnNames = u.columnNames := by
  rw [columnNames, columnNames, ← List.forall₂_eq_eq_eq, List.forall₂_map_left_iff,
    List.forall₂_map_right_iff]
  exact listed.imp fun _ _ column => column.name_eq.symm

theorem define_completed (legible : t.Legible) (ifAbsent : Bool) {c d : Column}
    (member : c ∈ t.columns) (listed : c.Listed d) :
    Dialect.sqlite.define (d.completed (t.creationText ifAbsent)) = Dialect.sqlite.define c := by
  have column := legible.columns c member
  have plain (none : c.autoIncrement = false) : Dialect.sqlite.define
      (if c.isEnum then { d with type := .enum, options := c.options } else d) =
      Dialect.sqlite.define c := by
    cases enum : c.isEnum
    · exact Column.define_plain listed none enum
    · exact Column.define_heldTo listed enum none
  unfold Column.completed
  rw [checks_creationText legible, numbered?_creationText legible,
    Column.foldl_heldTo_checks legible.distinct member listed.name_eq]
  cases found : t.columns.find? (·.autoIncrement) with
  | none =>
    exact plain (Bool.eq_false_iff.mpr (List.find?_eq_none.mp found c member))
  | some e =>
    have known : e ∈ t.columns := List.mem_of_find?_eq_some found
    have first : e.autoIncrement = true := List.find?_some found
    cases numbers : c.autoIncrement
    · have apart : d.name ≠ e.name := by
        intro same
        have equal : c = e := List.inj_on_of_nodup_map legible.distinct member known
          (listed.name_eq.symm.trans same)
        rw [equal, first] at numbers
        cases numbers
      have other : (if c.isEnum then { d with type := .enum, options := c.options } else d).name ≠
          e.name := by
        split <;> exact apart
      simp only [Option.map_some, Column.numberedBy, if_neg other]
      exact plain numbers
    · have equal : e = c := eq_of_numbers legible.single member numbers known first
      have single := column.isEnum_eq_false numbers
      have own : d.name = c.name := listed.name_eq
      simp only [Option.map_some, Column.numberedBy, single, equal, Bool.false_eq_true, if_false,
        if_pos own]
      exact Column.define_numbered listed numbers single

theorem define_completeTable (legible : t.Legible) (ifAbsent : Bool) {u : Table}
    (listed : List.Forall₂ Column.Listed t.columns u.columns) :
    (Dialect.sqlite.completeTable u (t.creationText ifAbsent)).columns.map Dialect.sqlite.define =
      t.columns.map Dialect.sqlite.define := by
  have names := columnNames_of_listed listed
  have within := (List.forall₂_and_left _ _).mpr ⟨fun c member => member, listed⟩
  rw [Dialect.completeTable, columns_withDefinition (names ▸ legible.distinct), List.map_map]
  symm
  rw [← List.forall₂_eq_eq_eq, List.forall₂_map_left_iff, List.forall₂_map_right_iff]
  exact within.imp fun c d column => (define_completed legible ifAbsent column.1 column.2).symm

theorem numbersKeyed_completeTable {u : Table} (unique : u.columnNames.Nodup)
    (plain : ∀ c ∈ u.columns, c.autoIncrement = false) (text : String) :
    (Dialect.sqlite.completeTable u text).NumbersKeyed := by
  intro c member numbers
  rw [Dialect.completeTable, columns_withDefinition unique] at member
  obtain ⟨d, known, rfl⟩ := List.mem_map.mp member
  exact Column.primary_completed (plain d known) numbers

/-- Each column is declared by the same text as in another table, and so it is when a change of
some column has the table rebuilt, unless it is that column. -/
structure Redeclares (u t : Table) : Prop where
  columns : (Dialect.sqlite.defineTable u).columns.map Dialect.sqlite.columnText =
    (Dialect.sqlite.defineTable t).columns.map Dialect.sqlite.columnText
  rebuilt : ∀ d : Column,
    ((Dialect.copyDefinition u (.changeColumn d)).columns.filter fun c => c.name ≠ d.name).map
        Dialect.sqlite.columnText =
      ((Dialect.sqlite.defineTable t).columns.filter fun c => c.name ≠ d.name).map
        Dialect.sqlite.columnText

theorem filter_columns_changeColumn (unique : t.columnNames.Nodup) (d : Column) :
    ((t.changeColumn d).columns.filter fun c => c.name ≠ d.name) =
      t.columns.filter fun c => c.name ≠ d.name := by
  rw [changeColumn_eq unique, List.filter_map]
  have apart : ((fun c : Column => decide (c.name ≠ d.name)) ∘
      fun old => if old.name = d.name then d.redefined old else old) =
        fun c => decide (c.name ≠ d.name) := by
    funext old
    by_cases same : old.name = d.name
    · simp [same, Column.redefined, Column.settled]
    · simp [same]
  rw [apart]
  have kept : ∀ c ∈ t.columns.filter fun c => c.name ≠ d.name,
      (if c.name = d.name then d.redefined c else c) = c := by
    intro c member
    exact if_neg (of_decide_eq_true (List.mem_filter.mp member).2)
  rw [List.map_congr_left kept, List.map_id']

theorem filter_columns_copyDefinition (unique : t.columnNames.Nodup) (keyed : t.NumbersKeyed)
    (d : Column) :
    ((Dialect.copyDefinition t (.changeColumn d)).columns.filter fun c => c.name ≠ d.name) =
      (Dialect.sqlite.defineTable t).columns.filter fun c => c.name ≠ d.name := by
  have whole := withKeyedNumbers_eq_self ((numbersKeyed_apply_iff (.changeColumn d) unique).mpr
    fun old member _ numbers => keyed old member numbers)
  have built : (Dialect.copyDefinition t (.changeColumn d)).columns =
      (t.changeColumn d).columns.map Dialect.sqlite.define := by
    rw [Dialect.copyDefinition, whole]
    rfl
  have named : ((fun c : ColumnDefinition => decide (c.name ≠ d.name)) ∘ Dialect.sqlite.define) =
      fun c => decide (c.name ≠ d.name) := rfl
  rw [built, List.filter_map, named, filter_columns_changeColumn unique, Dialect.defineTable,
    List.filter_map, named]

theorem redeclares_completeTable (legible : t.Legible) (ifAbsent : Bool) {u : Table}
    (listed : List.Forall₂ Column.Listed t.columns u.columns) :
    (Dialect.sqlite.completeTable u (t.creationText ifAbsent)).Redeclares t := by
  have defined := define_completeTable legible ifAbsent listed
  have plain : ∀ d ∈ u.columns, d.autoIncrement = false :=
    ((List.forall₂_and_left _ _).mp
      (listed.flip.imp fun _ _ column => ⟨column.unnumbered, column⟩)).1
  have keyed := numbersKeyed_completeTable (columnNames_of_listed listed ▸ legible.distinct) plain
    (t.creationText ifAbsent)
  generalize Dialect.sqlite.completeTable u (t.creationText ifAbsent) = v at defined keyed ⊢
  constructor
  · exact congrArg (List.map Dialect.sqlite.columnText) defined
  · intro d
    have unique : v.columnNames.Nodup := by
      have names := congrArg (List.map ColumnDefinition.name) defined
      rw [List.map_map, List.map_map] at names
      have same : v.columnNames = t.columnNames := names
      exact same ▸ legible.distinct
    rw [filter_columns_copyDefinition unique keyed, Dialect.defineTable, defined]
    rfl

end Table

namespace Schema

/-- However a table has been drawn, reading it back from the rows that report its columns and from
the text that made it leads to the same declarations, and so does a rebuild later on. Its names have
to be apart and made of letters, digits and underscores, one integer at most may number the rows,
and no default and no option may hold the word of a clause that it could be taken for. -/
theorem redeclares_blueprint (s : Schema) (name : String) (steps : List BlueprintStep)
    (ifAbsent : Bool) (rows : List Row) {t : Table}
    (drawn : t = ((s.blueprint name).draw steps).finish.preview)
    (named : IsName (s.fullName name))
    (spelled : ∀ c ∈ ((s.blueprint name).draw steps).commands, c.Spells)
    (distinct : t.columnNames.Nodup)
    (single : t.columns.countP (·.autoIncrement) ≤ 1)
    (legible : ∀ c ∈ t.columns, c.Legible)
    (reported : List.Forall₂ Row.Reports rows t.columns) :
    ∃ columns, rows.mapM Dialect.sqlite.readColumn = .ok columns ∧
      ∀ u : Table, u.columns = columns →
        (Dialect.sqlite.completeTable u (t.creationText ifAbsent)).Redeclares t := by
  have start : (s.blueprint name).table.Spelled := by
    constructor
    · intro c member
      cases member
    · intro k member
      cases member
  have names : t.Spelled := drawn ▸ Blueprint.spelled_preview
    (Blueprint.spelled_draw start steps) spelled
  have own : t.tableName = (s.blueprint name).table.tableName := by
    rw [drawn, Blueprint.preview, Table.tableName_applyAll]
    exact Blueprint.tableName_draw _ steps
  have fullName : t.fullName = s.fullName name :=
    congrArg (fun table : TableName => table.tablePrefix ++ table.name) own
  have whole : t.Legible :=
    ⟨fullName ▸ named, names.columns, legible, distinct, single, names.key⟩
  obtain ⟨columns, read, listed⟩ := exists_mapM_readColumn reported
  refine ⟨columns, read, ?_⟩
  rintro u rfl
  exact Table.redeclares_completeTable whole ifAbsent listed

/-- A column named like a clause and options that look like the ends of lists and like checks of
other columns. -/
theorem redeclares_blueprint_of_misleading_options :
    let s : Schema := { dialect := .sqlite, options := { tablePrefix := "app_" } }
    let steps : List BlueprintStep :=
      [.declare (Declaration.bigIncrements "id").column,
        .declare ((Declaration.string "check").column.modifyAll
          [.length 40, .default (.text "it's"), .unique]),
        .declare ((Declaration.enum "state"
          ["a)b", "it's", "x')), `id` TEXT CHECK (`id` IN ('y"]).column.modify .nullable),
        .declare ((Declaration.decimal "price" 10 3).column.modify (.defaultRaw "(1 + 1)"))]
    let t := ((s.blueprint "posts").draw steps).finish.preview
    let rows : List Row :=
      [⟨[("name", .text "id"), ("native_type", .text "INTEGER"), ("nullable", .text "NO"),
          ("default_value", .null), ("pk", .int 1)]⟩,
        ⟨[("name", .text "check"), ("native_type", .text "VARCHAR(40)"), ("nullable", .text "NO"),
          ("default_value", .text "'it''s'"), ("pk", .int 0)]⟩,
        ⟨[("name", .text "state"), ("native_type", .text "TEXT"), ("nullable", .text "YES"),
          ("default_value", .null), ("pk", .int 0)]⟩,
        ⟨[("name", .text "price"), ("native_type", .text "DECIMAL(10, 3)"),
          ("nullable", .text "NO"), ("default_value", .text "(1 + 1)"), ("pk", .int 0)]⟩]
    IsName (s.fullName "posts") ∧
      (∀ c ∈ ((s.blueprint "posts").draw steps).commands, c.Spells) ∧
      t.columnNames.Nodup ∧ t.columns.countP (·.autoIncrement) ≤ 1 ∧
      (∀ c ∈ t.columns, c.Legible) ∧ List.Forall₂ Row.Reports rows t.columns ∧
      t.creationText false =
        "CREATE TABLE `app_posts` (`id` INTEGER NOT NULL PRIMARY KEY AUTOINCREMENT, " ++
          "`check` VARCHAR(40) NOT NULL DEFAULT 'it''s', " ++
          "`state` TEXT NULL CHECK (`state` IN ('a)b', 'it''s', " ++
            "'x'')), `id` TEXT CHECK (`id` IN (''y')), " ++
          "`price` DECIMAL(10, 3) NOT NULL DEFAULT (1 + 1))" ∧
      ∃ columns, rows.mapM Dialect.sqlite.readColumn = .ok columns ∧
        ∀ u : Table, u.columns = columns →
          (Dialect.sqlite.completeTable u (t.creationText false)).Redeclares t := by
  intro s steps t rows
  have named : IsName (s.fullName "posts") := by decide +kernel
  have spelled : ∀ c ∈ ((s.blueprint "posts").draw steps).commands, c.Spells := by decide +kernel
  have distinct : t.columnNames.Nodup := by decide +kernel
  have single : t.columns.countP (·.autoIncrement) ≤ 1 := by decide +kernel
  have legible : ∀ c ∈ t.columns, c.Legible := by decide +kernel
  have reported : List.Forall₂ Row.Reports rows t.columns := by decide +kernel
  exact ⟨named, spelled, distinct, single, legible, reported, by decide +kernel,
    redeclares_blueprint s "posts" steps false rows rfl named spelled distinct single legible
      reported⟩

end Schema

end SqlComposer
