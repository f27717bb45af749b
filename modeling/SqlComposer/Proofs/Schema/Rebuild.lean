import SqlComposer.Proofs.Schema.Address
import SqlComposer.Proofs.Schema.Database
import SqlComposer.Proofs.Schema.Naming

/-!
Rebuilding a table. A copy in the new shape takes the rows and then the name of the table, so up to
the statement that drops the table nothing has happened to it, and the whole can be started over.
-/

namespace SqlComposer

inductive Command.Rebuilds : Command → Prop
  | changeColumn (c : Column) : Rebuilds (.changeColumn c)
  | createPrimary (k : PrimaryKey) : Rebuilds (.createPrimary k)
  | dropPrimary : Rebuilds .dropPrimary

namespace Table

variable {t : Table} {c : Command} (rebuilds : c.Rebuilds)
include rebuilds

theorem indexes_apply_of_rebuilds : (t.apply c).indexes = t.indexes := by
  cases rebuilds with
  | changeColumn c => rfl
  | createPrimary k =>
    rw [apply, createPrimary, foldl_modifyColumn_eq]
    rfl
  | dropPrimary => rfl

theorem columnNames_apply_of_rebuilds (unique : t.columnNames.Nodup) :
    (t.apply c).columnNames = t.columnNames := by
  cases rebuilds with
  | changeColumn c => exact columnNames_changeColumn unique c
  | createPrimary k => exact columnNames_createPrimary unique k
  | dropPrimary => exact columnNames_withoutPrimary

omit rebuilds in
theorem columnNames_withKeyedNumbers : t.withKeyedNumbers.columnNames = t.columnNames :=
  map_name_map fun _ => rfl

end Table

namespace TableName

/-- Under its temporary name, a table without a point in its name cannot be taken for itself. -/
theorem text_temporary_ne {t : TableName} (free : '.' ∉ t.name.toList) :
    t.temporary.text ≠ t.text := by
  have still : '.' ∉ ("__temp__" ++ t.name).toList := by
    simpa using free
  intro same
  unfold text temporary at same
  rw [Dialect.quoteTable_of_free _ _ still, Dialect.quoteTable_of_free _ _ free] at same
  have names := (quoteIdentifier_inj (by decide)).mp same
  have lengths := congrArg (·.toList.length) names
  simp at lengths
  omega

end TableName

namespace Dialect

variable {t : Table} {c : Command}

theorem statements_of_rebuilds (rebuilds : c.Rebuilds) :
    sqlite.statements t c = sqlite.rebuild t c := by
  cases rebuilds <;> rfl

def copyDefinition (t : Table) (c : Command) : TableDefinition :=
  sqlite.defineTable (t.apply c).withKeyedNumbers.copy

theorem table_copyDefinition : (copyDefinition t c).table = t.tableName.temporary := by
  rw [← t.tableName_apply c]
  rfl

theorem names_copyDefinition :
    (copyDefinition t c).columns.map (·.name) = (t.apply c).columnNames := by
  have defined : (copyDefinition t c).columns.map (·.name) =
      (t.apply c).withKeyedNumbers.columnNames := List.map_map
  rw [defined, Table.columnNames_withKeyedNumbers]

theorem createTable_copy :
    sqlite.createTable false (t.apply c).withKeyedNumbers.copy =
      [.createTable false (copyDefinition t c)] := by
  have none : ∀ columns : List Column, columns.flatMap sqlite.prerequisites = [] := by
    intro columns
    simp [prerequisites]
  have later : ∀ (own : TableName) (columns : List Column),
      columns.flatMap (sqlite.followUps own) = [] := by
    intro own columns
    simp [followUps]
  simp only [createTable, none, later]
  rfl

theorem statements_eq_rebuild (rebuilds : c.Rebuilds) :
    sqlite.statements t c =
      [.dropTable true t.tableName.temporary, .createTable false (copyDefinition t c),
        .copyRows t.tableName t.tableName.temporary
          ((t.apply c).columnNames.filter t.hasColumn),
        .dropTable false t.tableName, .renameTable t.tableName.temporary t.tableName] ++
        t.indexes.map fun i => .createIndex t.tableName i := by
  have own : (t.apply c).withKeyedNumbers.tableName = t.tableName := t.tableName_apply c
  have temporary : (t.apply c).withKeyedNumbers.copy.tableName = t.tableName.temporary :=
    congrArg TableName.temporary own
  have indexes : createIndexes (t.apply c).withKeyedNumbers =
      t.indexes.map fun i => .createIndex t.tableName i := by
    rw [createIndexes, own]
    exact congrArg (List.map _) (Table.indexes_apply_of_rebuilds rebuilds)
  rw [statements_of_rebuilds rebuilds, rebuild, createTable_copy, own, temporary,
    Table.columnNames_withKeyedNumbers, indexes]
  rfl

def copying (t : Table) (c : Command) : List Ddl :=
  [.dropTable true t.tableName.temporary, .createTable false (copyDefinition t c),
    .copyRows t.tableName t.tableName.temporary t.columnNames]

theorem statements_eq_of_rebuilds (rebuilds : c.Rebuilds) (unique : t.columnNames.Nodup) :
    sqlite.statements t c =
      copying t c ++
        [.dropTable false t.tableName, .renameTable t.tableName.temporary t.tableName] ++
        t.indexes.map fun i => .createIndex t.tableName i := by
  have kept : t.columnNames.filter t.hasColumn = t.columnNames := by
    apply List.filter_eq_self.mpr
    intro name known
    obtain ⟨column, member, rfl⟩ := List.mem_map.mp known
    rw [Table.hasColumn, Table.column?, List.find?_isSome]
    exact ⟨column, member, decide_eq_true rfl⟩
  rw [statements_eq_rebuild rebuilds, Table.columnNames_apply_of_rebuilds rebuilds unique, kept]
  rfl

end Dialect

/-! ## What becomes of the table -/

/-- The outcome of a rebuild: the rows and the indexes of the table stand under its name, its
columns in the new shape, and the copy is gone. -/
structure Rebuilt (engine : Engine) (t : Table) (definition : TableDefinition)
    (db final : Database) : Prop where
  kept : ∃ origin rows stored, db t.tableName.text = some origin ∧
    origin.rows.mapM (Row.select t.columnNames) = some rows ∧
    engine.takes { definition } rows stored ∧
    final t.tableName.text = some
      { definition := { definition with table := t.tableName }
        rows := stored
        indexes := t.indexes }
  gone : final definition.table.text = none
  others : ∀ name, name ≠ t.tableName.text → name ≠ definition.table.text → final name = db name

namespace Dialect

open Ddl

variable {t : Table} {c : Command} {engine : Engine} {db middle final : Database}

theorem changed_of_mem_copying {ddl : Ddl} (member : ddl ∈ copying t c) {name : String}
    (other : name ≠ t.tableName.temporary.text) : name ∉ ddl.changed := by
  simp only [copying, List.mem_cons, List.not_mem_nil, or_false] at member
  rcases member with rfl | rfl | rfl
  · simpa [Ddl.changed] using other
  · simpa [Ddl.changed, table_copyDefinition] using other
  · simpa [Ddl.changed] using other

/-- What has been done of the copying changes no table but the copy. -/
theorem unchanged_of_copying {k : Nat} (run : RunsAll engine ((copying t c).take k) db middle)
    {name : String} (other : name ≠ t.tableName.temporary.text) : middle name = db name :=
  run.unchanged fun _ member => changed_of_mem_copying (List.mem_of_mem_take member) other

theorem runsAll_copying_iff (apart : t.tableName.temporary.text ≠ t.tableName.text) :
    RunsAll engine (copying t c) db final ↔
      ∃ origin rows stored, db t.tableName.text = some origin ∧
        origin.rows.mapM (Row.select t.columnNames) = some rows ∧
        engine.takes { definition := copyDefinition t c } rows stored ∧
        final = Function.update db t.tableName.temporary.text
          (some { definition := copyDefinition t c, rows := stored }) := by
  simp only [copying, runsAll_cons_iff, runs_dropTable_true_iff]
  constructor
  · rintro ⟨_, rfl, _, created, _, copied, finished⟩
    cases created
    cases copied with
    | @copyRows _ _ _ _ origin copy rows stored given present selected takes =>
      cases finished
      rw [table_copyDefinition, Function.update_idem] at given present ⊢
      rw [Function.update_of_ne apart.symm] at given
      rw [Function.update_self] at present
      obtain rfl := Option.some.inj present
      refine ⟨origin, rows, stored, given, selected, takes, ?_⟩
      rw [Function.update_idem, List.nil_append]
  · rintro ⟨origin, rows, stored, given, selected, takes, rfl⟩
    have absent : Function.update db t.tableName.temporary.text none
        (copyDefinition t c).table.text = none := by
      rw [table_copyDefinition, Function.update_self]
    have created : (Ddl.createTable false (copyDefinition t c)).Runs engine _ _ :=
      .createTable absent
    rw [table_copyDefinition, Function.update_idem] at created
    have source : Function.update db t.tableName.temporary.text
        (some { definition := copyDefinition t c }) t.tableName.text = some origin := by
      rwa [Function.update_of_ne apart.symm]
    have copied : (Ddl.copyRows t.tableName t.tableName.temporary t.columnNames).Runs engine _ _ :=
      .copyRows source (Function.update_self ..) selected takes
    rw [Function.update_idem, List.nil_append] at copied
    exact ⟨_, rfl, _, created, _, copied, .nil _⟩

theorem runsAll_replacing_iff (apart : t.tableName.temporary.text ≠ t.tableName.text) :
    RunsAll engine
        (copying t c ++
          [.dropTable false t.tableName, .renameTable t.tableName.temporary t.tableName])
        db final ↔
      ∃ origin rows stored, db t.tableName.text = some origin ∧
        origin.rows.mapM (Row.select t.columnNames) = some rows ∧
        engine.takes { definition := copyDefinition t c } rows stored ∧
        final = Function.update (Function.update db t.tableName.temporary.text none)
          t.tableName.text (some
            { definition := { copyDefinition t c with table := t.tableName }
              rows := stored }) := by
  rw [runsAll_append_iff]
  simp only [runsAll_copying_iff apart]
  constructor
  · rintro ⟨_, ⟨origin, rows, stored, present, selected, takes, rfl⟩, replaced⟩
    obtain ⟨-, rfl⟩ := (runsAll_replace_iff apart (Function.update_self ..)).mp replaced
    refine ⟨origin, rows, stored, present, selected, takes, ?_⟩
    rw [Function.update_idem]
  · rintro ⟨origin, rows, stored, present, selected, takes, rfl⟩
    refine ⟨_, ⟨origin, rows, stored, present, selected, takes, rfl⟩, ?_⟩
    apply (runsAll_replace_iff apart (Function.update_self ..)).mpr
    rw [Function.update_of_ne apart.symm, present, Function.update_idem]
    exact ⟨rfl, rfl⟩

theorem rebuilt_of_runsAll (apart : t.tableName.temporary.text ≠ t.tableName.text)
    (run : RunsAll engine
      (copying t c ++
        [.dropTable false t.tableName, .renameTable t.tableName.temporary t.tableName] ++
        t.indexes.map fun i => .createIndex t.tableName i) db final) :
    Rebuilt engine t (copyDefinition t c) db final := by
  obtain ⟨_, replaced, indexed⟩ := runsAll_append_iff.mp run
  obtain ⟨origin, rows, stored, present, selected, takes, rfl⟩ :=
    (runsAll_replacing_iff apart).mp replaced
  obtain rfl := eq_of_runsAll_createIndexes (Function.update_self ..) indexed
  constructor
  · refine ⟨origin, rows, stored, present, selected, takes, ?_⟩
    rw [Function.update_self, List.nil_append]
  · rw [table_copyDefinition, Function.update_of_ne apart, Function.update_of_ne apart,
      Function.update_self]
  · intro name own temporary
    rw [table_copyDefinition] at temporary
    rw [Function.update_of_ne own, Function.update_of_ne own, Function.update_of_ne temporary]

/-- A rebuild can be carried out if the copy takes the rows and the indexes can be made again. -/
theorem exists_runsAll_rebuild (rebuilds : c.Rebuilds) (unique : t.columnNames.Nodup)
    (apart : t.tableName.temporary.text ≠ t.tableName.text) {origin : StoredTable}
    {rows stored : List Row} (present : db t.tableName.text = some origin)
    (selected : origin.rows.mapM (Row.select t.columnNames) = some rows)
    (takes : engine.takes { definition := copyDefinition t c } rows stored)
    (allows : ∀ i ∈ t.indexes, ∀ s, s.rows = stored → engine.allows s i)
    (distinct : t.indexNames.Nodup)
    (fresh : ∀ name other, name ≠ t.tableName.text → db name = some other →
      ∀ i ∈ t.indexes, i.name ∉ other.indexes.map (·.name)) :
    ∃ final, RunsAll engine (sqlite.statements t c) db final := by
  let copy : StoredTable :=
    { definition := { copyDefinition t c with table := t.tableName }, rows := stored }
  let replaced : Database := Function.update
    (Function.update db t.tableName.temporary.text none) t.tableName.text (some copy)
  have placed : replaced t.tableName.text = some copy := Function.update_self ..
  have free : ∀ name other, replaced name = some other →
      ∀ i ∈ t.indexes, i.name ∉ other.indexes.map (·.name) := by
    intro name other known i member
    by_cases own : name = t.tableName.text
    · rw [own, placed] at known
      obtain rfl := Option.some.inj known
      exact List.not_mem_nil
    · unfold replaced at known
      rw [Function.update_of_ne own] at known
      by_cases temporary : name = t.tableName.temporary.text
      · rw [temporary, Function.update_self] at known
        cases known
      · rw [Function.update_of_ne temporary] at known
        exact fresh name other own known i member
  have run := (runsAll_replacing_iff apart).mpr
    ⟨origin, rows, stored, present, selected, takes, rfl⟩
  obtain ⟨final, indexed⟩ := exists_runsAll_createIndexes placed allows distinct free
  rw [statements_eq_of_rebuilds rebuilds unique]
  exact ⟨final, runsAll_append_iff.mpr ⟨replaced, run, indexed⟩⟩

end Dialect

/-- The statements that rebuild a table, from the first drop on. Up to the one that drops the table
they can be started over from where they have stopped. -/
theorem Table.rebuild_keeps_table {t : Table} {c : Command} (rebuilds : c.Rebuilds)
    (unique : t.columnNames.Nodup) (free : '.' ∉ t.name.toList) :
    ∃ definition : TableDefinition,
      definition.table.text ≠ t.tableName.text ∧
      definition.columns.map (·.name) = t.columnNames ∧
      Dialect.sqlite.statements t c =
        [.dropTable true definition.table, .createTable false definition,
          .copyRows t.tableName definition.table t.columnNames, .dropTable false t.tableName,
          .renameTable definition.table t.tableName] ++
          t.indexes.map (fun i => .createIndex t.tableName i) ∧
      ∀ engine db,
        (∀ k ≤ 3, ∀ stopped,
          Ddl.RunsAll engine ((Dialect.sqlite.statements t c).take k) db stopped →
            stopped t.tableName.text = db t.tableName.text ∧
            ∀ final, Ddl.RunsAll engine (Dialect.sqlite.statements t c) stopped final ↔
              Ddl.RunsAll engine (Dialect.sqlite.statements t c) db final) ∧
        ∀ final, Ddl.RunsAll engine (Dialect.sqlite.statements t c) db final →
          Rebuilt engine t definition db final := by
  have apart : t.tableName.temporary.text ≠ t.tableName.text := TableName.text_temporary_ne free
  have list := Dialect.statements_eq_of_rebuilds rebuilds unique
  refine ⟨Dialect.copyDefinition t c, ?_, ?_, ?_, ?_⟩
  · rwa [Dialect.table_copyDefinition]
  · rw [Dialect.names_copyDefinition, columnNames_apply_of_rebuilds rebuilds unique]
  · rw [list, Dialect.table_copyDefinition]
    rfl
  · intro engine db
    rw [list]
    constructor
    · intro k early stopped run
      rw [List.append_assoc, List.take_append_of_le_length early] at run
      constructor
      · exact Dialect.unchanged_of_copying run apart.symm
      · intro final
        exact Ddl.runsAll_dropTable_true_congr fun _ => Dialect.unchanged_of_copying run
    · intro final run
      exact Dialect.rebuilt_of_runsAll apart run

theorem Table.rebuild_keeps_table_of_interrupted_change :
    let t : Table :=
      { name := "posts"
        columns := [{ name := "id", type := .integer }, { name := "title", type := .string }]
        indexes := [⟨"by_title", ["title"], true⟩] }
    let c : Command := .changeColumn { name := "title", type := .text, nullable := true }
    let engine : Engine :=
      { takes := fun _ rows stored => stored = rows, allows := fun _ _ => True }
    let rows : List Row := [⟨[("id", .int 1), ("title", .text "first")]⟩]
    let origin : StoredTable :=
      { definition := Dialect.sqlite.defineTable t, rows, indexes := t.indexes }
    let db : Database := Function.update (fun _ => none) "`posts`" (some origin)
    c.Rebuilds ∧ t.columnNames.Nodup ∧ '.' ∉ t.name.toList ∧
      ∃ stopped final,
        Ddl.RunsAll engine ((Dialect.sqlite.statements t c).take 3) db stopped ∧
        (stopped "`__temp__posts`").map (·.rows) = some rows ∧ stopped "`posts`" = some origin ∧
        Ddl.RunsAll engine (Dialect.sqlite.statements t c) stopped final ∧
        (final "`posts`").map (fun stored => (stored.rows, stored.indexes)) =
          some (rows, t.indexes) := by
  intro t c engine rows origin db
  have own : t.tableName.text = "`posts`" := by decide +kernel
  have temporary : t.tableName.temporary.text = "`__temp__posts`" := by decide +kernel
  have apart : t.tableName.temporary.text ≠ t.tableName.text := by decide +kernel
  have unique : t.columnNames.Nodup := by decide +kernel
  have free : '.' ∉ t.name.toList := by decide +kernel
  have selected : origin.rows.mapM (Row.select t.columnNames) = some rows := by decide +kernel
  have present : db t.tableName.text = some origin := by
    rw [own]
    exact Function.update_self ..
  have alone : ∀ name other, name ≠ t.tableName.text → db name = some other →
      ∀ i ∈ t.indexes, i.name ∉ other.indexes.map (·.name) := by
    intro name other apart known
    unfold db at known
    rw [Function.update_of_ne (own ▸ apart)] at known
    cases known
  have rebuilds : c.Rebuilds := .changeColumn _
  have taken : engine.takes { definition := Dialect.copyDefinition t c } rows rows := rfl
  have stopped : Ddl.RunsAll engine ((Dialect.sqlite.statements t c).take 3) db _ :=
    (Dialect.runsAll_copying_iff apart).mpr ⟨origin, rows, rows, present, selected, taken, rfl⟩
  obtain ⟨final, run⟩ := Dialect.exists_runsAll_rebuild rebuilds unique apart present selected
    taken (fun _ _ _ _ => trivial) (by decide +kernel) alone
  obtain ⟨definition, -, -, -, runs⟩ := rebuild_keeps_table rebuilds unique free
  obtain ⟨early, whole⟩ := runs engine db
  obtain ⟨still, again⟩ := early 3 le_rfl _ stopped
  refine ⟨rebuilds, unique, free, _, final, stopped, ?_, ?_, (again final).mpr run, ?_⟩
  · rw [← temporary, Function.update_self]
    rfl
  · rw [← own, still, present]
  · obtain ⟨known, read, stored, given, same, rfl, kept⟩ := (whole final run).kept
    obtain rfl := Option.some.inj (given.symm.trans present)
    obtain rfl := Option.some.inj (same.symm.trans selected)
    rw [← own, kept]
    rfl

end SqlComposer
