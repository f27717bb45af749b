import Mathlib.Logic.Function.Basic
import SqlComposer.Connection.Row
import SqlComposer.Schema.Alteration

/-!
What the statements of a rebuild do to a database: tables are made, filled, dropped and renamed,
and indexes are made over them. A statement that cannot be carried out has no outcome and leaves
the database as it is. Which rows a table takes, and which indexes can be made over its rows, is
left to the engine of the database.
-/

namespace SqlComposer

structure StoredTable where
  definition : TableDefinition
  rows : List Row := []
  indexes : List Index := []

abbrev Database := String → Option StoredTable

/-- `takes table rows stored`: the table takes these rows and keeps them as `stored`. -/
structure Engine where
  takes : StoredTable → List Row → List Row → Prop
  allows : StoredTable → Index → Prop

def Row.select (columns : List String) (r : Row) : Option Row :=
  (columns.mapM fun column => (r.get? column).map fun v => (column, v)).map Row.mk

def TableName.text (t : TableName) : String := Dialect.sqlite.quoteTable t

namespace Ddl

variable {engine : Engine} {db next middle final : Database} {ddl : Ddl} {t : TableName}

/-- What a statement makes of a database that carries it out. -/
inductive Runs (engine : Engine) : Ddl → Database → Database → Prop
  | createTable {db : Database} {definition : TableDefinition}
    (absent : db definition.table.text = none) :
    Runs engine (.createTable false definition) db
      (Function.update db definition.table.text (some { definition }))
  | dropTable {db : Database} {ifExists : Bool} {t : TableName} {stored : StoredTable}
    (present : db t.text = some stored) :
    Runs engine (.dropTable ifExists t) db (Function.update db t.text none)
  | dropAbsent {db : Database} {t : TableName} (absent : db t.text = none) :
    Runs engine (.dropTable true t) db db
  | copyRows {db : Database} {source target : TableName} {columns : List String}
    {origin copy : StoredTable} {taken kept : List Row} (given : db source.text = some origin)
    (present : db target.text = some copy)
    (selected : origin.rows.mapM (Row.select columns) = some taken)
    (takes : engine.takes copy taken kept) :
    Runs engine (.copyRows source target columns) db
      (Function.update db target.text (some { copy with rows := copy.rows ++ kept }))
  | renameTable {db : Database} {before after : TableName} {stored : StoredTable}
    (present : db before.text = some stored) (absent : db after.text = none) :
    Runs engine (.renameTable before after) db
      (Function.update (Function.update db before.text none) after.text
        (some { stored with definition := { stored.definition with table := after } }))
  | createIndex {db : Database} {t : TableName} {i : Index} {stored : StoredTable}
    (present : db t.text = some stored)
    (fresh : ∀ name other, db name = some other → i.name ∉ other.indexes.map (·.name))
    (allows : engine.allows stored i) :
    Runs engine (.createIndex t i) db
      (Function.update db t.text (some { stored with indexes := stored.indexes ++ [i] }))

inductive RunsAll (engine : Engine) : List Ddl → Database → Database → Prop
  | nil (db : Database) : RunsAll engine [] db db
  | cons {ddl : Ddl} {rest : List Ddl} {db middle final : Database} :
    Runs engine ddl db middle → RunsAll engine rest middle final →
      RunsAll engine (ddl :: rest) db final

def changed : Ddl → List String
  | createTable _ definition => [definition.table.text]
  | dropTable _ t | copyRows _ t _ | createIndex t _ => [t.text]
  | renameTable before after => [before.text, after.text]
  | _ => []

theorem Runs.unchanged (run : ddl.Runs engine db next) {name : String}
    (other : name ∉ ddl.changed) : next name = db name := by
  cases run with
  | dropAbsent => rfl
  | createTable | dropTable | copyRows | createIndex =>
    exact Function.update_of_ne (List.ne_of_not_mem_cons other) _ _
  | renameTable =>
    have apart := List.ne_of_not_mem_cons (List.not_mem_of_not_mem_cons other)
    rw [Function.update_of_ne apart,
      Function.update_of_ne (List.ne_of_not_mem_cons other)]

theorem RunsAll.unchanged {list : List Ddl} (run : RunsAll engine list db final) {name : String}
    (other : ∀ ddl ∈ list, name ∉ ddl.changed) : final name = db name := by
  induction run with
  | nil => rfl
  | cons first _ ih =>
    rw [ih fun ddl member => other ddl (List.mem_cons_of_mem _ member)]
    exact first.unchanged (other _ List.mem_cons_self)

theorem runs_dropTable_true_iff :
    (dropTable true t).Runs engine db next ↔ next = Function.update db t.text none := by
  constructor
  · intro run
    cases run with
    | dropTable => rfl
    | dropAbsent absent => rw [← absent, Function.update_eq_self]
  · rintro rfl
    cases present : db t.text with
    | some stored => exact .dropTable present
    | none =>
      have same : Function.update db t.text none = db := by
        rw [← present, Function.update_eq_self]
      rw [same]
      exact .dropAbsent present

theorem runsAll_cons_iff {rest : List Ddl} :
    RunsAll engine (ddl :: rest) db final ↔
      ∃ middle, ddl.Runs engine db middle ∧ RunsAll engine rest middle final := by
  constructor
  · rintro (_ | ⟨ran, run⟩)
    exact ⟨_, ran, run⟩
  · rintro ⟨middle, ran, run⟩
    exact .cons ran run

theorem runsAll_append_iff {first second : List Ddl} :
    RunsAll engine (first ++ second) db final ↔
      ∃ middle, RunsAll engine first db middle ∧ RunsAll engine second middle final := by
  induction first generalizing db with
  | nil =>
    constructor
    · intro run
      exact ⟨db, .nil db, run⟩
    · rintro ⟨middle, start, run⟩
      cases start
      exact run
  | cons ddl rest ih =>
    simp only [List.cons_append, runsAll_cons_iff, ih]
    constructor
    · rintro ⟨next, ran, middle, early, late⟩
      exact ⟨middle, ⟨next, ran, early⟩, late⟩
    · rintro ⟨middle, ⟨next, ran, early⟩, late⟩
      exact ⟨next, ran, middle, early, late⟩

/-- Statements that begin by dropping a table do the same from databases that differ in no other
table. -/
theorem runsAll_dropTable_true_congr {rest : List Ddl}
    (alike : ∀ name, name ≠ t.text → middle name = db name) :
    RunsAll engine (dropTable true t :: rest) middle final ↔
      RunsAll engine (dropTable true t :: rest) db final := by
  have dropped : Function.update middle t.text none = Function.update db t.text none := by
    funext name
    by_cases own : name = t.text
    · rw [own, Function.update_self, Function.update_self]
    · rw [Function.update_of_ne own, Function.update_of_ne own, alike name own]
  simp only [runsAll_cons_iff, runs_dropTable_true_iff, exists_eq_left, dropped]

theorem runsAll_replace_iff {before after : TableName} {stored : StoredTable}
    (apart : before.text ≠ after.text) (present : db before.text = some stored) :
    RunsAll engine [dropTable false after, renameTable before after] db final ↔
      (db after.text).isSome ∧
        final = Function.update (Function.update db before.text none) after.text
          (some { stored with definition := { stored.definition with table := after } }) := by
  have still : Function.update db after.text none before.text = some stored := by
    rwa [Function.update_of_ne apart]
  simp only [runsAll_cons_iff]
  constructor
  · rintro ⟨_, dropped, _, renamed, finished⟩
    cases dropped with
    | dropTable replaced =>
      cases renamed with
      | renameTable known _ =>
        cases finished
        obtain rfl := Option.some.inj (known.symm.trans still)
        rw [replaced, Function.update_comm apart.symm, Function.update_idem]
        exact ⟨rfl, rfl⟩
  · rintro ⟨replaced, rfl⟩
    obtain ⟨old, replaced⟩ := Option.isSome_iff_exists.mp replaced
    refine ⟨_, .dropTable replaced, _, .renameTable still (Function.update_self ..), ?_⟩
    rw [Function.update_comm apart.symm, Function.update_idem]
    exact .nil _

theorem exists_runsAll_createIndexes {indexes : List Index} {stored : StoredTable}
    (present : db t.text = some stored)
    (allows : ∀ i ∈ indexes, ∀ s, s.rows = stored.rows → engine.allows s i)
    (distinct : (indexes.map (·.name)).Nodup)
    (fresh : ∀ name other, db name = some other →
      ∀ i ∈ indexes, i.name ∉ other.indexes.map (·.name)) :
    ∃ final, RunsAll engine (indexes.map fun i => createIndex t i) db final := by
  induction indexes generalizing db stored with
  | nil => exact ⟨db, .nil db⟩
  | cons i rest ih =>
    rw [List.map_cons, List.nodup_cons] at distinct
    have first : (createIndex t i).Runs engine db
        (Function.update db t.text (some { stored with indexes := stored.indexes ++ [i] })) := by
      refine .createIndex present ?_ (allows i List.mem_cons_self stored rfl)
      intro name other known
      exact fresh name other known i List.mem_cons_self
    have still : ∀ name other,
        Function.update db t.text (some { stored with indexes := stored.indexes ++ [i] }) name =
          some other →
        ∀ j ∈ rest, j.name ∉ other.indexes.map (·.name) := by
      intro name other known j member
      have apart : j.name ≠ i.name := by
        intro same
        exact distinct.1 (same ▸ List.mem_map_of_mem member)
      by_cases own : name = t.text
      · rw [own, Function.update_self] at known
        obtain rfl := Option.some.inj known
        have before := fresh t.text stored present j (List.mem_cons_of_mem i member)
        simpa [apart] using before
      · rw [Function.update_of_ne own] at known
        exact fresh name other known j (List.mem_cons_of_mem i member)
    have grown : Function.update db t.text
        (some { stored with indexes := stored.indexes ++ [i] }) t.text =
          some { stored with indexes := stored.indexes ++ [i] } := Function.update_self ..
    obtain ⟨final, later⟩ := ih grown
      (fun j member => allows j (List.mem_cons_of_mem i member)) distinct.2 still
    exact ⟨final, .cons first later⟩

theorem eq_of_runsAll_createIndexes {indexes : List Index} {stored : StoredTable}
    (present : db t.text = some stored)
    (run : RunsAll engine (indexes.map fun i => createIndex t i) db final) :
    final = Function.update db t.text
      (some { stored with indexes := stored.indexes ++ indexes }) := by
  induction indexes generalizing db stored with
  | nil =>
    cases run
    rw [List.append_nil, ← present, Function.update_eq_self]
  | cons i rest ih =>
    obtain ⟨middle, ran, run⟩ := runsAll_cons_iff.mp run
    cases ran with
    | createIndex known _ _ =>
      obtain rfl := Option.some.inj (known.symm.trans present)
      rw [ih (Function.update_self ..) run, Function.update_idem, List.append_assoc,
        List.singleton_append]

end Ddl

end SqlComposer
