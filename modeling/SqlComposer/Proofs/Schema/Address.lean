import SqlComposer.Proofs.Schema.Effect
import SqlComposer.Proofs.Statement.Identifier
import SqlComposer.Proofs.Statement.Target
import SqlComposer.Schema.Basic

/-!
The text that each operation on a table writes for its name. Models and builders put the prefix in
front of the last segment, drops and renames put it in front of the whole name, so the operations
address one table exactly when there is no prefix or no point (`Schema.addresses_iff`).
-/

namespace SqlComposer

/-! ## Quoted tables -/

namespace Dialect

variable (d : Dialect)

theorem quoteTable_of_free (tablePrefix : String) {name : String} (free : '.' ∉ name.toList) :
    d.quoteTable ⟨tablePrefix, name⟩ = d.quoteIdentifier (tablePrefix ++ name) := by
  rw [quoteTable, Fragment.prefixed, Text.cutLastDot_eq_none free]
  exact String.append_empty

theorem quoteTable_append (tablePrefix schema : String) {table : String}
    (free : '.' ∉ table.toList) :
    d.quoteTable ⟨tablePrefix, schema ++ "." ++ table⟩ =
      d.quoteIdentifier schema ++ "." ++ d.quoteIdentifier (tablePrefix ++ table) := by
  rw [quoteTable, Fragment.prefixed, Text.cutLastDot_append schema free]
  calc
    _ = d.quoteIdentifier schema ++ ("." ++ (d.quoteIdentifier (tablePrefix ++ table) ++ "")) := rfl
    _ = _ := by rw [String.append_empty, String.append_assoc]

/-- A prefix on the last segment and one on the whole name are written alike only where there is
nothing to tell them apart. -/
theorem quoteTable_eq_quoteTable_append_iff (tablePrefix name : String) :
    d.quoteTable ⟨tablePrefix, name⟩ = d.quoteTable ⟨"", tablePrefix ++ name⟩ ↔
      tablePrefix = "" ∨ '.' ∉ (tablePrefix ++ name).toList := by
  have star : d.quote ≠ '*' := by cases d <;> decide
  have point : ∀ rest : List Char, ('.' :: rest).head? ≠ some d.quote := by
    intro rest
    cases d <;> simp [quote]
  -- The last point of the whole stands in the name if there is one, and else in the prefix.
  by_cases inName : '.' ∈ name.toList
  · obtain ⟨schema, table, rfl, free⟩ := Text.exists_segments inName
    have whole : tablePrefix ++ (schema ++ "." ++ table) =
        (tablePrefix ++ schema) ++ "." ++ table := by
      simp [String.append_assoc]
    rw [whole, quoteTable_append d _ _ free, quoteTable_append d _ _ free]
    constructor
    · intro same
      have texts := congrArg String.toList same
      simp only [String.toList_append, List.append_assoc] at texts
      obtain ⟨schemas, -⟩ := quoteIdentifier_append_inj star (point _) (point _) texts
      left
      have lengths := congrArg (·.toList.length) schemas
      simp only [String.toList_append, List.length_append] at lengths
      apply String.toList_injective
      exact List.length_eq_zero_iff.mp (by omega)
    · rintro (rfl | free)
      · simp
      · exact absurd (by simp) free
  · by_cases inPrefix : '.' ∈ tablePrefix.toList
    · obtain ⟨schema, table, rfl, free⟩ := Text.exists_segments inPrefix
      have whole : (schema ++ "." ++ table) ++ name = schema ++ "." ++ (table ++ name) := by
        simp [String.append_assoc]
      have tail : '.' ∉ (table ++ name).toList := by
        simp [free, inName]
      rw [quoteTable_of_free d _ inName, whole, quoteTable_append d _ _ tail]
      constructor
      · intro same
        have texts := congrArg String.toList same
        simp only [String.toList_append, List.append_assoc] at texts
        rw [← List.append_nil (d.quoteIdentifier _).toList] at texts
        obtain ⟨-, rest⟩ := quoteIdentifier_append_inj star (by simp) (point _) texts
        cases rest
      · rintro (none | free)
        · simp at none
        · exact absurd (by simp) free
    · have free : '.' ∉ (tablePrefix ++ name).toList := by
        simp [inPrefix, inName]
      rw [quoteTable_of_free d _ inName, quoteTable_of_free d _ free]
      simp [inPrefix, inName]

end Dialect

/-! ## The tables that statements name -/

namespace Text.Occurs

variable {part whole : String}

theorem refl (text : String) : Occurs text text := ⟨"", "", by simp⟩

theorem after (occurs : Occurs part whole) (text : String) : Occurs part (text ++ whole) := by
  obtain ⟨front, back, rfl⟩ := occurs
  exact ⟨text ++ front, back, by simp [String.append_assoc]⟩

theorem before (occurs : Occurs part whole) (text : String) : Occurs part (whole ++ text) := by
  obtain ⟨front, back, rfl⟩ := occurs
  exact ⟨front, back ++ text, by simp [String.append_assoc]⟩

end Text.Occurs

namespace Ddl

def tables (d : Dialect) : Ddl → List TableName
  | createType _ => []
  | createTable _ definition => [definition.table]
  | dropTable _ t => [t]
  | renameTable first second => [first, second]
  | copyRows source target _ => [source, target]
  | addColumn t _ | changeColumn t _ | renameColumn t _ _ | dropColumn t _ | commentColumn t _ _
  | createIndex t _ | addPrimary t _ | dropPrimary t _ => [t]
  | dropIndex t _ =>
    match d with
    | .postgres | .sqlite => []
    | _ => [t]
  | renameIndex t _ _ =>
    match d with
    | .postgres => []
    | _ => [t]

variable {d : Dialect} {ddl : Ddl} {t : TableName}

theorem occurs_alterText (t : TableName) (action : String) :
    Text.Occurs (d.quoteTable t) (d.alterText t action) :=
  (((Text.Occurs.refl _).after "ALTER TABLE ").before " ").before action

theorem occurs_sql (named : t ∈ ddl.tables d) : Text.Occurs (d.quoteTable t) (ddl.sql d) := by
  have own := Text.Occurs.refl (d.quoteTable t)
  cases ddl with
  | createType options => cases named
  | createTable ifAbsent definition =>
    obtain rfl := List.mem_singleton.mp named
    unfold sql Dialect.tableText
    exact ((((own.before _).before _).before _).before _).after _
  | dropTable ifExists table =>
    obtain rfl := List.mem_singleton.mp named
    exact own.after _
  | renameTable first second =>
    rcases List.mem_cons.mp named with rfl | last
    · exact occurs_alterText _ _
    · obtain rfl := List.mem_singleton.mp last
      exact (own.after _).after _
  | copyRows source target columns =>
    unfold sql
    rcases List.mem_cons.mp named with rfl | last
    · exact own.after _
    · obtain rfl := List.mem_singleton.mp last
      exact ((((((own.after _).before _).before _).before _).before _).before _).before _
  | addColumn table c =>
    obtain rfl := List.mem_singleton.mp named
    exact occurs_alterText _ _
  | changeColumn table c =>
    obtain rfl := List.mem_singleton.mp named
    cases d <;> exact occurs_alterText _ _
  | renameColumn table first second =>
    obtain rfl := List.mem_singleton.mp named
    exact occurs_alterText _ _
  | dropColumn table name =>
    obtain rfl := List.mem_singleton.mp named
    exact occurs_alterText _ _
  | commentColumn table column text =>
    obtain rfl := List.mem_singleton.mp named
    exact ((((own.after _).before _).before _).before _).before _
  | createIndex table i =>
    obtain rfl := List.mem_singleton.mp named
    exact (((own.after _).before _).before _).before _
  | dropIndex table name =>
    cases d with
    | postgres | sqlite => cases named
    | generic | mysql =>
      obtain rfl := List.mem_singleton.mp named
      exact own.after _
  | renameIndex table first second =>
    cases d with
    | postgres => cases named
    | generic | mysql | sqlite =>
      obtain rfl := List.mem_singleton.mp named
      exact occurs_alterText _ _
  | addPrimary table k =>
    obtain rfl := List.mem_singleton.mp named
    exact occurs_alterText _ _
  | dropPrimary table key =>
    obtain rfl := List.mem_singleton.mp named
    cases d <;> exact occurs_alterText _ _

end Ddl

namespace Table

theorem tableName_apply (t : Table) (c : Command) : (t.apply c).tableName = t.tableName := by
  cases c with
  | createIndex i =>
    rw [apply, createIndex, noteIndex, foldl_modifyColumn_eq]
    rfl
  | createPrimary k =>
    rw [apply, createPrimary, foldl_modifyColumn_eq]
    rfl
  | dropColumn name =>
    rw [apply, dropColumn_eq]
    rfl
  | addColumn c => rfl
  | changeColumn c => rfl
  | renameColumn before after => rfl
  | dropIndex name => rfl
  | renameIndex before after => rfl
  | dropPrimary => rfl

theorem tableName_applyAll (t : Table) (commands : List Command) :
    (t.applyAll commands).tableName = t.tableName := by
  induction commands generalizing t with
  | nil => rfl
  | cons c rest ih =>
    rw [applyAll_cons, ih]
    exact t.tableName_apply c

end Table

namespace Blueprint

theorem tableName_step (b : Blueprint) (step : BlueprintStep) :
    (b.step step).table.tableName = b.table.tableName := by
  cases step <;> rfl

theorem tableName_draw (b : Blueprint) (steps : List BlueprintStep) :
    (b.draw steps).table.tableName = b.table.tableName := by
  induction steps generalizing b with
  | nil => rfl
  | cons step rest ih =>
    have first := b.tableName_step step
    exact (ih (b.step step)).trans first

end Blueprint

def TableName.temporary (t : TableName) : TableName := { t with name := "__temp__" ++ t.name }

namespace Dialect

variable {d : Dialect} {t : Table} {ddl : Ddl} {table : TableName}

theorem tables_prerequisites {c : Column} (made : ddl ∈ d.prerequisites c) :
    ddl.tables d = [] := by
  unfold prerequisites at made
  split at made
  · rw [List.mem_singleton.mp made]
    rfl
  · cases made

theorem tables_followUps {c : Column} {own : TableName} (made : ddl ∈ d.followUps own c) :
    ddl.tables d = [own] := by
  unfold followUps at made
  split at made
  · obtain ⟨text, -, rfl⟩ := List.mem_map.mp made
    rfl
  · cases made

theorem tables_createIndexes (made : ddl ∈ createIndexes t) : ddl.tables d = [t.tableName] := by
  obtain ⟨i, -, rfl⟩ := List.mem_map.mp made
  rfl

theorem eq_of_mem_tables_createTable {ifAbsent : Bool} (made : ddl ∈ d.createTable ifAbsent t)
    (named : table ∈ ddl.tables d) : table = t.tableName := by
  unfold createTable at made
  simp only [List.mem_append, or_assoc] at made
  rcases made with made | made | made | made
  · obtain ⟨c, -, made⟩ := List.mem_flatMap.mp made
    rw [tables_prerequisites made] at named
    cases named
  · rw [List.mem_singleton.mp made] at named
    exact List.mem_singleton.mp named
  · split at made
    · cases made
    · rw [tables_createIndexes made] at named
      exact List.mem_singleton.mp named
  · obtain ⟨c, -, made⟩ := List.mem_flatMap.mp made
    rw [tables_followUps made] at named
    exact List.mem_singleton.mp named

theorem eq_of_mem_tables_rebuild {c : Command} (made : ddl ∈ d.rebuild t c)
    (named : table ∈ ddl.tables d) : table = t.tableName.temporary ∨ table = t.tableName := by
  have target : (t.apply c).withKeyedNumbers.tableName = t.tableName := t.tableName_apply c
  have copy : (t.apply c).withKeyedNumbers.copy.tableName = t.tableName.temporary :=
    congrArg TableName.temporary target
  unfold rebuild at made
  simp only [copy, target, List.mem_append, List.mem_cons, List.not_mem_nil, or_false,
    or_assoc] at made
  rcases made with rfl | made | rfl | rfl | rfl | made
  · exact .inl (List.mem_singleton.mp named)
  · exact .inl ((eq_of_mem_tables_createTable made named).trans copy)
  · rcases List.mem_cons.mp named with same | last
    · exact .inr same
    · exact .inl (List.mem_singleton.mp last)
  · exact .inr (List.mem_singleton.mp named)
  · rcases List.mem_cons.mp named with same | last
    · exact .inl same
    · exact .inr (List.mem_singleton.mp last)
  · rw [tables_createIndexes made, target] at named
    exact .inr (List.mem_singleton.mp named)

theorem eq_of_mem_tables_single {change : Ddl} (own : change.tables d = [t.tableName])
    (made : ddl ∈ [change]) (named : table ∈ ddl.tables d) : table = t.tableName := by
  rw [List.mem_singleton.mp made, own] at named
  exact List.mem_singleton.mp named

theorem eq_of_mem_tables_column {c : Column} {change : Ddl}
    (own : change.tables d = [t.tableName])
    (made : ddl ∈ d.prerequisites c ++ [change] ++ d.followUps t.tableName c)
    (named : table ∈ ddl.tables d) : table = t.tableName := by
  simp only [List.mem_append, or_assoc] at made
  rcases made with made | made | made
  · rw [tables_prerequisites made] at named
    cases named
  · exact eq_of_mem_tables_single own made named
  · rw [tables_followUps made] at named
    exact List.mem_singleton.mp named

theorem eq_of_mem_tables_dropIndex {name : String} (made : ddl = .dropIndex t.tableName name)
    (named : table ∈ ddl.tables d) : table = t.tableName := by
  subst made
  cases d with
  | postgres | sqlite => cases named
  | generic | mysql => exact List.mem_singleton.mp named

theorem eq_of_mem_tables_statements {c : Command} (made : ddl ∈ d.statements t c)
    (named : table ∈ ddl.tables d) : table = t.tableName.temporary ∨ table = t.tableName := by
  cases c with
  | addColumn c => exact .inr (eq_of_mem_tables_column rfl made named)
  | changeColumn c =>
    cases d with
    | sqlite => exact eq_of_mem_tables_rebuild made named
    | generic | mysql | postgres => exact .inr (eq_of_mem_tables_column rfl made named)
  | renameColumn before after => exact .inr (eq_of_mem_tables_single rfl made named)
  | dropColumn name =>
    rcases List.mem_append.mp made with made | made
    · obtain ⟨i, -, same⟩ := List.mem_map.mp made
      exact .inr (eq_of_mem_tables_dropIndex same.symm named)
    · exact .inr (eq_of_mem_tables_single rfl made named)
  | createIndex i => exact .inr (eq_of_mem_tables_single rfl made named)
  | dropIndex name => exact .inr (eq_of_mem_tables_dropIndex (List.mem_singleton.mp made) named)
  | renameIndex before after =>
    cases d with
    | sqlite =>
      rcases List.mem_cons.mp made with same | made
      · exact .inr (eq_of_mem_tables_dropIndex same named)
      · obtain ⟨i, -, rfl⟩ := List.mem_map.mp made
        exact .inr (List.mem_singleton.mp named)
    | postgres =>
      obtain rfl := List.mem_singleton.mp made
      cases named
    | generic | mysql => exact .inr (eq_of_mem_tables_single rfl made named)
  | createPrimary k =>
    cases d with
    | sqlite => exact eq_of_mem_tables_rebuild made named
    | generic | mysql | postgres => exact .inr (eq_of_mem_tables_single rfl made named)
  | dropPrimary =>
    cases d with
    | sqlite => exact eq_of_mem_tables_rebuild made named
    | generic | mysql | postgres => exact .inr (eq_of_mem_tables_single rfl made named)

end Dialect

/-! ## One text for all operations -/

namespace Schema

def setting (s : Schema) : Setting := ⟨s.dialect, s.options.tablePrefix⟩

/-- Every operation on a name writes a text for the table. A rebuilt table is the only other that
an alteration names, under its temporary name. -/
structure Addresses (s : Schema) (name text : String) : Prop where
  created : ∀ ifAbsent steps,
    ∀ ddl ∈ s.dialect.createTable ifAbsent ((s.blueprint name).draw steps).finish.preview,
      ∀ table ∈ ddl.tables s.dialect,
        s.dialect.quoteTable table = text ∧ Text.Occurs text (ddl.sql s.dialect)
  altered : ∀ t : Table, t.tableName = (s.emptyTable name).tableName → ∀ done c,
    ∀ ddl ∈ s.dialect.statements (t.applyAll done) c, ∀ table ∈ ddl.tables s.dialect,
      table = (s.emptyTable name).tableName.temporary ∨
        s.dialect.quoteTable table = text ∧ Text.Occurs text (ddl.sql s.dialect)
  dropped : ∀ ifExists, s.dropStatement ifExists name =
    ⟨"DROP TABLE " ++ (if ifExists then "IF EXISTS " else "") ++ text, []⟩
  renamedFrom : ∀ other, ∃ target,
    s.renameStatement name other = ⟨"ALTER TABLE " ++ text ++ " RENAME TO " ++ target, []⟩
  renamedTo : ∀ other, ∃ source,
    s.renameStatement other name = ⟨"ALTER TABLE " ++ source ++ " RENAME TO " ++ text, []⟩
  selected : (({ setting := s.setting } : Builder).table name).statement =
    ⟨"select * from " ++ text, []⟩
  requested : ∀ (c : Clauses Query) (r : Request) (answer : Statement),
    c.table? = some (Name.parse name) → r.statement s.setting c = .ok answer →
      Text.Occurs text answer.sql

variable {s : Schema} {name : String}

theorem table_statement_sql (name : String) :
    ((s.setting.table { table := name }).statement s.setting.dialect.style).sql =
      s.dialect.quoteTable (s.emptyTable name).tableName := rfl

theorem select_statement_of_plain (plain : Name.parse name = { table := name }) :
    (({ setting := s.setting } : Builder).table name).statement =
      ⟨"select * from " ++ s.dialect.quoteTable (s.emptyTable name).tableName, []⟩ := by
  have body := Setting.select_source_statement s.setting { table := name }
  rw [Builder.statement, Builder.statementOf, Builder.fragment, Builder.query, Setting.query_mk,
    Builder.table, plain, ← table_statement_sql]
  exact body

theorem renameStatement_eq (s : Schema) (before after : String) :
    s.renameStatement before after =
      ⟨"ALTER TABLE " ++ s.dialect.quoteTable ⟨"", s.fullName before⟩ ++ " RENAME TO " ++
        s.dialect.quoteTable ⟨"", s.fullName after⟩, []⟩ := by
  have joint : ∀ a b c d : String, a ++ b ++ " " ++ (c ++ d) = a ++ b ++ (" " ++ c) ++ d := by
    intro a b c d
    simp [String.append_assoc]
  exact congrArg (Statement.mk · []) (joint _ _ _ _)

namespace Addresses

variable {text : String} (plain : Name.parse name = { table := name })
  (addresses : s.Addresses name text)
include plain addresses

theorem text_eq : text = s.dialect.quoteTable (s.emptyTable name).tableName := by
  have selected := congrArg Statement.sql addresses.selected
  rw [select_statement_of_plain plain] at selected
  exact ((String.append_right_inj _).mp selected).symm

theorem quoteTable_eq :
    s.dialect.quoteTable (s.emptyTable name).tableName =
      s.dialect.quoteTable ⟨"", s.fullName name⟩ := by
  have dropped := congrArg Statement.sql (addresses.dropped false)
  exact (addresses.text_eq plain).symm.trans ((String.append_right_inj _).mp dropped).symm

end Addresses

theorem addresses_of_quoteTable_eq (plain : Name.parse name = { table := name })
    (alike : s.dialect.quoteTable (s.emptyTable name).tableName =
      s.dialect.quoteTable ⟨"", s.fullName name⟩) :
    s.Addresses name (s.dialect.quoteTable (s.emptyTable name).tableName) where
  created ifAbsent steps ddl made table named := by
    have own : table = (s.emptyTable name).tableName := by
      calc
        table = ((s.blueprint name).draw steps).finish.preview.tableName :=
          Dialect.eq_of_mem_tables_createTable made named
        _ = ((s.blueprint name).draw steps).table.tableName := Table.tableName_applyAll _ _
        _ = (s.emptyTable name).tableName := Blueprint.tableName_draw _ _
    rw [← own]
    exact ⟨rfl, Ddl.occurs_sql named⟩
  altered t modelled done c ddl made table named := by
    have model : (t.applyAll done).tableName = (s.emptyTable name).tableName :=
      (t.tableName_applyAll done).trans modelled
    rcases Dialect.eq_of_mem_tables_statements made named with temporary | own
    · exact .inl (model ▸ temporary)
    · rw [← model, ← own]
      exact .inr ⟨rfl, Ddl.occurs_sql named⟩
  dropped ifExists := by
    rw [alike]
    rfl
  renamedFrom other := by
    refine ⟨s.dialect.quoteTable ⟨"", s.fullName other⟩, ?_⟩
    rw [alike]
    exact s.renameStatement_eq name other
  renamedTo other := by
    refine ⟨s.dialect.quoteTable ⟨"", s.fullName other⟩, ?_⟩
    rw [alike]
    exact s.renameStatement_eq other name
  selected := select_statement_of_plain plain
  requested c r answer source made := by
    rw [plain] at source
    rw [← table_statement_sql]
    exact Request.occurs_table_of_statement source made

/-- All operations on a plain name write one text exactly when the connection has no prefix or
neither the prefix nor the name has a point, and then it is the name of the model in quotes. -/
theorem addresses_iff {text : String} (trimmed : Text.trim name = name)
    (unlabelled : ¬" as ".toList <:+: name.toList.map Char.toLower) :
    s.Addresses name text ↔
      text = s.dialect.quoteTable (s.emptyTable name).tableName ∧
        (s.options.tablePrefix = "" ∨ '.' ∉ (s.fullName name).toList) := by
  have plain := Name.parse_of_plain trimmed unlabelled
  have texts := s.dialect.quoteTable_eq_quoteTable_append_iff s.options.tablePrefix name
  constructor
  · intro addresses
    exact ⟨addresses.text_eq plain, texts.mp (addresses.quoteTable_eq plain)⟩
  · rintro ⟨rfl, condition⟩
    exact addresses_of_quoteTable_eq plain (texts.mpr condition)

theorem addresses_iff_of_qualified_and_prefixed :
    ({ dialect := .postgres } : Schema).Addresses "public.users" "\"public\".\"users\"" ∧
      ({ dialect := .mysql, options := { tablePrefix := "app_" } } : Schema).Addresses "users"
        "`app_users`" := by
  constructor
  · apply (addresses_iff (by decide +kernel) (by decide +kernel)).mpr
    decide +kernel
  · apply (addresses_iff (by decide +kernel) (by decide +kernel)).mpr
    decide +kernel

/-- With a prefix, a name in a schema is dropped and renamed as a table of another schema. -/
theorem not_addresses_of_prefixed_schema :
    ¬∃ text, ({ dialect := .postgres, options := { tablePrefix := "app_" } } : Schema).Addresses
      "public.users" text := by
  rintro ⟨text, addresses⟩
  have alike := addresses.quoteTable_eq (by decide +kernel)
  revert alike
  decide +kernel

end Schema

end SqlComposer
