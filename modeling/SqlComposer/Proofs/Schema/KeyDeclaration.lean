import SqlComposer.Proofs.Schema.Address

/-!
What the statement that makes a table declares as its key. A column that numbers the rows declares
the key behind its own definition, and any other key is a constraint of the table. The two are
written from different fields of the model, so a model's key is declared once only if the column
that numbers the rows is the whole key (`Table.declaresKey_defineTable_iff`).
-/

namespace SqlComposer

def TableDefinition.keyDeclarations (d : Dialect) (t : TableDefinition) : List String :=
  (t.columns.filter (·.autoIncrement)).map d.columnText ++ t.primary.toList.map d.primaryText

theorem TableDefinition.occurs_of_mem_keyDeclarations {d : Dialect} {t : TableDefinition}
    {text : String} (declared : text ∈ t.keyDeclarations d) :
    Text.Occurs "PRIMARY KEY" text := by
  rcases List.mem_append.mp declared with column | constraint
  · obtain ⟨c, member, rfl⟩ := List.mem_map.mp column
    have numbers : c.autoIncrement = true := (List.mem_filter.mp member).2
    have clause : Text.Occurs "PRIMARY KEY" d.autoIncrementClause := by
      cases d with
      | generic | mysql => exact ⟨" AUTO_INCREMENT ", "", rfl⟩
      | postgres => exact ⟨" ", "", rfl⟩
      | sqlite => exact ⟨" ", " AUTOINCREMENT", rfl⟩
    rw [Dialect.columnText, if_pos numbers]
    exact ((clause.after _).before _).before _
  · obtain ⟨k, -, rfl⟩ := List.mem_map.mp constraint
    have opening : Text.Occurs "PRIMARY KEY" "PRIMARY KEY (" := ⟨"", " (", rfl⟩
    exact ((opening.after _).before _).before _

/-- A key that is there is declared once, and one that is not there is not declared. -/
def Table.DeclaresKey (t : Table) (d : Dialect) (definition : TableDefinition) : Prop :=
  (definition.keyDeclarations d).length = if t.primary.isSome then 1 else 0

instance Table.decidableDeclaresKey (t : Table) (d : Dialect) (definition : TableDefinition) :
    Decidable (t.DeclaresKey d definition) :=
  inferInstanceAs (Decidable (_ = _))

namespace Dialect

variable {d : Dialect} {t : Table}

theorem mem_createTable_iff {ifAbsent absent : Bool} {definition : TableDefinition} :
    Ddl.createTable absent definition ∈ d.createTable ifAbsent t ↔
      absent = ifAbsent ∧ definition = d.defineTable t := by
  have prerequisites : ∀ c, Ddl.createTable absent definition ∉ d.prerequisites c := by
    intro c
    unfold prerequisites
    split <;> simp
  have followUps : ∀ c, Ddl.createTable absent definition ∉ d.followUps t.tableName c := by
    intro c
    unfold followUps
    split <;> simp
  have indexes : Ddl.createTable absent definition ∉
      if d.declaresIndexes then [] else createIndexes t := by
    split <;> simp [createIndexes]
  simp [createTable, prerequisites, followUps, indexes]

theorem length_keyDeclarations_defineTable :
    ((d.defineTable t).keyDeclarations d).length =
      t.columns.countP (·.autoIncrement) +
        (if t.declaresPrimaryInline then none else t.primary).toList.length := by
  have numbered : (t.columns.map d.define).countP (·.autoIncrement) =
      t.columns.countP (·.autoIncrement) := List.countP_map
  rw [TableDefinition.keyDeclarations, List.length_append, List.length_map, List.length_map,
    ← List.countP_eq_length_filter]
  exact congrArg (· + _) numbered

end Dialect

namespace Table

variable {t : Table} {c : Column}

/-- The key is this column alone, and its name means no other column. -/
def KeyedAloneBy (t : Table) (c : Column) : Prop :=
  (∃ k, t.primary = some k ∧ k.columns = [c.name]) ∧ t.column? c.name = some c

instance decidableKeyedAloneBy (t : Table) (c : Column) : Decidable (t.KeyedAloneBy c) :=
  have : Decidable (∃ k, t.primary = some k ∧ k.columns = [c.name]) :=
    decidable_of_iff (t.primary.any fun k => k.columns = [c.name]) (by simp [Option.any_eq_true])
  inferInstanceAs (Decidable (_ ∧ _))

theorem declaresPrimaryInline_iff :
    t.declaresPrimaryInline = true ↔
      ∃ c ∈ t.columns, c.autoIncrement = true ∧ t.KeyedAloneBy c := by
  unfold declaresPrimaryInline
  constructor
  · intro inline
    split at inline
    · next keyName name key =>
      obtain ⟨found, lookup, numbers⟩ := (Option.any_eq_true _ _).mp inline
      have named : found.name = name := by simpa using List.find?_some lookup
      subst named
      exact ⟨found, List.mem_of_find?_eq_some lookup, numbers, ⟨_, key, rfl⟩, lookup⟩
    · cases inline
  · rintro ⟨c, -, numbers, ⟨⟨keyName, columns⟩, key, rfl⟩, lookup⟩
    rw [key]
    simp [lookup, numbers]

section Single

variable (single : t.columns.countP (·.autoIncrement) ≤ 1)
include single

theorem eq_of_numbers {other : Column} (member : c ∈ t.columns) (numbers : c.autoIncrement = true)
    (known : other ∈ t.columns) (same : other.autoIncrement = true) : other = c := by
  have first : c ∈ t.columns.filter (·.autoIncrement) := List.mem_filter.mpr ⟨member, numbers⟩
  have second : other ∈ t.columns.filter (·.autoIncrement) := List.mem_filter.mpr ⟨known, same⟩
  rw [List.countP_eq_length_filter] at single
  match numbered : t.columns.filter (·.autoIncrement) with
  | [] =>
    rw [numbered] at first
    cases first
  | [only] =>
    rw [numbered] at first second
    exact (List.mem_singleton.mp second).trans (List.mem_singleton.mp first).symm
  | _ :: _ :: _ => simp [numbered] at single

theorem declaresPrimaryInline_iff_of_numbers (member : c ∈ t.columns)
    (numbers : c.autoIncrement = true) :
    t.declaresPrimaryInline = true ↔
      ∀ c ∈ t.columns, c.autoIncrement = true → t.KeyedAloneBy c := by
  rw [declaresPrimaryInline_iff]
  constructor
  · rintro ⟨only, known, same, alone⟩ other present numbered
    rw [eq_of_numbers single known same present numbered]
    exact alone
  · intro alone
    exact ⟨c, member, numbers, alone c member numbers⟩

theorem declaresKey_defineTable_iff (d : Dialect) :
    t.DeclaresKey d (d.defineTable t) ↔
      ∀ c ∈ t.columns, c.autoIncrement = true → t.KeyedAloneBy c := by
  unfold DeclaresKey
  rw [Dialect.length_keyDeclarations_defineTable]
  by_cases numbered : ∃ c ∈ t.columns, c.autoIncrement = true
  -- The column declares a key by itself, so there must be one and the constraint be left out.
  · obtain ⟨c, member, numbers⟩ := numbered
    have positive : 0 < t.columns.countP (·.autoIncrement) :=
      List.countP_pos_iff.mpr ⟨c, member, numbers⟩
    have one : t.columns.countP (·.autoIncrement) = 1 := Nat.le_antisymm single positive
    rw [← declaresPrimaryInline_iff_of_numbers single member numbers, one]
    cases inline : t.declaresPrimaryInline with
    | true =>
      obtain ⟨-, -, -, ⟨k, key, -⟩, -⟩ := declaresPrimaryInline_iff.mp inline
      simp [key]
    | false => cases t.primary <;> simp
  · have none : t.columns.countP (·.autoIncrement) = 0 := by
      apply List.countP_eq_zero.mpr
      intro c member numbers
      exact numbered ⟨c, member, numbers⟩
    have constraint : ¬t.declaresPrimaryInline = true := by
      intro inline
      obtain ⟨c, member, numbers, -⟩ := declaresPrimaryInline_iff.mp inline
      exact numbered ⟨c, member, numbers⟩
    rw [none, if_neg constraint]
    apply iff_of_true
    · cases t.primary <;> simp
    · intro c member numbers
      exact absurd ⟨c, member, numbers⟩ numbered

end Single

end Table

namespace Schema

/-- Whatever a blueprint is drawn of, the statement that makes its table declares the key as often
as there is one exactly if a column that numbers the rows is all of the key. -/
theorem declaresKey_blueprint_iff (s : Schema) (name : String) (steps : List BlueprintStep)
    (ifAbsent : Bool)
    (single : ((s.blueprint name).draw steps).finish.preview.columns.countP (·.autoIncrement) ≤ 1) :
    (∀ absent definition,
      Ddl.createTable absent definition ∈
          s.dialect.createTable ifAbsent ((s.blueprint name).draw steps).finish.preview →
        ((s.blueprint name).draw steps).finish.preview.DeclaresKey s.dialect definition) ↔
      ∀ c ∈ ((s.blueprint name).draw steps).finish.preview.columns, c.autoIncrement = true →
        ((s.blueprint name).draw steps).finish.preview.KeyedAloneBy c := by
  generalize ((s.blueprint name).draw steps).finish.preview = t at single ⊢
  rw [← Table.declaresKey_defineTable_iff single s.dialect]
  constructor
  · intro declares
    exact declares ifAbsent _ (Dialect.mem_createTable_iff.mpr ⟨rfl, rfl⟩)
  · intro declares absent definition made
    obtain ⟨-, rfl⟩ := Dialect.mem_createTable_iff.mp made
    exact declares

theorem declaresKey_blueprint_of_numbered_key :
    let s : Schema := { dialect := .mysql }
    let steps : List BlueprintStep :=
      [.declare (Declaration.bigIncrements "id").column,
        .declare ((Declaration.string "email").column.modify .unique),
        .primary ["id", "email"],
        .primary ["id"]]
    let t := ((s.blueprint "users").draw steps).finish.preview
    t.columns.countP (·.autoIncrement) ≤ 1 ∧
      (∀ absent definition,
        Ddl.createTable absent definition ∈ s.dialect.createTable true t →
          t.DeclaresKey s.dialect definition) ∧
      (s.dialect.defineTable t).keyDeclarations s.dialect =
        ["`id` BIGINT UNSIGNED NOT NULL AUTO_INCREMENT PRIMARY KEY"] := by
  intro s steps t
  have single : t.columns.countP (·.autoIncrement) ≤ 1 := by decide +kernel
  refine ⟨single, ?_, by decide +kernel⟩
  apply (declaresKey_blueprint_iff s "users" steps true single).mpr
  decide +kernel

/-- Not every blueprint has its key declared once: where the column that numbers the rows is one
of two in the key, it declares a key and so does the constraint. -/
theorem not_declaresKey_of_numbered_column_in_wider_key :
    ¬∀ (s : Schema) (steps : List BlueprintStep) (definition : TableDefinition),
      ((s.blueprint "t").draw steps).finish.preview.columns.countP (·.autoIncrement) ≤ 1 →
        Ddl.createTable false definition ∈
            s.dialect.createTable false ((s.blueprint "t").draw steps).finish.preview →
          ((s.blueprint "t").draw steps).finish.preview.DeclaresKey s.dialect definition := by
  intro declares
  have once := declares { dialect := .mysql }
    [.declare (Declaration.bigIncrements "id").column,
      .declare (Declaration.plain "tenant" .integer).column,
      .primary ["id", "tenant"]] _
    (by decide +kernel) (Dialect.mem_createTable_iff.mpr ⟨rfl, rfl⟩)
  revert once
  decide +kernel

end Schema

end SqlComposer
