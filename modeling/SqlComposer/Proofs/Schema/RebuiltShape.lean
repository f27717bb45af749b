import SqlComposer.Proofs.Schema.KeyDeclaration
import SqlComposer.Proofs.Schema.Links
import SqlComposer.Proofs.Schema.Rebuild

/-!
What a rebuild declares beside what the model that follows it would declare. A rebuild lets only
columns of the key number the rows, and the model goes on numbering them by any column that has
done so before. The two declare the same exactly if the command leaves no such column outside the
key (`Command.LeavesNumbersKeyed`).
-/

namespace SqlComposer

def TableDefinition.declarations (d : Dialect) (t : TableDefinition) : List String :=
  t.columns.map d.columnText ++ t.primary.toList.map d.primaryText

namespace Command

def LeavesNumbersKeyed (t : Table) : Command → Prop
  | changeColumn c =>
    ∀ old ∈ t.columns, old.name ≠ c.name → old.autoIncrement = true → old.primary = true
  | createPrimary k => ∀ old ∈ t.columns, old.autoIncrement = true → old.name ∈ k.columns
  | dropPrimary => ∀ old ∈ t.columns, old.autoIncrement = false
  | _ => True

instance decidableLeavesNumbersKeyed (t : Table) : (c : Command) →
    Decidable (c.LeavesNumbersKeyed t)
  | changeColumn c =>
    inferInstanceAs (Decidable (∀ old ∈ t.columns,
      old.name ≠ c.name → old.autoIncrement = true → old.primary = true))
  | createPrimary k =>
    inferInstanceAs (Decidable (∀ old ∈ t.columns,
      old.autoIncrement = true → old.name ∈ k.columns))
  | dropPrimary => inferInstanceAs (Decidable (∀ old ∈ t.columns, old.autoIncrement = false))
  | addColumn _ | renameColumn _ _ | dropColumn _ | createIndex _ | dropIndex _
  | renameIndex _ _ => inferInstanceAs (Decidable True)

end Command

namespace Table

variable {t : Table} {c : Command}

def NumbersKeyed (t : Table) : Prop :=
  ∀ c ∈ t.columns, c.autoIncrement = true → c.primary = true

theorem withKeyedNumbers_eq_self (keyed : t.NumbersKeyed) : t.withKeyedNumbers = t := by
  have each : ∀ c ∈ t.columns,
      { c with autoIncrement := c.autoIncrement && c.primary } = id c := by
    intro c member
    have stays : (c.autoIncrement && c.primary) = c.autoIncrement := by
      cases numbers : c.autoIncrement with
      | true => rw [keyed c member numbers, Bool.and_self]
      | false => exact Bool.false_and _
    rw [stays]
    rfl
  unfold withKeyedNumbers mapColumns
  rw [List.map_congr_left each, List.map_id]

theorem numbersKeyed_apply_iff (rebuilds : c.Rebuilds) (unique : t.columnNames.Nodup) :
    (t.apply c).NumbersKeyed ↔ c.LeavesNumbersKeyed t := by
  cases rebuilds with
  | changeColumn c =>
    have equation : t.apply (.changeColumn c) = _ := changeColumn_eq unique c
    unfold NumbersKeyed
    rw [equation, List.forall_mem_map]
    apply forall₂_congr
    intro old member
    -- A column that starts to number the rows is marked as of the key.
    by_cases same : old.name = c.name
    · rw [if_pos same]
      apply iff_of_true
      · intro numbers
        exact Bool.or_eq_true_iff.mpr (.inr numbers)
      · intro apart
        exact absurd same apart
    · simp [same]
  | createPrimary k =>
    have equation : t.apply (.createPrimary k) = _ := createPrimary_eq unique k
    unfold NumbersKeyed
    rw [equation, List.forall_mem_map]
    simp [Command.LeavesNumbersKeyed, PrimaryKey.covers]
  | dropPrimary =>
    simp [NumbersKeyed, apply, withoutPrimary, mapColumns, Command.LeavesNumbersKeyed]

end Table

namespace Dialect

variable {t : Table} {c : Command}

theorem columnText_define_ne_of_numbers {c : Column} (numbers : c.autoIncrement = true) :
    sqlite.columnText (sqlite.define { c with autoIncrement := false }) ≠
      sqlite.columnText (sqlite.define c) := by
  intro same
  have texts := congrArg String.toList same
  simp only [columnText, define, numbers, commentClause, supportsUnsigned, Bool.and_false,
    Bool.not_true, Bool.not_false, Bool.and_true, Bool.false_eq_true, if_false, if_true,
    String.append_assoc, String.toList_append, String.append_empty] at texts
  have tails := List.append_cancel_left (List.append_cancel_left texts)
  simp only [← List.append_assoc] at tails
  have bodies := List.append_cancel_right tails
  have numbered : (NativeType.sql sqlite (sqlite.nativeType c)).toList ++ " NOT NULL".toList ++
      sqlite.autoIncrementClause.toList = "INTEGER NOT NULL PRIMARY KEY AUTOINCREMENT".toList := by
    simp only [nativeType, numbers, if_true]
    decide
  rw [numbered] at bodies
  cases given : c.default with
  | none =>
    simp only [given] at bodies
    have last := congrArg List.getLast? bodies
    split at last <;> simp at last
  | some v =>
    simp only [given, Option.map_some] at bodies
    have inside : " DEFAULT ".toList <:+: "INTEGER NOT NULL PRIMARY KEY AUTOINCREMENT".toList := by
      rw [← bodies, String.toList_append, ← List.append_assoc]
      exact List.infix_append _ _ _
    revert inside
    decide

theorem numbersKeyed_of_declarations_eq
    (same : (sqlite.defineTable t.withKeyedNumbers).declarations sqlite =
      (sqlite.defineTable t).declarations sqlite) : t.NumbersKeyed := by
  have lengths : ((sqlite.defineTable t.withKeyedNumbers).columns.map sqlite.columnText).length =
      ((sqlite.defineTable t).columns.map sqlite.columnText).length := by
    simp [defineTable, Table.withKeyedNumbers, Table.mapColumns]
  obtain ⟨columns, -⟩ := List.append_inj same lengths
  simp only [defineTable, Table.withKeyedNumbers, Table.mapColumns, List.map_map] at columns
  intro c member numbers
  by_contra unkeyed
  have cleared : (c.autoIncrement && c.primary) = false := by
    simpa [numbers] using unkeyed
  have each := List.map_inj_left.mp columns c member
  simp only [Function.comp_apply, cleared] at each
  exact columnText_define_ne_of_numbers numbers each

theorem createTable_mem_statements_iff (rebuilds : c.Rebuilds) (unique : t.columnNames.Nodup)
    {absent : Bool} {built : TableDefinition} :
    Ddl.createTable absent built ∈ sqlite.statements t c ↔
      absent = false ∧ built = copyDefinition t c := by
  rw [statements_eq_of_rebuilds rebuilds unique]
  simp [copying]

theorem declarations_copyDefinition_eq_iff (rebuilds : c.Rebuilds)
    (unique : t.columnNames.Nodup) :
    (copyDefinition t c).declarations sqlite =
        (sqlite.defineTable (t.apply c)).declarations sqlite ↔
      c.LeavesNumbersKeyed t := by
  have copy : (copyDefinition t c).declarations sqlite =
      (sqlite.defineTable (t.apply c).withKeyedNumbers).declarations sqlite := rfl
  rw [copy, ← Table.numbersKeyed_apply_iff rebuilds unique]
  constructor
  · exact numbersKeyed_of_declarations_eq
  · intro keyed
    rw [Table.withKeyedNumbers_eq_self keyed]

end Dialect

namespace Table

/-- However a table has been made, a rebuild declares the columns and the key that the model will
have after it exactly if no column outside the key then numbers the rows. -/
theorem rebuild_declares_model_iff {name tablePrefix : String} {options : TableOptions}
    {commands : List Command}
    (fits : Along (fun t c => c.Fits t) { name, tablePrefix, options } commands)
    {c : Command} (rebuilds : c.Rebuilds) :
    (∀ absent built,
      Ddl.createTable absent built ∈
          Dialect.sqlite.statements (applyAll { name, tablePrefix, options } commands) c →
        ∀ ifAbsent made,
          Ddl.createTable ifAbsent made ∈
              Dialect.sqlite.createTable ifAbsent
                ((applyAll { name, tablePrefix, options } commands).apply c) →
            built.declarations Dialect.sqlite = made.declarations Dialect.sqlite) ↔
      c.LeavesNumbersKeyed (applyAll { name, tablePrefix, options } commands) := by
  have named : (applyAll { name, tablePrefix, options } commands).Wellnamed :=
    fits.invariant (fun _ _ named fits => named.apply fits) (wellnamed_empty ..)
  generalize applyAll { name, tablePrefix, options } commands = t at named ⊢
  rw [← Dialect.declarations_copyDefinition_eq_iff rebuilds named.columns_nodup]
  simp only [Dialect.createTable_mem_statements_iff rebuilds named.columns_nodup,
    Dialect.mem_createTable_iff, true_and]
  constructor
  · intro declares
    exact declares false _ ⟨rfl, rfl⟩ false _ rfl
  · rintro same absent built ⟨-, rfl⟩ ifAbsent made rfl
    exact same

theorem rebuild_declares_model_of_change_beside_key :
    let commands : List Command :=
      [.addColumn { name := "id", type := .bigInteger, autoIncrement := true },
        .addColumn { name := "label", type := .string },
        .createIndex ⟨"by_label", ["label"], true⟩,
        .renameColumn "label" "title"]
    let t : Table := applyAll { name := "posts" } commands
    let c : Command :=
      .changeColumn { name := "title", type := .enum, options := ["draft", "final"] }
    Along (fun t c => c.Fits t) { name := "posts" } commands ∧ c.Rebuilds ∧
      ∃ built, Ddl.createTable false built ∈ Dialect.sqlite.statements t c ∧
        built.declarations Dialect.sqlite =
          ["`id` INTEGER NOT NULL PRIMARY KEY AUTOINCREMENT",
            "`title` TEXT NOT NULL CHECK (`title` IN ('draft', 'final'))"] ∧
        built.declarations Dialect.sqlite =
          (Dialect.sqlite.defineTable (t.apply c)).declarations Dialect.sqlite := by
  intro commands t c
  have fits : Along (fun t c => c.Fits t) { name := "posts" } commands := by decide +kernel
  have rebuilds : c.Rebuilds := .changeColumn _
  have declares := (rebuild_declares_model_iff fits rebuilds).mpr (by decide +kernel)
  have built : Ddl.createTable false (Dialect.copyDefinition t c) ∈
      Dialect.sqlite.statements t c := by
    decide +kernel
  refine ⟨fits, rebuilds, _, built, by decide +kernel, ?_⟩
  exact declares false _ built false _ (Dialect.mem_createTable_iff.mpr ⟨rfl, rfl⟩)

/-- Not every rebuild declares what the model says after it: once the key has been dropped, the
model still has its column number the rows, and would declare the key again. -/
theorem not_rebuild_declares_model_of_dropped_key :
    ¬∀ (commands : List Command) (c : Command),
      Along (fun t c => c.Applicable t) { name := "t" } commands → c.Rebuilds →
        ∀ built made,
          Ddl.createTable false built ∈
              Dialect.sqlite.statements (applyAll { name := "t" } commands) c →
            Ddl.createTable false made ∈
                Dialect.sqlite.createTable false ((applyAll { name := "t" } commands).apply c) →
              built.declarations Dialect.sqlite = made.declarations Dialect.sqlite := by
  intro declares
  let commands : List Command :=
    [.addColumn { name := "id", type := .integer, autoIncrement := true }]
  have same := declares commands .dropPrimary (by decide +kernel) .dropPrimary
    (Dialect.copyDefinition (applyAll { name := "t" } commands) .dropPrimary) _
    (by decide +kernel) (Dialect.mem_createTable_iff.mpr ⟨rfl, rfl⟩)
  revert same
  decide +kernel

end Table

end SqlComposer
