import SqlComposer.Proofs.Schema.Effect

/-!
Indexes and the key of a table list its columns by name. As long as commands bring in fresh names
and list known ones (`Command.Fits`), column names differ and every name that is listed is the
name of a column, along a run of any length.
-/

namespace SqlComposer

/-! ## Runs of commands -/

/-- What is asked of each command of a run, at the table that the commands before it have made. -/
def Table.Along (P : Table → Command → Prop) : Table → List Command → Prop
  | _, [] => True
  | t, c :: rest => P t c ∧ Along P (t.apply c) rest

instance Table.decidableAlong (P : Table → Command → Prop) [∀ t c, Decidable (P t c)] :
    (t : Table) → (commands : List Command) → Decidable (Along P t commands)
  | _, [] => inferInstanceAs (Decidable True)
  | t, c :: rest =>
    have := decidableAlong P (t.apply c) rest
    inferInstanceAs (Decidable (P t c ∧ Along P (t.apply c) rest))

namespace Table.Along

variable {P : Table → Command → Prop} {t : Table} {commands : List Command}

theorem invariant {I : Table → Prop} (kept : ∀ t c, I t → P t c → I (t.apply c)) (start : I t)
    (along : Along P t commands) : I (t.applyAll commands) := by
  induction commands generalizing t with
  | nil => exact start
  | cons c rest ih => exact ih (kept t c start along.1) along.2

end Table.Along

/-! ## Names that are listed and names that are in use -/

namespace Command

/-- A name that a command brings in is fresh, and the names it lists are those of columns. -/
def Fits (t : Table) : Command → Prop
  | addColumn c => c.name ∉ t.columnNames
  | renameColumn before after => before ∈ t.columnNames ∧ after ∉ t.columnNames
  | createIndex i => ∀ name ∈ i.columns, name ∈ t.columnNames
  | createPrimary k => ∀ name ∈ k.columns, name ∈ t.columnNames
  | _ => True

instance decidableFits (t : Table) : (c : Command) → Decidable (c.Fits t)
  | addColumn c => inferInstanceAs (Decidable (c.name ∉ t.columnNames))
  | renameColumn before after =>
    inferInstanceAs (Decidable (before ∈ t.columnNames ∧ after ∉ t.columnNames))
  | createIndex i => inferInstanceAs (Decidable (∀ name ∈ i.columns, name ∈ t.columnNames))
  | createPrimary k => inferInstanceAs (Decidable (∀ name ∈ k.columns, name ∈ t.columnNames))
  | changeColumn _ | dropColumn _ | dropIndex _ | renameIndex _ _ | dropPrimary =>
    inferInstanceAs (Decidable True)

end Command

namespace Table

variable {t : Table}

theorem mem_columnNames {c : Column} (member : c ∈ t.columns) : c.name ∈ t.columnNames :=
  List.mem_map_of_mem member

theorem map_name_map {columns : List Column} {f : Column → Column}
    (keeps : ∀ c, (f c).name = c.name) : (columns.map f).map (·.name) = columns.map (·.name) := by
  rw [List.map_map]
  apply List.map_congr_left
  intro c _
  exact keeps c

/-! ## The names of the columns after a command -/

theorem columnNames_addColumn (c : Column) :
    (t.addColumn c).columnNames = t.columnNames ++ [c.name] := by
  simp [addColumn, columnNames, Column.settled]

theorem columnNames_changeColumn (unique : t.columnNames.Nodup) (c : Column) :
    (t.changeColumn c).columnNames = t.columnNames := by
  rw [changeColumn_eq unique]
  apply map_name_map
  intro old
  split
  · next same => exact same.symm
  · rfl

theorem columnNames_renameColumn (unique : t.columnNames.Nodup) (before after : String) :
    (t.renameColumn before after).columnNames = renamed before after t.columnNames := by
  rw [renameColumn_eq unique, renamed_eq_map]
  simp [columnNames]

theorem columnNames_dropColumn (name : String) :
    (t.dropColumn name).columnNames = t.columnNames.filter fun n => n ≠ name := by
  calc
    (t.dropColumn name).columnNames =
        (Column.renumbered (t.columns.filter fun c => c.name ≠ name)).map (·.name) := by
      rw [dropColumn_eq]
      exact map_name_map fun _ => rfl
    _ = (t.columns.filter fun c => c.name ≠ name).map (·.name) := Column.map_name_renumbered _
    _ = t.columnNames.filter fun n => n ≠ name := by
      rw [columnNames, List.filter_map]
      rfl

theorem columnNames_createIndex (unique : t.columnNames.Nodup) (i : Index) :
    (t.createIndex i).columnNames = t.columnNames := by
  rw [createIndex_eq unique]
  exact map_name_map fun _ => rfl

theorem columnNames_withoutIndex (name : String) :
    (t.withoutIndex name).columnNames = t.columnNames :=
  map_name_map fun _ => rfl

theorem columnNames_renameIndex (before after : String) :
    (t.renameIndex before after).columnNames = t.columnNames :=
  map_name_map fun _ => rfl

theorem columnNames_createPrimary (unique : t.columnNames.Nodup) (k : PrimaryKey) :
    (t.createPrimary k).columnNames = t.columnNames := by
  rw [createPrimary_eq unique]
  exact map_name_map fun _ => rfl

theorem columnNames_withoutPrimary : t.withoutPrimary.columnNames = t.columnNames :=
  map_name_map fun _ => rfl

/-! ## The invariant -/

structure Wellnamed (t : Table) : Prop where
  columns_nodup : t.columnNames.Nodup
  index_columns : ∀ i ∈ t.indexes, ∀ name ∈ i.columns, name ∈ t.columnNames
  key_columns : ∀ k ∈ t.primary, ∀ name ∈ k.columns, name ∈ t.columnNames

theorem wellnamed_empty (name tablePrefix : String) (options : TableOptions) :
    ({ name, tablePrefix, options } : Table).Wellnamed := by
  constructor
  · exact List.nodup_nil
  · intro i member
    cases member
  · intro k member
    cases member

namespace Wellnamed

variable (named : t.Wellnamed)
include named

theorem weaken {next : Table} (columns : next.columnNames = t.columnNames)
    (indexes : ∀ i ∈ next.indexes, ∃ old ∈ t.indexes, i.columns = old.columns)
    (key : ∀ k ∈ next.primary, k ∈ t.primary) : next.Wellnamed := by
  constructor
  · rw [columns]
    exact named.columns_nodup
  · intro i member name listed
    obtain ⟨old, known, same⟩ := indexes i member
    rw [columns]
    exact named.index_columns old known name (same ▸ listed)
  · intro k member name listed
    rw [columns]
    exact named.key_columns k (key k member) name listed

theorem addColumn {c : Column} (fresh : c.name ∉ t.columnNames) : (t.addColumn c).Wellnamed := by
  have grown : ∀ name ∈ t.columnNames, name ∈ (t.addColumn c).columnNames := by
    intro name known
    rw [columnNames_addColumn]
    exact List.mem_append_left _ known
  constructor
  · rw [columnNames_addColumn, ← List.concat_eq_append]
    exact named.columns_nodup.concat fresh
  · intro i member name listed
    exact grown name (named.index_columns i member name listed)
  · intro k member name listed
    by_cases numbers : c.autoIncrement = true
    · have key : k = ⟨t.primaryName, [c.name]⟩ := by
        simpa [Table.addColumn, numbers, eq_comm] using member
      subst key
      rw [columnNames_addColumn]
      exact List.mem_append_right _ listed
    · have key : k ∈ t.primary := by
        simpa [Table.addColumn, numbers] using member
      exact grown name (named.key_columns k key name listed)

theorem changeColumn (c : Column) : (t.changeColumn c).Wellnamed := by
  apply named.weaken (columnNames_changeColumn named.columns_nodup c)
  · intro i member
    exact ⟨i, member, rfl⟩
  · intro k member
    exact member

theorem renameColumn {before after : String} (fresh : after ∉ t.columnNames) :
    (t.renameColumn before after).Wellnamed := by
  have columns := columnNames_renameColumn named.columns_nodup before after
  have equation := renameColumn_eq named.columns_nodup before after
  constructor
  · rw [columns]
    exact nodup_renamed fresh named.columns_nodup
  · rw [columns, equation]
    intro i member name listed
    obtain ⟨old, known, rfl⟩ := List.mem_map.mp member
    obtain ⟨column, present, rfl⟩ := List.mem_map.mp listed
    exact mem_renamed_of_mem (named.index_columns old known column present)
  · rw [columns, equation]
    intro k member name listed
    obtain ⟨old, known, rfl⟩ := Option.map_eq_some_iff.mp member
    obtain ⟨column, present, rfl⟩ := List.mem_map.mp listed
    exact mem_renamed_of_mem (named.key_columns old known column present)

theorem dropColumn (name : String) : (t.dropColumn name).Wellnamed := by
  have columns := columnNames_dropColumn (t := t) name
  have equation := dropColumn_eq (t := t) name
  have kept : ∀ other ∈ t.columnNames, other ≠ name → other ∈ (t.dropColumn name).columnNames := by
    intro other known apart
    rw [columns]
    exact List.mem_filter.mpr ⟨known, decide_eq_true apart⟩
  constructor
  · rw [columns]
    exact named.columns_nodup.filter _
  · intro i member other listed
    rw [equation] at member
    obtain ⟨present, stays⟩ := List.mem_filter.mp member
    apply kept other (named.index_columns i present other listed)
    rintro rfl
    have goes : i.name ∈ t.covering other := by
      apply List.mem_map_of_mem
      exact List.mem_filter.mpr ⟨present, List.contains_iff_mem.mpr listed⟩
    exact of_decide_eq_true stays goes
  · intro k member other listed
    rw [equation] at member
    cases keyed : t.keyCovers name with
    | true => simp [keyed] at member
    | false =>
      have present : k ∈ t.primary := by simpa [keyed] using member
      apply kept other (named.key_columns k present other listed)
      rintro rfl
      have covers : t.keyCovers other = true := by
        rw [keyCovers, present]
        exact List.contains_iff_mem.mpr listed
      rw [keyed] at covers
      cases covers

theorem createIndex {i : Index} (known : ∀ name ∈ i.columns, name ∈ t.columnNames) :
    (t.createIndex i).Wellnamed := by
  have columns := columnNames_createIndex named.columns_nodup i
  have equation := createIndex_eq named.columns_nodup i
  constructor
  · rw [columns]
    exact named.columns_nodup
  · rw [columns, equation]
    intro other member name listed
    rcases List.mem_append.mp member with old | added
    · exact named.index_columns other old name listed
    · rw [List.mem_singleton.mp added] at listed
      exact known name listed
  · rw [columns, equation]
    exact named.key_columns

theorem withoutIndex (name : String) : (t.withoutIndex name).Wellnamed := by
  apply named.weaken (columnNames_withoutIndex name)
  · intro i member
    exact ⟨i, (List.mem_filter.mp member).1, rfl⟩
  · intro k member
    exact member

theorem renameIndex (before after : String) : (t.renameIndex before after).Wellnamed := by
  apply named.weaken (columnNames_renameIndex before after)
  · intro i member
    obtain ⟨old, known, rfl⟩ := List.mem_map.mp member
    refine ⟨old, known, ?_⟩
    split <;> rfl
  · intro k member
    exact member

theorem createPrimary {k : PrimaryKey} (known : ∀ name ∈ k.columns, name ∈ t.columnNames) :
    (t.createPrimary k).Wellnamed := by
  have columns := columnNames_createPrimary named.columns_nodup k
  have equation := createPrimary_eq named.columns_nodup k
  constructor
  · rw [columns]
    exact named.columns_nodup
  · rw [columns, equation]
    exact named.index_columns
  · rw [columns, equation]
    intro other member
    cases member
    exact known

theorem withoutPrimary : t.withoutPrimary.Wellnamed := by
  apply named.weaken columnNames_withoutPrimary
  · intro i member
    exact ⟨i, member, rfl⟩
  · intro k member
    cases member

theorem apply {c : Command} (fits : c.Fits t) : (t.apply c).Wellnamed := by
  cases c with
  | addColumn c => exact named.addColumn fits
  | changeColumn c => exact named.changeColumn c
  | renameColumn before after => exact named.renameColumn fits.2
  | dropColumn name => exact named.dropColumn name
  | createIndex i => exact named.createIndex fits
  | dropIndex name => exact named.withoutIndex name
  | renameIndex before after => exact named.renameIndex before after
  | createPrimary k => exact named.createPrimary fits
  | dropPrimary => exact named.withoutPrimary

end Wellnamed

end Table

end SqlComposer
