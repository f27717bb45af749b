import SqlComposer.Proofs.Schema.Naming

/-!
A table model says twice which index covers which column: the index lists its columns, and every
column carries the names of its indexes. It also says twice where a column stands. Commands that
bring in fresh names keep the copies equal, along a run of any length.
-/

namespace SqlComposer

namespace Command

/-- What a command brings in is not linked yet: no index of the name, no index over the column. -/
def LinksFreshly (t : Table) : Command → Prop
  | addColumn c => c.indexes = []
  | createIndex i => i.name ∉ t.indexNames
  | renameIndex _ after => after ∉ t.indexNames
  | _ => True

instance decidableLinksFreshly (t : Table) : (c : Command) → Decidable (c.LinksFreshly t)
  | addColumn c => inferInstanceAs (Decidable (c.indexes = []))
  | createIndex i => inferInstanceAs (Decidable (i.name ∉ t.indexNames))
  | renameIndex _ after => inferInstanceAs (Decidable (after ∉ t.indexNames))
  | changeColumn _ | renameColumn _ _ | dropColumn _ | dropIndex _ | createPrimary _
  | dropPrimary => inferInstanceAs (Decidable True)

def Applicable (t : Table) (c : Command) : Prop := c.Fits t ∧ c.LinksFreshly t

instance decidableApplicable (t : Table) (c : Command) : Decidable (c.Applicable t) :=
  inferInstanceAs (Decidable (_ ∧ _))

end Command

namespace Table

variable {t : Table}

def Referenced (t : Table) : Prop :=
  ∀ c ∈ t.columns, ∀ n, n ∈ c.indexes ↔ ∃ i ∈ t.indexes, i.name = n ∧ c.name ∈ i.columns

/-- Names are unique and known, columns stand in their places, and a column carries the name of
an index exactly when the index of that name covers it. -/
structure Linked (t : Table) : Prop extends t.Wellnamed where
  indexes_nodup : t.indexNames.Nodup
  positions : t.columns.map (·.position) = List.range t.columns.length
  references : ∀ c ∈ t.columns, ∀ n,
    n ∈ c.indexes ↔ ∃ i ∈ t.indexes, i.name = n ∧ c.name ∈ i.columns

theorem linked_empty (name tablePrefix : String) (options : TableOptions) :
    ({ name, tablePrefix, options } : Table).Linked where
  toWellnamed := wellnamed_empty name tablePrefix options
  indexes_nodup := List.nodup_nil
  positions := rfl
  references c member := by cases member

namespace Linked

variable (linked : t.Linked)
include linked

theorem positions_map {f : Column → Column} (keeps : ∀ c, (f c).position = c.position) :
    (t.columns.map f).map (·.position) = List.range (t.columns.map f).length := by
  rw [List.length_map, ← linked.positions, List.map_map]
  apply List.map_congr_left
  intro c _
  exact keeps c

theorem weaken {next : Table} (named : next.Wellnamed) {f : Column → Column}
    (columns : next.columns = t.columns.map f) (indexes : next.indexes = t.indexes)
    (position : ∀ c, (f c).position = c.position) (name : ∀ c, (f c).name = c.name)
    (references : ∀ c, (f c).indexes = c.indexes) : next.Linked where
  toWellnamed := named
  indexes_nodup := by
    rw [indexNames, indexes]
    exact linked.indexes_nodup
  positions := by
    rw [columns]
    exact linked.positions_map position
  references := by
    rw [columns, indexes]
    intro c member n
    obtain ⟨old, known, rfl⟩ := List.mem_map.mp member
    rw [references, name]
    exact linked.references old known n

theorem addColumn {c : Column} (fresh : c.name ∉ t.columnNames) (bare : c.indexes = []) :
    (t.addColumn c).Linked where
  toWellnamed := linked.toWellnamed.addColumn fresh
  indexes_nodup := linked.indexes_nodup
  positions := by
    simp [Table.addColumn, List.range_succ, linked.positions]
  references := by
    intro d member n
    rcases List.mem_append.mp member with old | added
    · exact linked.references d old n
    · obtain rfl := List.mem_singleton.mp added
      constructor
      · intro noted
        have none : n ∈ c.indexes := noted
        rw [bare] at none
        cases none
      · rintro ⟨i, known, -, covered⟩
        exact absurd (linked.index_columns i known c.name covered) fresh

theorem changeColumn (c : Column) : (t.changeColumn c).Linked := by
  have equation := changeColumn_eq linked.columns_nodup c
  apply linked.weaken (linked.toWellnamed.changeColumn c)
    (f := fun old => if old.name = c.name then c.redefined old else old)
  · rw [equation]
  · rfl
  · intro old
    split <;> rfl
  · intro old
    split
    · next same => exact same.symm
    · rfl
  · intro old
    split <;> rfl

theorem renameColumn {before after : String} (fresh : after ∉ t.columnNames) :
    (t.renameColumn before after).Linked := by
  have equation := renameColumn_eq linked.columns_nodup before after
  refine ⟨linked.toWellnamed.renameColumn fresh, ?_, ?_, ?_⟩
  · rw [indexNames_renameColumn]
    exact linked.indexes_nodup
  · rw [equation]
    exact linked.positions_map fun _ => rfl
  · rw [equation]
    intro c member n
    obtain ⟨old, known, rfl⟩ := List.mem_map.mp member
    -- The new name is listed exactly where the old one was.
    have listed : ∀ i ∈ t.indexes,
        renamedName before after old.name ∈ renamed before after i.columns ↔
          old.name ∈ i.columns := by
      intro i present
      exact renamedName_mem_renamed_iff fresh (mem_columnNames known)
        (linked.index_columns i present)
    constructor
    · intro noted
      obtain ⟨i, present, same, covered⟩ := (linked.references old known n).mp noted
      exact ⟨_, List.mem_map_of_mem present, same, (listed i present).mpr covered⟩
    · rintro ⟨_, member, same, covered⟩
      obtain ⟨i, present, rfl⟩ := List.mem_map.mp member
      exact (linked.references old known n).mpr
        ⟨i, present, same, (listed i present).mp covered⟩

theorem references_without (dropped : List String) {c : Column} (member : c ∈ t.columns)
    (n : String) :
    n ∈ (c.without dropped).indexes ↔
      ∃ i ∈ t.indexes.filter fun i => i.name ∉ dropped, i.name = n ∧ c.name ∈ i.columns := by
  have before := linked.references c member n
  constructor
  · intro noted
    obtain ⟨noted, stays⟩ := List.mem_filter.mp noted
    obtain ⟨i, known, rfl, covered⟩ := before.mp noted
    exact ⟨i, List.mem_filter.mpr ⟨known, stays⟩, rfl, covered⟩
  · rintro ⟨i, member, rfl, covered⟩
    obtain ⟨known, stays⟩ := List.mem_filter.mp member
    exact List.mem_filter.mpr ⟨before.mpr ⟨i, known, rfl, covered⟩, stays⟩

theorem withoutIndex (name : String) : (t.withoutIndex name).Linked := by
  have equation := t.withoutIndex_eq name
  refine ⟨linked.toWellnamed.withoutIndex name, ?_, ?_, ?_⟩
  · rw [equation]
    exact nodup_map_name_filter linked.indexes_nodup _
  · rw [equation]
    exact linked.positions_map fun _ => rfl
  · rw [equation]
    intro c member n
    obtain ⟨old, known, rfl⟩ := List.mem_map.mp member
    exact linked.references_without [name] known n

theorem dropColumn (name : String) : (t.dropColumn name).Linked := by
  have equation := dropColumn_eq (t := t) name
  refine ⟨linked.toWellnamed.dropColumn name, ?_, ?_, ?_⟩
  · rw [equation]
    exact nodup_map_name_filter linked.indexes_nodup _
  · rw [equation, List.map_map, List.length_map]
    have length := congrArg List.length (Column.map_position_renumbered
      (t.columns.filter fun c => c.name ≠ name))
    rw [List.length_map, List.length_range] at length
    rw [length]
    exact Column.map_position_renumbered _
  · rw [equation]
    intro c member n
    obtain ⟨moved, present, rfl⟩ := List.mem_map.mp member
    obtain ⟨old, stays, i, rfl⟩ := Column.mem_of_mem_renumbered present
    exact linked.references_without (t.covering name) (List.mem_filter.mp stays).1 n

theorem createIndex {i : Index} (known : ∀ name ∈ i.columns, name ∈ t.columnNames)
    (fresh : i.name ∉ t.indexNames) : (t.createIndex i).Linked := by
  have equation := createIndex_eq linked.columns_nodup i
  refine ⟨linked.toWellnamed.createIndex known, ?_, ?_, ?_⟩
  · rw [indexNames_createIndex, ← List.concat_eq_append]
    exact linked.indexes_nodup.concat fresh
  · rw [equation]
    exact linked.positions_map fun _ => rfl
  · rw [equation]
    intro c member n
    obtain ⟨old, present, rfl⟩ := List.mem_map.mp member
    rw [Column.mem_indexes_noted_iff, linked.references old present n]
    simp only [Column.noted, List.mem_append, List.mem_singleton]
    constructor
    · rintro (⟨j, listed, link⟩ | link)
      · exact ⟨j, .inl listed, link⟩
      · exact ⟨i, .inr rfl, link⟩
    · rintro ⟨j, listed | rfl, link⟩
      · exact .inl ⟨j, listed, link⟩
      · exact .inr link

theorem renameIndex {before after : String} (fresh : after ∉ t.indexNames) :
    (t.renameIndex before after).Linked := by
  refine ⟨linked.toWellnamed.renameIndex before after, ?_, ?_, ?_⟩
  · rw [indexNames_renameIndex]
    exact nodup_renamed fresh linked.indexes_nodup
  · exact linked.positions_map fun _ => rfl
  · intro c member n
    obtain ⟨old, known, rfl⟩ := List.mem_map.mp member
    constructor
    · intro noted
      obtain ⟨m, carried, rfl⟩ := List.mem_map.mp noted
      obtain ⟨i, present, rfl, covered⟩ := (linked.references old known m).mp carried
      refine ⟨_, List.mem_map_of_mem present, ?_, ?_⟩
      · split <;> rfl
      · split <;> exact covered
    · rintro ⟨_, member, rfl, covered⟩
      obtain ⟨i, present, rfl⟩ := List.mem_map.mp member
      apply List.mem_map.mpr
      refine ⟨i.name, (linked.references old known i.name).mpr ⟨i, present, rfl, ?_⟩, ?_⟩
      · revert covered
        split <;> exact id
      · split <;> rfl

theorem createPrimary {k : PrimaryKey} (known : ∀ name ∈ k.columns, name ∈ t.columnNames) :
    (t.createPrimary k).Linked := by
  have equation := createPrimary_eq linked.columns_nodup k
  apply linked.weaken (linked.toWellnamed.createPrimary known)
    (f := fun c => { c with primary := k.covers c.name })
  · rw [equation]
  · rw [equation]
  · intro c
    rfl
  · intro c
    rfl
  · intro c
    rfl

theorem withoutPrimary : t.withoutPrimary.Linked := by
  apply linked.weaken linked.toWellnamed.withoutPrimary
    (f := fun c => { c with primary := false })
  · rfl
  · rfl
  · intro c
    rfl
  · intro c
    rfl
  · intro c
    rfl

theorem apply {c : Command} (applicable : c.Applicable t) : (t.apply c).Linked := by
  obtain ⟨fits, links⟩ := applicable
  cases c with
  | addColumn c => exact linked.addColumn fits links
  | changeColumn c => exact linked.changeColumn c
  | renameColumn before after => exact linked.renameColumn fits.2
  | dropColumn name => exact linked.dropColumn name
  | createIndex i => exact linked.createIndex fits links
  | dropIndex name => exact linked.withoutIndex name
  | renameIndex before after => exact linked.renameIndex links
  | createPrimary k => exact linked.createPrimary fits
  | dropPrimary => exact linked.withoutPrimary

end Linked

/-- Whatever commands a table has been made with, its model is linked. -/
theorem linked_applyAll {name tablePrefix : String} {options : TableOptions}
    {commands : List Command}
    (applicable : Along (fun t c => c.Applicable t) { name, tablePrefix, options } commands) :
    (({ name, tablePrefix, options } : Table).applyAll commands).Linked :=
  applicable.invariant (fun _ _ linked fits => linked.apply fits)
    (linked_empty name tablePrefix options)

/-- A run through every kind of command: an index over a column that is then renamed, redefined
and moved up, under an index name that changes as well. -/
theorem linked_applyAll_of_every_command :
    let commands : List Command :=
      [.addColumn { name := "id", type := .bigInteger, autoIncrement := true },
        .addColumn { name := "old", type := .text },
        .addColumn { name := "email", type := .string },
        .createIndex ⟨"email_old", ["email", "old", "email"], false⟩,
        .createIndex ⟨"by_email", ["email"], true⟩,
        .renameColumn "email" "address",
        .renameIndex "by_email" "by_address",
        .changeColumn { name := "address", type := .text, position := 9 },
        .dropColumn "old",
        .dropPrimary,
        .createPrimary ⟨"users_pkey", ["id", "address"]⟩,
        .dropIndex "absent"]
    Along (fun t c => c.Applicable t) { name := "users" } commands ∧
      (({ name := "users" } : Table).applyAll commands).Linked ∧
      (({ name := "users" } : Table).applyAll commands).columns.map
        (fun c => (c.name, c.position, c.indexes, c.primary)) =
        [("id", 0, [], true), ("address", 1, ["by_address"], true)] := by
  intro commands
  have applicable : Along (fun t c => c.Applicable t) { name := "users" } commands := by
    decide +kernel
  exact ⟨applicable, linked_applyAll applicable, by decide +kernel⟩

end Table

end SqlComposer
