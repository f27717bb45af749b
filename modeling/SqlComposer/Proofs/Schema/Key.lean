import SqlComposer.Proofs.Schema.Naming

/-!
A column of the key is marked, and the key lists its columns. The two agree until a change makes
a column outside the key number the rows: that marks the column and leaves the key as it is,
where a new column that numbers the rows becomes the key.
-/

namespace SqlComposer

namespace Command

/-- A column comes in unmarked, and one that numbers the rows meets no key. -/
def RespectsKey (t : Table) : Command → Prop
  | addColumn c => c.primary = false ∧ (c.autoIncrement = true → t.primary = none)
  | _ => True

instance decidableRespectsKey (t : Table) : (c : Command) → Decidable (c.RespectsKey t)
  | addColumn c =>
    inferInstanceAs
      (Decidable (c.primary = false ∧ (c.autoIncrement = true → t.primary = none)))
  | changeColumn _ | renameColumn _ _ | dropColumn _ | createIndex _ | dropIndex _
  | renameIndex _ _ | createPrimary _ | dropPrimary => inferInstanceAs (Decidable True)

def NumbersUnkeyed (t : Table) : Command → Prop
  | changeColumn c =>
    c.autoIncrement = true ∧ ∃ old ∈ t.columns, old.name = c.name ∧ old.primary = false
  | _ => False

instance decidableNumbersUnkeyed (t : Table) : (c : Command) → Decidable (c.NumbersUnkeyed t)
  | changeColumn c =>
    inferInstanceAs (Decidable (c.autoIncrement = true ∧
      ∃ old ∈ t.columns, old.name = c.name ∧ old.primary = false))
  | addColumn _ | renameColumn _ _ | dropColumn _ | createIndex _ | dropIndex _
  | renameIndex _ _ | createPrimary _ | dropPrimary => inferInstanceAs (Decidable False)

end Command

namespace Table

variable {t : Table}

def KeyAgrees (t : Table) : Prop :=
  ∀ c ∈ t.columns, c.primary = true ↔ ∃ k, t.primary = some k ∧ c.name ∈ k.columns

theorem keyCovers_iff {name : String} :
    t.keyCovers name = true ↔ ∃ k, t.primary = some k ∧ name ∈ k.columns := by
  simp [keyCovers, Option.any_eq_true, PrimaryKey.covers]

theorem keyAgrees_iff_covers : t.KeyAgrees ↔ ∀ c ∈ t.columns, c.primary = t.keyCovers c.name := by
  apply forall₂_congr
  intro c _
  rw [← keyCovers_iff]
  exact Bool.eq_iff_iff.symm

instance decidableKeyAgrees (t : Table) : Decidable t.KeyAgrees :=
  decidable_of_iff _ keyAgrees_iff_covers.symm

namespace KeyAgrees

variable (agrees : t.KeyAgrees)
include agrees

theorem weaken {next : Table} {f : Column → Column} (columns : next.columns = t.columns.map f)
    (key : next.primary = t.primary) (name : ∀ c, (f c).name = c.name)
    (mark : ∀ c, (f c).primary = c.primary) : next.KeyAgrees := by
  unfold KeyAgrees
  rw [columns, key]
  intro c member
  obtain ⟨old, known, rfl⟩ := List.mem_map.mp member
  rw [mark, name]
  exact agrees old known

theorem addColumn (named : t.Wellnamed) {c : Column} (fresh : c.name ∉ t.columnNames)
    (unmarked : c.primary = false) (alone : c.autoIncrement = true → t.primary = none) :
    (t.addColumn c).KeyAgrees := by
  intro d member
  have key : (t.addColumn c).primary =
      if c.autoIncrement then some ⟨t.primaryName, [c.name]⟩ else t.primary := rfl
  rcases List.mem_append.mp member with old | added
  · have apart : d.name ≠ c.name := by
      intro same
      exact fresh (same ▸ mem_columnNames old)
    have before := agrees d old
    by_cases numbers : c.autoIncrement = true
    · rw [alone numbers] at before
      simpa [key, numbers, apart] using before
    · simpa [key, numbers] using before
  · obtain rfl := List.mem_singleton.mp added
    by_cases numbers : c.autoIncrement = true
    · simp [key, numbers, Column.settled]
    · have unlisted : ∀ k, t.primary = some k → c.name ∉ k.columns := by
        intro k present listed
        exact fresh (named.key_columns k present c.name listed)
      simpa [key, numbers, unmarked, Column.settled] using unlisted

/-- A redefined column keeps its mark unless it starts to number the rows. -/
theorem changeColumn_iff (named : t.Wellnamed) (c : Column) :
    (t.changeColumn c).KeyAgrees ↔ ¬(Command.changeColumn c).NumbersUnkeyed t := by
  have equation := changeColumn_eq named.columns_nodup c
  constructor
  -- The key stays as it was, so it would have to list the column before.
  · rintro after ⟨numbers, old, known, same, unmarked⟩
    have moved : c.redefined old ∈ (t.changeColumn c).columns := by
      rw [equation]
      apply List.mem_map.mpr
      exact ⟨old, known, if_pos same⟩
    have marked : (c.redefined old).primary = true := by
      simp [Column.redefined, numbers]
    obtain ⟨k, key, listed⟩ := (after _ moved).mp marked
    have before : old.primary = true := by
      apply (agrees old known).mpr
      exact ⟨k, key, same ▸ listed⟩
    rw [unmarked] at before
    cases before
  · intro plain
    rw [equation]
    intro d member
    obtain ⟨old, known, rfl⟩ := List.mem_map.mp member
    by_cases same : old.name = c.name
    · have mark : (c.redefined old).primary = old.primary := by
        by_cases marked : old.primary = true
        · simp [Column.redefined, marked]
        · have numbers : c.autoIncrement = false := by
            by_contra numbers
            exact plain ⟨by simpa using numbers, old, known, same, by simpa using marked⟩
          simp [Column.redefined, numbers]
      have name : (c.redefined old).name = old.name := same.symm
      rw [if_pos same, mark, name]
      exact agrees old known
    · rw [if_neg same]
      exact agrees old known

theorem renameColumn (named : t.Wellnamed) {before after : String}
    (fresh : after ∉ t.columnNames) : (t.renameColumn before after).KeyAgrees := by
  rw [renameColumn_eq named.columns_nodup]
  intro c member
  obtain ⟨old, known, rfl⟩ := List.mem_map.mp member
  have listed : ∀ k, t.primary = some k →
      (renamedName before after old.name ∈ renamed before after k.columns ↔
        old.name ∈ k.columns) := by
    intro k present
    exact renamedName_mem_renamed_iff fresh (mem_columnNames known)
      (named.key_columns k present)
  have flag := agrees old known
  cases key : t.primary with
  | none => simpa [key] using flag
  | some k => simpa [key, listed k key] using flag

theorem dropColumn (name : String) : (t.dropColumn name).KeyAgrees := by
  rw [dropColumn_eq, keyAgrees_iff_covers]
  intro c member
  obtain ⟨moved, present, rfl⟩ := List.mem_map.mp member
  obtain ⟨old, stays, i, rfl⟩ := Column.mem_of_mem_renumbered present
  have flag := keyAgrees_iff_covers.mp agrees old (List.mem_filter.mp stays).1
  cases keyed : t.keyCovers name with
  | true => simp [keyCovers]
  | false => simpa [keyCovers, Column.without] using flag

theorem createIndex (unique : t.columnNames.Nodup) (i : Index) :
    (t.createIndex i).KeyAgrees := by
  rw [createIndex_eq unique]
  apply agrees.weaken (f := Column.noted i)
  · rfl
  · rfl
  · intro c
    rfl
  · intro c
    rfl

theorem withoutIndex (name : String) : (t.withoutIndex name).KeyAgrees := by
  rw [withoutIndex_eq]
  apply agrees.weaken (f := Column.without [name])
  · rfl
  · rfl
  · intro c
    rfl
  · intro c
    rfl

theorem renameIndex (before after : String) : (t.renameIndex before after).KeyAgrees := by
  apply agrees.weaken (f := fun c => { c with indexes := renamed before after c.indexes })
  · rfl
  · rfl
  · intro c
    rfl
  · intro c
    rfl

end KeyAgrees

theorem keyAgrees_empty (name tablePrefix : String) (options : TableOptions) :
    ({ name, tablePrefix, options } : Table).KeyAgrees := by
  intro c member
  cases member

theorem keyAgrees_createPrimary (unique : t.columnNames.Nodup) (k : PrimaryKey) :
    (t.createPrimary k).KeyAgrees := by
  rw [createPrimary_eq unique]
  intro c member
  obtain ⟨old, _, rfl⟩ := List.mem_map.mp member
  simp [PrimaryKey.covers]

theorem keyAgrees_withoutPrimary : t.withoutPrimary.KeyAgrees := by
  intro c member
  obtain ⟨old, _, rfl⟩ := List.mem_map.mp member
  simp [withoutPrimary]

/-- One command breaks the agreement only where it numbers a column outside the key. -/
theorem KeyAgrees.apply_iff (agrees : t.KeyAgrees) (named : t.Wellnamed) {c : Command}
    (fits : c.Fits t) (respects : c.RespectsKey t) :
    (t.apply c).KeyAgrees ↔ ¬c.NumbersUnkeyed t := by
  cases c with
  | changeColumn c => exact agrees.changeColumn_iff named c
  | addColumn c =>
    exact iff_of_true (agrees.addColumn named fits respects.1 respects.2) not_false
  | renameColumn before after => exact iff_of_true (agrees.renameColumn named fits.2) not_false
  | dropColumn name => exact iff_of_true (agrees.dropColumn name) not_false
  | createIndex i => exact iff_of_true (agrees.createIndex named.columns_nodup i) not_false
  | dropIndex name => exact iff_of_true (agrees.withoutIndex name) not_false
  | renameIndex before after => exact iff_of_true (agrees.renameIndex before after) not_false
  | createPrimary k => exact iff_of_true (keyAgrees_createPrimary named.columns_nodup k) not_false
  | dropPrimary => exact iff_of_true keyAgrees_withoutPrimary not_false

theorem KeyAgrees.along_iff (agrees : t.KeyAgrees) (named : t.Wellnamed)
    {commands : List Command}
    (proper : Along (fun t c => c.Fits t ∧ c.RespectsKey t) t commands) :
    Along (fun t c => (t.apply c).KeyAgrees) t commands ↔
      Along (fun t c => ¬c.NumbersUnkeyed t) t commands := by
  induction commands generalizing t with
  | nil => exact Iff.rfl
  | cons c rest ih =>
    obtain ⟨⟨fits, respects⟩, later⟩ := proper
    have step := agrees.apply_iff named fits respects
    constructor
    · rintro ⟨still, after⟩
      exact ⟨step.mp still, (ih still (named.apply fits) later).mp after⟩
    · rintro ⟨plain, after⟩
      have still := step.mpr plain
      exact ⟨still, (ih still (named.apply fits) later).mpr after⟩

/-- However a table is made, marks and key agree after every command exactly when no change makes
a column outside the key number the rows. -/
theorem keyAgrees_along_iff_not_numbersUnkeyed {name tablePrefix : String}
    {options : TableOptions} {commands : List Command}
    (proper : Along (fun t c => c.Fits t ∧ c.RespectsKey t) { name, tablePrefix, options }
      commands) :
    Along (fun t c => (t.apply c).KeyAgrees) { name, tablePrefix, options } commands ↔
      Along (fun t c => ¬c.NumbersUnkeyed t) { name, tablePrefix, options } commands :=
  (keyAgrees_empty name tablePrefix options).along_iff
    (wellnamed_empty name tablePrefix options) proper

/-- A key that is declared, carried along by a rename and a redefinition, and dropped with one of
its columns. -/
theorem keyAgrees_along_of_every_key_command :
    let commands : List Command :=
      [.addColumn { name := "id", type := .bigInteger, autoIncrement := true },
        .addColumn { name := "tag", type := .string },
        .renameColumn "id" "number",
        .changeColumn { name := "number", type := .integer, autoIncrement := true },
        .createIndex ⟨"by_tag", ["tag"], true⟩,
        .dropPrimary,
        .createPrimary ⟨"t_pkey", ["number", "tag"]⟩,
        .renameIndex "by_tag" "tags",
        .dropColumn "tag"]
    Along (fun t c => c.Fits t ∧ c.RespectsKey t) { name := "t" } commands ∧
      Along (fun t c => (t.apply c).KeyAgrees) { name := "t" } commands := by
  intro commands
  have proper : Along (fun t c => c.Fits t ∧ c.RespectsKey t) { name := "t" } commands := by
    decide +kernel
  refine ⟨proper, ?_⟩
  apply (keyAgrees_along_iff_not_numbersUnkeyed proper).mpr
  decide +kernel

/-- Not every run keeps the agreement: a plain column that is changed to number the rows is marked
while the table still has no key. -/
theorem not_keyAgrees_of_change_to_numbered :
    ¬∀ commands : List Command,
      Along (fun t c => c.Fits t ∧ c.RespectsKey t) { name := "t" } commands →
        Along (fun t c => (t.apply c).KeyAgrees) { name := "t" } commands := by
  intro kept
  have broken := kept
    [.addColumn { name := "id", type := .integer },
      .changeColumn { name := "id", type := .integer, autoIncrement := true }]
    (by decide +kernel)
  revert broken
  decide +kernel

end Table

end SqlComposer
