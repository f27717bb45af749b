import SqlComposer.Proofs.Schema.Key
import SqlComposer.Proofs.Schema.Links
import SqlComposer.Proofs.Schema.Outcomes

/-!
The order in which a new table's columns, indexes and keys are declared. The model is made by one
command after the other, and each links what is already there. So the columns carry the names of
their indexes exactly if every index is declared after the columns that it covers, and their marks
tell the key exactly if the last declaration of a key finds its columns and no other mark
(`Schema.links_blueprint_iff`).
-/

namespace SqlComposer

/-! ## Commands that make a table -/

namespace Command

def Makes : Command → Prop
  | addColumn c => c.indexes = [] ∧ c.primary = false
  | createIndex _ | createPrimary _ => True
  | _ => False

instance decidableMakes : (c : Command) → Decidable c.Makes
  | addColumn c => inferInstanceAs (Decidable (c.indexes = [] ∧ c.primary = false))
  | createIndex _ | createPrimary _ => inferInstanceAs (Decidable True)
  | changeColumn _ | renameColumn _ _ | dropColumn _ | dropIndex _ | renameIndex _ _
  | dropPrimary => inferInstanceAs (Decidable False)

def added? : Command → Option String
  | addColumn c => some c.name
  | _ => none

def indexed? : Command → Option String
  | createIndex i => some i.name
  | _ => none

def listed : Command → List String
  | createIndex i => i.columns
  | createPrimary k => k.columns
  | _ => []

def declaresKey : Command → Bool
  | addColumn c => c.autoIncrement
  | createPrimary _ => true
  | _ => false

/-- An index stands behind the columns that it covers. -/
def FindsColumns (t : Table) : Command → Prop
  | createIndex i => ∀ name ∈ i.columns, name ∈ t.columnNames
  | _ => True

instance decidableFindsColumns (t : Table) : (c : Command) → Decidable (c.FindsColumns t)
  | createIndex i => inferInstanceAs (Decidable (∀ name ∈ i.columns, name ∈ t.columnNames))
  | addColumn _ | changeColumn _ | renameColumn _ _ | dropColumn _ | dropIndex _
  | renameIndex _ _ | createPrimary _ | dropPrimary => inferInstanceAs (Decidable True)

/-- A key stands behind its columns, and a column that numbers the rows and so is the key comes to
a table without marks. -/
def MarksKey (t : Table) : Command → Prop
  | createPrimary k => ∀ name ∈ k.columns, name ∈ t.columnNames
  | addColumn c => c.autoIncrement = true → ∀ old ∈ t.columns, old.primary = false
  | _ => True

instance decidableMarksKey (t : Table) : (c : Command) → Decidable (c.MarksKey t)
  | createPrimary k => inferInstanceAs (Decidable (∀ name ∈ k.columns, name ∈ t.columnNames))
  | addColumn c =>
    inferInstanceAs
      (Decidable (c.autoIncrement = true → ∀ old ∈ t.columns, old.primary = false))
  | changeColumn _ | renameColumn _ _ | dropColumn _ | createIndex _ | dropIndex _
  | renameIndex _ _ | dropPrimary => inferInstanceAs (Decidable True)

end Command

namespace Table

def LastKeyMarked : Table → List Command → Prop
  | _, [] => True
  | t, c :: rest =>
    (rest.any Command.declaresKey = true ∨ c.MarksKey t) ∧ LastKeyMarked (t.apply c) rest

instance decidableLastKeyMarked :
    (t : Table) → (commands : List Command) → Decidable (t.LastKeyMarked commands)
  | _, [] => inferInstanceAs (Decidable True)
  | t, c :: rest =>
    have := decidableLastKeyMarked (t.apply c) rest
    inferInstanceAs (Decidable (_ ∧ _))

/-- The commands make what is still missing of a table: its names differ, also from those that are
there. -/
structure MadeBy (t : Table) (commands : List Command) : Prop where
  makes : ∀ c ∈ commands, c.Makes
  columns : (t.columnNames ++ commands.filterMap Command.added?).Nodup
  indexes : (t.indexNames ++ commands.filterMap Command.indexed?).Nodup

instance (t : Table) (commands : List Command) : Decidable (t.MadeBy commands) :=
  decidable_of_iff ((∀ c ∈ commands, c.Makes) ∧
      (t.columnNames ++ commands.filterMap Command.added?).Nodup ∧
      (t.indexNames ++ commands.filterMap Command.indexed?).Nodup)
    ⟨fun ⟨makes, columns, indexes⟩ => ⟨makes, columns, indexes⟩,
      fun ⟨makes, columns, indexes⟩ => ⟨makes, columns, indexes⟩⟩

variable {t : Table} {c : Command} {commands : List Command}

/-! ## One command -/

section Step

variable (unique : t.columnNames.Nodup) (makes : c.Makes)
include unique makes

theorem columnNames_apply_of_makes :
    (t.apply c).columnNames = t.columnNames ++ [c].filterMap Command.added? := by
  cases c with
  | addColumn c => exact columnNames_addColumn c
  | createIndex i =>
    rw [apply, columnNames_createIndex unique]
    exact (List.append_nil _).symm
  | createPrimary k =>
    rw [apply, columnNames_createPrimary unique]
    exact (List.append_nil _).symm
  | _ => cases makes

theorem indexNames_apply_of_makes :
    (t.apply c).indexNames = t.indexNames ++ [c].filterMap Command.indexed? := by
  cases c with
  | addColumn c => exact (List.append_nil _).symm
  | createIndex i => exact indexNames_createIndex i
  | createPrimary k =>
    rw [apply, createPrimary_eq unique]
    exact (List.append_nil _).symm
  | _ => cases makes

end Step

namespace MadeBy

theorem unique (made : t.MadeBy commands) : t.columnNames.Nodup := made.columns.of_append_left

theorem tail (made : t.MadeBy (c :: commands)) : (t.apply c).MadeBy commands := by
  have makes := made.makes c List.mem_cons_self
  constructor
  · intro d member
    exact made.makes d (List.mem_cons_of_mem c member)
  · rw [columnNames_apply_of_makes made.unique makes, List.append_assoc, ← List.filterMap_append]
    exact made.columns
  · rw [indexNames_apply_of_makes made.unique makes, List.append_assoc, ← List.filterMap_append]
    exact made.indexes

theorem columnNames_applyAll (made : t.MadeBy commands) :
    (t.applyAll commands).columnNames = t.columnNames ++ commands.filterMap Command.added? := by
  induction commands generalizing t with
  | nil => exact (List.append_nil _).symm
  | cons c rest ih =>
    rw [applyAll_cons, ih made.tail,
      columnNames_apply_of_makes made.unique (made.makes c List.mem_cons_self), List.append_assoc,
      ← List.filterMap_append]
    rfl

theorem added_not_mem {column : Column} (made : t.MadeBy (.addColumn column :: commands)) :
    column.name ∉ t.columnNames := by
  intro known
  exact List.disjoint_of_nodup_append made.columns known List.mem_cons_self

theorem created_not_mem {i : Index} (made : t.MadeBy (.createIndex i :: commands)) :
    i.name ∉ t.indexNames := by
  intro known
  exact List.disjoint_of_nodup_append made.indexes known List.mem_cons_self

end MadeBy

/-! ## The names of the indexes -/

/-- A column carries the names of indexes that cover it, but not of all. -/
def NotesKnown (t : Table) : Prop :=
  ∀ c ∈ t.columns, ∀ n ∈ c.indexes, ∃ i ∈ t.indexes, i.name = n ∧ c.name ∈ i.columns

def AllNoted (t : Table) : Prop :=
  ∀ i ∈ t.indexes, ∀ name ∈ i.columns, ∃ c ∈ t.columns, c.name = name ∧ i.name ∈ c.indexes

theorem NotesKnown.apply (known : t.NotesKnown) (unique : t.columnNames.Nodup) (makes : c.Makes) :
    (t.apply c).NotesKnown := by
  cases c with
  | addColumn c =>
    intro d member n noted
    rcases List.mem_append.mp member with old | added
    · exact known d old n noted
    · rw [List.mem_singleton.mp added] at noted
      have bare : n ∈ c.indexes := noted
      rw [makes.1] at bare
      cases bare
  | createIndex i =>
    rw [Table.apply, createIndex_eq unique]
    intro d member n noted
    obtain ⟨old, present, rfl⟩ := List.mem_map.mp member
    rcases Column.mem_indexes_noted_iff.mp noted with before | link
    · obtain ⟨j, listed, link⟩ := known old present n before
      exact ⟨j, List.mem_append_left _ listed, link⟩
    · exact ⟨i, List.mem_append_right _ (List.mem_singleton.mpr rfl), link⟩
  | createPrimary k =>
    rw [Table.apply, createPrimary_eq unique]
    intro d member n noted
    obtain ⟨old, present, rfl⟩ := List.mem_map.mp member
    exact known old present n noted
  | _ => cases makes

theorem allNoted_addColumn_iff {column : Column} (bare : column.indexes = []) :
    (t.addColumn column).AllNoted ↔ t.AllNoted := by
  constructor
  · intro noted i member name covered
    obtain ⟨d, present, same, carried⟩ := noted i member name covered
    rcases List.mem_append.mp present with old | added
    · exact ⟨d, old, same, carried⟩
    · rw [List.mem_singleton.mp added] at carried
      have none : i.name ∈ column.indexes := carried
      rw [bare] at none
      cases none
  · intro noted i member name covered
    obtain ⟨d, present, link⟩ := noted i member name covered
    exact ⟨d, List.mem_append_left _ present, link⟩

theorem allNoted_createIndex_iff (unique : t.columnNames.Nodup) {i : Index}
    (fresh : i.name ∉ t.indexNames) :
    (t.createIndex i).AllNoted ↔ t.AllNoted ∧ ∀ name ∈ i.columns, name ∈ t.columnNames := by
  rw [createIndex_eq unique]
  constructor
  · intro noted
    constructor
    · intro j member name covered
      obtain ⟨d, present, same, carried⟩ :=
        noted j (List.mem_append_left _ member) name covered
      obtain ⟨old, known, rfl⟩ := List.mem_map.mp present
      refine ⟨old, known, same, ?_⟩
      rcases Column.mem_indexes_noted_iff.mp carried with before | ⟨taken, -⟩
      · exact before
      · exact absurd (taken ▸ List.mem_map_of_mem member) fresh
    · intro name covered
      obtain ⟨d, present, rfl, -⟩ :=
        noted i (List.mem_append_right _ (List.mem_singleton.mpr rfl)) name covered
      obtain ⟨old, known, rfl⟩ := List.mem_map.mp present
      have there : old.name ∈ t.columnNames := mem_columnNames known
      exact there
  · rintro ⟨noted, found⟩ j member name covered
    rcases List.mem_append.mp member with old | added
    · obtain ⟨d, present, same, carried⟩ := noted j old name covered
      exact ⟨d.noted i, List.mem_map_of_mem present, same,
        Column.mem_indexes_noted_iff.mpr (.inl carried)⟩
    · obtain rfl := List.mem_singleton.mp added
      obtain ⟨d, present, rfl⟩ := List.mem_map.mp (found name covered)
      exact ⟨d.noted j, List.mem_map_of_mem present, rfl,
        Column.mem_indexes_noted_iff.mpr (.inr ⟨rfl, covered⟩)⟩

theorem allNoted_createPrimary_iff (unique : t.columnNames.Nodup) (k : PrimaryKey) :
    (t.createPrimary k).AllNoted ↔ t.AllNoted := by
  rw [createPrimary_eq unique]
  apply forall₂_congr
  intro i _
  apply forall₂_congr
  intro name _
  constructor
  · rintro ⟨d, present, link⟩
    obtain ⟨old, known, rfl⟩ := List.mem_map.mp present
    exact ⟨old, known, link⟩
  · rintro ⟨old, known, link⟩
    exact ⟨_, List.mem_map_of_mem known, link⟩

theorem allNoted_apply_iff (made : t.MadeBy (c :: commands)) :
    (t.apply c).AllNoted ↔ t.AllNoted ∧ c.FindsColumns t := by
  have makes := made.makes c List.mem_cons_self
  cases c with
  | addColumn c =>
    rw [Table.apply, allNoted_addColumn_iff makes.1]
    exact (and_iff_left trivial).symm
  | createIndex i => exact allNoted_createIndex_iff made.unique made.created_not_mem
  | createPrimary k =>
    rw [Table.apply, allNoted_createPrimary_iff made.unique]
    exact (and_iff_left trivial).symm
  | _ => cases makes

theorem allNoted_applyAll_iff (made : t.MadeBy commands) :
    (t.applyAll commands).AllNoted ↔
      t.AllNoted ∧ Along (fun t c => c.FindsColumns t) t commands := by
  induction commands generalizing t with
  | nil => exact (and_iff_left trivial).symm
  | cons c rest ih =>
    rw [applyAll_cons, ih made.tail, allNoted_apply_iff made, and_assoc]
    rfl

/-! ## The marks of the key -/

def KeyMarked (t : Table) : Prop :=
  t.KeyAgrees ∧ ∀ k ∈ t.primary, ∀ name ∈ k.columns, name ∈ t.columnNames

section Added

variable {column : Column} (fresh : column.name ∉ t.columnNames)
include fresh

theorem keyMarked_addColumn_iff_of_numbers (numbers : column.autoIncrement = true) :
    (t.addColumn column).KeyMarked ↔ ∀ old ∈ t.columns, old.primary = false := by
  have key : (t.addColumn column).primary = some ⟨t.primaryName, [column.name]⟩ := if_pos numbers
  constructor
  · rintro ⟨agrees, -⟩ old known
    by_contra marked
    obtain ⟨k, found, listed⟩ :=
      (agrees old (List.mem_append_left _ known)).mp (by simpa using marked)
    cases key.symm.trans found
    exact fresh (List.mem_singleton.mp listed ▸ mem_columnNames known)
  · intro unmarked
    constructor
    · intro d member
      rw [key]
      rcases List.mem_append.mp member with old | added
      · have apart : d.name ≠ column.name := fun same => fresh (same ▸ mem_columnNames old)
        simp [unmarked d old, apart]
      · obtain rfl := List.mem_singleton.mp added
        simp [numbers, Column.settled]
    · intro k found name listed
      cases key.symm.trans found
      rw [columnNames_addColumn]
      exact List.mem_append_right _ listed

theorem keyMarked_addColumn_iff_of_plain (plain : column.autoIncrement = false)
    (unmarked : column.primary = false) : (t.addColumn column).KeyMarked ↔ t.KeyMarked := by
  have key : (t.addColumn column).primary = t.primary := by
    simp [addColumn, plain]
  have mark : ∀ d ∈ (t.addColumn column).columns, d ∈ t.columns ∨
      d.name = column.name ∧ d.primary = false := by
    intro d member
    rcases List.mem_append.mp member with old | added
    · exact .inl old
    · obtain rfl := List.mem_singleton.mp added
      exact .inr ⟨rfl, by simp [plain, unmarked]⟩
  constructor
  · rintro ⟨agrees, known⟩
    refine ⟨fun d member => ?_, fun k found name listed => ?_⟩
    · have flag := agrees d (List.mem_append_left _ member)
      rwa [key] at flag
    · rw [← key] at found
      have there := known k found name listed
      rw [columnNames_addColumn] at there
      rcases List.mem_append.mp there with old | added
      · exact old
      -- The added column is not marked, so the key cannot list it.
      · obtain rfl := List.mem_singleton.mp added
        have last := agrees _ (List.mem_append_right t.columns (List.mem_singleton.mpr rfl))
        have marked := last.mpr ⟨k, found, listed⟩
        simp [plain, unmarked] at marked
  · rintro ⟨agrees, known⟩
    refine ⟨fun d member => ?_, fun k found name listed => ?_⟩
    · rw [key]
      rcases mark d member with old | ⟨same, unmarked⟩
      · exact agrees d old
      · rw [unmarked, same]
        refine iff_of_false Bool.false_ne_true ?_
        rintro ⟨k, found, listed⟩
        exact fresh (known k found _ listed)
    · rw [key] at found
      rw [columnNames_addColumn]
      exact List.mem_append_left _ (known k found name listed)

end Added

theorem keyMarked_createIndex_iff (unique : t.columnNames.Nodup) (i : Index) :
    (t.createIndex i).KeyMarked ↔ t.KeyMarked := by
  have key : (t.createIndex i).primary = t.primary := by rw [createIndex_eq unique]
  unfold KeyMarked
  rw [columnNames_createIndex unique, key]
  apply and_congr_left'
  constructor
  · intro agrees d member
    have kept : (d.noted i) ∈ (t.createIndex i).columns := by
      rw [createIndex_eq unique]
      exact List.mem_map_of_mem member
    have flag := agrees _ kept
    rwa [key] at flag
  · intro agrees
    exact agrees.createIndex unique i

theorem keyMarked_createPrimary_iff (unique : t.columnNames.Nodup) (k : PrimaryKey) :
    (t.createPrimary k).KeyMarked ↔ ∀ name ∈ k.columns, name ∈ t.columnNames := by
  have key : (t.createPrimary k).primary = some k := rfl
  unfold KeyMarked
  rw [columnNames_createPrimary unique, key]
  constructor
  · rintro ⟨-, known⟩
    exact known k rfl
  · intro known
    refine ⟨keyAgrees_createPrimary unique k, ?_⟩
    rintro _ ⟨⟩
    exact known

theorem keyMarked_apply_iff (made : t.MadeBy (c :: commands)) :
    (t.apply c).KeyMarked ↔ c.MarksKey t ∧ (c.declaresKey = true ∨ t.KeyMarked) := by
  have makes := made.makes c List.mem_cons_self
  cases c with
  | addColumn c =>
    by_cases numbers : c.autoIncrement = true
    · rw [Table.apply, keyMarked_addColumn_iff_of_numbers made.added_not_mem numbers]
      simp [Command.MarksKey, Command.declaresKey, numbers]
    · have plain : c.autoIncrement = false := by simpa using numbers
      rw [Table.apply, keyMarked_addColumn_iff_of_plain made.added_not_mem plain makes.2]
      simp [Command.MarksKey, Command.declaresKey, plain]
  | createIndex i =>
    rw [Table.apply, keyMarked_createIndex_iff made.unique]
    simp [Command.MarksKey, Command.declaresKey]
  | createPrimary k =>
    rw [Table.apply, keyMarked_createPrimary_iff made.unique]
    simp [Command.MarksKey, Command.declaresKey]
  | _ => cases makes

/-- Marks that an earlier key has left are of no account: a key that is declared sets them anew,
and they are in the way of a column that becomes the key. -/
theorem keyMarked_applyAll_iff (made : t.MadeBy commands) :
    (t.applyAll commands).KeyMarked ↔
      t.LastKeyMarked commands ∧ (commands.any Command.declaresKey = true ∨ t.KeyMarked) := by
  induction commands generalizing t with
  | nil => simp [LastKeyMarked]
  | cons c rest ih =>
    rw [applyAll_cons, ih made.tail, keyMarked_apply_iff made, LastKeyMarked, List.any_cons,
      Bool.or_eq_true]
    tauto

/-! ## All the commands of a new table -/

def ListsWithin (t : Table) (names : List String) : Prop :=
  (∀ i ∈ t.indexes, ∀ name ∈ i.columns, name ∈ names) ∧
    ∀ k ∈ t.primary, ∀ name ∈ k.columns, name ∈ names

theorem ListsWithin.apply {names : List String} (within : t.ListsWithin names)
    (unique : t.columnNames.Nodup) (makes : c.Makes) (listed : ∀ name ∈ c.listed, name ∈ names)
    (added : ∀ name ∈ c.added?, name ∈ names) : (t.apply c).ListsWithin names := by
  cases c with
  | addColumn c =>
    refine ⟨within.1, fun k found name there => ?_⟩
    by_cases numbers : c.autoIncrement = true
    · have key : (t.addColumn c).primary = some ⟨t.primaryName, [c.name]⟩ := if_pos numbers
      cases key.symm.trans found
      exact List.mem_singleton.mp there ▸ added c.name rfl
    · have key : (t.addColumn c).primary = t.primary := if_neg numbers
      exact within.2 k (key ▸ found) name there
  | createIndex i =>
    rw [Table.apply, createIndex_eq unique]
    refine ⟨fun j member name there => ?_, within.2⟩
    rcases List.mem_append.mp member with old | new
    · exact within.1 j old name there
    · exact listed name (List.mem_singleton.mp new ▸ there)
  | createPrimary k =>
    rw [Table.apply, createPrimary_eq unique]
    refine ⟨within.1, ?_⟩
    rintro _ ⟨⟩
    exact listed
  | _ => cases makes

theorem ListsWithin.applyAll {names : List String} (within : t.ListsWithin names)
    (made : t.MadeBy commands) (listed : ∀ c ∈ commands, ∀ name ∈ c.listed, name ∈ names)
    (added : ∀ name ∈ commands.filterMap Command.added?, name ∈ names) :
    (t.applyAll commands).ListsWithin names := by
  induction commands generalizing t with
  | nil => exact within
  | cons c rest ih =>
    have split : (c :: rest).filterMap Command.added? =
        [c].filterMap Command.added? ++ rest.filterMap Command.added? := by
      rw [← List.filterMap_append, List.singleton_append]
    rw [split] at added
    have own : ∀ name ∈ c.added?, name ∈ names := by
      intro name adds
      apply added name
      exact List.mem_append_left _ (List.mem_filterMap.mpr ⟨c, List.mem_cons_self, adds⟩)
    have makes := made.makes c List.mem_cons_self
    have next := within.apply made.unique makes (listed c List.mem_cons_self) own
    refine ih next made.tail (fun d member => listed d (List.mem_cons_of_mem c member)) ?_
    intro name member
    exact added name (List.mem_append_right _ member)

theorem NotesKnown.applyAll (known : t.NotesKnown) (made : t.MadeBy commands) :
    (t.applyAll commands).NotesKnown := by
  induction commands generalizing t with
  | nil => exact known
  | cons c rest ih =>
    exact ih (known.apply made.unique (made.makes c List.mem_cons_self)) made.tail

theorem referenced_iff_allNoted (unique : t.columnNames.Nodup)
    (within : t.ListsWithin t.columnNames) (known : t.NotesKnown) :
    t.Referenced ↔ t.AllNoted := by
  constructor
  · intro referenced i member name covered
    obtain ⟨c, there, rfl⟩ := List.mem_map.mp (within.1 i member name covered)
    exact ⟨c, there, rfl, (referenced c there i.name).mpr ⟨i, member, rfl, covered⟩⟩
  · intro noted c there n
    refine ⟨known c there n, ?_⟩
    rintro ⟨i, member, rfl, covered⟩
    obtain ⟨d, found, same, carried⟩ := noted i member c.name covered
    rw [← List.inj_on_of_nodup_map unique found there same]
    exact carried

section Empty

variable (bare : t.columns = [] ∧ t.indexes = [] ∧ t.primary = none) (made : t.MadeBy commands)
  (listed : ∀ c ∈ commands, ∀ name ∈ c.listed, name ∈ commands.filterMap Command.added?)
include bare made

theorem columnNames_applyAll_of_empty :
    (t.applyAll commands).columnNames = commands.filterMap Command.added? := by
  rw [made.columnNames_applyAll, columnNames, bare.1, List.map_nil, List.nil_append]

include listed

theorem listsWithin_applyAll_of_empty :
    (t.applyAll commands).ListsWithin (t.applyAll commands).columnNames := by
  have start : t.ListsWithin (commands.filterMap Command.added?) := by
    rw [ListsWithin, bare.2.1, bare.2.2]
    simp
  rw [columnNames_applyAll_of_empty bare made]
  exact start.applyAll made listed fun _ added => added

theorem referenced_applyAll_iff : (t.applyAll commands).Referenced ↔
    Along (fun t c => c.FindsColumns t) t commands := by
  have unique : (t.applyAll commands).columnNames.Nodup := by
    rw [made.columnNames_applyAll]
    exact made.columns
  have known : t.NotesKnown := by
    rw [NotesKnown, bare.1]
    simp
  have start : t.AllNoted := by
    rw [AllNoted, bare.2.1]
    simp
  rw [referenced_iff_allNoted unique (listsWithin_applyAll_of_empty bare made listed)
    (known.applyAll made), allNoted_applyAll_iff made, and_iff_right start]

theorem keyAgrees_applyAll_iff :
    (t.applyAll commands).KeyAgrees ↔ t.LastKeyMarked commands := by
  have start : t.KeyMarked := by
    rw [KeyMarked, KeyAgrees, bare.1, bare.2.2]
    simp
  have whole : (t.applyAll commands).KeyMarked ↔ (t.applyAll commands).KeyAgrees :=
    and_iff_left (listsWithin_applyAll_of_empty bare made listed).2
  rw [← whole, keyMarked_applyAll_iff made]
  exact and_iff_left (.inr start)

end Empty

end Table

/-! ## Blueprints -/

theorem Blueprint.table_draw (b : Blueprint) (steps : List BlueprintStep) :
    ∃ options, (b.draw steps).table = { b.table with options } := by
  induction steps generalizing b with
  | nil => exact ⟨b.table.options, rfl⟩
  | cons step rest ih =>
    obtain ⟨options, later⟩ := ih (b.step step)
    have same : ∃ own, (b.step step).table = { b.table with options := own } := by
      cases step <;> exact ⟨_, rfl⟩
    obtain ⟨own, same⟩ := same
    rw [same] at later
    exact ⟨options, later⟩

namespace Schema

/-- What comes back from making a table is the model that its blueprint leads to. -/
theorem eq_preview_of_createTable {σ : Type} [Connection (StateM σ)] {s : Schema} {ifAbsent : Bool}
    {name : String} {define : Blueprint → Blueprint} {start finish : σ} {t : Table}
    (made : (s.createTable ifAbsent name define).runFrom start = (.ok t, finish)) :
    t = (define (s.blueprint name)).finish.preview := by
  unfold createTable at made
  rcases runStatements_runFrom s.dialect
      (s.dialect.createTable ifAbsent (define (s.blueprint name)).finish.preview) start with
    ⟨middle, -, done⟩ | ⟨accepted, statement, later, e, middle, -, -, failed⟩
  · rw [Run.runFrom_bind_of_ok (Run.runFrom_attempt_of_ok done)] at made
    cases made
    rfl
  · rw [Run.runFrom_bind_of_ok (Run.runFrom_attempt_of_error failed)] at made
    cases made

/-- However the columns, the indexes and the keys of a new table are declared among each other, in
the model that comes back the columns carry the names of their indexes exactly if every index is
declared behind its columns, and their marks tell the key exactly if the last declaration of one
does. -/
theorem links_blueprint_iff (s : Schema) (name : String) (steps : List BlueprintStep)
    {b : Blueprint} (drawn : b = ((s.blueprint name).draw steps).finish)
    (made : b.table.MadeBy b.commands)
    (listed : ∀ c ∈ b.commands, ∀ name ∈ c.listed, name ∈ b.commands.filterMap Command.added?) :
    (∀ (σ : Type) [Connection (StateM σ)] (ifAbsent : Bool) (start finish : σ) (t : Table),
      (s.createTable ifAbsent name fun b => b.draw steps).runFrom start = (.ok t, finish) →
        t = b.preview) ∧
      (b.preview.Referenced ↔ Table.Along (fun t c => c.FindsColumns t) b.table b.commands) ∧
      (b.preview.KeyAgrees ↔ b.table.LastKeyMarked b.commands) := by
  have bare : b.table.columns = [] ∧ b.table.indexes = [] ∧ b.table.primary = none := by
    obtain ⟨options, same⟩ := (s.blueprint name).table_draw steps
    have table : b.table = ((s.blueprint name).draw steps).table := by
      rw [drawn]
      rfl
    rw [table, same]
    exact ⟨rfl, rfl, rfl⟩
  refine ⟨?_, Table.referenced_applyAll_iff bare made listed,
    Table.keyAgrees_applyAll_iff bare made listed⟩
  intro σ _ ifAbsent start finish t run
  rw [drawn]
  exact eq_preview_of_createTable run

/-- A key that is declared before its column and then taken over by a column that numbers the rows,
and indexes among the columns, one of which asks for its own. -/
theorem links_blueprint_of_key_taken_over :
    let s : Schema := { dialect := .mysql }
    let steps : List BlueprintStep :=
      [.primary ["email"],
        .declare (Declaration.bigIncrements "id").column,
        .declare ((Declaration.string "email").column.modify .unique),
        .index false none ["email", "id"],
        .timestamps,
        .index true (some "by_time") ["created_at", "email", "created_at"]]
    let b := ((s.blueprint "users").draw steps).finish
    b.table.MadeBy b.commands ∧
      (∀ c ∈ b.commands, ∀ name ∈ c.listed, name ∈ b.commands.filterMap Command.added?) ∧
      b.preview.Referenced ∧ b.preview.KeyAgrees ∧
      b.preview.primary = some ⟨"users_pkey", ["id"]⟩ ∧
      b.preview.columns.map (fun c => (c.name, c.indexes, c.primary)) =
        [("id", ["users_email_id_index"], true),
          ("email", ["users_email_id_index", "by_time", "users_email_unique"], false),
          ("created_at", ["by_time", "by_time"], false), ("updated_at", [], false)] := by
  intro s steps b
  have made : b.table.MadeBy b.commands := by decide +kernel
  have listed : ∀ c ∈ b.commands, ∀ name ∈ c.listed,
      name ∈ b.commands.filterMap Command.added? := by decide +kernel
  obtain ⟨-, references, marks⟩ := links_blueprint_iff s "users" steps rfl made listed
  exact ⟨made, listed, references.mpr (by decide +kernel), marks.mpr (by decide +kernel),
    by decide +kernel, by decide +kernel⟩

/-- The order counts: an index and a key that are declared before their column leave it without the
name and without the mark, which the same declarations give it behind the column. -/
theorem not_links_blueprint_of_index_before_column :
    let s : Schema := { dialect := .postgres }
    let email : BlueprintStep := .declare (Declaration.string "email").column
    let links : List BlueprintStep := [.index false none ["email"], .primary ["email"]]
    let before := ((s.blueprint "t").draw (links ++ [email])).finish
    let behind := ((s.blueprint "t").draw (email :: links)).finish
    before.table.MadeBy before.commands ∧
      (∀ c ∈ before.commands, ∀ name ∈ c.listed,
        name ∈ before.commands.filterMap Command.added?) ∧
      ¬before.preview.Referenced ∧ ¬before.preview.KeyAgrees ∧
      before.preview.indexes = behind.preview.indexes ∧
      before.preview.primary = behind.preview.primary ∧
      before.preview.columns.map (fun c => (c.name, c.indexes, c.primary)) =
        [("email", [], false)] ∧
      behind.preview.columns.map (fun c => (c.name, c.indexes, c.primary)) =
        [("email", ["t_email_index"], true)] := by
  intro s email links before behind
  refine ⟨by decide +kernel, by decide +kernel, ?_, by decide +kernel, by decide +kernel,
    by decide +kernel, by decide +kernel, by decide +kernel⟩
  intro referenced
  have covered : ∃ i ∈ before.preview.indexes, i.name = "t_email_index" ∧ "email" ∈ i.columns := by
    decide +kernel
  have unnoted : ∃ c ∈ before.preview.columns, c.name = "email" ∧ "t_email_index" ∉ c.indexes := by
    decide +kernel
  obtain ⟨c, there, same, missing⟩ := unnoted
  exact missing ((referenced c there "t_email_index").mpr (same ▸ covered))

end Schema

end SqlComposer
