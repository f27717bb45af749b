import Mathlib.Data.List.Nodup
import SqlComposer.Schema.Command

/-!
What each command makes of a table whose column names differ. The first column of a name is then
the only one, so every column is changed by itself (`Column.modifyNamed_eq_map`), and a command
comes down to one map over the columns beside plain changes of the indexes and the key.
-/

namespace SqlComposer

/-! ## Names put in the place of others -/

def renamedName (before after name : String) : String := if name = before then after else name

theorem renamed_eq_map (before after : String) (names : List String) :
    renamed before after names = names.map (renamedName before after) := rfl

section Renaming

variable {before after : String} {names : List String}

theorem renamedName_inj (fresh : after ∉ names) {a b : String} (left : a ∈ names)
    (right : b ∈ names) (same : renamedName before after a = renamedName before after b) :
    a = b := by
  unfold renamedName at same
  by_cases first : a = before <;> by_cases second : b = before
  · exact first.trans second.symm
  · rw [if_pos first, if_neg second] at same
    exact absurd (same ▸ right) fresh
  · rw [if_neg first, if_pos second] at same
    exact absurd (same ▸ left) fresh
  · rwa [if_neg first, if_neg second] at same

theorem nodup_renamed (fresh : after ∉ names) (unique : names.Nodup) :
    (renamed before after names).Nodup := by
  rw [renamed_eq_map]
  apply List.Nodup.map_on _ unique
  intro a left b right same
  exact renamedName_inj fresh left right same

theorem mem_renamed_of_mem {name : String} (listed : name ∈ names) :
    renamedName before after name ∈ renamed before after names :=
  List.mem_map_of_mem listed

theorem renamedName_mem_renamed_iff (fresh : after ∉ names) {name : String}
    {listed : List String} (known : name ∈ names) (within : ∀ n ∈ listed, n ∈ names) :
    renamedName before after name ∈ renamed before after listed ↔ name ∈ listed := by
  constructor
  · intro member
    obtain ⟨other, present, same⟩ := List.mem_map.mp member
    have equal := renamedName_inj fresh (within other present) known same
    exact equal ▸ present
  · exact mem_renamed_of_mem

end Renaming

/-! ## Changes of single columns -/

namespace Column

variable {f : Column → Column} {columns : List Column}

theorem map_name_modifyNamed (keeps : ∀ c, (f c).name = c.name) (name : String)
    (columns : List Column) :
    (modifyNamed name f columns).map (·.name) = columns.map (·.name) := by
  induction columns with
  | nil => rfl
  | cons c rest ih =>
    by_cases here : c.name = name
    · rw [modifyNamed, if_pos here, List.map_cons, List.map_cons, keeps c]
    · rw [modifyNamed, if_neg here, List.map_cons, List.map_cons, ih]

theorem modifyNamed_eq_map (unique : (columns.map (·.name)).Nodup) (name : String) :
    modifyNamed name f columns = columns.map fun c => if c.name = name then f c else c := by
  induction columns with
  | nil => rfl
  | cons c rest ih =>
    rw [List.map_cons, List.nodup_cons] at unique
    by_cases here : c.name = name
    · have others : ∀ d ∈ rest, (if d.name = name then f d else d) = d := by
        intro d member
        have apart : d.name ≠ name := by
          rintro same
          exact unique.1 (here ▸ same ▸ List.mem_map_of_mem member)
        rw [if_neg apart]
      rw [modifyNamed, if_pos here, List.map_cons, if_pos here, List.map_congr_left others,
        List.map_id']
    · rw [modifyNamed, if_neg here, List.map_cons, if_neg here, ih unique.2]

theorem foldl_modifyNamed_eq_map (keeps : ∀ c, (f c).name = c.name)
    (unique : (columns.map (·.name)).Nodup) (names : List String) :
    names.foldl (fun list name => modifyNamed name f list) columns =
      columns.map fun c => names.foldl (fun c name => if c.name = name then f c else c) c := by
  induction names generalizing columns with
  | nil => simp
  | cons name rest ih =>
    have still : ((modifyNamed name f columns).map (·.name)).Nodup := by
      rwa [map_name_modifyNamed keeps]
    rw [List.foldl_cons, ih still, modifyNamed_eq_map unique, List.map_map]
    rfl

def noted (i : Index) (c : Column) : Column :=
  { c with indexes := c.indexes ++ List.replicate (i.columns.count c.name) i.name }

def keyed (names : List String) (c : Column) : Column :=
  { c with primary := c.primary || names.contains c.name }

theorem foldl_note_eq_noted (i : Index) (c : Column) :
    i.columns.foldl
        (fun c name => if c.name = name then { c with indexes := c.indexes ++ [i.name] } else c) c =
      c.noted i := by
  unfold noted
  induction i.columns generalizing c with
  | nil => simp
  | cons name rest ih =>
    rw [List.foldl_cons, ih]
    by_cases here : c.name = name
    · simp [here, List.replicate_succ]
    · simp [here, Ne.symm here]

theorem mem_indexes_noted_iff {i : Index} {c : Column} {n : String} :
    n ∈ (c.noted i).indexes ↔ n ∈ c.indexes ∨ i.name = n ∧ c.name ∈ i.columns := by
  rw [noted, List.mem_append, List.mem_replicate, ← Nat.pos_iff_ne_zero, List.count_pos_iff,
    and_comm, eq_comm (a := n)]

theorem foldl_mark_eq_keyed (names : List String) (c : Column) :
    names.foldl (fun c name => if c.name = name then { c with primary := true } else c) c =
      c.keyed names := by
  unfold keyed
  induction names generalizing c with
  | nil => simp
  | cons name rest ih =>
    rw [List.foldl_cons, ih]
    by_cases here : c.name = name
    · simp [here]
    · simp [here]

/-- A column as a redefinition leaves it: in its place, in its indexes and in the key. -/
def redefined (c old : Column) : Column :=
  { c.settled with
    position := old.position
    indexes := old.indexes
    primary := old.primary || c.autoIncrement }

def without (dropped : List String) (c : Column) : Column :=
  { c with indexes := c.indexes.filter fun n => n ∉ dropped }

def renumbered (columns : List Column) : List Column :=
  columns.mapIdx fun i c => { c with position := i }

theorem map_name_renumbered (columns : List Column) :
    (renumbered columns).map (·.name) = columns.map (·.name) := by
  calc
    (renumbered columns).map (·.name) = columns.zipIdx.map fun (c, _) => c.name := by
      rw [renumbered, List.mapIdx_eq_zipIdx_map, List.map_map]
      rfl
    _ = (columns.zipIdx.map Prod.fst).map (·.name) := by
      rw [List.map_map]
      rfl
    _ = columns.map (·.name) := by rw [List.zipIdx_map_fst]

theorem map_position_renumbered (columns : List Column) :
    (renumbered columns).map (·.position) = List.range columns.length := by
  calc
    (renumbered columns).map (·.position) = columns.zipIdx.map Prod.snd := by
      rw [renumbered, List.mapIdx_eq_zipIdx_map, List.map_map]
      rfl
    _ = List.range columns.length := by rw [List.zipIdx_map_snd, List.range_eq_range']

theorem mem_of_mem_renumbered {c : Column} (member : c ∈ renumbered columns) :
    ∃ old ∈ columns, ∃ i, c = { old with position := i } := by
  obtain ⟨i, inside, same⟩ := List.mem_mapIdx.mp member
  exact ⟨columns[i], List.getElem_mem inside, i, same.symm⟩

end Column

/-! ## Commands -/

namespace Table

variable (t : Table)

def indexNames : List String := t.indexes.map (·.name)

def covering (name : String) : List String :=
  (t.indexes.filter fun i => i.covers name).map (·.name)

def keyCovers (name : String) : Bool := t.primary.any (·.covers name)

theorem foldl_modifyColumn_eq (names : List String) (f : Column → Column) :
    names.foldl (fun t name => t.modifyColumn name f) t =
      { t with
        columns := names.foldl (fun list name => Column.modifyNamed name f list) t.columns } := by
  induction names generalizing t with
  | nil => rfl
  | cons name rest ih =>
    rw [List.foldl_cons, ih]
    rfl

theorem foldl_withoutIndex_eq (names : List String) :
    names.foldl withoutIndex t =
      { t with
        indexes := t.indexes.filter fun i => i.name ∉ names
        columns := t.columns.map (Column.without names) } := by
  induction names generalizing t with
  | nil =>
    have same : Column.without [] = id := by
      funext c
      simp [Column.without]
    simp [same]
  | cons name rest ih =>
    rw [List.foldl_cons, ih]
    simp [withoutIndex, Column.without, List.filter_filter, Bool.and_comm, not_or]

theorem withoutIndex_eq (name : String) :
    t.withoutIndex name =
      { t with
        indexes := t.indexes.filter fun i => i.name ∉ [name]
        columns := t.columns.map (Column.without [name]) } :=
  t.foldl_withoutIndex_eq [name]

variable {t}

theorem changeColumn_eq (unique : t.columnNames.Nodup) (c : Column) :
    t.changeColumn c =
      { t with
        columns :=
          t.columns.map fun old => if old.name = c.name then c.redefined old else old } := by
  unfold changeColumn modifyColumn
  rw [Column.modifyNamed_eq_map unique]
  rfl

theorem renameColumn_eq (unique : t.columnNames.Nodup) (before after : String) :
    t.renameColumn before after =
      { t with
        columns := t.columns.map fun c => { c with name := renamedName before after c.name }
        indexes := t.indexes.map fun i => { i with columns := renamed before after i.columns }
        primary :=
          t.primary.map fun k => { k with columns := renamed before after k.columns } } := by
  have each : ∀ c : Column, (if c.name = before then { c with name := after } else c) =
      { c with name := renamedName before after c.name } := by
    intro c
    unfold renamedName
    split <;> rfl
  unfold renameColumn modifyColumn
  rw [Column.modifyNamed_eq_map unique]
  simp only [each]

theorem noteIndex_eq (unique : t.columnNames.Nodup) (i : Index) :
    t.noteIndex i = { t with columns := t.columns.map (Column.noted i) } := by
  unfold noteIndex
  rw [foldl_modifyColumn_eq, Column.foldl_modifyNamed_eq_map ?keeps unique]
  case keeps =>
    intro c
    rfl
  simp only [Column.foldl_note_eq_noted]

theorem createIndex_eq (unique : t.columnNames.Nodup) (i : Index) :
    t.createIndex i =
      { t with columns := t.columns.map (Column.noted i), indexes := t.indexes ++ [i] } := by
  rw [createIndex, noteIndex_eq unique]

theorem createPrimary_eq (unique : t.columnNames.Nodup) (k : PrimaryKey) :
    t.createPrimary k =
      { t with
        columns := t.columns.map fun c => { c with primary := k.covers c.name }
        primary := some k } := by
  have bare : (t.withoutPrimary.columns.map (·.name)).Nodup := by
    have names : t.withoutPrimary.columns.map (·.name) = t.columnNames := List.map_map
    rwa [names]
  unfold createPrimary
  rw [foldl_modifyColumn_eq, Column.foldl_modifyNamed_eq_map ?keeps bare]
  case keeps =>
    intro c
    rfl
  simp [Column.foldl_mark_eq_keyed, Column.keyed, withoutPrimary, mapColumns, PrimaryKey.covers]

/-- The columns that stay move up, and the indexes and the key that list the column go. -/
theorem dropColumn_eq (name : String) :
    t.dropColumn name =
      { t with
        columns := (Column.renumbered (t.columns.filter fun c => c.name ≠ name)).map fun c =>
          { c.without (t.covering name) with primary := c.primary && !t.keyCovers name }
        indexes := t.indexes.filter fun i => i.name ∉ t.covering name
        primary := if t.keyCovers name then none else t.primary } := by
  have dropped : t.dropColumn name =
      (let bare := (t.covering name).foldl withoutIndex
        { t with columns := Column.renumbered (t.columns.filter fun c => c.name ≠ name) }
      if t.keyCovers name then bare.withoutPrimary else bare) := rfl
  rw [dropped, foldl_withoutIndex_eq]
  cases t.keyCovers name with
  | true => simp [withoutPrimary, mapColumns, Column.without]
  | false => simp [Column.without]

/-! ## The names of the indexes after a command -/

theorem indexNames_renameColumn (before after : String) :
    (t.renameColumn before after).indexNames = t.indexNames := by
  rw [indexNames, renameColumn, List.map_map]
  rfl

theorem indexNames_createIndex (i : Index) :
    (t.createIndex i).indexNames = t.indexNames ++ [i.name] := by
  rw [indexNames, createIndex, List.map_append]
  rfl

theorem indexNames_renameIndex (before after : String) :
    (t.renameIndex before after).indexNames = renamed before after t.indexNames := by
  rw [indexNames, renameIndex, indexNames, renamed, List.map_map, List.map_map]
  apply List.map_congr_left
  intro i _
  rw [Function.comp_apply, Function.comp_apply]
  split <;> rfl

theorem nodup_map_name_filter (unique : t.indexNames.Nodup) (stays : Index → Bool) :
    ((t.indexes.filter stays).map (·.name)).Nodup := by
  have kept : List.Sublist ((t.indexes.filter stays).map (·.name)) t.indexNames :=
    List.filter_sublist.map _
  exact kept.nodup unique

end Table

end SqlComposer
