import SqlComposer.Proofs.Schema.Key
import SqlComposer.Proofs.Schema.Links
import SqlComposer.Schema.Introspection

/-!
The indexes and the key of a table as rows list them, a column in each. Entries are grouped by the
name of their index, wherever they stand, so each has its place in one index or in the key. The
columns are marked from these, and so both copies of the links agree (`Table.withEntries_grouped`).
-/

namespace SqlComposer

def Index.ofEntries (entries : List IndexEntry) (name : String) : Index :=
  let own := entries.filter fun e => e.name = name
  ⟨name, own.map (·.column), own.head?.any (·.unique)⟩

/-! ## Grouping -/

section Grouping

variable {entries : List IndexEntry}

theorem foldl_addEntry_cons (i : Index) (others : List Index) (entries : List IndexEntry) :
    entries.foldl (fun indexes e => addEntry e indexes) (i :: others) =
      { i with
        columns := i.columns ++ (entries.filter fun e => e.name = i.name).map (·.column) } ::
        (entries.filter fun e => e.name ≠ i.name).foldl (fun indexes e => addEntry e indexes)
          others := by
  induction entries generalizing i others with
  | nil => simp
  | cons e rest ih =>
    by_cases own : e.name = i.name
    · have taken : addEntry e (i :: others) =
          { i with columns := i.columns ++ [e.column] } :: others := if_pos own.symm
      rw [List.foldl_cons, taken, ih]
      simp [own]
    · have left : addEntry e (i :: others) = i :: addEntry e others := if_neg (Ne.symm own)
      rw [List.foldl_cons, left, ih]
      simp [own]

theorem indexesOf_cons (e : IndexEntry) (rest : List IndexEntry) :
    indexesOf (e :: rest) =
      .ofEntries (e :: rest) e.name :: indexesOf (rest.filter fun d => d.name ≠ e.name) := by
  have first : addEntry e [] = [⟨e.name, [e.column], e.unique⟩] := rfl
  rw [indexesOf, List.foldl_cons, first, foldl_addEntry_cons]
  simp [Index.ofEntries, indexesOf]

/-- Induction that goes on with the entries of other names than the first. -/
theorem induction_on_names {P : List IndexEntry → Prop} (nil : P [])
    (cons : ∀ e rest, P (rest.filter fun d => d.name ≠ e.name) → P (e :: rest)) :
    (entries : List IndexEntry) → P entries
  | [] => nil
  | e :: rest => cons e rest (induction_on_names nil cons _)
termination_by entries => entries.length
decreasing_by exact Nat.lt_succ_of_le (List.length_filter_le _ _)

theorem ofEntries_filter {e : IndexEntry} {rest : List IndexEntry} {name : String}
    (other : name ≠ e.name) :
    Index.ofEntries (rest.filter fun d => d.name ≠ e.name) name =
      .ofEntries (e :: rest) name := by
  have same : (rest.filter fun d => d.name ≠ e.name).filter (fun d => d.name = name) =
      (e :: rest).filter fun d => d.name = name := by
    rw [List.filter_cons_of_neg (by simpa using Ne.symm other), List.filter_filter]
    apply List.filter_congr
    intro d _
    by_cases own : d.name = name
    · simp [own, other]
    · simp [own]
  rw [Index.ofEntries, Index.ofEntries, same]

theorem map_name_filter (e : IndexEntry) (rest : List IndexEntry) :
    (rest.filter fun d => d.name ≠ e.name).map (·.name) =
      (rest.map (·.name)).filter fun name => !name == e.name := by
  have other : ∀ d : IndexEntry, decide (d.name ≠ e.name) = !d.name == e.name := by
    intro d
    rw [decide_not, beq_eq_decide]
  simp only [List.filter_map, Function.comp_def, other]

/-- There is an index for every name, in the order in which names appear first. -/
theorem indexesOf_eq (entries : List IndexEntry) :
    indexesOf entries = (entries.map (·.name)).eraseDups.map (Index.ofEntries entries) := by
  induction entries using induction_on_names with
  | nil => rfl
  | cons e rest ih =>
    rw [indexesOf_cons, ih, map_name_filter, List.map_cons, List.eraseDups_cons, List.map_cons]
    congr 1
    apply List.map_congr_left
    intro name listed
    have other : name ≠ e.name := by
      have kept := (List.mem_filter.mp (List.mem_eraseDups.mp listed)).2
      simpa using kept
    exact ofEntries_filter other

theorem nodup_map_name_indexesOf (entries : List IndexEntry) :
    ((indexesOf entries).map (·.name)).Nodup := by
  induction entries using induction_on_names with
  | nil => exact List.nodup_nil
  | cons e rest ih =>
    rw [indexesOf_cons, List.map_cons, List.nodup_cons]
    refine ⟨?_, ih⟩
    rw [indexesOf_eq, List.map_map]
    intro again
    obtain ⟨name, listed, same⟩ := List.mem_map.mp again
    obtain ⟨d, kept, rfl⟩ := List.mem_map.mp (List.mem_eraseDups.mp listed)
    exact of_decide_eq_true (List.mem_filter.mp kept).2 same

/-- Every entry has one place in one index. -/
theorem places_indexesOf_perm (entries : List IndexEntry) :
    ((indexesOf entries).flatMap fun i => i.columns.map fun column => (i.name, column)).Perm
      (entries.map fun e => (e.name, e.column)) := by
  induction entries using induction_on_names with
  | nil => exact .nil
  | cons e rest ih =>
    let own := (e :: rest).filter fun d => d.name = e.name
    have others : (rest.filter fun d => d.name ≠ e.name) =
        (e :: rest).filter fun d => !decide (d.name = e.name) := by
      simp
    have first : ((Index.ofEntries (e :: rest) e.name).columns.map fun column =>
        (e.name, column)) = own.map fun d => (d.name, d.column) := by
      rw [Index.ofEntries, List.map_map]
      apply List.map_congr_left
      intro d member
      have named : d.name = e.name := of_decide_eq_true (List.mem_filter.mp member).2
      rw [Function.comp_apply, named]
    have split : (own ++ rest.filter fun d => d.name ≠ e.name).Perm (e :: rest) := by
      rw [others]
      exact List.filter_append_perm _ _
    rw [indexesOf_cons, List.flatMap_cons]
    refine (List.Perm.append (.of_eq first) ih).trans ?_
    rw [← List.map_append]
    exact split.map _

end Grouping

/-! ## Marking the columns -/

namespace Column

/-- A column as a key marks it. Where there is no key, marks stay as they are. -/
def markedBy (key : Option PrimaryKey) (c : Column) : Column :=
  { c with primary := key.elim c.primary fun k => k.covers c.name }

def notedAll (indexes : List Index) (c : Column) : Column :=
  indexes.foldl (fun c i => c.noted i) c

def unlinked (c : Column) : Column := { c with indexes := [], primary := false }

theorem name_notedAll (indexes : List Index) (c : Column) :
    (c.notedAll indexes).name = c.name := by
  induction indexes generalizing c with
  | nil => rfl
  | cons i rest ih => exact ih (c.noted i)

theorem primary_notedAll (indexes : List Index) (c : Column) :
    (c.notedAll indexes).primary = c.primary := by
  induction indexes generalizing c with
  | nil => rfl
  | cons i rest ih => exact ih (c.noted i)

theorem unlinked_notedAll (indexes : List Index) (c : Column) :
    (c.notedAll indexes).unlinked = c.unlinked := by
  induction indexes generalizing c with
  | nil => rfl
  | cons i rest ih => exact ih (c.noted i)

theorem mem_indexes_notedAll_iff {indexes : List Index} {c : Column} {n : String} :
    n ∈ (c.notedAll indexes).indexes ↔
      n ∈ c.indexes ∨ ∃ i ∈ indexes, i.name = n ∧ c.name ∈ i.columns := by
  induction indexes generalizing c with
  | nil => simp [notedAll]
  | cons i rest ih =>
    have first : n ∈ ((c.noted i).notedAll rest).indexes ↔ _ := ih
    rw [mem_indexes_noted_iff] at first
    simpa [notedAll, noted, or_assoc] using first

end Column

namespace Table

variable {t : Table}

theorem foldl_noteIndex_eq (unique : t.columnNames.Nodup) (indexes : List Index) :
    indexes.foldl noteIndex t = { t with columns := t.columns.map (Column.notedAll indexes) } := by
  induction indexes generalizing t with
  | nil =>
    have same : Column.notedAll [] = id := rfl
    simp [same]
  | cons i rest ih =>
    have same : (t.noteIndex i).columnNames = t.columnNames := by
      rw [noteIndex_eq unique]
      exact map_name_map fun _ => rfl
    rw [List.foldl_cons, ih (same ▸ unique), noteIndex_eq unique]
    simp [Column.notedAll, List.map_map, Function.comp_def]

/-- The key of the entries or, where none of them is of a key, that of the marked columns. -/
def keyOf (t : Table) (entries : List IndexEntry) : Option PrimaryKey :=
  (primaryOf (entries.filter (·.primary))).or t.flaggedPrimary

theorem withEntries_eq (unique : t.columnNames.Nodup) (entries : List IndexEntry) :
    t.withEntries entries =
      { t with
        columns := t.columns.map fun c =>
          (c.markedBy (t.keyOf entries)).notedAll (indexesOf (entries.filter (!·.primary)))
        indexes := indexesOf (entries.filter (!·.primary))
        primary := t.keyOf entries } := by
  let marked : Table := { t with columns := t.columns.map (Column.markedBy (t.keyOf entries)) }
  have names : marked.columnNames = t.columnNames := map_name_map fun _ => rfl
  have made : t.withEntries entries =
      { (indexesOf (entries.filter (!·.primary))).foldl noteIndex marked with
        indexes := indexesOf (entries.filter (!·.primary))
        primary := t.keyOf entries } := by
    cases key : t.keyOf entries with
    | none =>
      have bare : marked = t := by
        have same : Column.markedBy none = id := rfl
        simp [marked, key, same]
      rw [bare, withEntries, ← keyOf, key]
    | some k =>
      have keyed : marked = t.mapColumns fun c => { c with primary := k.covers c.name } := by
        simp only [marked, key]
        rfl
      rw [keyed, withEntries, ← keyOf, key]
  rw [made, foldl_noteIndex_eq (names ▸ unique)]
  simp [marked, Function.comp_def]

theorem primary_eq_false_of_keyOf {entries : List IndexEntry} (keyless : t.keyOf entries = none)
    {c : Column} (member : c ∈ t.columns) : c.primary = false := by
  have flagged : t.flaggedPrimary = none := (Option.or_eq_none_iff.mp keyless).2
  by_contra marked
  have listed : c.name ∈ (t.columns.filter (·.primary)).map (·.name) :=
    List.mem_map_of_mem (List.mem_filter.mpr ⟨member, by simpa using marked⟩)
  unfold flaggedPrimary at flagged
  split at flagged
  · next none =>
    rw [none] at listed
    cases listed
  · cases flagged

/-- What the entries say is what the model says: every index with its columns, each entry in one
place, the key, and the same links at the columns. -/
structure Grouped (t : Table) (entries : List IndexEntry) (read : Table) : Prop where
  indexes : read.indexes = ((entries.filter (!·.primary)).map (·.name)).eraseDups.map
    (Index.ofEntries (entries.filter (!·.primary)))
  indexes_nodup : read.indexNames.Nodup
  places : (read.indexes.flatMap fun i => i.columns.map fun column => (i.name, column)).Perm
    ((entries.filter (!·.primary)).map fun e => (e.name, e.column))
  key : read.primary =
    match entries.filter (·.primary), (t.columns.filter (·.primary)).map (·.name) with
    | e :: rest, _ => some ⟨e.name, (e :: rest).map (·.column)⟩
    | [], [] => none
    | [], names => some ⟨t.primaryName, names⟩
  references : read.Referenced
  marks : read.KeyAgrees
  unlinked : { read with
      columns := read.columns.map Column.unlinked, indexes := t.indexes, primary := t.primary } =
    { t with columns := t.columns.map Column.unlinked }

/-- Whatever the order of the entries, and whether or not the table has the columns they name, the
model of a table that has no links yet is made to say the same as they do. -/
theorem withEntries_grouped (unique : t.columnNames.Nodup)
    (bare : ∀ c ∈ t.columns, c.indexes = []) (entries : List IndexEntry) :
    t.Grouped entries (t.withEntries entries) := by
  rw [withEntries_eq unique]
  constructor
  · exact indexesOf_eq _
  · exact nodup_map_name_indexesOf _
  · exact places_indexesOf_perm _
  · change t.keyOf entries = _
    unfold keyOf flaggedPrimary
    cases entries.filter (·.primary) with
    | nil => cases (t.columns.filter (·.primary)).map (·.name) <;> rfl
    | cons e rest => rfl
  · intro c member n
    obtain ⟨old, known, rfl⟩ := List.mem_map.mp member
    have plain : (old.markedBy (t.keyOf entries)).indexes = [] := bare old known
    rw [Column.mem_indexes_notedAll_iff, Column.name_notedAll, plain]
    simp
  · intro c member
    obtain ⟨old, known, rfl⟩ := List.mem_map.mp member
    rw [Column.primary_notedAll, Column.name_notedAll]
    cases key : t.keyOf entries with
    | none =>
      have unmarked := primary_eq_false_of_keyOf key known
      simp [Column.markedBy, unmarked]
    | some k => simp [Column.markedBy, PrimaryKey.covers]
  · have same : ∀ c : Column, ((c.markedBy (t.keyOf entries)).notedAll
        (indexesOf (entries.filter (!·.primary)))).unlinked = c.unlinked := by
      intro c
      rw [Column.unlinked_notedAll]
      rfl
    simp [same]

/-- Entries of two indexes and of the key in turn, one of a column that is not there and one column
twice in an index. -/
theorem withEntries_grouped_of_interleaved :
    let t : Table :=
      { name := "users"
        columns := [{ name := "id", type := .bigInteger, primary := true },
          { name := "email", type := .string }, { name := "team", type := .integer }] }
    let entries : List IndexEntry :=
      [⟨"by_team", "team", false, false⟩, ⟨"users_pkey", "id", true, true⟩,
        ⟨"by_email", "email", true, false⟩, ⟨"by_team", "lower(email)", true, false⟩,
        ⟨"other", "team", true, true⟩, ⟨"by_email", "team", false, false⟩,
        ⟨"by_email", "email", true, false⟩]
    t.columnNames.Nodup ∧ (∀ c ∈ t.columns, c.indexes = []) ∧
      t.Grouped entries (t.withEntries entries) ∧
      (t.withEntries entries).indexes =
        [⟨"by_team", ["team", "lower(email)"], false⟩,
          ⟨"by_email", ["email", "team", "email"], true⟩] ∧
      (t.withEntries entries).primary = some ⟨"users_pkey", ["id", "team"]⟩ ∧
      (t.withEntries entries).columns.map (fun c => (c.name, c.indexes, c.primary)) =
        [("id", [], true), ("email", ["by_email", "by_email"], false),
          ("team", ["by_team", "by_email"], true)] := by
  intro t entries
  have unique : t.columnNames.Nodup := by decide
  have bare : ∀ c ∈ t.columns, c.indexes = [] := by decide
  exact ⟨unique, bare, withEntries_grouped unique bare entries, by decide +kernel,
    by decide +kernel, by decide +kernel⟩

end Table

end SqlComposer
