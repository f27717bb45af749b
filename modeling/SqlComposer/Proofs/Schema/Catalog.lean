import SqlComposer.Proofs.Schema.Outcomes
import SqlComposer.Proofs.Schema.Rebuild

/-!
The indexes that a database keeps of its tables, and what the statements of commands make of them.
A model and the statements for it follow a command on separate ways, so what has to be shown is
that both come to the same indexes, and that no statement names an index that is not there.
-/

namespace SqlComposer

abbrev Catalog := String → List Index

def Catalog.change (c : Catalog) (tables : String → Bool) (f : List Index → List Index) :
    Catalog := fun table => if tables table then f (c table) else c table

namespace Ddl

variable (d : Dialect)

/-- What a statement makes of the indexes. Where the statement that drops or renames an index names
no table, the index goes by its name alone. A renamed table keeps its indexes. -/
def reindex (c : Catalog) : Ddl → Catalog
  | createIndex t i => c.change (· = d.quoteTable t) (· ++ [i])
  | dropIndex t name =>
    c.change (fun table => d = .postgres ∨ d = .sqlite ∨ table = d.quoteTable t)
      (List.filter fun i => i.name ≠ name)
  | renameIndex t before after =>
    c.change (fun table => d = .postgres ∨ table = d.quoteTable t)
      (List.map fun i => if i.name = before then { i with name := after } else i)
  | renameColumn t before after =>
    c.change (· = d.quoteTable t)
      (List.map fun i => { i with columns := renamed before after i.columns })
  | dropTable _ t => c.change (· = d.quoteTable t) fun _ => []
  | renameTable before after =>
    (c.change (· = d.quoteTable before) fun _ => []).change (· = d.quoteTable after)
      fun _ => c (d.quoteTable before)
  | _ => c

/-- An index that a statement drops or renames is one of the table. -/
def Finds (c : Catalog) : Ddl → Prop
  | dropIndex t name | renameIndex t name _ => name ∈ (c (d.quoteTable t)).map (·.name)
  | _ => True

def LeavesIndexes : Ddl → Prop
  | createIndex _ _ | dropIndex _ _ | renameIndex _ _ _ | renameColumn _ _ _ | dropTable _ _
  | renameTable _ _ => False
  | _ => True

def reindexAll (c : Catalog) (list : List Ddl) : Catalog := list.foldl (reindex d) c

def FindsAll : Catalog → List Ddl → Prop
  | _, [] => True
  | c, ddl :: rest => ddl.Finds d c ∧ FindsAll (ddl.reindex d c) rest

variable {d} {c : Catalog} {ddl : Ddl}

theorem findsAll_append {first second : List Ddl} :
    FindsAll d c (first ++ second) ↔
      FindsAll d c first ∧ FindsAll d (reindexAll d c first) second := by
  induction first generalizing c with
  | nil => exact (and_iff_right trivial).symm
  | cons ddl rest ih =>
    rw [List.cons_append, FindsAll, ih, FindsAll, and_assoc]
    rfl

theorem LeavesIndexes.finds_and_reindex (leaves : ddl.LeavesIndexes) :
    ddl.Finds d c ∧ ddl.reindex d c = c := by
  cases ddl with
  | createIndex | dropIndex | renameIndex | renameColumn | dropTable | renameTable => cases leaves
  | createType | createTable | copyRows | addColumn | changeColumn | dropColumn | commentColumn
  | addPrimary | dropPrimary => exact ⟨trivial, rfl⟩

end Ddl

/-! ## Statements that turn the indexes of a table into others -/

/-- Wherever a table has these indexes, the statements find all indexes that they name and leave
the table with those. -/
def Turns (d : Dialect) (t : TableName) (list : List Ddl) (before after : List Index) : Prop :=
  ∀ c : Catalog, c (d.quoteTable t) = before →
    Ddl.FindsAll d c list ∧ Ddl.reindexAll d c list (d.quoteTable t) = after

namespace Turns

open Ddl

variable {d : Dialect} {t : TableName} {before middle after : List Index}

theorem nil : Turns d t [] before before := fun _ held => ⟨trivial, held⟩

theorem append {first second : List Ddl} (early : Turns d t first before middle)
    (late : Turns d t second middle after) : Turns d t (first ++ second) before after := by
  intro c held
  obtain ⟨found, between⟩ := early c held
  obtain ⟨later, finish⟩ := late _ between
  refine ⟨findsAll_append.mpr ⟨found, later⟩, ?_⟩
  rw [reindexAll, List.foldl_append]
  exact finish

theorem single {ddl : Ddl} (finds : ∀ c : Catalog, c (d.quoteTable t) = before → ddl.Finds d c)
    (turns : ∀ c : Catalog, c (d.quoteTable t) = before →
      ddl.reindex d c (d.quoteTable t) = after) : Turns d t [ddl] before after :=
  fun c held => ⟨⟨finds c held, trivial⟩, turns c held⟩

theorem alone {ddl : Ddl} (leaves : ddl.LeavesIndexes) : Turns d t [ddl] before before := by
  apply single
  · intro c _
    exact leaves.finds_and_reindex.1
  · intro c held
    rw [leaves.finds_and_reindex.2, held]

theorem of_leavesIndexes {list : List Ddl} (leaves : ∀ ddl ∈ list, ddl.LeavesIndexes) :
    Turns d t list before before := by
  induction list with
  | nil => exact nil
  | cons ddl rest ih =>
    have later := ih fun other member => leaves other (List.mem_cons_of_mem ddl member)
    exact (alone (leaves ddl List.mem_cons_self)).append later

theorem createIndex (i : Index) : Turns d t [.createIndex t i] before (before ++ [i]) := by
  apply single
  · intro c _
    trivial
  · rintro c rfl
    simp [reindex, Catalog.change]

theorem createIndexes (indexes : List Index) :
    Turns d t (indexes.map fun i => .createIndex t i) before (before ++ indexes) := by
  induction indexes generalizing before with
  | nil =>
    rw [List.append_nil]
    exact nil
  | cons i rest ih =>
    have later : Turns d t (rest.map fun i => .createIndex t i) (before ++ [i])
        (before ++ [i] ++ rest) := ih
    rw [List.append_assoc, List.singleton_append] at later
    exact (createIndex i).append later

theorem dropIndex {name : String} (known : name ∈ before.map (·.name)) :
    Turns d t [.dropIndex t name] before (before.filter fun i => i.name ≠ name) := by
  apply single
  · rintro c rfl
    exact known
  · rintro c rfl
    simp [reindex, Catalog.change]

theorem dropIndexes {names : List String} (distinct : names.Nodup)
    (known : ∀ name ∈ names, name ∈ before.map (·.name)) :
    Turns d t (names.map fun name => .dropIndex t name) before
      (before.filter fun i => i.name ∉ names) := by
  induction names generalizing before with
  | nil =>
    have all : (before.filter fun i => i.name ∉ ([] : List String)) = before := by simp
    rw [all]
    exact nil
  | cons name rest ih =>
    rw [List.nodup_cons] at distinct
    have still : ∀ other ∈ rest,
        other ∈ (before.filter fun i => i.name ≠ name).map (·.name) := by
      intro other member
      obtain ⟨i, held, rfl⟩ := List.mem_map.mp (known other (List.mem_cons_of_mem name member))
      have apart : i.name ≠ name := by
        intro same
        exact distinct.1 (same ▸ member)
      exact List.mem_map_of_mem (List.mem_filter.mpr ⟨held, decide_eq_true apart⟩)
    have first : Turns d t [.dropIndex t name] before (before.filter fun i => i.name ≠ name) :=
      dropIndex (known name List.mem_cons_self)
    have later := first.append (ih distinct.2 still)
    have both : ((before.filter fun i => i.name ≠ name).filter fun i => i.name ∉ rest) =
        before.filter fun i => i.name ∉ name :: rest := by
      rw [List.filter_filter]
      apply List.filter_congr
      intro i _
      simp [not_or, Bool.and_comm]
    rwa [both] at later

theorem renameIndex {name fresh : String} (known : name ∈ before.map (·.name)) :
    Turns d t [.renameIndex t name fresh] before
      (before.map fun i => if i.name = name then { i with name := fresh } else i) := by
  apply single
  · rintro c rfl
    exact known
  · rintro c rfl
    simp [reindex, Catalog.change]

theorem renameColumn (name fresh : String) :
    Turns d t [.renameColumn t name fresh] before
      (before.map fun i => { i with columns := renamed name fresh i.columns }) := by
  apply single
  · intro c _
    trivial
  · rintro c rfl
    simp [reindex, Catalog.change]

end Turns

/-! ## Indexes of different names -/

theorem perm_cons_filter_name {indexes : List Index}
    (unique : (indexes.map (·.name)).Nodup) {i : Index} (member : i ∈ indexes) :
    indexes.Perm (i :: indexes.filter fun j => j.name ≠ i.name) := by
  have others : indexes.erase i = indexes.filter fun j => j.name ≠ i.name := by
    rw [unique.of_map.erase_eq_filter]
    apply List.filter_congr
    intro j known
    have same : j = i ↔ j.name = i.name :=
      ⟨congrArg _, List.inj_on_of_nodup_map unique known member⟩
    apply Bool.eq_iff_iff.mpr
    simp [same]
  rw [← others]
  exact List.perm_cons_erase member

theorem perm_map_renamed {indexes held : List Index} (unique : (indexes.map (·.name)).Nodup)
    (alike : held.Perm indexes) {i : Index} (member : i ∈ indexes) (fresh : String) :
    ((held.filter fun j : Index => j.name ≠ i.name) ++ [{ i with name := fresh }]).Perm
      (indexes.map fun j : Index => if j.name = i.name then { j with name := fresh } else j) := by
  have others : ∀ j ∈ indexes.filter fun j => j.name ≠ i.name,
      (if j.name = i.name then { j with name := fresh } else j) = j := by
    intro j stays
    exact if_neg (of_decide_eq_true (List.mem_filter.mp stays).2)
  have moved := (perm_cons_filter_name unique member).map fun j =>
    if j.name = i.name then { j with name := fresh } else j
  rw [List.map_cons, List.map_congr_left others, List.map_id', if_pos rfl] at moved
  calc
    List.Perm ((held.filter fun j => j.name ≠ i.name) ++ [{ i with name := fresh }])
        ({ i with name := fresh } :: held.filter fun j => j.name ≠ i.name) :=
      List.perm_append_singleton ..
    List.Perm _ ({ i with name := fresh } :: indexes.filter fun j => j.name ≠ i.name) :=
      (alike.filter _).cons _
    List.Perm _ (indexes.map fun j =>
        if j.name = i.name then { j with name := fresh } else j) := moved.symm

theorem Table.index?_of_mem {t : Table} (unique : t.indexNames.Nodup) {i : Index}
    (member : i ∈ t.indexes) : t.index? i.name = some i := by
  have found : (t.index? i.name).isSome := by
    rw [index?, List.find?_isSome]
    exact ⟨i, member, decide_eq_true rfl⟩
  obtain ⟨other, lookup⟩ := Option.isSome_iff_exists.mp found
  have known : other ∈ t.indexes := List.mem_of_find?_eq_some lookup
  have same : other.name = i.name := by simpa using List.find?_some lookup
  rw [lookup, List.inj_on_of_nodup_map unique known member same]

namespace Command

/-- A new index takes a free name, and an index that is dropped or renamed is one of the table. -/
def FitsIndexes (t : Table) : Command → Prop
  | createIndex i => i.name ∉ t.indexNames
  | dropIndex name => name ∈ t.indexNames
  | renameIndex before after => before ∈ t.indexNames ∧ after ∉ t.indexNames
  | _ => True

instance decidableFitsIndexes (t : Table) : (c : Command) → Decidable (c.FitsIndexes t)
  | createIndex i => inferInstanceAs (Decidable (i.name ∉ t.indexNames))
  | dropIndex name => inferInstanceAs (Decidable (name ∈ t.indexNames))
  | renameIndex before after =>
    inferInstanceAs (Decidable (before ∈ t.indexNames ∧ after ∉ t.indexNames))
  | addColumn _ | changeColumn _ | renameColumn _ _ | dropColumn _ | createPrimary _
  | dropPrimary => inferInstanceAs (Decidable True)

end Command

namespace Dialect

variable {d : Dialect} {t : Table} {held : List Index}

theorem leavesIndexes_prerequisites {c : Column} :
    ∀ ddl ∈ d.prerequisites c, ddl.LeavesIndexes := by
  intro ddl member
  unfold prerequisites at member
  split at member
  · obtain rfl := List.mem_singleton.mp member
    trivial
  · cases member

theorem leavesIndexes_followUps {own : TableName} {c : Column} :
    ∀ ddl ∈ d.followUps own c, ddl.LeavesIndexes := by
  intro ddl member
  unfold followUps at member
  split at member
  · obtain ⟨text, -, rfl⟩ := List.mem_map.mp member
    trivial
  · cases member

/-- What is done to a column leaves the indexes as they are if the statement itself does. -/
theorem turns_column {own : TableName} {c : Column} {ddl : Ddl} (leaves : ddl.LeavesIndexes) :
    Turns d own (d.prerequisites c ++ [ddl] ++ d.followUps own c) held held :=
  ((Turns.of_leavesIndexes leavesIndexes_prerequisites).append (Turns.alone leaves)).append
    (Turns.of_leavesIndexes leavesIndexes_followUps)

theorem turns_dropColumn (unique : t.indexNames.Nodup) (alike : held.Perm t.indexes)
    (name : String) :
    Turns d t.tableName (dropColumn t name) held
      (held.filter fun i => i.name ∉ t.covering name) := by
  have covering : List.Sublist (t.covering name) t.indexNames := List.filter_sublist.map _
  have known : ∀ other ∈ t.covering name, other ∈ held.map (·.name) := by
    intro other member
    exact (alike.map _).mem_iff.mpr (covering.subset member)
  have dropped : dropColumn t name =
      (t.covering name).map (fun other => .dropIndex t.tableName other) ++
        [.dropColumn t.tableName name] := by
    rw [dropColumn, Table.covering, List.map_map]
    rfl
  rw [dropped]
  exact (Turns.dropIndexes (covering.nodup unique) known).append (Turns.alone trivial)

/-- Where an index cannot be renamed, it is made again under the new name and stands last. -/
theorem turns_renameIndex (unique : t.indexNames.Nodup) (alike : held.Perm t.indexes)
    {before after : String} (known : before ∈ t.indexNames) :
    ∃ now, Turns d t.tableName (d.renameIndex t before after) held now ∧
      now.Perm (t.renameIndex before after).indexes := by
  have there : before ∈ held.map (·.name) := (alike.map _).mem_iff.mpr known
  cases d with
  | generic | mysql | postgres => exact ⟨_, Turns.renameIndex there, alike.map _⟩
  | sqlite =>
    obtain ⟨i, member, rfl⟩ := List.mem_map.mp known
    have recreated : sqlite.renameIndex t i.name after =
        [.dropIndex t.tableName i.name] ++
          [.createIndex t.tableName { i with name := after }] := by
      rw [renameIndex, Table.index?_of_mem unique member]
      rfl
    refine ⟨_, ?_, perm_map_renamed unique alike member after⟩
    rw [recreated]
    exact (Turns.dropIndex there).append (Turns.createIndex _)

/-- The table that takes the name in a rebuild has no indexes until they are made again. -/
theorem turns_rebuild {c : Command} (rebuilds : c.Rebuilds) :
    Turns sqlite t.tableName (sqlite.statements t c) held t.indexes := by
  rw [statements_eq_rebuild rebuilds]
  have replaced : Turns sqlite t.tableName
      [.dropTable true t.tableName.temporary, .createTable false (copyDefinition t c),
        .copyRows t.tableName t.tableName.temporary
          ((t.apply c).columnNames.filter t.hasColumn),
        .dropTable false t.tableName, .renameTable t.tableName.temporary t.tableName] held [] := by
    intro catalog _
    constructor
    · simp [Ddl.FindsAll, Ddl.Finds]
    · simp [Ddl.reindexAll, Ddl.reindex, Catalog.change]
  exact replaced.append (Turns.createIndexes t.indexes)

theorem turns_of_rebuilds (alike : held.Perm t.indexes) {c : Command} (rebuilds : c.Rebuilds) :
    ∃ now, Turns d t.tableName (d.statements t c) held now ∧ now.Perm (t.apply c).indexes := by
  rw [Table.indexes_apply_of_rebuilds rebuilds]
  cases d with
  | sqlite => exact ⟨t.indexes, turns_rebuild rebuilds, .refl _⟩
  | generic | mysql | postgres =>
    refine ⟨held, ?_, alike⟩
    cases rebuilds with
    | changeColumn c => exact turns_column trivial
    | createPrimary k => exact Turns.alone trivial
    | dropPrimary => exact Turns.alone trivial

/-- A table that has the indexes of the model, in whatever order, has those of the model after a
command once the statements of the command have been carried out. -/
theorem turns_statements (unique : t.indexNames.Nodup) (alike : held.Perm t.indexes) {c : Command}
    (fits : c.FitsIndexes t) :
    ∃ now, Turns d t.tableName (d.statements t c) held now ∧ now.Perm (t.apply c).indexes := by
  cases c with
  | addColumn c => exact ⟨held, turns_column trivial, alike⟩
  | renameColumn before after => exact ⟨_, Turns.renameColumn before after, alike.map _⟩
  | dropColumn name =>
    refine ⟨_, turns_dropColumn unique alike name, ?_⟩
    have equation : t.apply (.dropColumn name) = _ := Table.dropColumn_eq name
    rw [equation]
    exact alike.filter _
  | createIndex i => exact ⟨_, Turns.createIndex i, alike.append_right [i]⟩
  | dropIndex name =>
    have known : name ∈ held.map (·.name) := (alike.map _).mem_iff.mpr fits
    exact ⟨_, Turns.dropIndex known, alike.filter _⟩
  | renameIndex before after => exact turns_renameIndex unique alike fits.1
  | changeColumn c => exact turns_of_rebuilds alike (.changeColumn c)
  | createPrimary k => exact turns_of_rebuilds alike (.createPrimary k)
  | dropPrimary => exact turns_of_rebuilds alike .dropPrimary

end Dialect

namespace Table

variable {t : Table} {c : Command}

theorem nodup_indexNames_apply (unique : t.indexNames.Nodup) (fits : c.FitsIndexes t) :
    (t.apply c).indexNames.Nodup := by
  cases c with
  | addColumn | changeColumn | dropPrimary => exact unique
  | renameColumn before after =>
    have names : (t.apply (.renameColumn before after)).indexNames = t.indexNames :=
      indexNames_renameColumn before after
    rwa [names]
  | dropColumn name =>
    have equation : t.apply (.dropColumn name) = _ := dropColumn_eq name
    rw [equation]
    exact nodup_map_name_filter unique _
  | createIndex i =>
    have names : (t.apply (.createIndex i)).indexNames = t.indexNames ++ [i.name] :=
      indexNames_createIndex i
    rw [names, ← List.concat_eq_append]
    exact unique.concat fits
  | dropIndex name => exact nodup_map_name_filter unique _
  | renameIndex before after =>
    have names : (t.apply (.renameIndex before after)).indexNames =
        renamed before after t.indexNames := indexNames_renameIndex before after
    rw [names]
    exact nodup_renamed fits.2 unique
  | createPrimary k =>
    have same : (t.apply (.createPrimary k)).indexes = t.indexes :=
      indexes_apply_of_rebuilds (.createPrimary k)
    rwa [indexNames, same]

end Table

/-! ## Runs -/

def Dialect.script (d : Dialect) : Table → List Command → List Ddl
  | _, [] => []
  | t, c :: rest => d.statements t c ++ d.script (t.apply c) rest

theorem Schema.texts_eq (s : Schema) (t : Table) (commands : List Command) :
    s.texts t commands = (s.dialect.script t commands).map fun ddl => ⟨ddl.sql s.dialect, []⟩ := by
  induction commands generalizing t with
  | nil => rfl
  | cons c rest ih =>
    rw [Schema.texts, ih, Dialect.script, List.map_append]
    rfl

theorem Dialect.turns_script {d : Dialect} {t : Table} {held : List Index}
    {commands : List Command} (unique : t.indexNames.Nodup) (alike : held.Perm t.indexes)
    (fits : Table.Along (fun t c => c.FitsIndexes t) t commands) :
    ∃ now, Turns d t.tableName (d.script t commands) held now ∧
      now.Perm (t.applyAll commands).indexes := by
  induction commands generalizing t held with
  | nil => exact ⟨held, Turns.nil, alike⟩
  | cons c rest ih =>
    obtain ⟨middle, step, between⟩ := turns_statements (d := d) unique alike fits.1
    obtain ⟨now, later, finish⟩ := ih (Table.nodup_indexNames_apply unique fits.1) between fits.2
    rw [Table.tableName_apply] at later
    exact ⟨now, step.append later, finish⟩

theorem Table.Along.of_prefix {P : Table → Command → Prop} {t : Table}
    {done commands : List Command} (along : Along P t commands) (part : done <+: commands) :
    Along P t done := by
  induction done generalizing t commands with
  | nil => trivial
  | cons c rest ih =>
    obtain ⟨later, rfl⟩ := part
    exact ⟨along.1, ih along.2 (List.prefix_append rest later)⟩

namespace Schema

open Connection

variable {σ : Type} [Connection (StateM σ)]

/-- Commands that a connection accepts all statements of, on a table whose indexes are those of the
model. After every command they still are, in whatever order, and no statement has named an index
that is not there. -/
theorem catalog_follows_commands (s : Schema) {t : Table} {commands : List Command}
    {catalog : Catalog} (unique : t.indexNames.Nodup)
    (alike : (catalog (s.dialect.quoteTable t.tableName)).Perm t.indexes)
    (fits : Table.Along (fun t c => c.FitsIndexes t) t commands) {start finish : σ}
    {result : Table × List (Command × CommandOutcome)}
    (ran : (s.applyCommands t commands).runFrom start = (.ok result, finish))
    (smooth : ∀ o ∈ result.2, o.2 = .applied) :
    result.1 = t.applyAll commands ∧
      Given start ((s.dialect.script t commands).map fun ddl => ⟨ddl.sql s.dialect, []⟩) none
        finish ∧
      Ddl.FindsAll s.dialect catalog (s.dialect.script t commands) ∧
      ∀ done, done <+: commands →
        (Ddl.reindexAll s.dialect catalog (s.dialect.script t done)
          (s.dialect.quoteTable t.tableName)).Perm (t.applyAll done).indexes := by
  obtain ⟨statements, reached, failures, last, ends, run⟩ :=
    applyCommands_ends s t commands start
  rw [ran] at run
  obtain ⟨rfl, rfl⟩ : result = reached ∧ finish = last := by simpa using run
  have turned : ∀ done, done <+: commands → ∃ now,
      Turns s.dialect t.tableName (s.dialect.script t done)
        (catalog (s.dialect.quoteTable t.tableName)) now ∧
      now.Perm (t.applyAll done).indexes :=
    fun done part => Dialect.turns_script unique alike (fits.of_prefix part)
  cases ends with
  | applied given =>
    obtain ⟨now, turns, -⟩ := turned commands List.prefix_rfl
    rw [texts_eq] at given
    refine ⟨rfl, given, (turns catalog rfl).1, ?_⟩
    intro done part
    obtain ⟨now, turns, same⟩ := turned done part
    rw [(turns catalog rfl).2]
    exact same
  | @refused done rest c =>
    have failed := smooth (c, _) (List.mem_append_right _ List.mem_cons_self)
    cases failed

/-- An index that is made again under another name, carried through a rebuild of its table, and
left when the indexes over another column go with it. -/
theorem catalog_follows_commands_of_rebuilding_script :
    let s : Schema := { dialect := .sqlite }
    let t : Table :=
      { name := "posts"
        columns := [{ name := "title", type := .string }, { name := "body", type := .text }]
        indexes := [⟨"by_title", ["title"], true⟩, ⟨"by_body", ["body"], false⟩] }
    let commands : List Command :=
      [.renameIndex "by_title" "headlines",
        .renameColumn "title" "headline",
        .changeColumn { name := "headline", type := .text },
        .createIndex ⟨"by_both", ["headline", "body"], false⟩,
        .dropColumn "body"]
    let catalog : Catalog := fun table => if table = "`posts`" then t.indexes else []
    t.indexNames.Nodup ∧ Table.Along (fun t c => c.FitsIndexes t) t commands ∧
      ∃ result finish,
        (s.applyCommands t commands).runFrom ({} : Script) = (.ok result, finish) ∧
        (∀ o ∈ result.2, o.2 = .applied) ∧
        result.1.indexes = [⟨"headlines", ["headline"], true⟩] ∧
        Ddl.FindsAll s.dialect catalog (s.dialect.script t commands) ∧
        (Ddl.reindexAll s.dialect catalog (s.dialect.script t commands) "`posts`").Perm
          result.1.indexes := by
  intro s t commands catalog
  have own : s.dialect.quoteTable t.tableName = "`posts`" := by decide +kernel
  have unique : t.indexNames.Nodup := by decide +kernel
  have alike : (catalog (s.dialect.quoteTable t.tableName)).Perm t.indexes := by
    rw [own]
    exact .refl _
  have fits : Table.Along (fun t c => c.FitsIndexes t) t commands := by decide +kernel
  obtain ⟨_, result, _, finish, _, ran⟩ := applyCommands_ends s t commands ({} : Script)
  have outcomes : ((s.applyCommands t commands).runFrom ({} : Script)).1.toOption.map (·.2) =
      some (commands.map fun c => (c, .applied)) := by
    decide +kernel
  rw [ran] at outcomes
  have applied : result.2 = commands.map fun c => (c, .applied) := Option.some.inj outcomes
  have smooth : ∀ o ∈ result.2, o.2 = .applied := by
    rw [applied]
    intro o member
    obtain ⟨c, -, rfl⟩ := List.mem_map.mp member
    rfl
  obtain ⟨model, -, found, follows⟩ := catalog_follows_commands s unique alike fits ran smooth
  have whole := follows commands List.prefix_rfl
  rw [← model, own] at whole
  refine ⟨unique, fits, result, finish, ran, smooth, ?_, found, whole⟩
  rw [model]
  decide +kernel

end Schema

end SqlComposer
