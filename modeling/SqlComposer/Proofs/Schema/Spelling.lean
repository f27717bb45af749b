import SqlComposer.Proofs.Schema.DefinitionScan
import SqlComposer.Proofs.Schema.Naming
import SqlComposer.Schema.Basic

/-!
Names of letters, digits and underscores. Where commands bring in such names only, columns and the
key have no others, along a run of any length (`Table.Spelled.applyAll`); finishing a blueprint adds
no command that does.
-/

namespace SqlComposer

open Definition

namespace Command

/-- The names that a command gives to columns or lists in a key are made of letters, digits and
underscores. -/
def Spells : Command → Prop
  | addColumn c | changeColumn c => IsName c.name
  | renameColumn _ after => IsName after
  | createPrimary k => ∀ name ∈ k.columns, IsName name
  | _ => True

instance decidableSpells : (c : Command) → Decidable c.Spells
  | addColumn c | changeColumn c => inferInstanceAs (Decidable (IsName c.name))
  | renameColumn _ after => inferInstanceAs (Decidable (IsName after))
  | createPrimary k => inferInstanceAs (Decidable (∀ name ∈ k.columns, IsName name))
  | dropColumn _ | createIndex _ | dropIndex _ | renameIndex _ _ | dropPrimary =>
    inferInstanceAs (Decidable True)

theorem Spells.settled {c : Command} (spells : c.Spells) : c.settled.Spells := by
  cases c with
  | addColumn c =>
    show Spells (if c.pending.change then changeColumn c.settled else addColumn c.settled)
    split <;> exact spells
  | changeColumn c => exact spells
  | _ => exact spells

end Command

namespace Column

variable {f : Column → Column} {columns : List Column}

theorem name_of_mem_modifyNamed {name given : String} {c : Column}
    (member : c ∈ modifyNamed name f columns) (gives : ∀ c, (f c).name = given) :
    c ∈ columns ∨ c.name = given := by
  induction columns with
  | nil => cases member
  | cons old rest ih =>
    unfold modifyNamed at member
    split at member
    · rcases List.mem_cons.mp member with rfl | later
      · exact .inr (gives old)
      · exact .inl (List.mem_cons_of_mem old later)
    · rcases List.mem_cons.mp member with rfl | later
      · exact .inl List.mem_cons_self
      · rcases ih later with known | same
        · exact .inl (List.mem_cons_of_mem old known)
        · exact .inr same

end Column

namespace Table

structure Spelled (t : Table) : Prop where
  columns : ∀ c ∈ t.columns, IsName c.name
  key : ∀ k ∈ t.primary, ∀ name ∈ k.columns, IsName name

theorem columnNames_foldl_modifyColumn {f : Column → Column} (names : List String) (t : Table)
    (keeps : ∀ c, (f c).name = c.name) :
    (names.foldl (fun t name => t.modifyColumn name f) t).columnNames = t.columnNames := by
  induction names generalizing t with
  | nil => rfl
  | cons name names ih =>
    rw [List.foldl_cons, ih]
    exact Column.map_name_modifyNamed keeps name t.columns

variable {t : Table}

namespace Spelled

variable (spelled : t.Spelled)
include spelled

theorem weaken {next : Table} (columns : ∀ name ∈ next.columnNames, name ∈ t.columnNames)
    (key : ∀ k ∈ next.primary, k ∈ t.primary ∨ ∀ name ∈ k.columns, IsName name) :
    next.Spelled := by
  constructor
  · intro c member
    obtain ⟨old, known, same⟩ := List.mem_map.mp (columns c.name (mem_columnNames member))
    exact same ▸ spelled.columns old known
  · intro k member
    rcases key k member with old | fresh
    · exact spelled.key k old
    · exact fresh

theorem addColumn {c : Column} (named : IsName c.name) : (t.addColumn c).Spelled := by
  constructor
  · intro d member
    rcases List.mem_append.mp member with old | added
    · exact spelled.columns d old
    · rw [List.mem_singleton.mp added]
      exact named
  · intro k member name listed
    by_cases numbers : c.autoIncrement = true
    · have key : k = ⟨t.primaryName, [c.name]⟩ := by
        simpa [Table.addColumn, numbers, eq_comm] using member
      subst key
      rw [List.mem_singleton.mp listed]
      exact named
    · have key : k ∈ t.primary := by
        simpa [Table.addColumn, numbers] using member
      exact spelled.key k key name listed

theorem changeColumn {c : Column} (named : IsName c.name) : (t.changeColumn c).Spelled := by
  constructor
  · intro d member
    rcases Column.name_of_mem_modifyNamed member fun _ => rfl with old | same
    · exact spelled.columns d old
    · exact same ▸ named
  · exact spelled.key

theorem renameColumn {after : String} (named : IsName after) (before : String) :
    (t.renameColumn before after).Spelled := by
  constructor
  · intro d member
    rcases Column.name_of_mem_modifyNamed member fun _ => rfl with old | same
    · exact spelled.columns d old
    · exact same ▸ named
  · intro k member name listed
    obtain ⟨old, known, rfl⟩ := Option.map_eq_some_iff.mp member
    obtain ⟨other, present, rfl⟩ := List.mem_map.mp listed
    split
    · exact named
    · exact spelled.key old known other present

theorem dropColumn (name : String) : (t.dropColumn name).Spelled := by
  apply spelled.weaken
  · intro other member
    rw [columnNames_dropColumn] at member
    exact (List.mem_filter.mp member).1
  · intro k member
    rw [dropColumn_eq] at member
    cases keyed : t.keyCovers name with
    | true => simp [keyed] at member
    | false => exact .inl (by simpa [keyed] using member)

theorem createIndex (i : Index) : (t.createIndex i).Spelled := by
  have names : (t.createIndex i).columnNames = t.columnNames := by
    refine columnNames_foldl_modifyColumn i.columns t ?keeps
    intro c
    rfl
  have key : (t.createIndex i).primary = t.primary := by
    rw [Table.createIndex, noteIndex, foldl_modifyColumn_eq]
  apply spelled.weaken
  · rw [names]
    exact fun _ known => known
  · rw [key]
    exact fun _ known => .inl known

theorem createPrimary {k : PrimaryKey} (named : ∀ name ∈ k.columns, IsName name) :
    (t.createPrimary k).Spelled := by
  have names : (t.createPrimary k).columnNames = t.columnNames := by
    refine Eq.trans ?_ (columnNames_withoutPrimary (t := t))
    refine columnNames_foldl_modifyColumn k.columns t.withoutPrimary ?keeps
    intro c
    rfl
  apply spelled.weaken
  · rw [names]
    exact fun _ known => known
  · intro other member
    cases member
    exact .inr named

theorem apply {c : Command} (spells : c.Spells) : (t.apply c).Spelled := by
  cases c with
  | addColumn c => exact spelled.addColumn spells
  | changeColumn c => exact spelled.changeColumn spells
  | renameColumn before after => exact spelled.renameColumn spells before
  | dropColumn name => exact spelled.dropColumn name
  | createIndex i => exact spelled.createIndex i
  | createPrimary k => exact spelled.createPrimary spells
  | dropIndex name =>
    apply spelled.weaken
    · rw [Table.apply, columnNames_withoutIndex]
      exact fun _ known => known
    · exact fun _ known => .inl known
  | renameIndex before after =>
    apply spelled.weaken
    · rw [Table.apply, columnNames_renameIndex]
      exact fun _ known => known
    · exact fun _ known => .inl known
  | dropPrimary =>
    apply spelled.weaken
    · rw [Table.apply, columnNames_withoutPrimary]
      exact fun _ known => known
    · exact fun _ none => by cases none

theorem applyAll {commands : List Command} (spells : ∀ c ∈ commands, c.Spells) :
    (t.applyAll commands).Spelled := by
  induction commands generalizing t with
  | nil => exact spelled
  | cons c rest ih =>
    exact ih (spelled.apply (spells c List.mem_cons_self))
      fun later mem => spells later (List.mem_cons_of_mem c mem)

end Spelled

theorem spells_of_mem_requests {column : Column} (named : IsName column.name) {c : Command}
    (asks : c ∈ t.requests column) : c.Spells := by
  rcases List.mem_append.mp asks with index | key
  · have made : ∃ unique, c = t.indexCommand unique none [column.name] := by
      rcases List.mem_append.mp index with unique | plain
      · split at unique
        · exact ⟨true, List.mem_singleton.mp unique⟩
        · cases unique
      · split at plain
        · exact ⟨false, List.mem_singleton.mp plain⟩
        · cases plain
    obtain ⟨unique, rfl⟩ := made
    trivial
  · split at key
    · rw [List.mem_singleton.mp key]
      intro name listed
      rw [List.mem_singleton.mp listed]
      exact named
    · cases key

end Table

namespace Blueprint

theorem spelled_draw {b : Blueprint} (spelled : b.table.Spelled) (steps : List BlueprintStep) :
    (b.draw steps).table.Spelled := by
  induction steps generalizing b with
  | nil => exact spelled
  | cons step rest ih =>
    have next : (b.step step).table.Spelled := by
      cases step <;> exact ⟨spelled.columns, spelled.key⟩
    exact ih next

theorem spells_finish {b : Blueprint} (spells : ∀ c ∈ b.commands, c.Spells) :
    ∀ c ∈ b.finish.commands, c.Spells := by
  intro c member
  rcases List.mem_append.mp member with recorded | requested
  · obtain ⟨old, known, rfl⟩ := List.mem_map.mp recorded
    exact (spells old known).settled
  · obtain ⟨column, declared, asks⟩ := List.mem_flatMap.mp requested
    obtain ⟨old, known, same⟩ := List.mem_filterMap.mp declared
    have named : IsName column.name := by
      have spelled := spells old known
      cases old with
      | addColumn d => cases same; exact spelled
      | changeColumn d => cases same; exact spelled
      | _ => cases same
    exact Table.spells_of_mem_requests named asks

theorem spelled_preview {b : Blueprint} (spelled : b.table.Spelled)
    (spells : ∀ c ∈ b.commands, c.Spells) : b.finish.preview.Spelled :=
  spelled.applyAll (spells_finish spells)

end Blueprint

end SqlComposer
