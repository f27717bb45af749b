import Mathlib.Data.List.Forall2
import Mathlib.Data.List.Perm.Basic
import SqlComposer.Schema.Blueprint

/-!
Finishing a blueprint. The recorded commands stay in their places with nothing pending any more, and
behind them stand the indexes and keys that their columns ask for, block by block. This determines
the finished blueprint, and finishing it again changes nothing (`Blueprint.finish_settles`).
-/

namespace SqlComposer

/-! ## What finishing does -/

/-- What becomes of a recorded command. A declaration marked as a change turns into one. -/
inductive Command.Settles : Command → Command → Prop where
  | added {c : Column} : c.pending.change = false →
      Settles (.addColumn c) (.addColumn { c with pending := {} })
  | turned {c : Column} : c.pending.change = true →
      Settles (.addColumn c) (.changeColumn { c with pending := {} })
  | changed {c : Column} : Settles (.changeColumn c) (.changeColumn { c with pending := {} })
  | kept {c : Command} : c.declared? = none → Settles c c

namespace Table

variable (t : Table) (column : String)

def ownIndex (unique : Bool) : Command :=
  .createIndex ⟨t.indexName [column] (if unique then "unique" else "index"), [column], unique⟩

def ownKey : Command := .createPrimary ⟨t.fullName ++ "_pkey", [column]⟩

/-- The commands that a declared column asks for, each once. A column that numbers the rows is the
key already. -/
structure Asks (c : Column) (block : List Command) : Prop where
  order : block.Sublist [t.ownIndex c.name true, t.ownIndex c.name false, t.ownKey c.name]
  unique : t.ownIndex c.name true ∈ block ↔ c.pending.unique = true
  index : t.ownIndex c.name false ∈ block ↔ c.pending.index = true
  primary : t.ownKey c.name ∈ block ↔ c.pending.primary = true ∧ c.autoIncrement = false

end Table

/-- The settled commands and then, in the order of the columns, what each of them asks for. -/
structure Blueprint.FinishedAs (b finished : Blueprint) : Prop where
  table : finished.table = b.table
  commands : ∃ settled blocks, finished.commands = settled ++ blocks.flatten ∧
    List.Forall₂ Command.Settles b.commands settled ∧
    List.Forall₂ b.table.Asks (b.commands.filterMap Command.declared?) blocks

/-! ## One command -/

theorem Command.settles_iff (c d : Command) : c.Settles d ↔ c.settled = d := by
  constructor
  · intro settles
    cases settles with
    | added unmarked =>
      rw [settled, if_neg (Bool.eq_false_iff.mp unmarked)]
      rfl
    | turned marked =>
      rw [settled, if_pos marked]
      rfl
    | changed => rfl
    | kept undeclared =>
      cases c with
      | addColumn c => cases undeclared
      | changeColumn c => cases undeclared
      | _ => rfl
  · rintro rfl
    cases c with
    | addColumn c =>
      rw [settled]
      split
      · next marked => exact .turned marked
      · next unmarked => exact .added (Bool.eq_false_iff.mpr unmarked)
    | changeColumn c => exact .changed
    | _ => exact .kept rfl

namespace Table

variable {t : Table} {c : Column}

theorem nodup_own (t : Table) (column : String) :
    [t.ownIndex column true, t.ownIndex column false, t.ownKey column].Nodup := by
  simp [ownIndex, ownKey]

theorem asks_requests (t : Table) (c : Column) : t.Asks c (t.requests c) := by
  have optional : ∀ (asked : Bool) (command : Command),
      (if asked then [command] else []).Sublist [command] := by
    intro asked command
    cases asked <;> simp
  have indexes : ∀ unique, t.indexCommand unique none [c.name] = t.ownIndex c.name unique :=
    fun unique => rfl
  have key : t.primaryCommand [c.name] = t.ownKey c.name := rfl
  have whole : t.requests c =
      (if c.pending.unique then [t.ownIndex c.name true] else []) ++
        (if c.pending.index then [t.ownIndex c.name false] else []) ++
        (if c.pending.primary && !c.autoIncrement then [t.ownKey c.name] else []) := rfl
  rw [whole]
  constructor
  · exact ((optional _ _).append (optional _ _)).append (optional _ _)
  · simp [ownIndex, ownKey]
  · simp [ownIndex, ownKey]
  · simp [ownIndex, ownKey]

theorem Asks.eq {block other : List Command} (one : t.Asks c block) (two : t.Asks c other) :
    block = other := by
  let own := [t.ownIndex c.name true, t.ownIndex c.name false, t.ownKey c.name]
  have apart : own.Nodup := nodup_own t c.name
  have shared : ∀ command ∈ own, command ∈ block ↔ command ∈ other := by
    intro command member
    simp only [own, List.mem_cons, List.not_mem_nil, or_false] at member
    rcases member with rfl | rfl | rfl
    · rw [one.unique, two.unique]
    · rw [one.index, two.index]
    · rw [one.primary, two.primary]
  apply (List.Nodup.perm_iff_eq_of_sublist apart one.order two.order).mp
  rw [List.perm_ext_iff_of_nodup (one.order.nodup apart) (two.order.nodup apart)]
  intro command
  constructor
  · intro member
    exact (shared command (one.order.subset member)).mp member
  · intro member
    exact (shared command (two.order.subset member)).mpr member

theorem asks_iff (t : Table) (c : Column) (block : List Command) :
    t.Asks c block ↔ t.requests c = block :=
  ⟨fun asks => (asks_requests t c).eq asks, fun same => same ▸ asks_requests t c⟩

theorem declared?_of_mem_requests {command : Command} (member : command ∈ t.requests c) :
    command.declared? = none := by
  have own := (asks_requests t c).order.subset member
  simp only [List.mem_cons, List.not_mem_nil, or_false] at own
  rcases own with rfl | rfl | rfl <;> rfl

theorem requests_of_settled (quiet : c.pending = {}) : t.requests c = [] := by
  simp [requests, quiet]

end Table

/-! ## All commands -/

theorem forall₂_eq_iff {α β : Type} {r : α → β → Prop} {f : α → β}
    (determined : ∀ a b, r a b ↔ f a = b) {as : List α} {bs : List β} :
    List.Forall₂ r as bs ↔ as.map f = bs := by
  have same : r = fun a b => f a = b := by
    funext a b
    exact propext (determined a b)
  rw [same, ← List.forall₂_map_left_iff, List.forall₂_eq_eq_eq]

theorem Command.forall₂_settles_iff {recorded settled : List Command} :
    List.Forall₂ Settles recorded settled ↔ recorded.map Command.settled = settled :=
  forall₂_eq_iff settles_iff

theorem Table.forall₂_asks_iff {t : Table} {columns : List Column} {blocks : List (List Command)} :
    List.Forall₂ t.Asks columns blocks ↔ columns.map t.requests = blocks :=
  forall₂_eq_iff t.asks_iff

namespace Command

theorem settled_of_declared? {c : Command} (undeclared : c.declared? = none) :
    c.settled = c :=
  (settles_iff c c).mp (.kept undeclared)

theorem settled_settled (c : Command) : c.settled.settled = c.settled := by
  cases c with
  | addColumn c =>
    cases marked : c.pending.change <;> simp [settled, marked, Column.settled]
  | _ => rfl

theorem pending_of_declared? {c : Command} {column : Column}
    (declared : c.settled.declared? = some column) : column.pending = {} := by
  cases c with
  | addColumn c =>
    cases marked : c.pending.change <;>
    · simp only [settled, marked] at declared
      cases declared
      rfl
  | changeColumn c =>
    cases declared
    rfl
  | _ => cases declared

end Command

namespace Blueprint

variable (b : Blueprint)

theorem finishedAs_iff {finished : Blueprint} : b.FinishedAs finished ↔ b.finish = finished := by
  constructor
  · rintro ⟨table, settled, blocks, commands, settles, asks⟩
    rw [Command.forall₂_settles_iff] at settles
    rw [Table.forall₂_asks_iff] at asks
    rcases finished with ⟨t, list⟩
    cases table
    cases commands
    rw [finish, ← settles, ← asks, List.flatMap]
    rfl
  · rintro rfl
    refine ⟨rfl, _, _, ?_, Command.forall₂_settles_iff.mpr rfl, Table.forall₂_asks_iff.mpr rfl⟩
    rw [finish, List.flatMap]

theorem mem_commands_finish {command : Command} (member : command ∈ b.finish.commands) :
    (∃ recorded, command = Command.settled recorded) ∨ command.declared? = none := by
  rcases List.mem_append.mp member with recorded | asked
  · rcases List.mem_map.mp recorded with ⟨before, -, rfl⟩
    exact .inl ⟨before, rfl⟩
  · rcases List.mem_flatMap.mp asked with ⟨column, -, inside⟩
    exact .inr (Table.declared?_of_mem_requests inside)

theorem pending_of_mem_finish {column : Column}
    (member : column ∈ b.finish.commands.filterMap Command.declared?) : column.pending = {} := by
  rcases List.mem_filterMap.mp member with ⟨command, inside, declared⟩
  rcases b.mem_commands_finish inside with ⟨recorded, rfl⟩ | undeclared
  · exact Command.pending_of_declared? declared
  · rw [undeclared] at declared
    cases declared

theorem finish_finish : b.finish.finish = b.finish := by
  have settled : b.finish.commands.map Command.settled = b.finish.commands := by
    have same : ∀ command ∈ b.finish.commands, command.settled = id command := by
      intro command member
      rcases b.mem_commands_finish member with ⟨recorded, rfl⟩ | undeclared
      · exact recorded.settled_settled
      · exact Command.settled_of_declared? undeclared
    rw [List.map_congr_left same, List.map_id]
  have nothing : (b.finish.commands.filterMap Command.declared?).flatMap b.finish.table.requests =
      [] := by
    rw [List.flatMap_eq_nil_iff]
    intro column member
    exact Table.requests_of_settled (b.pending_of_mem_finish member)
  rw [finish, settled, nothing, List.append_nil]

end Blueprint

/-- The recorded commands settle in their order, each column's requests follow in theirs, and
nothing else changes. After that nothing is pending, so that finishing once more has no effect. -/
theorem Blueprint.finish_settles (b : Blueprint) :
    (∀ finished, b.FinishedAs finished ↔ b.finish = finished) ∧
      (∀ column ∈ b.finish.commands.filterMap Command.declared?, column.pending = {}) ∧
      b.finish.finish = b.finish :=
  ⟨fun _ => b.finishedAs_iff, fun _ => b.pending_of_mem_finish, b.finish_finish⟩

end SqlComposer
