import Mathlib.Data.List.Nodup
import Mathlib.Data.List.Perm.Subperm
import SqlComposer.Proofs.Query.Pages
import SqlComposer.Proofs.Statement.Letters
import SqlComposer.Proofs.Statement.Target

/-!
The rows that an update or a delete is confined to, in the dialects that choose them by their key.
A join or a limit turns the write into one of the rows whose key the same clauses select, and else
the statement carries the conditions. An offset that stands alone is dropped, so a write is
confined as its select is, and to no more rows, exactly where an offset comes with a join or a
limit (`Setting.confines_iff`).
-/

namespace SqlComposer

open Fragment

/-! ## Confined writes -/

/-- What the rows of a write are confined to: those that meet conditions, or those whose key a
select returns. -/
inductive Confinement where
  | meeting (conditions : Conditions Query)
  | keyed (key : String) (rows : Clauses Query)

namespace Setting

variable (s : Setting)

def confined (head : Fragment) : Confinement → Fragment
  | .meeting conditions =>
    let compiled := Condition.mapList s.query conditions
    joined (head :: segment compiled (s.whereClause compiled))
  | .keyed key rows => cat [head, " where ", ident key, " in (", s.query (.mk rows), ")"]

structure WritesConfined (c : Clauses Query) (name : Name) (confinement : Confinement) : Prop where
  update : ∀ r : Record, (Request.update r).statement s c =
    .ok ((s.confined (cat ["update ", s.table name, " set ", plainAssignments r])
      confinement).statement s.dialect.style)
  delete : Request.delete.statement s c =
    .ok ((s.confined (cat ["delete from ", s.table name]) confinement).statement s.dialect.style)

end Setting

namespace Clauses

def Narrowed {Q : Type} (c : Clauses Q) : Prop :=
  c.joins ≠ [] ∨ c.limit ≠ none ∨ c.offset ≠ none

def confinement (c : Clauses Query) (key : String) : Confinement :=
  if c.joins.isEmpty ∧ c.limit.isNone then .meeting c.conditions
  else .keyed key (c.selectingKey key)

end Clauses

/-- Narrowed writes go through the key of the rows that the same clauses select, and all others
carry their conditions. -/
structure Setting.Confines (s : Setting) (c : Clauses Query) (name : Name) (key : String) :
    Prop where
  narrowed : c.Narrowed → s.WritesConfined c name (.keyed key
    { c with
      columns := [.column (name.reference ++ "." ++ key)], aggregate := none, distinct := .off,
      lock := none, unions := [] })
  plain : ¬c.Narrowed → s.WritesConfined c name (.meeting c.conditions)

/-! ## The rows of a write -/

/-- A database as writes to a table see it. It decides which rows a source has with its joins,
which of them meet conditions and how groups gather them, and it arranges rows in an order. A row
that comes from the table has a key there, of its own where nothing is joined. -/
structure TableStore (Row Key : Type) where
  matched : Option (Source Query) → List (Join Query) → Conditions Query → List Group →
    List (Connector × Having) → List Row
  arranged : List (Order Query) → List Row → List Row
  key : Row → Option Key
  arranged_perm : ∀ orders rows, (arranged orders rows).Perm rows
  keys_nodup : ∀ source, ((matched source [] [] [] []).map key).Nodup

namespace TableStore

variable {Row Key : Type} [DecidableEq Key] (store : TableStore Row Key) (c : Clauses Query)

def selected : List Row :=
  window c.limit c.offset <| store.arranged c.orders <|
    store.matched c.source c.joins c.conditions c.groups c.havings

def written : Confinement → List Row
  | .meeting conditions => store.matched c.source [] conditions [] []
  | .keyed _ rows => (store.matched c.source [] [] [] []).filter fun row =>
      (store.key row).any fun key => some key ∈ (store.selected rows).map store.key

end TableStore

/-- Whatever the database, writes change no other rows than the clauses select, and not more. -/
def Clauses.WritesWithin (c : Clauses Query) (key : String) : Prop :=
  ∀ (Row Key : Type) [DecidableEq Key] (store : TableStore Row Key),
    (∀ row ∈ store.written c (c.confinement key),
      ∃ found ∈ store.selected c, store.key row = store.key found) ∧
    (store.written c (c.confinement key)).length ≤ (store.selected c).length

/-! ## Opening parentheses

A keyed write holds the conditions inside one more pair of parentheses than a plain one. Counting
the opening ones tells the two texts apart whatever numbers the slots have. -/

namespace Piece

def opens (quote : Char) : Piece → Nat
  | text s => s.toList.count '('
  | ident name => (quoteIdentifier quote name).toList.count '('
  | slot => 0

theorem opens_eq_letters (quote : Char) : opens quote = letters '(' quote := by
  funext piece
  cases piece <;> rfl

end Piece

namespace Fragment

def opens (quote : Char) (f : Fragment) : Nat := (f.pieces.map (Piece.opens quote)).sum

theorem opens_eq_letters (quote : Char) : opens quote = letters '(' quote := by
  funext f
  rw [opens, Piece.opens_eq_letters, letters]

variable (quote : Char) (fragments : List Fragment)

theorem count_paren_statement (style : Style) (f : Fragment) :
    (f.statement style).sql.toList.count '(' = f.opens style.quote := by
  rw [opens_eq_letters, count_statement legible_paren]

theorem opens_cat : (cat fragments).opens quote = (fragments.map (opens quote)).sum := by
  rw [opens_eq_letters, letters_cat]

theorem opens_joined : (joined fragments).opens quote = (fragments.map (opens quote)).sum := by
  rw [opens_eq_letters, letters_joined legible_paren]

end Fragment

/-! ## The statements of writes -/

namespace Setting

variable {s : Setting} {c : Clauses Query} {name : Name} {key : String}

theorem selectingKey_of_table? (named : c.table? = some name) (key : String) :
    c.selectingKey key =
      { c with
        columns := [.column (name.reference ++ "." ++ key)], aggregate := none, distinct := .off,
        lock := none, unions := [] } := by
  rw [Clauses.selectingKey, named]

theorem compiled_selectingKey (named : c.table? = some name) (key : String) :
    (s.compiled c).selectingKey key = s.compiled (c.selectingKey key) := by
  have compiled : (s.compiled c).table? = some name := by
    simp [compiled, Clauses.map, Clauses.table?, source_of_table? named, Source.map]
  simp only [Clauses.selectingKey, named, compiled]
  rfl

theorem keyedWrite_compiled (named : c.table? = some name) (head : Fragment) (key : String) :
    s.keyedWrite head key (s.compiled c) = s.confined head (c.confinement key) := by
  have joins : (s.compiled c).joins.isEmpty = c.joins.isEmpty := List.isEmpty_map
  have limit : (s.compiled c).limit = c.limit := rfl
  unfold keyedWrite Clauses.confinement
  rw [joins, limit]
  split
  · rfl
  · rw [compiled_selectingKey named, confined, query_mk]

theorem writesConfined_confinement (keyed : s.dialect.rowKey = some key)
    (named : c.table? = some name) : s.WritesConfined c name (c.confinement key) := by
  have target : s.written (s.compiled c) = .ok (s.table name) := by
    simp [written, compiled, Clauses.map, source_of_table? named, Source.map]
  constructor
  · intro r
    unfold Request.statement Request.compile update
    rw [target, keyed]
    exact congrArg (fun f => Except.ok (f.statement s.dialect.style))
      (keyedWrite_compiled named _ key)
  · unfold Request.statement Request.compile delete
    rw [target, keyed]
    exact congrArg (fun f => Except.ok (f.statement s.dialect.style))
      (keyedWrite_compiled named _ key)

/-- The conditions that a write would carry are inside the select that keys it. -/
theorem opens_meeting_lt_opens_keyed (head : Fragment) (quote : Char) :
    (s.confined head (.meeting c.conditions)).opens quote <
      (s.confined head (.keyed key (c.selectingKey key))).opens quote := by
  have inside : ((segment (s.compiled c).conditions
      (s.whereClause (s.compiled c).conditions)).map (opens quote)).sum ≤
      (s.query (.mk (c.selectingKey key))).opens quote := by
    have plain : s.query (.mk (c.selectingKey key)) = s.body (s.compiled (c.selectingKey key)) :=
      s.query_of_alone rfl
    have kept : (s.compiled (c.selectingKey key)).conditions = (s.compiled c).conditions := rfl
    rw [plain, body, opens_joined, kept]
    simp only [List.map_append, List.sum_append]
    omega
  have bracket : (ofText " in (").opens quote = 1 := rfl
  simp only [confined, opens_joined, opens_cat, List.map_cons, List.sum_cons, bracket]
  have same : Condition.mapList s.query c.conditions = (s.compiled c).conditions := rfl
  rw [same]
  omega

theorem not_writesConfined_keyed (meeting : s.WritesConfined c name (.meeting c.conditions)) :
    ¬s.WritesConfined c name (.keyed key (c.selectingKey key)) := by
  intro keyed
  have same := Except.ok.inj (meeting.delete.symm.trans keyed.delete)
  have counts := congrArg (fun statement => statement.sql.toList.count '(') same
  simp only [count_paren_statement] at counts
  exact absurd counts (Nat.ne_of_lt (opens_meeting_lt_opens_keyed _ _))

end Setting

/-! ## The rows that are written -/

section Rows

variable {Row Key : Type} [DecidableEq Key] (store : TableStore Row Key) {c rows : Clauses Query}
  {key : String}

namespace TableStore

theorem exists_selected_of_mem_keyed {row : Row}
    (changed : row ∈ store.written c (.keyed key rows)) :
    ∃ found ∈ store.selected rows, store.key row = store.key found := by
  obtain ⟨-, known⟩ := List.mem_filter.mp changed
  obtain ⟨own, key, listed⟩ := (Option.any_eq_true _ _).mp known
  obtain ⟨found, member, same⟩ := List.mem_map.mp (of_decide_eq_true listed)
  exact ⟨found, member, key.trans same.symm⟩

theorem length_keyed_le (c rows : Clauses Query) (key : String) :
    (store.written c (.keyed key rows)).length ≤ (store.selected rows).length := by
  have unique : ((store.written c (.keyed key rows)).map store.key).Nodup :=
    (List.filter_sublist.map store.key).nodup (store.keys_nodup c.source)
  have inside : (store.written c (.keyed key rows)).map store.key ⊆
      (store.selected rows).map store.key := by
    intro own member
    obtain ⟨row, changed, rfl⟩ := List.mem_map.mp member
    obtain ⟨found, chosen, same⟩ := store.exists_selected_of_mem_keyed changed
    exact List.mem_map.mpr ⟨found, chosen, same.symm⟩
  have counts := (List.subperm_of_subset unique inside).length_le
  rwa [List.length_map, List.length_map] at counts

theorem selected_perm_meeting (joins : c.joins = []) (limit : c.limit = none)
    (offset : c.offset.getD 0 = 0) (groups : c.groups = []) (havings : c.havings = []) :
    (store.selected c).Perm (store.written c (.meeting c.conditions)) := by
  have start : c.offset.elim 0 UInt64.toNat = 0 := by
    cases given : c.offset with
    | none => rfl
    | some n => simp_all
  simp only [selected, window, written, joins, limit, groups, havings, start]
  exact store.arranged_perm _ _

def single : TableStore Unit Unit where
  matched _ _ _ _ _ := [()]
  arranged _ rows := rows
  key _ := some ()
  arranged_perm _ rows := .refl rows
  keys_nodup _ := List.nodup_singleton _

end TableStore

end Rows

namespace Clauses

variable {c : Clauses Query} {key : String}

theorem confinement_of_not_narrowed (joins : c.joins = []) (limit : c.limit = none) :
    c.confinement key = .meeting c.conditions := by
  simp [confinement, joins, limit]

theorem confinement_of_narrowed (narrowed : ¬(c.joins = [] ∧ c.limit = none)) :
    c.confinement key = .keyed key (c.selectingKey key) := by
  unfold confinement
  rw [if_neg]
  simpa using narrowed

theorem writesWithin_iff
    (ungrouped : c.joins = [] → c.limit = none → c.groups = [] ∧ c.havings = []) :
    c.WritesWithin key ↔ (c.joins = [] → c.limit = none → c.offset.getD 0 = 0) := by
  constructor
  · intro within joins limit
    obtain ⟨-, count⟩ := within Unit Unit TableStore.single
    rw [confinement_of_not_narrowed joins limit] at count
    simp only [TableStore.written, TableStore.selected, TableStore.single, window, limit,
      Option.elim_none, List.length_drop, List.length_singleton] at count
    cases given : c.offset with
    | none => rfl
    | some n =>
      rw [given, Option.elim_some] at count
      have zero : n.toNat = 0 := by omega
      exact UInt64.toNat_inj.mp zero
  · intro offset Row Key _ store
    by_cases narrowed : c.joins = [] ∧ c.limit = none
    · obtain ⟨joins, limit⟩ := narrowed
      obtain ⟨groups, havings⟩ := ungrouped joins limit
      have perm := store.selected_perm_meeting joins limit (offset joins limit) groups havings
      rw [confinement_of_not_narrowed joins limit]
      exact ⟨fun row changed => ⟨row, perm.mem_iff.mpr changed, rfl⟩, perm.length_eq.ge⟩
    · rw [confinement_of_narrowed narrowed]
      -- The key takes the place of the projection alone.
      have same : store.selected (c.selectingKey key) = store.selected c := rfl
      rw [← same]
      exact ⟨fun row changed => store.exists_selected_of_mem_keyed changed,
        store.length_keyed_le c (c.selectingKey key) key⟩

end Clauses

/-- In the dialects with a row key, writes are confined as the select of the same clauses is,
through the key where a join, a limit or an offset narrows it, exactly if an offset comes with a
join or a limit. They change no other rows than that select returns, and not more, unless a lone
offset skips some. -/
theorem Setting.confines_iff {s : Setting} {key : String} (keyed : s.dialect.rowKey = some key)
    {c : Clauses Query} {name : Name} (onTable : c.source = some (.table name)) :
    s.WritesConfined c name (c.confinement key) ∧
      (s.Confines c name key ↔ (c.joins = [] → c.limit = none → c.offset = none)) ∧
      ((c.joins = [] → c.limit = none → c.groups = [] ∧ c.havings = []) →
        (c.WritesWithin key ↔ (c.joins = [] → c.limit = none → c.offset.getD 0 = 0))) := by
  have named := table?_of_source onTable
  have writes := writesConfined_confinement keyed named
  refine ⟨writes, ⟨?_, ?_⟩, Clauses.writesWithin_iff⟩
  · intro confines joins limit
    by_contra offset
    rw [Clauses.confinement_of_not_narrowed joins limit] at writes
    have keyed := confines.narrowed (.inr (.inr offset))
    rw [← selectingKey_of_table? named] at keyed
    exact not_writesConfined_keyed writes keyed
  · intro alone
    by_cases narrowed : c.joins = [] ∧ c.limit = none
    · obtain ⟨joins, limit⟩ := narrowed
      rw [Clauses.confinement_of_not_narrowed joins limit] at writes
      have plain : ¬c.Narrowed := by simp [Clauses.Narrowed, joins, limit, alone joins limit]
      exact ⟨fun narrowed => absurd narrowed plain, fun _ => writes⟩
    · rw [Clauses.confinement_of_narrowed narrowed, selectingKey_of_table? named] at writes
      have wide : c.Narrowed := by
        by_contra plain
        simp only [Clauses.Narrowed, not_or, not_not] at plain
        exact narrowed ⟨plain.1, plain.2.1⟩
      exact ⟨fun _ => writes, fun plain => absurd wide plain⟩

theorem Setting.confines_of_join_and_limit :
    let c : Clauses Query :=
      { source := some (.table (.parse "users as u"))
        joins := [⟨.left, .table (.parse "orders as o"),
          [(.and, .compareColumns "o.user_id" "=" "u.id")]⟩]
        conditions := [(.and, .compare "o.total" ">" (.value (.int 9)))]
        orders := [.column "u.id" .desc]
        limit := some 2
        offset := some 4 }
    let r := Record.ofList [("u.name", .value (.text "ada"))]
    Dialect.postgres.rowKey = some "ctid" ∧ c.source = some (.table (.parse "users as u")) ∧
      (Setting.mk .postgres "app_").Confines c (.parse "users as u") "ctid" ∧
      c.WritesWithin "ctid" ∧
      ((Request.update r).statement ⟨.postgres, "app_"⟩ c).toOption =
        some ⟨"update \"app_users\" as \"app_u\" set \"name\" = $1 where \"ctid\" in (select " ++
          "\"app_u\".\"ctid\" from \"app_users\" as \"app_u\" left join \"app_orders\" as " ++
          "\"app_o\" on \"app_o\".\"user_id\" = \"app_u\".\"id\" where \"app_o\".\"total\" > $2 " ++
          "order by \"app_u\".\"id\" desc limit 2 offset 4)", [.text "ada", .int 9]⟩ := by
  intro c r
  have joined : ∀ P : Prop, c.joins = [] → P := nofun
  obtain ⟨-, confines, within⟩ := Setting.confines_iff (s := ⟨.postgres, "app_"⟩) (c := c) rfl rfl
  have narrowed := within fun none => (joined _ none)
  exact ⟨rfl, rfl, confines.mpr fun none => joined _ none, narrowed.mpr fun none => joined _ none,
    by decide +kernel⟩

/-- An offset alone is dropped, and the row that the select skips is deleted. -/
theorem Setting.not_confines_of_offset_alone :
    let c : Clauses Query := { source := some (.table (.parse "t")), offset := some 1 }
    (Request.delete.statement ⟨.sqlite, ""⟩ c).toOption = some ⟨"delete from `t`", []⟩ ∧
      ¬(Setting.mk .sqlite "").Confines c (.parse "t") "rowid" ∧ ¬c.WritesWithin "rowid" := by
  intro c
  have rowKey : (Setting.mk .sqlite "").dialect.rowKey = some "rowid" := rfl
  have writes : (Setting.mk .sqlite "").WritesConfined c (.parse "t") (.meeting []) :=
    writesConfined_confinement rowKey rfl
  refine ⟨by decide +kernel, fun confines => ?_, fun within => ?_⟩
  · have keyed : (Setting.mk .sqlite "").WritesConfined c (.parse "t")
        (.keyed "rowid" (c.selectingKey "rowid")) := confines.narrowed (.inr (.inr nofun))
    exact not_writesConfined_keyed writes keyed
  · have skipped := (Clauses.writesWithin_iff fun _ _ => ⟨rfl, rfl⟩).mp within rfl rfl
    exact absurd skipped (by decide)

end SqlComposer
