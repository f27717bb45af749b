import SqlComposer.Proofs.Builder.Counting
import SqlComposer.Proofs.Statement.Letters

/-!
The rows that a page count goes over where there is no union. Grouped rows are counted from outside
a select that returns them, and all others in place of their projection. The projection is what
tells distinct rows apart, so distinct rows that are not grouped are counted as if they were not
distinct (`Builder.countStatement_keeps_iff`).
-/

namespace SqlComposer

open Fragment

/-! ## Counts -/

namespace Clauses

variable {Q : Type} (c : Clauses Q)

def Grouped : Prop := c.groups ≠ [] ∨ c.havings ≠ []

def matching : Clauses Q :=
  { source := c.source, joins := c.joins, conditions := c.conditions, lock := c.lock }

def unpaged : Clauses Q :=
  { c with
    orders := [], unionOrders := [], limit := none, offset := none, unionLimit := none
    unionOffset := none }

end Clauses

/-- What a count goes over: the rows that clauses match, or those that they return. -/
inductive Counted where
  | matched (rows : Clauses Query)
  | returned (rows : Clauses Query)

namespace Setting

def counting (s : Setting) : Counted → Fragment
  | .matched rows => s.query (.mk { rows with aggregate := some ⟨"count", ["*"]⟩ })
  | .returned rows => s.query (.mk
      { source := some (.sub (.mk rows) "aggregate_table"), aggregate := some ⟨"count", ["*"]⟩ })

end Setting

/-- The count goes over the rows of the clauses, and drops nothing that decides how many there
are. -/
def Counted.Keeps (c : Clauses Query) : Counted → Prop
  | .matched rows => c.distinct = .off ∧ ¬c.Grouped ∧ rows = c.matching
  | .returned rows => rows = c.unpaged

namespace Builder

variable (b : Builder)

def countStatement : Statement := (b.counter.aggregated "count" ["*"]).statement

def counted : Counted :=
  if b.clauses.groups.isEmpty ∧ b.clauses.havings.isEmpty then .matched b.clauses.matching
  else .returned b.clauses.unpaged

end Builder

/-! ## The rows of a select -/

/-- A database as it answers selects. It decides which rows clauses match and which of them are
returned. An order changes nothing but their order, and all are returned unless they are to be
distinct. -/
structure SelectStore (Row : Type) where
  matched : Option (Source Query) → List (Join Query) → Conditions Query → List Group →
    List (Connector × Having) → List Row
  returned : Distinct → List (Selection Query) → List (Order Query) → List Row → List Row
  length_all : ∀ columns orders rows, (returned .off columns orders rows).length = rows.length
  length_ordered : ∀ distinct columns orders rows,
    (returned distinct columns orders rows).length = (returned distinct columns [] rows).length

namespace SelectStore

variable {Row : Type} (store : SelectStore Row)

def matching (c : Clauses Query) : List Row :=
  store.matched c.source c.joins c.conditions c.groups c.havings

def selected (c : Clauses Query) : List Row :=
  window c.limit c.offset (store.returned c.distinct c.columns c.orders (store.matching c))

def count : Counted → Nat
  | .matched rows => (store.matching rows).length
  | .returned rows => (store.selected rows).length

end SelectStore

/-- On every database the counted rows are those on all pages together. -/
def Builder.CountsItsRows (b : Builder) : Prop :=
  ∀ (Row : Type) (store : SelectStore Row) (perPage : UInt64),
    let total := store.count b.counted
    let lastPage := Page.pageCount (.ofNat total) (Page.normalize perPage 1).1
    total < UInt64.size →
      ((List.range lastPage.toNat).map fun i =>
        (store.selected (b.shown perPage (.ofNat (i + 1))).clauses).length).sum = total

/-! ## The statement of a count -/

namespace Setting

variable {s : Setting} {c : Clauses Query}

theorem aggregate_star (s : Setting) (distinct : Distinct) :
    s.aggregate distinct ⟨"count", ["*"]⟩ = s.aggregate .off ⟨"count", ["*"]⟩ := by
  have star : (s.columns ["*"]).pieces = [.ident "*"] := rfl
  simp [aggregate, star]

theorem query_counting_matched (alone : c.unions = []) (ungrouped : ¬c.Grouped) :
    s.query (.mk { c.unpaged with columns := [], aggregate := some ⟨"count", ["*"]⟩ }) =
      s.counting (.matched c.matching) := by
  obtain ⟨groups, havings⟩ : c.groups = [] ∧ c.havings = [] := by
    simpa [Clauses.Grouped] using ungrouped
  rw [counting, query_of_alone _ (by exact alone), query_of_alone _ rfl]
  unfold body
  simp only [compiled, Clauses.map, Clauses.unpaged, Clauses.matching, groups, havings]
  rw [aggregate_star]

def rowSegments (s : Setting) (c : Clauses Fragment) : List Fragment :=
  (c.source.map s.source).toList ++
  segment c.joins (s.joins c.joins) ++
  segment c.conditions (s.whereClause c.conditions) ++
  segment c.groups (s.groups c.groups) ++
  segment c.havings (s.havings c.havings) ++
  segment c.orders (s.orders c.orders) ++
  [(s.dialect.limitOffset c.limit c.offset : Fragment)] ++
  (c.lock.map fun lock => ofText (s.dialect.lock lock)).toList

section Letters

variable {letter : Char} (legible : Legible letter) (quote : Char)
include legible

theorem letters_body_of_plain {c : Clauses Fragment} (plain : c.aggregate = none) :
    (s.body c).letters letter quote =
      (s.projection c).letters letter quote +
        ((s.rowSegments c).map (letters letter quote)).sum := by
  unfold body
  rw [plain, letters_joined legible]
  simp only [rowSegments, List.map_append, List.sum_append, List.map_cons, List.map_nil,
    List.sum_cons, List.sum_nil]
  omega

theorem letters_body_of_aggregate {c : Clauses Fragment} {a : Aggregate}
    (aggregated : c.aggregate = some a) :
    (s.body c).letters letter quote =
      (s.aggregate c.distinct a).letters letter quote +
        ((s.rowSegments c).map (letters letter quote)).sum := by
  unfold body
  rw [aggregated, letters_joined legible]
  simp only [rowSegments, List.map_append, List.sum_append, List.map_cons, List.map_nil,
    List.sum_cons, List.sum_nil]
  omega

end Letters

section Distinct

variable (quote : Char)

theorem letters_distinct_off : (s.distinct .off).letters 'd' quote = 0 := rfl

theorem letters_distinct_pos {distinct : Distinct} (given : distinct ≠ .off) :
    0 < (s.distinct distinct).letters 'd' quote := by
  have word : (ofText "select distinct").letters 'd' quote = 1 := rfl
  have start : (ofText "select distinct on (").letters 'd' quote = 1 := rfl
  unfold Setting.distinct
  split
  · exact absurd rfl given
  · simp only [letters_cat, List.map_cons, List.sum_cons, start]
    omega
  · rw [word]
    exact Nat.one_pos

theorem letters_projection (c : Clauses Query) :
    (s.projection (s.compiled c)).letters 'd' quote =
      (s.distinct c.distinct).letters 'd' quote +
        (s.projection (s.compiled { c with distinct := .off })).letters 'd' quote := by
  let others := (s.compiled c).columns
  have parts (distinct : Distinct) : s.projection (s.compiled { c with distinct }) =
      if others.isEmpty then cat [s.distinct distinct, " *"]
      else cat [s.distinct distinct, " ", commas (others.map s.selection)] := rfl
  rw [show c = { c with distinct := c.distinct } from rfl, parts, parts]
  cases others.isEmpty <;> simp [letters_cat, letters_distinct_off]

end Distinct

section Counting

variable {letter : Char} (legible : Legible letter) (quote : Char) {rows : Clauses Query}
  (alone : rows.unions = [])
include legible alone

theorem letters_counting_matched : (s.counting (.matched rows)).letters letter quote =
    (s.aggregate .off ⟨"count", ["*"]⟩).letters letter quote +
      ((s.rowSegments (s.compiled rows)).map (letters letter quote)).sum := by
  rw [counting, query_of_alone _ (by exact alone), letters_body_of_aggregate legible quote rfl,
    aggregate_star]
  rfl

theorem letters_counting_returned (plain : rows.aggregate = none) :
    (s.counting (.returned rows)).letters letter quote =
      (s.aggregate .off ⟨"count", ["*"]⟩).letters letter quote +
        ((ofText "from (").letters letter quote +
          ((s.projection (s.compiled rows)).letters letter quote +
            ((s.rowSegments (s.compiled rows)).map (letters letter quote)).sum) +
          (cat [") as ", s.tableText "aggregate_table"]).letters letter quote) := by
  have inner : (s.compiled rows).aggregate = none := plain
  have segments : s.rowSegments (s.compiled
      { source := some (.sub (.mk rows) "aggregate_table"), aggregate := some ⟨"count", ["*"]⟩ }) =
      [cat ["from (", s.query (.mk rows), ") as ", s.tableText "aggregate_table"], ""] := rfl
  have blank : (ofText "").letters letter quote = 0 := rfl
  have counted := aggregate_star s (s.compiled
    { source := some (.sub (.mk rows) "aggregate_table")
      aggregate := some ⟨"count", ["*"]⟩ }).distinct
  rw [counting, query_of_alone _ rfl, letters_body_of_aggregate legible quote rfl, segments,
    query_of_alone _ alone, counted]
  simp only [letters_cat, List.map_cons, List.map_nil, List.sum_cons, List.sum_nil, blank,
    letters_body_of_plain legible quote inner]
  omega

omit legible in
theorem letters_counting_distinct (plain : rows.aggregate = none) :
    (s.counting (.returned rows)).letters 'd' quote =
      (s.distinct rows.distinct).letters 'd' quote +
        (s.counting (.returned { rows with distinct := .off })).letters 'd' quote := by
  have same : s.rowSegments (s.compiled { rows with distinct := .off }) =
      s.rowSegments (s.compiled rows) := rfl
  rw [letters_counting_returned legible_d quote alone plain, letters_projection,
    letters_counting_returned legible_d quote (by exact alone) (by exact plain), same]
  omega

end Counting

end Setting

namespace Builder

variable {b : Builder}

theorem counted_of_grouped (grouped : b.clauses.Grouped) :
    b.counted = .returned b.clauses.unpaged := by
  rw [counted, if_neg]
  simpa [Clauses.Grouped, ← not_and_or] using grouped

theorem counted_of_ungrouped (ungrouped : ¬b.clauses.Grouped) :
    b.counted = .matched b.clauses.matching := by
  rw [counted, if_pos]
  simpa [Clauses.Grouped] using ungrouped

theorem countStatement_eq_counting (alone : b.clauses.unions = []) :
    b.countStatement = b.statementOf (b.setting.counting b.counted) := by
  by_cases grouped : b.clauses.Grouped
  · have outside : b.counter =
        b.reorder.unlimited.fresh.sourceSub b.reorder.unlimited "aggregate_table" := by
      rw [counter, if_neg]
      change ¬(b.clauses.groups.isEmpty ∧ b.clauses.havings.isEmpty)
      simpa [Clauses.Grouped, ← not_and_or] using grouped
    rw [counted_of_grouped grouped, countStatement, outside]
    rfl
  · obtain ⟨groups, havings⟩ : b.clauses.groups = [] ∧ b.clauses.havings = [] := by
      simpa [Clauses.Grouped] using grouped
    rw [counted_of_ungrouped grouped, ← Setting.query_counting_matched alone grouped,
      countStatement, counter_of_ungrouped groups havings]
    simp [aggregated, unlimited, reorder, alone, Clauses.unpaged]
    rfl

/-- A count of the rows that are returned is no count of those that are matched: the select that
returns them is inside parentheses of its own. -/
theorem counting_matched_ne_returned (plain : b.clauses.aggregate = none)
    (alone : b.clauses.unions = []) (ungrouped : ¬b.clauses.Grouped) :
    b.statementOf (b.setting.counting (.matched b.clauses.matching)) ≠
      b.statementOf (b.setting.counting (.returned b.clauses.unpaged)) := by
  intro same
  obtain ⟨groups, havings⟩ : b.clauses.groups = [] ∧ b.clauses.havings = [] := by
    simpa [Clauses.Grouped] using ungrouped
  have rows : b.setting.rowSegments (b.setting.compiled b.clauses.matching) =
      b.setting.rowSegments (b.setting.compiled b.clauses.unpaged) := by
    simp [Setting.rowSegments, Setting.compiled, Clauses.map, Clauses.matching, Clauses.unpaged,
      groups, havings]
  have bracket : (ofText "from (").letters '(' b.setting.dialect.style.quote = 1 := rfl
  have counts := congrArg (fun statement => statement.sql.toList.count '(') same
  simp only [statementOf, count_statement legible_paren] at counts
  rw [Setting.letters_counting_matched legible_paren _ rfl,
    Setting.letters_counting_returned legible_paren _ (by exact alone) (by exact plain), rows,
    bracket] at counts
  omega

theorem counting_returned_distinct_ne (plain : b.clauses.aggregate = none)
    (alone : b.clauses.unions = []) (given : b.clauses.distinct ≠ .off) :
    b.statementOf (b.setting.counting (.returned b.clauses.unpaged)) ≠
      b.statementOf (b.setting.counting (.returned (b.distinct .off).clauses.unpaged)) := by
  intro same
  have word := Setting.letters_distinct_pos (s := b.setting) b.setting.dialect.style.quote given
  have whole : b.clauses.unpaged.unions = [] := alone
  have more :=
    Setting.letters_counting_distinct (s := b.setting) b.setting.dialect.style.quote whole plain
  have counts := congrArg (fun statement => statement.sql.toList.count 'd') same
  simp only [statementOf, count_statement legible_d] at counts
  rw [more] at counts
  exact absurd (Nat.add_eq_right.mp counts) (Nat.ne_of_gt word)

theorem exists_keeps_iff (plain : b.clauses.aggregate = none) (alone : b.clauses.unions = []) :
    (∃ counted : Counted, counted.Keeps b.clauses ∧
      b.countStatement = b.statementOf (b.setting.counting counted)) ↔
      b.clauses.distinct = .off ∨ b.clauses.Grouped := by
  rw [countStatement_eq_counting alone]
  by_cases grouped : b.clauses.Grouped
  · rw [counted_of_grouped grouped]
    exact iff_of_true ⟨.returned b.clauses.unpaged, rfl, rfl⟩ (.inr grouped)
  · rw [counted_of_ungrouped grouped]
    constructor
    · rintro ⟨counted | counted, keeps, same⟩
      · exact .inl keeps.1
      · rw [keeps] at same
        exact absurd same (counting_matched_ne_returned plain alone grouped)
    · rintro (off | given)
      · exact ⟨.matched b.clauses.matching, ⟨off, grouped, rfl⟩, rfl⟩
      · exact absurd given grouped

theorem countStatement_distinct_iff (plain : b.clauses.aggregate = none)
    (alone : b.clauses.unions = []) :
    b.countStatement = (b.distinct .off).countStatement ↔
      b.clauses.distinct = .off ∨ ¬b.clauses.Grouped := by
  rw [countStatement_eq_counting alone, countStatement_eq_counting (b := b.distinct .off) alone]
  by_cases grouped : b.clauses.Grouped
  · rw [counted_of_grouped grouped, counted_of_grouped (b := b.distinct .off) grouped]
    constructor
    · intro same
      by_cases off : b.clauses.distinct = .off
      · exact .inl off
      · exact absurd same (counting_returned_distinct_ne plain alone off)
    · rintro (off | ungrouped)
      · have kept : b.distinct .off = b := by rw [distinct, ← off]
        rw [kept]
      · exact absurd grouped ungrouped
  · rw [counted_of_ungrouped grouped, counted_of_ungrouped (b := b.distinct .off) grouped]
    exact iff_of_true rfl (.inr grouped)

/-! ## The rows that are counted and shown -/

variable {Row : Type} (store : SelectStore Row)

theorem clauses_shown_of_alone (alone : b.clauses.unions = []) (perPage page : UInt64) :
    (b.shown perPage page).clauses =
      { b.clauses with
        limit := some (Page.normalize perPage page).1
        offset :=
          some (pageOffset (Page.normalize perPage page).2 (Page.normalize perPage page).1) } := by
  simp [shown, Builder.page, limit, offset, alone]

theorem count_counted (kept : b.clauses.distinct = .off ∨ b.clauses.Grouped) :
    store.count b.counted =
      (store.returned b.clauses.distinct b.clauses.columns b.clauses.orders
        (store.matching b.clauses)).length := by
  by_cases grouped : b.clauses.Grouped
  · rw [counted_of_grouped grouped, store.length_ordered]
    rfl
  · have off : b.clauses.distinct = .off := kept.resolve_right grouped
    obtain ⟨groups, havings⟩ : b.clauses.groups = [] ∧ b.clauses.havings = [] := by
      simpa [Clauses.Grouped] using grouped
    rw [counted_of_ungrouped grouped, off, store.length_all]
    simp [SelectStore.count, SelectStore.matching, Clauses.matching, groups, havings]

def alikeRows : SelectStore Unit where
  matched _ _ _ _ _ := [(), ()]
  returned distinct _ _ rows := if distinct = .off then rows else rows.take 1
  length_all _ _ _ := rfl
  length_ordered _ _ _ _ := rfl

theorem countsItsRows_iff (alone : b.clauses.unions = []) :
    b.CountsItsRows ↔ b.clauses.distinct = .off ∨ b.clauses.Grouped := by
  constructor
  · intro counts
    by_cases grouped : b.clauses.Grouped
    · exact .inr grouped
    by_cases off : b.clauses.distinct = .off
    · exact .inl off
    have sum := counts Unit alikeRows 10
    have total : alikeRows.count b.counted = 2 := by
      rw [counted_of_ungrouped grouped]
      rfl
    have pages : (Page.pageCount (.ofNat 2) (Page.normalize 10 1).1).toNat = 1 := by decide
    have shown : (alikeRows.selected (b.shown 10 (.ofNat 1)).clauses).length = 1 := by
      have one : alikeRows.returned b.clauses.distinct b.clauses.columns b.clauses.orders
          [(), ()] = [()] := if_neg off
      rw [clauses_shown_of_alone alone]
      change (window (some 10) (some 0) (alikeRows.returned _ _ _ [(), ()])).length = 1
      rw [one]
      decide
    rw [total] at sum
    simp only [pages, List.range_one, List.map_cons, List.map_nil, List.sum_cons, List.sum_nil,
      Nat.zero_add, shown] at sum
    exact absurd (sum (by decide)) (by decide)
  · intro kept Row store perPage total lastPage fits
    let list := store.returned b.clauses.distinct b.clauses.columns b.clauses.orders
      (store.matching b.clauses)
    have counted : total = list.length := count_counted store kept
    have pages : ∀ i ∈ List.range lastPage.toNat,
        (store.selected (b.shown perPage (.ofNat (i + 1))).clauses).length =
          let page := Page.normalize perPage (.ofNat (i + 1))
          (window (some page.1) (some (pageOffset page.2 page.1)) list).length := by
      intro i _
      rw [clauses_shown_of_alone alone]
      rfl
    have last : lastPage = Page.pageCount (.ofNat list.length) (Page.normalize perPage 1).1 := by
      rw [← counted]
    rw [List.map_congr_left pages, last, counted]
    exact sum_length_normalized_pages list perPage (counted ▸ fits)

end Builder

/-- Where there is no union, pages are counted with a statement that keeps all that decides how
many rows there are, and drops only orders, limits and offsets, exactly if the rows are grouped or
need not be distinct. Then the count is the number of rows on all pages, and else it is that of the
rows distinct or not. -/
theorem Builder.countStatement_keeps_iff {b : Builder}
    (reached : Reached (fun _ => True) (fun _ => False) b) (alone : b.clauses.unions = []) :
    (∀ (perPage page : UInt64) (m : Type → Type) [Monad m] [LawfulMonad m] [Connection m],
      (b.paginate perPage page : Run m Page) =
        Run.countThenShow b.countStatement (b.shown perPage page).statement perPage page) ∧
      b.countStatement = b.statementOf (b.setting.counting b.counted) ∧
      ((∃ counted : Counted, counted.Keeps b.clauses ∧
        b.countStatement = b.statementOf (b.setting.counting counted)) ↔
          b.clauses.distinct = .off ∨ b.clauses.Grouped) ∧
      (b.CountsItsRows ↔ b.clauses.distinct = .off ∨ b.clauses.Grouped) ∧
      (b.countStatement = (b.distinct .off).countStatement ↔
        b.clauses.distinct = .off ∨ ¬b.clauses.Grouped) := by
  obtain ⟨x, -, balanced⟩ := reached.covered fun _ none => none.elim
  have plain : b.clauses.aggregate = none := balanced.plain
  refine ⟨?_, countStatement_eq_counting alone, exists_keeps_iff plain alone,
    countsItsRows_iff alone, countStatement_distinct_iff plain alone⟩
  intro perPage page m _ _ _
  exact paginate_eq_countThenShow

theorem Builder.countStatement_keeps_of_grouped_distinct :
    let steps : List Step :=
      [.table "t", .select ["kind"], .distinct .rows, .conditionRaw .and ⟨"n > ?", [.int 1]⟩,
        .groupBy ["kind", "owner"], .orderBy "kind" .asc, .limit 5]
    let b : Builder :=
      ((((((({ setting := ⟨.mysql, ""⟩ } : Builder).table "t").select ["kind"]).distinct
        .rows).conditionRaw .and ⟨"n > ?", [.int 1]⟩).groupBy ["kind", "owner"]).orderBy
          "kind" .asc).limit 5
    Step.applyAll { setting := ⟨.mysql, ""⟩ } steps = .ok b ∧ b.clauses.unions = [] ∧
      b.CountsItsRows ∧ b.countStatement ≠ (b.distinct .off).countStatement ∧
      b.countStatement =
        ⟨"select count(*) as aggregate from (select distinct `kind` from `t` where n > ? " ++
          "group by `kind`, `owner`) as `aggregate_table`", [.int 1]⟩ ∧
      (b.shown 10 2).statement =
        ⟨"select distinct `kind` from `t` where n > ? group by `kind`, `owner` " ++
          "order by `kind` asc limit 10 offset 10", [.int 1]⟩ := by
  intro steps b
  have built : Step.applyAll { setting := ⟨.mysql, ""⟩ } steps = .ok b := rfl
  have grouped : b.clauses.Grouped := .inl nofun
  obtain ⟨-, -, -, counts, distinct⟩ :=
    Builder.countStatement_keeps_iff (Step.reached_applyAll steps (.empty _) built) rfl
  have told : b.countStatement ≠ (b.distinct .off).countStatement := by
    intro same
    rcases distinct.mp same with off | ungrouped
    · cases off
    · exact ungrouped grouped
  exact ⟨built, rfl, counts.mpr (.inr grouped), told, by decide +kernel, by decide +kernel⟩

/-- Distinct names are counted with every row that has one. -/
theorem Builder.not_countStatement_keeps_of_distinct_names :
    let steps : List Step := [.table "t", .select ["name"], .distinct .rows]
    let b : Builder :=
      ((({ setting := ⟨.mysql, ""⟩ } : Builder).table "t").select ["name"]).distinct .rows
    Step.applyAll { setting := ⟨.mysql, ""⟩ } steps = .ok b ∧ b.clauses.unions = [] ∧
      b.countStatement = ⟨"select count(*) as aggregate from `t`", []⟩ ∧
      (b.distinct .off).countStatement = ⟨"select count(*) as aggregate from `t`", []⟩ ∧
      (b.shown 10 1).statement = ⟨"select distinct `name` from `t` limit 10 offset 0", []⟩ ∧
      (¬∃ counted : Counted, counted.Keeps b.clauses ∧
        b.countStatement = b.statementOf (b.setting.counting counted)) ∧ ¬b.CountsItsRows := by
  intro steps b
  have neither : ¬(b.clauses.distinct = .off ∨ b.clauses.Grouped) := by
    simp [b, Clauses.Grouped, Builder.distinct, Builder.select, Builder.table]
  refine ⟨rfl, rfl, by decide +kernel, by decide +kernel, by decide +kernel, ?_, ?_⟩
  · exact mt (exists_keeps_iff rfl rfl).mp neither
  · exact mt (countsItsRows_iff rfl).mp neither

end SqlComposer
