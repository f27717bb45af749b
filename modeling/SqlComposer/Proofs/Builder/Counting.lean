import SqlComposer.Builder.Run
import SqlComposer.Proofs.Builder.Reached
import SqlComposer.Proofs.Query.Pages

/-!
The union that a page count goes over and the union that its pages are taken of. They have the
same branches, but what was said of the first branch before there was a union is kept for the pages
and dropped for the count: a limit or an offset there makes the two differ in their rows
(`Builder.counted_sameUnion_iff`).
-/

namespace SqlComposer

open Fragment

/-! ## The two statements of a page -/

def Run.countThenShow {m : Type → Type} [Monad m] [Connection m] (count shown : Statement)
    (perPage page : UInt64) : Run m Page := do
  let (perPage, page) := Page.normalize perPage page
  let rows ← Run.fetchAll count
  let n ← match rows.head?.bind fun row => row.get? "aggregate" with
    | some v =>
      match v.int64? with
      | some n => pure n
      | none => Run.fail (.unexpected "count" v)
    | none => Run.fail (.emptyAggregate "count")
  let total := UInt64.ofNat n.toInt.toNat
  let items ← if total = 0 then pure [] else Run.fetchAll shown
  return Page.ofRows total perPage page items

namespace Setting

def countOf (s : Setting) (c : Clauses Query) : Fragment :=
  cat [s.aggregate .off ⟨"count", ["*"]⟩, " from (", s.united (s.compiled c), ") as ",
    s.tableText "temp_table"]

end Setting

namespace Clauses

def firstBranch {Q : Type} (c : Clauses Q) : Clauses Q :=
  { c with unions := [], unionOrders := [], unionLimit := none, unionOffset := none }

structure SameBranches (c d : Clauses Query) : Prop where
  unions : c.unions = d.unions
  source : c.source = d.source
  joins : c.joins = d.joins
  conditions : c.conditions = d.conditions
  limit : c.limit = d.limit
  offset : c.offset = d.offset

/-- Only the order, the limit and the offset of the whole union differ. -/
def SameUnion (c d : Clauses Query) : Prop :=
  c.unions = d.unions ∧ c.firstBranch = d.firstBranch

end Clauses

namespace Builder

def shown (b : Builder) (perPage page : UInt64) : Builder :=
  let (perPage, page) := Page.normalize perPage page
  b.page page perPage

end Builder

/-! ## The rows of a union -/

/-- A database as it answers unions. It decides which rows a branch has and how the rows of another
are added, and it arranges rows in an order. In a branch that takes all its rows the order changes
nothing but their order, unless it decides which rows are distinct. -/
structure UnionStore (Row : Type) where
  rows : Query → List Row
  added : Bool → List Row → List Row → List Row
  arranged : List (Order Query) → List Row → List Row
  arranged_perm : ∀ orders rows, (arranged orders rows).Perm rows
  added_perm : ∀ {all rows other more}, rows.Perm other →
    (added all rows more).Perm (added all other more)
  rows_perm : ∀ {c : Clauses Query}, c.limit = none → c.offset = none →
    (∀ columns, c.distinct ≠ .on columns) → (rows (.mk c)).Perm (rows (.mk { c with orders := [] }))

namespace UnionStore

variable {Row : Type} (store : UnionStore Row)

def gathered (c : Clauses Query) : List Row :=
  c.unions.foldl (fun rows branch => store.added branch.all rows (store.rows branch.query))
    (store.rows (.mk c.firstBranch))

def united (c : Clauses Query) : List Row :=
  window c.unionLimit c.unionOffset (store.arranged c.unionOrders (store.gathered c))

end UnionStore

/-- On every database the counted rows are those on all pages together. -/
def Builder.CountsItsPages (b : Builder) : Prop :=
  ∀ (Row : Type) (store : UnionStore Row) (perPage : UInt64),
    let total := (store.united b.counter.clauses).length
    let lastPage := Page.pageCount (.ofNat total) (Page.normalize perPage 1).1
    total < UInt64.size →
      ((List.range lastPage.toNat).map fun i =>
        (store.united (b.shown perPage (.ofNat (i + 1))).clauses).length).sum = total

/-! ## What is run -/

namespace Builder

variable {b : Builder} {perPage page : UInt64}

theorem paginate_eq_countThenShow {m : Type → Type} [Monad m] [LawfulMonad m] [Connection m] :
    (b.paginate perPage page : Run m Page) =
      Run.countThenShow (b.counter.aggregated "count" ["*"]).statement
        (b.shown perPage page).statement perPage page := by
  have failed : ∀ {A B : Type} (e : QueryError) (next : A → Run m B),
      (Run.fail e >>= next) = (Run.fail e : Run m B) := by
    intro A B e next
    apply ExceptT.ext
    simp [Run.fail]
  unfold paginate count aggregate Run.countThenShow Builder.get
  simp only [bind_assoc]
  congr 1
  funext rows
  cases rows.head?.bind fun row => row.get? "aggregate" with
  | none => simp only [failed]
  | some v =>
    simp only [pure_bind]
    cases v.int64? with
    | none => simp only [failed]
    | some n =>
      simp only [pure_bind]
      rfl

theorem statement_shown (plain : b.clauses.aggregate = none) : (b.shown perPage page).statement =
    b.statementOf (b.setting.united (b.setting.compiled (b.shown perPage page).clauses)) := by
  have kept : (b.setting.compiled (b.shown perPage page).clauses).aggregate = none := by
    change (b.page _ _).clauses.aggregate = none
    by_cases alone : b.clauses.unions.isEmpty <;> simp [Builder.page, limit, offset, alone, plain]
  change b.statementOf (b.setting.query (.mk _)) = _
  rw [Setting.query_mk, Setting.select, if_neg (by simp [kept])]

section Unions

variable (united : b.clauses.unions ≠ []) (groups : b.clauses.groups = [])
  (havings : b.clauses.havings = [])

include groups havings

theorem counter_of_ungrouped : b.counter = b.reorder.unlimited := by
  have rows : b.reorder.unlimited.clauses.groups = [] ∧ b.reorder.unlimited.clauses.havings = [] :=
    ⟨groups, havings⟩
  simp [Builder.counter, rows]

include united

theorem countStatement_eq (plain : b.clauses.aggregate = none) :
    (b.counter.aggregated "count" ["*"]).statement =
      b.statementOf (b.setting.countOf b.counter.clauses) := by
  rw [counter_of_ungrouped groups havings]
  have several : b.reorder.unlimited.clauses.unions.isEmpty = false := by
    simpa [unlimited, reorder] using united
  unfold aggregated
  simp only [several]
  change b.statementOf (b.setting.query (.mk _)) = _
  rw [Setting.query_mk, Setting.select, if_pos]
  · have counted : { b.setting.compiled { b.reorder.unlimited.clauses with
          aggregate := some ⟨"count", ["*"]⟩ } with aggregate := none } =
        b.setting.compiled b.reorder.unlimited.clauses := by
      simp [Setting.compiled, Clauses.map, unlimited, reorder, plain]
    rw [Setting.countOf, ← counted]
    rfl
  · simpa [Setting.compiled, Clauses.map] using several

omit united in
theorem clauses_counter : b.counter.clauses =
    { b.clauses with
      orders := [], unionOrders := [], limit := none, offset := none, unionLimit := none
      unionOffset := none } := by
  rw [counter_of_ungrouped groups havings]
  rfl

omit groups havings in
theorem clauses_shown : (b.shown perPage page).clauses =
    { b.clauses with
      unionLimit := some (Page.normalize perPage page).1
      unionOffset :=
        some (pageOffset (Page.normalize perPage page).2 (Page.normalize perPage page).1) } := by
  simp [shown, Builder.page, limit, offset, united]

theorem sameBranches_iff : b.counter.clauses.SameBranches (b.shown perPage page).clauses ↔
    b.clauses.limit = none ∧ b.clauses.offset = none := by
  rw [clauses_counter groups havings, clauses_shown united]
  constructor
  · intro same
    exact ⟨same.limit.symm, same.offset.symm⟩
  · rintro ⟨limit, offset⟩
    exact ⟨rfl, rfl, rfl, rfl, limit.symm, offset.symm⟩

theorem sameUnion_iff : b.counter.clauses.SameUnion (b.shown perPage page).clauses ↔
    b.clauses.limit = none ∧ b.clauses.offset = none ∧ b.clauses.orders = [] := by
  rw [clauses_counter groups havings, clauses_shown united]
  constructor
  · rintro ⟨-, same⟩
    exact ⟨(congrArg Clauses.limit same).symm, (congrArg Clauses.offset same).symm,
      (congrArg Clauses.orders same).symm⟩
  · rintro ⟨limit, offset, orders⟩
    exact ⟨rfl, by simp [Clauses.firstBranch, limit, offset, orders]⟩

end Unions

end Builder

/-! ## The rows that are counted and shown -/

namespace UnionStore

variable {Row : Type} (store : UnionStore Row)

theorem foldl_added_perm (branches : List (Branch Query)) {rows other : List Row}
    (perm : rows.Perm other) :
    (branches.foldl (fun rows branch => store.added branch.all rows (store.rows branch.query))
        rows).Perm
      (branches.foldl (fun rows branch => store.added branch.all rows (store.rows branch.query))
        other) := by
  induction branches generalizing rows other with
  | nil => exact perm
  | cons branch rest ih => exact ih (store.added_perm perm)

theorem length_united_whole (c : Clauses Query) (limit : c.unionLimit = none)
    (offset : c.unionOffset = none) : (store.united c).length = (store.gathered c).length := by
  rw [united, limit, offset]
  exact (store.arranged_perm _ _).length_eq

theorem gathered_perm {c : Clauses Query} (limit : c.limit = none) (offset : c.offset = none)
    (distinct : c.orders = [] ∨ ∀ columns, c.distinct ≠ .on columns) :
    (store.gathered { c with orders := [] }).Perm (store.gathered c) := by
  apply store.foldl_added_perm
  rcases distinct with none | plain
  · have same : ({ c with orders := [] } : Clauses Query) = c := by rw [← none]
    rw [same]
  · exact (store.rows_perm (c := c.firstBranch) limit offset plain).symm

end UnionStore

theorem Builder.countsItsPages {b : Builder} (united : b.clauses.unions ≠ [])
    (groups : b.clauses.groups = []) (havings : b.clauses.havings = [])
    (limit : b.clauses.limit = none) (offset : b.clauses.offset = none)
    (distinct : b.clauses.orders = [] ∨ ∀ columns, b.clauses.distinct ≠ .on columns) :
    b.CountsItsPages := by
  intro Row store perPage total lastPage fits
  let list := store.arranged b.clauses.unionOrders (store.gathered b.clauses)
  have counted : total = list.length := by
    have rows : store.gathered b.counter.clauses =
        store.gathered { b.clauses with orders := [] } := by
      simp [UnionStore.gathered, Clauses.firstBranch, clauses_counter groups havings, limit, offset]
    have whole : b.counter.clauses.unionLimit = none ∧ b.counter.clauses.unionOffset = none := by
      simp [clauses_counter groups havings]
    calc
      total = (store.gathered b.counter.clauses).length :=
        store.length_united_whole _ whole.1 whole.2
      _ = (store.gathered b.clauses).length := by
        rw [rows]
        exact (store.gathered_perm limit offset distinct).length_eq
      _ = list.length := (store.arranged_perm _ _).length_eq.symm
  have pages : ∀ i ∈ List.range lastPage.toNat,
      (store.united (b.shown perPage (.ofNat (i + 1))).clauses).length =
        let page := Page.normalize perPage (.ofNat (i + 1))
        (window (some page.1) (some (pageOffset page.2 page.1)) list).length := by
    intro i _
    rw [clauses_shown united]
    rfl
  have last : lastPage = Page.pageCount (.ofNat list.length) (Page.normalize perPage 1).1 := by
    rw [← counted]
  rw [List.map_congr_left pages, last, counted]
  exact sum_length_normalized_pages list perPage (counted ▸ fits)

/-- Pages of a union are counted over its branches. They have the same source, joins, conditions,
limit and offset exactly if the first has neither a limit nor an offset, and differ in nothing but
what is said of the whole exactly if it has no order either; the count then is the number of rows on
all pages. -/
theorem Builder.counted_sameUnion_iff {b : Builder}
    (reached : Reached (fun _ => True) (fun _ => False) b) (united : b.clauses.unions ≠ [])
    (groups : b.clauses.groups = []) (havings : b.clauses.havings = []) :
    (∀ perPage page,
      (∀ (m : Type → Type) [Monad m] [LawfulMonad m] [Connection m],
        (b.paginate perPage page : Run m Page) =
          Run.countThenShow (b.statementOf (b.setting.countOf b.counter.clauses))
            (b.statementOf (b.setting.united (b.setting.compiled (b.shown perPage page).clauses)))
            perPage page) ∧
        (b.counter.clauses.SameBranches (b.shown perPage page).clauses ↔
          b.clauses.limit = none ∧ b.clauses.offset = none) ∧
        (b.counter.clauses.SameUnion (b.shown perPage page).clauses ↔
          b.clauses.limit = none ∧ b.clauses.offset = none ∧ b.clauses.orders = [])) ∧
      (b.clauses.limit = none → b.clauses.offset = none →
        (b.clauses.orders = [] ∨ ∀ columns, b.clauses.distinct ≠ .on columns) →
          b.CountsItsPages) := by
  obtain ⟨x, -, balanced⟩ := reached.covered fun _ none => none.elim
  have plain : b.clauses.aggregate = none := balanced.plain
  refine ⟨fun perPage page => ⟨?_, ?_, ?_⟩, countsItsPages united groups havings⟩
  · intro m _ _ _
    rw [paginate_eq_countThenShow, countStatement_eq united groups havings plain,
      statement_shown plain]
  · exact sameBranches_iff united groups havings
  · exact sameUnion_iff united groups havings

/-- The limit of a later branch and what is said of the whole do not come between the two. -/
theorem Builder.counted_sameUnion_of_limited_later_branch :
    let steps : List Step :=
      [.table "t", .conditionRaw .and ⟨"n > ?", [.int 1]⟩,
        .union true (.inPlace [.table "u", .limit 3]), .orderBy "id" .desc, .limit 7]
    let b : Builder :=
      ((((({ setting := ⟨.mysql, ""⟩ } : Builder).table "t").conditionRaw .and
        ⟨"n > ?", [.int 1]⟩).union true
          ((({ setting := ⟨.mysql, ""⟩ } : Builder).table "u").limit 3)).orderBy "id" .desc).limit 7
    Step.applyAll { setting := ⟨.mysql, ""⟩ } steps = .ok b ∧ b.clauses.unions ≠ [] ∧
      b.clauses.groups = [] ∧ b.clauses.havings = [] ∧
      b.counter.clauses.SameUnion (b.shown 10 2).clauses ∧ b.CountsItsPages ∧
      b.statementOf (b.setting.countOf b.counter.clauses) =
        ⟨"select count(*) as aggregate from ((select * from `t` where n > ?) union all " ++
          "(select * from `u` limit 3)) as `temp_table`", [.int 1]⟩ ∧
      (b.shown 10 2).statement =
        ⟨"(select * from `t` where n > ?) union all (select * from `u` limit 3) " ++
          "order by `id` desc limit 10 offset 10", [.int 1]⟩ := by
  intro steps b
  have built : Step.applyAll { setting := ⟨.mysql, ""⟩ } steps = .ok b := rfl
  have united : b.clauses.unions ≠ [] := nofun
  obtain ⟨pages, total⟩ :=
    Builder.counted_sameUnion_iff (Step.reached_applyAll steps (.empty _) built) united rfl rfl
  exact ⟨built, united, rfl, rfl, (pages 10 2).2.2.mpr ⟨rfl, rfl, rfl⟩, total rfl rfl (.inl rfl),
    by decide +kernel, by decide +kernel⟩

def UnionStore.pairs : UnionStore Unit where
  rows := fun ⟨c⟩ => window c.limit c.offset [(), ()]
  added _ rows more := rows ++ more
  arranged _ rows := rows
  arranged_perm _ rows := .refl rows
  added_perm := fun perm => perm.append_right _
  rows_perm := fun _ _ _ => .refl _

/-- A limit of the first branch is dropped for the count. -/
theorem Builder.not_counted_sameUnion_of_limited_first_branch :
    let steps : List Step := [.table "t", .limit 1, .union false (.inPlace [.table "u"])]
    let b : Builder :=
      ((({ setting := ⟨.mysql, ""⟩ } : Builder).table "t").limit 1).union false
        (({ setting := ⟨.mysql, ""⟩ } : Builder).table "u")
    Step.applyAll { setting := ⟨.mysql, ""⟩ } steps = .ok b ∧
      b.statementOf (b.setting.countOf b.counter.clauses) =
        ⟨"select count(*) as aggregate from ((select * from `t`) union (select * from `u`)) " ++
          "as `temp_table`", []⟩ ∧
      (b.shown 10 1).statement =
        ⟨"(select * from `t` limit 1) union (select * from `u`) limit 10 offset 0", []⟩ ∧
      ¬b.counter.clauses.SameBranches (b.shown 10 1).clauses ∧ ¬b.CountsItsPages := by
  intro steps b
  refine ⟨rfl, by decide +kernel, by decide +kernel, ?_, ?_⟩
  · intro same
    cases same.limit
  · intro counts
    have total := counts Unit UnionStore.pairs 10 (by decide)
    exact absurd total (by decide)

end SqlComposer
