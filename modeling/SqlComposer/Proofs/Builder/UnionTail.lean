import SqlComposer.Proofs.Builder.Reached
import SqlComposer.Proofs.Statement.Sequence
import SqlComposer.Proofs.Text.Literals

/-!
What is said of a union after its first branch. Once there is a union, orders and limits are those
of the whole: the clauses and the values of the first branch stay as they are, and the statement is
the first branch as it was before, then the branches in the order they were added, and then what is
said of the whole (`Step.applyAll_union_iff`).
-/

namespace SqlComposer

open Fragment

/-! ## What steps say of a union -/

structure UnionTail where
  branches : List (Branch Builder) := []
  orders : List (Order Builder) := []
  limit : Option UInt64 := none
  offset : Option UInt64 := none

/-- The steps that add a branch to a union or speak of all its rows. -/
def Step.speaksOfUnion : Step → Bool
  | .union _ _ | .orderBy _ _ | .orderByRaw _ | .orderBySub _ _ | .randomOrder | .limit _
  | .offset _ | .page _ _ => true
  | _ => false

def Order.held : Order Builder → List Value
  | .column _ _ => []
  | .raw sql => sql.bindings
  | .sub query _ => query.held

def Builder.united (b : Builder) (tail : UnionTail) : Builder :=
  { b with
    clauses :=
      { b.clauses with
        unions := tail.branches.map (·.map Builder.query)
        unionOrders := tail.orders.map (·.map Builder.query)
        unionLimit := tail.limit
        unionOffset := tail.offset }
    bindings :=
      { b.bindings with
        union := tail.branches.flatMap (·.query.held)
        unionOrder := tail.orders.flatMap Order.held } }

namespace UnionTail

variable (b : Builder) (tail : UnionTail)

def addOrder (order : Order Builder) : UnionTail := { tail with orders := tail.orders ++ [order] }

def add : Step → Except Misuse UnionTail
  | .union all sub => do
    let branch ← sub.build (b.united tail)
    return { tail with branches := tail.branches ++ [⟨all, branch⟩] }
  | .orderBy column direction => return tail.addOrder (.column column direction)
  | .orderByRaw raw => return tail.addOrder (.raw raw)
  | .orderBySub sub direction => do
    let key ← sub.build (b.united tail)
    return tail.addOrder (.sub key direction)
  | .randomOrder => return tail.addOrder (.raw ⟨b.setting.dialect.randomFunction, []⟩)
  | .limit n => return { tail with limit := some n }
  | .offset n => return { tail with offset := some n }
  | .page page perPage =>
    return { tail with limit := some perPage, offset := some (Builder.pageOffset page perPage) }
  | _ => return tail

def addAll : List Step → Except Misuse UnionTail := List.foldlM (add b) tail

end UnionTail

/-! ## The text of a union -/

def Dialect.branchText (d : Dialect) (sql : String) : String :=
  match d with
  | sqlite => "select * from (" ++ sql ++ ")"
  | _ => "(" ++ sql ++ ")"

namespace UnionTail

variable (tail : UnionTail) (s : Setting)

def branchTexts (s : Setting) : Nat → List (Branch Builder) → List String
  | _, [] => []
  | next, branch :: rest =>
    let rows := s.query branch.query.query
    ((if branch.all then "union all " else "union ") ++
        s.dialect.branchText (Piece.render s.dialect.style next rows.pieces)) ::
      branchTexts s (next + Piece.slots rows.pieces) rest

def branchFragments : List Fragment := tail.branches.map fun branch => s.query branch.query.query

def orderFragment : Fragment := s.orders (tail.orders.map (·.map fun sub => s.query sub.query))

def orderTexts (next : Nat) : List String :=
  if tail.orders = [] then [] else [Piece.render s.dialect.style next (tail.orderFragment s).pieces]

def limitTexts (d : Dialect) : List String :=
  if tail.limit = none ∧ tail.offset = none then [] else [d.limitOffset tail.limit tail.offset]

def texts (next : Nat) : List String :=
  branchTexts s next tail.branches ++
    tail.orderTexts s (next + Fragment.slots (tail.branchFragments s)) ++ tail.limitTexts s.dialect

end UnionTail

/-- A builder that another has become by what is said of a union, and its statement: the other's
own, and then what is said. -/
structure Builder.Unites (b : Builder) (tail : UnionTail) (next : Builder) : Prop where
  eq : next = b.united tail
  sql : next.statement.sql = Text.trimEnd (" ".intercalate
    (b.setting.dialect.branchText b.statement.sql ::
      tail.texts b.setting (1 + Piece.slots b.fragment.pieces)))
  bindings : next.statement.bindings =
    b.statement.bindings ++ (tail.branchFragments b.setting).flatMap (·.bindings) ++
      (tail.orderFragment b.setting).bindings

/-! ## Steps -/

section Steps

variable {b : Builder} {tail : UnionTail}

theorem Builder.addOrder_united (several : tail.branches ≠ []) (order : Order Builder) :
    (b.united tail).addOrder (order.map Builder.query) order.held =
      b.united (tail.addOrder order) := by
  have more : (b.united tail).clauses.unions.isEmpty = false := by
    simpa [Builder.united] using several
  rw [Builder.addOrder, more]
  simp only [Builder.united, UnionTail.addOrder, List.map_append, List.flatMap_append,
    List.flatMap_singleton]
  rfl

theorem Builder.limit_united (several : tail.branches ≠ []) (n : UInt64) :
    (b.united tail).limit n = b.united { tail with limit := some n } := by
  simp [Builder.limit, Builder.united, several]

theorem Builder.offset_united (several : tail.branches ≠ []) (n : UInt64) :
    (b.united tail).offset n = b.united { tail with offset := some n } := by
  simp [Builder.offset, Builder.united, several]

theorem Step.apply_union_united (all : Bool) (sub : SubSelect) :
    (Step.union all sub).apply (b.united tail) = (tail.add b (.union all sub)).map b.united := by
  rw [Step.apply, UnionTail.add]
  cases sub.build (b.united tail) with
  | error e => rfl
  | ok branch =>
    refine congrArg Except.ok ?_
    simp only [Builder.united, List.map_append, List.flatMap_append, List.flatMap_singleton]
    rfl

/-- Once there is a union, a step that speaks of it changes nothing else. -/
theorem Step.apply_united {step : Step} (speaks : step.speaksOfUnion = true)
    (several : tail.branches ≠ []) :
    step.apply (b.united tail) = (tail.add b step).map b.united := by
  cases step with
  | union all sub => exact Step.apply_union_united all sub
  | orderBy column direction =>
    exact congrArg Except.ok (Builder.addOrder_united several (.column column direction))
  | orderByRaw raw => exact congrArg Except.ok (Builder.addOrder_united several (.raw raw))
  | randomOrder => exact congrArg Except.ok (Builder.addOrder_united several (.raw _))
  | orderBySub sub direction =>
    rw [Step.apply, UnionTail.add]
    cases sub.build (b.united tail) with
    | error e => rfl
    | ok key => exact congrArg Except.ok (Builder.addOrder_united several (.sub key direction))
  | limit n => exact congrArg Except.ok (Builder.limit_united several n)
  | offset n => exact congrArg Except.ok (Builder.offset_united several n)
  | page page perPage =>
    refine congrArg Except.ok ?_
    let offset := some (Builder.pageOffset page perPage)
    have paged : ({ tail with offset } : UnionTail).branches ≠ [] := several
    rw [Builder.page, Builder.offset_united several]
    exact Builder.limit_united paged perPage
  | _ => cases speaks

theorem UnionTail.branches_add_union_ne_nil {all : Bool} {sub : SubSelect} {more : UnionTail}
    (added : tail.add b (.union all sub) = .ok more) : more.branches ≠ [] := by
  obtain ⟨branch, -, rest⟩ := Misuse.ok_of_bind added
  cases rest
  simp

theorem UnionTail.branches_add_ne_nil {step : Step} {more : UnionTail}
    (several : tail.branches ≠ []) (added : tail.add b step = .ok more) : more.branches ≠ [] := by
  cases step with
  | union all sub => exact branches_add_union_ne_nil added
  | orderBySub sub direction =>
    obtain ⟨key, -, rest⟩ := Misuse.ok_of_bind added
    cases rest
    exact several
  | _ =>
    cases added
    exact several

theorem UnionTail.branches_addAll_ne_nil {steps : List Step} {more : UnionTail}
    (several : tail.branches ≠ []) (added : tail.addAll b steps = .ok more) :
    more.branches ≠ [] := by
  induction steps generalizing tail with
  | nil =>
    cases added
    exact several
  | cons step steps ih =>
    rw [UnionTail.addAll, List.foldlM_cons] at added
    obtain ⟨middle, first, rest⟩ := Misuse.ok_of_bind added
    exact ih (branches_add_ne_nil several first) rest

theorem Step.applyAll_united {steps : List Step}
    (speak : ∀ step ∈ steps, step.speaksOfUnion = true) (several : tail.branches ≠ []) :
    Step.applyAll (b.united tail) steps = (tail.addAll b steps).map b.united := by
  induction steps generalizing tail with
  | nil => rfl
  | cons step steps ih =>
    have first := Step.apply_united (b := b) (speak step List.mem_cons_self) several
    have others := fun later mem => speak later (List.mem_cons_of_mem step mem)
    rw [Step.applyAll, first, UnionTail.addAll, List.foldlM_cons]
    cases added : tail.add b step with
    | error e => rfl
    | ok more => exact ih others (UnionTail.branches_add_ne_nil several added)

end Steps

/-! ## Builders without a union -/

namespace Builder

variable {b next : Builder}

/-- Without a union there is no limit and no offset of a whole one. -/
def Unpaged (b : Builder) : Prop :=
  b.clauses.unions = [] → b.clauses.unionLimit = none ∧ b.clauses.unionOffset = none

theorem Unpaged.union (all : Bool) (sub : Builder) : (b.union all sub).Unpaged := by
  intro none
  simp [Builder.union] at none

theorem Unpaged.limit (unpaged : b.Unpaged) (n : UInt64) : (b.limit n).Unpaged := by
  by_cases alone : b.clauses.unions = []
  · simpa [Builder.limit, Unpaged, alone] using unpaged
  · simp [Builder.limit, Unpaged, alone]

theorem Unpaged.offset (unpaged : b.Unpaged) (n : UInt64) : (b.offset n).Unpaged := by
  by_cases alone : b.clauses.unions = []
  · simpa [Builder.offset, Unpaged, alone] using unpaged
  · simp [Builder.offset, Unpaged, alone]

theorem Unpaged.addOrder (unpaged : b.Unpaged) (order : Order Query) (values : List Value) :
    (b.addOrder order values).Unpaged := by
  unfold Builder.addOrder
  split
  · exact unpaged
  · exact unpaged

theorem Unpaged.compare (unpaged : b.Unpaged) {connector : Connector} {column : String}
    {arguments : List Operand} (made : b.compare connector column arguments = .ok next) :
    next.Unpaged := by
  obtain ⟨c, -, rest⟩ := Misuse.ok_of_bind made
  split at rest
  · cases rest
    exact unpaged
  · split at rest <;>
    · cases rest
      exact unpaged

theorem Unpaged.compareColumns (unpaged : b.Unpaged) {connector : Connector} {first : String}
    {arguments : List Operand} (made : b.compareColumns connector first arguments = .ok next) :
    next.Unpaged := by
  obtain ⟨c, -, rest⟩ := Misuse.ok_of_bind made
  split at rest
  · cases rest
    exact unpaged
  · cases rest

theorem Unpaged.on (unpaged : b.Unpaged) {connector : Connector} {first operator second : String}
    (made : b.on connector first operator second = .ok next) : next.Unpaged := by
  unfold Builder.on at made
  split at made
  · cases made
  · obtain ⟨known, -, rest⟩ := Misuse.ok_of_bind made
    cases rest
    exact unpaged

theorem Unpaged.nested (unpaged : b.Unpaged) (connector : Connector) (child : Builder) :
    (b.nested connector child).Unpaged := by
  unfold Builder.nested
  split
  · exact unpaged
  · exact unpaged

theorem Unpaged.perform (unpaged : b.Unpaged) {sub child : Builder} (step : Step)
    (made : step.perform b sub child = .ok next) : next.Unpaged := by
  cases step with
  | fresh | table =>
    cases made
    exact fun _ => ⟨rfl, rfl⟩
  | union all _ =>
    cases made
    exact .union all sub
  | limit n =>
    cases made
    exact unpaged.limit n
  | offset n =>
    cases made
    exact unpaged.offset n
  | page page perPage =>
    cases made
    exact (unpaged.offset _).limit perPage
  | orderBy | orderByRaw | orderBySub | randomOrder =>
    cases made
    exact unpaged.addOrder _ _
  | nested connector _ =>
    cases made
    exact unpaged.nested connector child
  | join | joinSub | compareSub | compareDate | having =>
    obtain ⟨_, -, rest⟩ := Misuse.ok_of_bind made
    cases rest
    exact unpaged
  | on => exact unpaged.on made
  | compare => exact unpaged.compare made
  | compareColumns => exact unpaged.compareColumns made
  | _ =>
    cases made
    exact unpaged

theorem Reached.unpaged {handed start : Builder → Prop} (given : ∀ b, start b → b.Unpaged)
    (reached : Reached handed start b) : b.Unpaged := by
  induction reached with
  | start first => exact given _ first
  | empty setting => exact fun _ => ⟨rfl, rfl⟩
  | joinConditions outer ih => exact fun _ => ⟨rfl, rfl⟩
  | nestedConditions outer ih => exact fun _ => ⟨rfl, rfl⟩
  | step step outer inner fit gathered made outerIH innerIH childIH =>
    exact outerIH.perform step made

theorem united_eq_self (unions : b.clauses.unions = []) (orders : b.clauses.unionOrders = [])
    (limit : b.clauses.unionLimit = none) (offset : b.clauses.unionOffset = none)
    (union : b.bindings.union = []) (unionOrder : b.bindings.unionOrder = []) :
    b.united {} = b := by
  obtain ⟨setting, ⟨⟩, ⟨⟩, inJoin⟩ := b
  subst unions orders limit offset union unionOrder
  rfl

theorem united_empty (reached : Reached (fun _ => True) (fun _ => False) b)
    (alone : b.clauses.unions = []) : b.united {} = b := by
  obtain ⟨x, below, balanced⟩ := reached.covered fun _ none => none.elim
  obtain ⟨limit, offset⟩ := reached.unpaged (fun _ none => none.elim) alone
  have orders : b.clauses.unionOrders = [] := balanced.ordered alone
  -- No class holds more values than its clauses bind, and these bind none.
  have unbound {k : BindingClass} (known : k ≠ .source)
      (none : (b.setting.compiled b.clauses).values k = []) : b.bindings.get k = [] := by
    have values : x.get k = (b.setting.compiled b.clauses).values k :=
      balanced.holds k (.inl known) b.setting
    have count := below k
    rw [values, none] at count
    exact List.eq_nil_of_length_eq_zero (Nat.le_zero.mp count)
  have union : b.bindings.union = [] := unbound (k := .union) (by decide) (by
    simp [Setting.compiled, Clauses.map, Clauses.values, alone])
  have unionOrder : b.bindings.unionOrder = [] := unbound (k := .unionOrder) (by decide) (by
    simp [Setting.compiled, Clauses.map, Clauses.values, orders])
  exact united_eq_self alone orders limit offset union unionOrder

end Builder

/-! ## The statement of a union -/

namespace Dialect

variable {d : Dialect} {style : Style}

theorem render_unionBody (next : Nat) (f : Fragment) :
    Piece.render style next (d.unionBody f).pieces =
      d.branchText (Piece.render style next f.pieces) := by
  cases d <;> simp [unionBody, branchText, Piece.render, Piece.render_append, String.append_assoc]

theorem slots_unionBody (f : Fragment) :
    Piece.slots (d.unionBody f).pieces = Piece.slots f.pieces := by
  cases d <;> simp [unionBody, Piece.slots]

theorem render_branch (next : Nat) (branch : Branch Fragment) :
    Piece.render style next (d.branch branch).pieces =
      (if branch.all then "union all " else "union ") ++
        d.branchText (Piece.render style next branch.query.pieces) := by
  obtain ⟨all, query⟩ := branch
  cases all <;> simp [Dialect.branch, Piece.render, render_unionBody]

theorem slots_branch (branch : Branch Fragment) :
    Piece.slots (d.branch branch).pieces = Piece.slots branch.query.pieces := by
  obtain ⟨all, query⟩ := branch
  calc
    _ = Piece.slots (d.unionBody query).pieces := by
      cases all <;> simp [Dialect.branch, Piece.slots]
    _ = Piece.slots query.pieces := slots_unionBody query

theorem isBlank_branch (branch : Branch Fragment) : (d.branch branch).isBlank = false := by
  obtain ⟨all, query⟩ := branch
  cases all <;> simp [Dialect.branch, Fragment.isBlank]

theorem limitOffset_eq_empty_iff {limit offset : Option UInt64} :
    d.limitOffset limit offset = "" ↔ limit = none ∧ offset = none := by
  cases limit <;> cases offset <;> cases d <;> simp [limitOffset, offsetOnly]

end Dialect

namespace UnionTail

variable (tail : UnionTail) (s : Setting)

theorem compiled_united (b : Builder) : b.setting.compiled (b.united tail).clauses =
    { b.setting.compiled b.clauses with
      unions := tail.branches.map fun branch =>
        ⟨branch.all, b.setting.query branch.query.query⟩
      unionOrders := tail.orders.map (·.map fun sub => b.setting.query sub.query)
      unionLimit := tail.limit
      unionOffset := tail.offset } := by
  have orders : ∀ order : Order Builder,
      (order.map Builder.query).map b.setting.query =
        order.map fun sub => b.setting.query sub.query := by
    intro order
    cases order <;> rfl
  simp [Setting.compiled, Clauses.map, Builder.united, Branch.map, orders]

theorem texts_branches (next : Nat) (branches : List (Branch Builder)) :
    Fragment.texts s.dialect.style next
        (branches.map fun branch => s.dialect.branch ⟨branch.all, s.query branch.query.query⟩) =
      branchTexts s next branches := by
  induction branches generalizing next with
  | nil => rfl
  | cons branch rest ih =>
    rw [List.map_cons, Fragment.texts, ih, Dialect.render_branch, Dialect.slots_branch,
      branchTexts]

theorem slots_branches : Fragment.slots (tail.branches.map fun branch =>
    s.dialect.branch ⟨branch.all, s.query branch.query.query⟩) =
      Fragment.slots (tail.branchFragments s) := by
  simp [Fragment.slots, branchFragments, Dialect.slots_branch, Function.comp_def]

theorem texts_orders (next : Nat) :
    Fragment.texts s.dialect.style next
        ((segment (tail.orders.map (·.map fun sub => s.query sub.query))
          (tail.orderFragment s)).filter (!·.isBlank)) =
      tail.orderTexts s next := by
  have shown : (tail.orderFragment s).isBlank = false := by
    simp [orderFragment, Setting.orders, Fragment.isBlank]
  by_cases none : tail.orders = []
  · simp [segment, orderTexts, none, Fragment.texts]
  · simp [segment, orderTexts, none, shown, Fragment.texts]

theorem texts_limit (d : Dialect) (style : Style) (next : Nat) :
    Fragment.texts style next
        ([(d.limitOffset tail.limit tail.offset : Fragment)].filter (!·.isBlank)) =
      tail.limitTexts d := by
  have blank : (ofText (d.limitOffset tail.limit tail.offset)).isBlank = true ↔
      tail.limit = none ∧ tail.offset = none := by
    rw [← Dialect.limitOffset_eq_empty_iff (d := d)]
    simp [Fragment.isBlank]
  by_cases none : tail.limit = none ∧ tail.offset = none
  · rw [limitTexts, if_pos none, List.filter_singleton, blank.mpr none]
    rfl
  · have shown := Bool.eq_false_iff.mpr (mt blank.mp none)
    rw [limitTexts, if_neg none, List.filter_singleton, shown]
    simp [Fragment.texts, Piece.render]

theorem render_unions (b : Builder) (next : Nat) :
    Piece.render b.setting.dialect.style next
        (b.setting.unions (b.setting.compiled (b.united tail).clauses)).pieces =
      Text.trimEnd (" ".intercalate (tail.texts b.setting next)) := by
  have branches : (tail.branches.map fun branch => b.setting.dialect.branch
      ⟨branch.all, b.setting.query branch.query.query⟩).filter (!·.isBlank) =
      tail.branches.map fun branch => b.setting.dialect.branch
        ⟨branch.all, b.setting.query branch.query.query⟩ := by
    apply List.filter_eq_self.mpr
    intro f member
    obtain ⟨branch, -, rfl⟩ := List.mem_map.mp member
    rw [Dialect.isBlank_branch]
    rfl
  rw [compiled_united, Setting.unions, render_joined]
  simp only [List.map_map, Function.comp_def]
  rw [List.filter_append, List.filter_append, branches, texts_append, texts_append, texts_branches,
    slots_branches, texts_limit, UnionTail.texts, ← texts_orders]
  rfl

theorem trimEnd_texts_ne_empty (several : tail.branches ≠ []) (next : Nat) :
    Text.trimEnd (" ".intercalate (tail.texts s next)) ≠ "" := by
  obtain ⟨branch, rest, branches⟩ := List.exists_cons_of_ne_nil several
  have first : 'u' ∈ (" ".intercalate (tail.texts s next)).toList := by
    rw [texts, branches, branchTexts, List.cons_append, List.cons_append, toList_intercalate_cons]
    cases branch.all <;> simp
  exact Text.trimEnd_ne_empty first (by decide)

end UnionTail

namespace Builder

variable {b next : Builder} {tail : UnionTail}

theorem fragment_united (plain : b.clauses.aggregate = none) (alone : b.clauses.unions = [])
    (several : tail.branches ≠ []) : (b.united tail).fragment =
      cat [b.setting.dialect.unionBody b.fragment, " ",
        b.setting.unions (b.setting.compiled (b.united tail).clauses)] := by
  have first : b.fragment = b.setting.body (b.setting.compiled b.clauses) :=
    b.setting.query_of_alone alone
  rw [first, fragment, query, Setting.query_mk, Setting.select, if_neg, Setting.united, if_neg]
  · rfl
  · simpa [united, Setting.compiled, Clauses.map] using several
  · simp [united, Setting.compiled, Clauses.map, plain]

theorem unites_united (plain : b.clauses.aggregate = none) (alone : b.clauses.unions = [])
    (several : tail.branches ≠ []) : b.Unites tail (b.united tail) := by
  let later := b.setting.unions (b.setting.compiled (b.united tail).clauses)
  have pieces : (b.united tail).fragment.pieces =
      (b.setting.dialect.unionBody b.fragment).pieces ++ .text " " :: later.pieces := by
    rw [fragment_united plain alone several]
    simp [later]
  refine ⟨rfl, ?_, ?_⟩
  · have shown := tail.trimEnd_texts_ne_empty b.setting several
      (1 + Piece.slots b.fragment.pieces)
    have others : tail.texts b.setting (1 + Piece.slots b.fragment.pieces) ≠ [] := by
      intro none
      rw [none] at shown
      exact shown rfl
    calc
      (b.united tail).statement.sql =
          Piece.render b.setting.dialect.style 1 (b.united tail).fragment.pieces := rfl
      _ = b.setting.dialect.branchText b.statement.sql ++ " " ++
          Piece.render b.setting.dialect.style (1 + Piece.slots b.fragment.pieces)
            later.pieces := by
        rw [pieces, Piece.render_append, Dialect.render_unionBody, Dialect.slots_unionBody,
          Piece.render, String.append_assoc]
        rfl
      _ = _ := by
        rw [String.intercalate_cons_of_ne_nil others, Text.trimEnd_append shown,
          UnionTail.render_unions]
  · change (b.united tail).fragment.bindings = b.fragment.bindings ++ _ ++ _
    rw [fragment_united plain alone several, UnionTail.compiled_united]
    simp [Setting.bindings_unions, Clauses.values, UnionTail.branchFragments,
      UnionTail.orderFragment, List.flatMap_map]

end Builder

/-- Steps that begin with a union and go on speaking of it change nothing but the unions, what
orders and limits the whole, and the values of these. The statement is the one there was, as a
branch, then the branches in the order they were added, and then the orders, the last limit and the
last offset. The steps succeed as long as their sub-selects can be built. -/
theorem Step.applyAll_union_iff {b next : Builder}
    (reached : Builder.Reached (fun _ => True) (fun _ => False) b) (alone : b.clauses.unions = [])
    (all : Bool) (sub : SubSelect) {steps : List Step}
    (speak : ∀ step ∈ steps, step.speaksOfUnion = true) :
    Step.applyAll b (.union all sub :: steps) = .ok next ↔
      ∃ tail, UnionTail.addAll b {} (.union all sub :: steps) = .ok tail ∧
        b.Unites tail next := by
  obtain ⟨x, -, balanced⟩ := reached.covered fun _ none => none.elim
  have plain : b.clauses.aggregate = none := balanced.plain
  have first : (Step.union all sub).apply b =
      (UnionTail.add b {} (.union all sub)).map b.united := by
    have united : (Step.union all sub).apply (b.united {}) =
        (UnionTail.add b {} (.union all sub)).map b.united := Step.apply_union_united all sub
    rwa [Builder.united_empty reached alone] at united
  rw [Step.applyAll, first, UnionTail.addAll, List.foldlM_cons]
  cases added : UnionTail.add b {} (.union all sub) with
  | error e =>
    constructor
    · intro made
      cases made
    · rintro ⟨_, gathered, -⟩
      cases gathered
  | ok tail =>
    have several := UnionTail.branches_add_union_ne_nil added
    change Step.applyAll (b.united tail) steps = .ok next ↔
      ∃ more, tail.addAll b steps = .ok more ∧ b.Unites more next
    rw [Step.applyAll_united speak several]
    constructor
    · intro made
      cases gathered : tail.addAll b steps with
      | error e =>
        rw [gathered] at made
        cases made
      | ok more =>
        rw [gathered] at made
        cases made
        have branches := UnionTail.branches_addAll_ne_nil several gathered
        exact ⟨more, rfl, Builder.unites_united plain alone branches⟩
    · rintro ⟨more, gathered, unites⟩
      rw [gathered, unites.eq]
      rfl

/-- Ordered and paged after branches of their own kind: one is a union itself, one was made for
another dialect and is limited. -/
theorem Step.applyAll_union_of_nested_unions :
    let setting : Setting := ⟨.postgres, "x_"⟩
    let b := (((({ setting } : Builder).table "t").conditionRaw .and ⟨"n > ?", [.int 1]⟩).orderBy
      "id" .asc).limit 3
    let nested : SubSelect := .inPlace
      [.table "u", .conditionRaw .and ⟨"m = ?", [.int 2]⟩, .union false (.inPlace [.table "v"])]
    let later : List Step :=
      [.limit 9, .union false (.made ⟨.mysql, "y_"⟩ [.table "w", .limit 4]),
        .orderByRaw ⟨"n + ?", [.int 5]⟩, .page 3 10, .randomOrder, .offset 7]
    let own := "select * from \"x_t\" where n > $1 order by \"id\" asc limit 3"
    Builder.Reached (fun _ => True) (fun _ => False) b ∧ b.clauses.unions = [] ∧
      (∀ step ∈ later, step.speaksOfUnion = true) ∧ b.statement.sql = own ∧
      ∃ next tail, Step.applyAll b (.union true nested :: later) = .ok next ∧
        b.Unites tail next ∧ tail.limit = some 10 ∧ tail.offset = some 7 ∧
        next.clauses.limit = some 3 ∧ next.bindings.order = [] ∧ next.statement =
          ⟨"(" ++ own ++ ") union all ((select * from \"x_u\" where m = $2) union " ++
            "(select * from \"x_v\")) union (select * from \"x_w\" limit 4) " ++
            "order by n + $3, RANDOM() limit 10 offset 7", [.int 1, .int 2, .int 5]⟩ := by
  intro setting b nested later own
  have built : Step.applyAll { setting } [.table "t", .conditionRaw .and ⟨"n > ?", [.int 1]⟩,
      .orderBy "id" .asc, .limit 3] = .ok b := rfl
  have reached : Builder.Reached (fun _ => True) (fun _ => False) b :=
    Step.reached_applyAll _ (.empty setting) built
  have speak : ∀ step ∈ later, step.speaksOfUnion = true := by simp [later, Step.speaksOfUnion]
  obtain ⟨next, made⟩ : ∃ next, Step.applyAll b (.union true nested :: later) = .ok next := ⟨_, rfl⟩
  obtain ⟨tail, said, unites⟩ :=
    (Step.applyAll_union_iff reached rfl true nested speak).mp made
  cases said
  cases made
  exact ⟨reached, rfl, speak, by decide +kernel, _, _, rfl, unites, rfl, rfl, rfl, rfl,
    by decide +kernel⟩

end SqlComposer
