import SqlComposer.Builder.Step
import SqlComposer.Proofs.Statement.Values

/-!
The values a builder holds are those its statement binds, value for value and in order, however
the statement has come about and whatever dialect it is compiled for. The invariant speaks of
one class of clauses at a time (`Builder.HoldsAt`); every change to a builder keeps it, so every
step does, and every chain of steps.

One builder starts without the values of its source: the one handed to the closure of a group,
which stands on the source of the builder it makes conditions for. It comes to own a source as
soon as it is given one.
-/

namespace SqlComposer

/-! ## Copies of a builder on a source that is not its own -/

def Step.bringsSource : Step → Bool
  | .fresh | .table _ | .source _ | .sourceRaw _ | .sourceSub _ _ => true
  | _ => false

mutual

/-- Whether sub-selects are copied only from builders that own their source by then. -/
def Step.copiesOwned (owned : Bool) : Step → Bool
  | .nested _ steps => Step.allCopiesOwned false steps
  | .joinWith _ _ steps => Step.allCopiesOwned true steps
  | .sourceSub sub _ | .selectSub sub _ | .orderBySub sub _ | .union _ sub
  | .joinSub _ sub _ _ _ _ | .inSub _ sub _ | .holdsRow _ sub _ | .compareSub _ _ sub =>
    sub.copiesOwned owned
  | _ => true

def Step.allCopiesOwned (owned : Bool) : List Step → Bool
  | [] => true
  | step :: steps =>
    step.copiesOwned owned && Step.allCopiesOwned (step.bringsSource || owned) steps

def SubSelect.copiesOwned (owned : Bool) : SubSelect → Bool
  | .inPlace steps => Step.allCopiesOwned true steps
  | .made _ steps => Step.allCopiesOwned true steps
  | .copied steps =>
    Step.allCopiesOwned owned steps && (steps.any Step.bringsSource || owned)

end

/-! ## The invariant -/

namespace Builder

variable {b next : Builder} {owned : Bool}

/-- The values held for a class are those of its clauses, compiled for any dialect. -/
def HoldsAt (b : Builder) (k : BindingClass) : Prop :=
  ∀ s : Setting, b.bindings.get k = (s.compiled b.clauses).values k

structure Balanced (owned : Bool) (b : Builder) : Prop where
  plain : b.clauses.aggregate = none
  ordered : b.clauses.unions = [] → b.clauses.unionOrders = []
  holds : ∀ k, k ≠ .source ∨ owned = true → b.HoldsAt k

theorem Balanced.weaken (balanced : b.Balanced true) : b.Balanced owned :=
  ⟨balanced.plain, balanced.ordered, fun k _ => balanced.holds k (.inr rfl)⟩

/-- The values held for all classes together are those of the compiled statement. -/
theorem Balanced.held_eq (balanced : b.Balanced true) (s : Setting) :
    b.held = (s.query b.query).bindings := by
  have plain : (s.compiled b.clauses).aggregate = none := balanced.plain
  have ordered : (s.compiled b.clauses).unions = [] → (s.compiled b.clauses).unionOrders = [] := by
    intro none
    have := balanced.ordered (by simpa [Setting.compiled, Clauses.map] using none)
    simp [Setting.compiled, Clauses.map, this]
  have classes : b.bindings.get = (s.compiled b.clauses).values :=
    funext fun k => balanced.holds k (.inr rfl) s
  calc
    b.held = BindingClass.all.flatMap b.bindings.get := by
      rw [Builder.held, Bindings.toList_eq_flatMap]
    _ = BindingClass.all.flatMap (s.compiled b.clauses).values := by rw [classes]
    _ = (s.select (s.compiled b.clauses)).bindings := (s.bindings_select plain ordered).symm
    _ = (s.query b.query).bindings := by rw [Builder.query, Setting.query_mk]

theorem Balanced.grown (balanced : b.Balanced owned) {k : BindingClass} {values : List Value}
    {clauses : Clauses Query} (plain : clauses.aggregate = none)
    (ordered : clauses.unions = [] → clauses.unionOrders = [])
    (added : ∀ s : Setting,
      (s.compiled clauses).values k = (s.compiled b.clauses).values k ++ values)
    (kept : ∀ (s : Setting) j, j ≠ k →
      (s.compiled clauses).values j = (s.compiled b.clauses).values j) :
    Balanced owned { b.bound k values with clauses := clauses } := by
  refine ⟨plain, ordered, ?_⟩
  intro j known s
  have before := balanced.holds j known s
  by_cases same : j = k
  · subst same
    rw [added s, ← before]
    exact Bindings.get_extend b.bindings j values
  · rw [kept s j same, ← before]
    exact Bindings.get_put_of_ne b.bindings _ same

theorem Balanced.unmoved (balanced : b.Balanced owned) {clauses : Clauses Query}
    (plain : clauses.aggregate = none)
    (ordered : clauses.unions = [] → clauses.unionOrders = [])
    (kept : ∀ (s : Setting) j, (s.compiled clauses).values j = (s.compiled b.clauses).values j) :
    Balanced owned { b with clauses := clauses } := by
  refine ⟨plain, ordered, ?_⟩
  intro j known s
  rw [kept s j]
  exact balanced.holds j known s

/-! ## Starting anew -/

theorem balanced_empty (setting : Setting) (inJoin : Bool) :
    Balanced true { setting, inJoin } := by
  refine ⟨rfl, fun _ => rfl, ?_⟩
  intro k _ s
  cases k <;> rfl

theorem balanced_table (b : Builder) (name : String) : (b.table name).Balanced true := by
  refine ⟨rfl, fun _ => rfl, ?_⟩
  intro k _ s
  cases k <;> rfl

/-- The builder handed to the closure of a group holds nothing for the source it stands on. -/
theorem balanced_nestedConditions (b : Builder) : b.nestedConditions.Balanced false := by
  refine ⟨rfl, fun _ => rfl, ?_⟩
  intro k known s
  cases k with
  | source => simp at known
  | _ => rfl

theorem Balanced.withSource (balanced : b.Balanced owned) {source : Source Query}
    {values : List Value} (carried : ∀ s : Setting, (source.map s.query).values = values) :
    (b.withSource source values).Balanced true := by
  refine ⟨balanced.plain, balanced.ordered, ?_⟩
  intro k _ s
  by_cases same : k = .source
  · subst same
    simp [Builder.withSource, bound, unbound, Bindings.get_extend, Bindings.get_clear,
      Setting.compiled, Clauses.map, Clauses.values, carried s]
  · have before := balanced.holds k (.inl same) s
    cases k <;> first | exact before | exact absurd rfl same

/-! ## Clauses that are replaced or dropped -/

theorem Balanced.select (balanced : b.Balanced owned) (columns : List String) :
    (b.select columns).Balanced owned := by
  refine ⟨balanced.plain, balanced.ordered, ?_⟩
  intro k known s
  cases k with
  | select =>
    simp [Builder.select, unbound, Bindings.get_clear, Setting.compiled, Clauses.map,
      Clauses.values, Selection.map, Selection.values, Function.comp_def, List.flatMap_map]
  | _ => exact balanced.holds _ known s

theorem Balanced.reorder (balanced : b.Balanced owned) : b.reorder.Balanced owned := by
  refine ⟨balanced.plain, fun _ => rfl, ?_⟩
  intro k known s
  cases k with
  | order | unionOrder => rfl
  | _ => exact balanced.holds _ known s

/-! ## Clauses that are added -/

theorem Balanced.addSelections (balanced : b.Balanced owned) {list : List (Selection Query)}
    {values : List Value}
    (carried : ∀ s : Setting, (list.map (·.map s.query)).flatMap Selection.values = values) :
    (b.addSelections list values).Balanced owned := by
  refine balanced.grown (k := .select) ?_ ?_ (fun s => ?_) fun s j other => ?_
  · exact balanced.plain
  · exact balanced.ordered
  · simp [Setting.compiled, Clauses.map, Clauses.values, ← carried s]
  · cases j <;> first | rfl | exact absurd rfl other

theorem Balanced.addGroups (balanced : b.Balanced owned) {list : List Group}
    {values : List Value} (carried : list.flatMap Group.values = values) :
    (b.addGroups list values).Balanced owned := by
  refine balanced.grown (k := .groupBy) ?_ ?_ (fun s => ?_) fun s j other => ?_
  · exact balanced.plain
  · exact balanced.ordered
  · simp [Setting.compiled, Clauses.map, Clauses.values, carried]
  · cases j <;> first | rfl | exact absurd rfl other

theorem Balanced.addOrder (balanced : b.Balanced owned) {order : Order Query}
    {values : List Value} (carried : ∀ s : Setting, (order.map s.query).values = values) :
    (b.addOrder order values).Balanced owned := by
  unfold Builder.addOrder
  split
  · refine balanced.grown (k := .order) ?_ ?_ (fun s => ?_) fun s j other => ?_
    · exact balanced.plain
    · exact balanced.ordered
    · simp [Setting.compiled, Clauses.map, Clauses.values, carried s]
    · cases j <;> first | rfl | exact absurd rfl other
  · next united =>
    -- The orders of a union come to stand in one.
    have ordered (none : b.clauses.unions = []) : b.clauses.unionOrders ++ [order] = [] := by
      simp [none] at united
    refine balanced.grown (k := .unionOrder) ?_ ordered (fun s => ?_) fun s j other => ?_
    · exact balanced.plain
    · simp [Setting.compiled, Clauses.map, Clauses.values, carried s]
    · cases j <;> first | rfl | exact absurd rfl other

theorem Balanced.union (balanced : b.Balanced owned) (all : Bool) {sub : Builder}
    (inner : sub.Balanced true) : (b.union all sub).Balanced owned := by
  refine balanced.grown (k := .union) ?_ ?_ (fun s => ?_) fun s j other => ?_
  · exact balanced.plain
  · simp
  · simp [Setting.compiled, Clauses.map, Clauses.values, Branch.map, inner.held_eq s]
  · cases j <;> first | rfl | exact absurd rfl other

theorem Balanced.addCondition (balanced : b.Balanced owned) (connector : Connector)
    {condition : Condition Query} {values : List Value}
    (carried : ∀ s : Setting,
      (condition.map s.query).leaves.flatMap Condition.leafValues = values) :
    (b.addCondition connector condition values).Balanced owned := by
  refine balanced.grown (k := .conditions) ?_ ?_ (fun s => ?_) fun s j other => ?_
  · exact balanced.plain
  · exact balanced.ordered
  · simp [Setting.compiled, Clauses.map, Clauses.values, Conditions.values,
      Condition.mapList_append, Condition.allLeaves_append, Condition.mapList,
      Condition.allLeaves, ← carried s]
  · cases j <;> first | rfl | exact absurd rfl other

/-- The conditions gathered by another builder, in a group or under a join. -/
theorem Balanced.conditions_eq (inner : b.Balanced owned) (s : Setting) :
    Conditions.values (Condition.mapList s.query b.clauses.conditions) =
      b.bindings.conditions :=
  (inner.holds .conditions (.inl (by simp)) s).symm

theorem Balanced.addJoin (balanced : b.Balanced owned) (kind : JoinKind)
    {target : JoinTarget Query} {values : List Value} {on : Builder} {onOwned : Bool}
    (carried : ∀ s : Setting, (target.map s.query).values = values)
    (gathered : on.Balanced onOwned) : (b.addJoin kind target values on).Balanced owned := by
  refine balanced.grown (k := .join) ?_ ?_ (fun s => ?_) fun s j other => ?_
  · exact balanced.plain
  · exact balanced.ordered
  · simp [Setting.compiled, Clauses.map, Clauses.values, Join.map, Join.values, carried s,
      gathered.conditions_eq s]
  · cases j <;> first | rfl | exact absurd rfl other

theorem Balanced.addHaving (balanced : b.Balanced owned) (connector : Connector)
    {having : Having} {values : List Value} (carried : having.values = values) :
    (b.addHaving connector having values).Balanced owned := by
  refine balanced.grown (k := .having) ?_ ?_ (fun s => ?_) fun s j other => ?_
  · exact balanced.plain
  · exact balanced.ordered
  · simp [Setting.compiled, Clauses.map, Clauses.values, carried]
  · cases j <;> first | rfl | exact absurd rfl other

/-! ## Clauses that bind nothing -/

theorem Balanced.distinct (balanced : b.Balanced owned) (mode : Distinct) :
    (b.distinct mode).Balanced owned :=
  balanced.unmoved balanced.plain balanced.ordered fun _ j => by cases j <;> rfl

theorem Balanced.lock (balanced : b.Balanced owned) (lock : Lock) :
    (b.lock lock).Balanced owned :=
  balanced.unmoved balanced.plain balanced.ordered fun _ j => by cases j <;> rfl

theorem Balanced.limit (balanced : b.Balanced owned) (n : UInt64) :
    (b.limit n).Balanced owned := by
  apply balanced.unmoved <;> split
  · exact balanced.plain
  · exact balanced.plain
  · exact balanced.ordered
  · exact balanced.ordered
  · intro s j
    cases j <;> rfl
  · intro s j
    cases j <;> rfl

theorem Balanced.offset (balanced : b.Balanced owned) (n : UInt64) :
    (b.offset n).Balanced owned := by
  apply balanced.unmoved <;> split
  · exact balanced.plain
  · exact balanced.plain
  · exact balanced.ordered
  · exact balanced.ordered
  · intro s j
    cases j <;> rfl
  · intro s j
    cases j <;> rfl

/-! ## Comparisons and groups of conditions -/

theorem Balanced.isNull (balanced : b.Balanced owned) (connector : Connector) (column : String)
    (negated : Bool) : (b.isNull connector column negated).Balanced owned :=
  balanced.addCondition connector fun _ => rfl

theorem Balanced.compare (balanced : b.Balanced owned) {connector : Connector} {column : String}
    {arguments : List Operand} (made : b.compare connector column arguments = .ok next) :
    next.Balanced owned := by
  rcases Misuse.ok_of_bind made with ⟨c, _, rest⟩
  split at rest
  · cases rest
    exact balanced.isNull c.connector column false
  · split at rest
    · cases rest
      exact balanced.isNull c.connector column true
    · cases rest
      exact balanced.addCondition c.connector fun _ => List.append_nil _

theorem Balanced.on (balanced : b.Balanced owned) {connector : Connector}
    {first operator second : String} (made : b.on connector first operator second = .ok next) :
    next.Balanced owned := by
  unfold Builder.on at made
  split at made
  · cases made
  · rcases Misuse.ok_of_bind made with ⟨_, _, rest⟩
    cases rest
    exact balanced.addCondition connector fun _ => rfl

theorem Balanced.compareColumns (balanced : b.Balanced owned) {connector : Connector}
    {first : String} {arguments : List Operand}
    (made : b.compareColumns connector first arguments = .ok next) : next.Balanced owned := by
  rcases Misuse.ok_of_bind made with ⟨c, _, rest⟩
  split at rest
  · cases rest
    exact balanced.addCondition c.connector fun _ => rfl
  · cases rest

theorem Balanced.compareSub (balanced : b.Balanced owned) {column operator : String}
    {sub : Builder} (inner : sub.Balanced true)
    (made : b.compareSub column operator sub = .ok next) : next.Balanced owned := by
  rcases Misuse.ok_of_bind made with ⟨known, _, rest⟩
  cases rest
  apply balanced.addCondition
  intro s
  simp [Condition.map, Condition.leaves, Condition.leafValues, inner.held_eq s]

theorem Balanced.compareDate (balanced : b.Balanced owned) {connector : Connector}
    {part : DatePart} {column : String} {arguments : List Operand}
    (made : b.compareDate connector part column arguments = .ok next) : next.Balanced owned := by
  rcases Misuse.ok_of_bind made with ⟨c, _, rest⟩
  cases rest
  exact balanced.addCondition c.connector fun _ => List.append_nil _

theorem Balanced.having (balanced : b.Balanced owned) {connector : Connector} {column : String}
    {arguments : List Operand} (made : b.having connector column arguments = .ok next) :
    next.Balanced owned := by
  rcases Misuse.ok_of_bind made with ⟨c, _, rest⟩
  cases rest
  exact balanced.addHaving c.connector rfl

theorem Balanced.nested (balanced : b.Balanced owned) (connector : Connector) {child : Builder}
    {childOwned : Bool} (inner : child.Balanced childOwned) :
    (b.nested connector child).Balanced owned := by
  unfold Builder.nested
  split
  · exact balanced
  · apply balanced.addCondition
    intro s
    exact inner.conditions_eq s

/-! ## Sub-selects -/

section SubSelects

variable {sub : Builder} (balanced : b.Balanced owned) (inner : sub.Balanced true)
include balanced inner

theorem Balanced.sourceSub (label : String) : (b.sourceSub sub label).Balanced true :=
  balanced.withSource fun s => (inner.held_eq s).symm

theorem Balanced.selectSub (label : String) : (b.selectSub sub label).Balanced owned :=
  balanced.addSelections fun s => by simp [Selection.map, Selection.values, inner.held_eq s]

theorem Balanced.orderBySub (direction : Direction) :
    (b.orderBySub sub direction).Balanced owned :=
  balanced.addOrder fun s => (inner.held_eq s).symm

theorem Balanced.joinSub (kind : JoinKind) (label : String) {on : Builder} {onOwned : Bool}
    (gathered : on.Balanced onOwned) : (b.joinSub kind sub label on).Balanced owned :=
  balanced.addJoin kind (fun s => (inner.held_eq s).symm) gathered

theorem Balanced.inSub (column : String) (negated : Bool) :
    (b.inSub column sub negated).Balanced owned :=
  balanced.addCondition .and fun s => by
    simp [Condition.map, Condition.leaves, Condition.leafValues, inner.held_eq s]

theorem Balanced.holdsRow (connector : Connector) (negated : Bool) :
    (b.holdsRow connector sub negated).Balanced owned :=
  balanced.addCondition connector fun s => by
    simp [Condition.map, Condition.leaves, Condition.leafValues, inner.held_eq s]

end SubSelects

end Builder

/-! ## Steps and chains of steps -/

open Builder

/-- Wherever the operator is checked, the sub-select is built before it is compared with. -/
theorem Step.built_of_compareSub {b next : Builder} {column operator : String} {sub : SubSelect}
    (made : Step.apply b (.compareSub column operator sub) = .ok next) :
    ∃ inner, sub.build b = .ok inner ∧ b.compareSub column operator inner = .ok next := by
  rw [Step.apply] at made
  split at made
  · rcases Misuse.ok_of_bind made with ⟨_, _, rest⟩
    exact Misuse.ok_of_bind rest
  · exact Misuse.ok_of_bind made

mutual

/-- A step keeps the invariant, and a builder owns the source that a step brings. -/
theorem Step.apply_balanced :
    ∀ (step : Step) {owned : Bool} {b next : Builder}, step.copiesOwned owned = true →
      b.Balanced owned → step.apply b = .ok next → next.Balanced (step.bringsSource || owned)
  | .fresh, _, b, _, _, _, made => by
    cases made
    exact balanced_empty b.setting false
  | .table name, _, b, _, _, _, made => by
    cases made
    exact balanced_table b name
  | .source _, _, _, _, _, balanced, made => by
    cases made
    exact balanced.withSource fun _ => rfl
  | .sourceRaw _, _, _, _, _, balanced, made => by
    cases made
    exact balanced.withSource fun _ => rfl
  | .sourceSub sub _, _, _, _, copies, balanced, made => by
    rcases Misuse.ok_of_bind made with ⟨_, built, rest⟩
    cases rest
    exact balanced.sourceSub (SubSelect.build_balanced sub copies balanced built) _
  | .select columns, _, _, _, _, balanced, made => by
    cases made
    exact balanced.select columns
  | .addSelect columns, _, _, _, _, balanced, made => by
    cases made
    exact balanced.addSelections fun s => by
      simp [Selection.map, Selection.values, Function.comp_def, List.flatMap_map]
  | .selectRaw _, _, _, _, _, balanced, made => by
    cases made
    exact balanced.addSelections fun _ => List.append_nil _
  | .selectSub sub _, _, _, _, copies, balanced, made => by
    rcases Misuse.ok_of_bind made with ⟨_, built, rest⟩
    cases rest
    exact balanced.selectSub (SubSelect.build_balanced sub copies balanced built) _
  | .distinct mode, _, _, _, _, balanced, made => by
    cases made
    exact balanced.distinct mode
  | .groupBy columns, _, _, _, _, balanced, made => by
    cases made
    exact balanced.addGroups (by simp [Group.values, List.flatMap_map])
  | .groupByRaw _, _, _, _, _, balanced, made => by
    cases made
    exact balanced.addGroups (List.append_nil _)
  | .orderBy _ _, _, _, _, _, balanced, made => by
    cases made
    exact balanced.addOrder fun _ => rfl
  | .orderByRaw _, _, _, _, _, balanced, made => by
    cases made
    exact balanced.addOrder fun _ => rfl
  | .orderBySub sub _, _, _, _, copies, balanced, made => by
    rcases Misuse.ok_of_bind made with ⟨_, built, rest⟩
    cases rest
    exact balanced.orderBySub (SubSelect.build_balanced sub copies balanced built) _
  | .randomOrder, _, _, _, _, balanced, made => by
    cases made
    exact balanced.addOrder fun _ => rfl
  | .reorder, _, _, _, _, balanced, made => by
    cases made
    exact balanced.reorder
  | .limit n, _, _, _, _, balanced, made => by
    cases made
    exact balanced.limit n
  | .offset n, _, _, _, _, balanced, made => by
    cases made
    exact balanced.offset n
  | .page _ perPage, _, _, _, _, balanced, made => by
    cases made
    exact (balanced.offset _).limit perPage
  | .lock lock, _, _, _, _, balanced, made => by
    cases made
    exact balanced.lock lock
  | .union all sub, _, _, _, copies, balanced, made => by
    rcases Misuse.ok_of_bind made with ⟨_, built, rest⟩
    cases rest
    exact balanced.union all (SubSelect.build_balanced sub copies balanced built)
  | .join kind _ _ _ _, _, b, _, _, balanced, made => by
    rcases Misuse.ok_of_bind made with ⟨_, gathered, rest⟩
    cases rest
    exact balanced.addJoin kind (fun _ => rfl) ((balanced_empty b.setting true).on gathered)
  | .crossJoin _, _, b, _, _, balanced, made => by
    cases made
    exact balanced.addJoin .cross (fun _ => rfl) (balanced_empty b.setting false)
  | .joinWith kind _ steps, _, b, _, copies, balanced, made => by
    rcases Misuse.ok_of_bind made with ⟨_, gathered, rest⟩
    cases rest
    have conditions := Step.applyAll_balanced steps copies (balanced_empty b.setting true) gathered
    exact balanced.addJoin kind (fun _ => rfl) conditions
  | .joinSub kind sub _ _ _ _, _, b, _, copies, balanced, made => by
    rcases Misuse.ok_of_bind made with ⟨_, built, rest⟩
    rcases Misuse.ok_of_bind rest with ⟨_, gathered, rest⟩
    cases rest
    have inner := SubSelect.build_balanced sub copies balanced built
    exact balanced.joinSub inner kind _ ((balanced_empty b.setting true).on gathered)
  | .on _ _ _ _, _, _, _, _, balanced, made => balanced.on made
  | .compare _ _ _, _, _, _, _, balanced, made => balanced.compare made
  | .nested connector steps, _, b, _, copies, balanced, made => by
    rcases Misuse.ok_of_bind made with ⟨_, gathered, rest⟩
    cases rest
    have child := Step.applyAll_balanced steps copies (balanced_nestedConditions b) gathered
    exact balanced.nested connector child
  | .conditionRaw connector _, _, _, _, _, balanced, made => by
    cases made
    exact balanced.addCondition connector fun _ => List.append_nil _
  | .between connector _ _ _ _, _, _, _, _, balanced, made => by
    cases made
    exact balanced.addCondition connector fun _ => List.append_nil _
  | .inList connector _ _ _, _, _, _, _, balanced, made => by
    cases made
    exact balanced.addCondition connector fun _ => List.append_nil _
  | .inSub _ sub _, _, _, _, copies, balanced, made => by
    rcases Misuse.ok_of_bind made with ⟨_, built, rest⟩
    cases rest
    exact balanced.inSub (SubSelect.build_balanced sub copies balanced built) _ _
  | .isNull connector column negated, _, _, _, _, balanced, made => by
    cases made
    exact balanced.isNull connector column negated
  | .compareColumns _ _ _, _, _, _, _, balanced, made => balanced.compareColumns made
  | .holdsRow connector sub _, _, _, _, copies, balanced, made => by
    rcases Misuse.ok_of_bind made with ⟨_, built, rest⟩
    cases rest
    exact balanced.holdsRow (SubSelect.build_balanced sub copies balanced built) connector _
  | .compareSub _ _ sub, _, _, _, copies, balanced, made => by
    rcases Step.built_of_compareSub made with ⟨_, built, rest⟩
    exact balanced.compareSub (SubSelect.build_balanced sub copies balanced built) rest
  | .compareDate _ _ _ _, _, _, _, _, balanced, made => balanced.compareDate made
  | .having _ _ _, _, _, _, _, balanced, made => balanced.having made
  | .havingRaw connector _, _, _, _, _, balanced, made => by
    cases made
    exact balanced.addHaving connector rfl
  | .havingBetween _ _ _, _, _, _, _, balanced, made => by
    cases made
    exact balanced.addHaving .and rfl
  | .havingNull _ _, _, _, _, _, balanced, made => by
    cases made
    exact balanced.addHaving .and rfl

theorem Step.applyAll_balanced :
    ∀ (steps : List Step) {owned : Bool} {b next : Builder},
      Step.allCopiesOwned owned steps = true → b.Balanced owned →
      Step.applyAll b steps = .ok next → next.Balanced (steps.any Step.bringsSource || owned)
  | [], _, _, _, _, balanced, made => by
    cases made
    exact balanced
  | step :: steps, owned, _, _, copies, balanced, made => by
    rcases Misuse.ok_of_bind made with ⟨middle, first, rest⟩
    simp only [Step.allCopiesOwned, Bool.and_eq_true] at copies
    have middleBalanced := Step.apply_balanced step copies.1 balanced first
    have nextBalanced := Step.applyAll_balanced steps copies.2 middleBalanced rest
    rwa [List.any_cons, Bool.or_comm step.bringsSource, Bool.or_assoc]

/-- A sub-select holds the values of its own statement, its source included. -/
theorem SubSelect.build_balanced :
    ∀ (sub : SubSelect) {owned : Bool} {b next : Builder}, sub.copiesOwned owned = true →
      b.Balanced owned → sub.build b = .ok next → next.Balanced true
  | .inPlace steps, _, b, _, copies, _, made => by
    simpa using Step.applyAll_balanced steps copies (balanced_empty b.setting false) made
  | .made setting steps, _, _, _, copies, _, made => by
    simpa using Step.applyAll_balanced steps copies (balanced_empty setting false) made
  | .copied steps, owned, _, _, copies, balanced, made => by
    simp only [SubSelect.copiesOwned, Bool.and_eq_true] at copies
    have nextBalanced := Step.applyAll_balanced steps copies.1 balanced made
    rwa [copies.2] at nextBalanced

end

/-! ## What is held and what is bound -/

/-- The classes whose clauses a step replaces or drops. -/
def Step.replaces : Step → List BindingClass
  | .fresh | .table _ => BindingClass.all
  | .source _ | .sourceRaw _ | .sourceSub _ _ => [.source]
  | .select _ => [.select]
  | .reorder => [.order, .unionOrder]
  | _ => []

/-- A step that replaces clauses leaves the values of all other clauses as they were. -/
theorem Step.get_bindings_of_not_mem_replaces {step : Step} {b next : Builder} {k : BindingClass}
    (replacing : step.replaces ≠ []) (made : step.apply b = .ok next) (other : k ∉ step.replaces) :
    next.bindings.get k = b.bindings.get k := by
  cases step with
  | fresh | table => exact absurd (BindingClass.mem_all k) other
  | source name =>
    cases made
    cases k <;> first | rfl | simp [Step.replaces] at other
  | sourceRaw raw =>
    cases made
    cases k <;> first | rfl | simp [Step.replaces] at other
  | sourceSub sub label =>
    rcases Misuse.ok_of_bind made with ⟨_, _, rest⟩
    cases rest
    cases k <;> first | rfl | simp [Step.replaces] at other
  | select columns =>
    cases made
    cases k <;> first | rfl | simp [Step.replaces] at other
  | reorder =>
    cases made
    cases k <;> first | rfl | simp [Step.replaces] at other
  | _ => exact absurd rfl replacing

/-- Whatever chain of steps a builder comes from, it holds the values that its statement binds,
in that order, and for each class those of the clauses of that class, in every dialect. A step
that replaces clauses then drops the values of these and of no others. -/
theorem Step.held_eq_bindings {setting : Setting} {steps : List Step} {b : Builder}
    (owned : Step.allCopiesOwned true steps = true)
    (built : Step.applyAll { setting } steps = .ok b) :
    b.held = b.statement.bindings ∧
      (∀ s : Setting, b.held = (s.query b.query).bindings ∧
        ∀ k, b.bindings.get k = (s.compiled b.clauses).values k) ∧
      ∀ (step : Step) (next : Builder), step.copiesOwned true = true → step.replaces ≠ [] →
        step.apply b = .ok next → ∀ (s : Setting) (k : BindingClass),
          next.bindings.get k =
            if k ∈ step.replaces then (s.compiled next.clauses).values k
            else b.bindings.get k := by
  have start := balanced_empty setting false
  have balanced : b.Balanced true := by
    simpa using Step.applyAll_balanced steps owned start built
  refine ⟨balanced.held_eq b.setting, fun s => ⟨balanced.held_eq s, fun k => ?_⟩, ?_⟩
  · exact balanced.holds k (.inr rfl) s
  · intro step next copies replacing made s k
    have nextBalanced := Step.apply_balanced step copies balanced made
    split
    · exact nextBalanced.holds k (.inr (Bool.or_true _)) s
    · next other => exact Step.get_bindings_of_not_mem_replaces replacing made other

/-- An extended copy of the builder that a group is built with binds the values of the source it
stands on and does not hold them. -/
example :
    (Step.applyAll { setting := ⟨.mysql, ""⟩ }
      [.sourceRaw ⟨"t where n > ?", [.int 1]⟩,
        .nested .and
          [.holdsRow .and (.copied [.inList .and "a" [.value (.int 2)] false]) false]]).map
        (fun b => (b.held, b.statement.bindings)) =
      .ok ([.int 1, .int 2], [.int 1, .int 1, .int 2]) := rfl

theorem Step.held_eq_bindings_of_grouped_union :
    let steps : List Step :=
      [.sourceRaw ⟨"t where n > ?", [.int 1]⟩,
        .nested .or
          [.compare .and "a" [.value (.int 2)],
            .holdsRow .and (.inPlace [.table "u", .inList .and "b" [.value (.int 3)] true]) false],
        .union true (.copied [.reorder]), .orderByRaw ⟨"c = ?", [.int 4]⟩]
    Step.allCopiesOwned true steps = true ∧
      ∃ b, Step.applyAll { setting := ⟨.postgres, "x_"⟩ } steps = .ok b ∧
        b.statement.bindings = [.int 1, .int 2, .int 3, .int 1, .int 2, .int 3, .int 4] ∧
        b.reorder.bindings.get .unionOrder = [] := by
  intro steps
  have owned : Step.allCopiesOwned true steps = true := rfl
  have held : (Step.applyAll { setting := ⟨.postgres, "x_"⟩ } steps).map Builder.held =
      .ok [.int 1, .int 2, .int 3, .int 1, .int 2, .int 3, .int 4] := rfl
  obtain ⟨b, built⟩ : ∃ b, Step.applyAll { setting := ⟨.postgres, "x_"⟩ } steps = .ok b :=
    ⟨_, rfl⟩
  rw [built] at held
  have balance := Step.held_eq_bindings owned built
  refine ⟨owned, b, built, balance.1.symm.trans (Except.ok.inj held), ?_⟩
  exact balance.2.2 .reorder b.reorder rfl (by decide) rfl b.setting .unionOrder

end SqlComposer
