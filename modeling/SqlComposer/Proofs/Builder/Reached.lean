import Mathlib.Logic.Relation
import SqlComposer.Proofs.Builder.Held
import SqlComposer.Proofs.Statement.Portable

/-!
The builder handed to the closure of a group. It stands on the source of the builder that the group
is made for and holds no values, so it is consistent exactly where that source binds none, and only
then may it be copied into the group (`Builder.consistent_in_group_iff`).

A closure may use any builder it can get hold of. So these are statements about the builders that
can be reached at all, not about one chain of steps.
-/

namespace SqlComposer

/-- A step whose parts are built already: `sub` is its sub-select, and `child` has gathered its
conditions. -/
def Step.perform (b sub child : Builder) : Step → Except Misuse Builder
  | .sourceSub _ label => return b.sourceSub sub label
  | .selectSub _ label => return b.selectSub sub label
  | .orderBySub _ direction => return b.orderBySub sub direction
  | .union all _ => return b.union all sub
  | .joinWith kind name _ => return b.join kind name child
  | .joinSub kind _ label first operator second => do
    let on ← b.joinConditions.on .and first operator second
    return b.joinSub kind sub label on
  | .nested connector _ => return b.nested connector child
  | .inSub column _ negated => return b.inSub column sub negated
  | .holdsRow connector _ negated => return b.holdsRow connector sub negated
  | .compareSub column operator _ => b.compareSub column operator sub
  | step => step.apply b

namespace Builder

/-- The builders that come from some to start with and from empty ones. What is handed over as a
sub-select is of one kind. -/
inductive Reached (handed start : Builder → Prop) : Builder → Prop
  | start {b : Builder} (given : start b) : Reached handed start b
  | empty (setting : Setting) : Reached handed start { setting }
  | joinConditions {b : Builder} (outer : Reached handed start b) :
    Reached handed start b.joinConditions
  | nestedConditions {b : Builder} (outer : Reached handed start b) :
    Reached handed start b.nestedConditions
  | step {b sub child next : Builder} (step : Step) (outer : Reached handed start b)
    (inner : Reached handed start sub) (fit : handed sub)
    (gathered : Reached handed start child) (made : step.perform b sub child = .ok next) :
    Reached handed start next

def Consistent (b : Builder) : Prop := b.held = b.statement.bindings

def SourceFree (b : Builder) : Prop := b.compiled.values .source = []

instance (b : Builder) : Decidable b.Consistent :=
  inferInstanceAs (Decidable (b.held = b.statement.bindings))

instance (b : Builder) : Decidable b.SourceFree :=
  inferInstanceAs (Decidable (b.compiled.values .source = []))

def Continues (start : Builder → Prop) (b next : Builder) : Prop :=
  ∃ (step : Step) (sub child : Builder), Reached Consistent start sub ∧ sub.Consistent ∧
    Reached Consistent start child ∧ step.perform b sub child = .ok next

end Builder

open Builder

/-! ## Chains of steps reach builders -/

section Chains

variable {start : Builder → Prop}

mutual

theorem Step.reached_apply (step : Step) {b next : Builder}
    (before : Reached (fun _ => True) start b) (made : step.apply b = .ok next) :
    Reached (fun _ => True) start next := by
  by_cases alone : step.perform b b b = step.apply b
  · exact .step step before before trivial before (alone.trans made)
  cases step with
  | sourceSub sub label =>
    obtain ⟨_, built, rest⟩ := Misuse.ok_of_bind made
    have inner := sub.reached_build before built
    exact .step (.sourceSub sub label) before inner trivial before rest
  | selectSub sub label =>
    obtain ⟨_, built, rest⟩ := Misuse.ok_of_bind made
    have inner := sub.reached_build before built
    exact .step (.selectSub sub label) before inner trivial before rest
  | orderBySub sub direction =>
    obtain ⟨_, built, rest⟩ := Misuse.ok_of_bind made
    have inner := sub.reached_build before built
    exact .step (.orderBySub sub direction) before inner trivial before rest
  | union all sub =>
    obtain ⟨_, built, rest⟩ := Misuse.ok_of_bind made
    have inner := sub.reached_build before built
    exact .step (.union all sub) before inner trivial before rest
  | joinWith kind table steps =>
    obtain ⟨on, gathered, rest⟩ := Misuse.ok_of_bind made
    have child := Step.reached_applyAll steps before.joinConditions gathered
    exact .step (.joinWith kind table steps) before before trivial child rest
  | joinSub kind sub label first operator second =>
    obtain ⟨_, built, rest⟩ := Misuse.ok_of_bind made
    have inner := sub.reached_build before built
    exact .step (.joinSub kind sub label first operator second) before inner trivial before rest
  | nested connector steps =>
    obtain ⟨child, gathered, rest⟩ := Misuse.ok_of_bind made
    have child := Step.reached_applyAll steps before.nestedConditions gathered
    exact .step (.nested connector steps) before before trivial child rest
  | inSub column sub negated =>
    obtain ⟨_, built, rest⟩ := Misuse.ok_of_bind made
    have inner := sub.reached_build before built
    exact .step (.inSub column sub negated) before inner trivial before rest
  | holdsRow connector sub negated =>
    obtain ⟨_, built, rest⟩ := Misuse.ok_of_bind made
    have inner := sub.reached_build before built
    exact .step (.holdsRow connector sub negated) before inner trivial before rest
  | compareSub column operator sub =>
    obtain ⟨_, built, rest⟩ := Step.built_of_compareSub made
    have inner := sub.reached_build before built
    exact .step (.compareSub column operator sub) before inner trivial before rest
  | _ => exact absurd rfl alone

theorem Step.reached_applyAll (steps : List Step) {b next : Builder}
    (before : Reached (fun _ => True) start b) (made : Step.applyAll b steps = .ok next) :
    Reached (fun _ => True) start next := by
  cases steps with
  | nil =>
    cases made
    exact before
  | cons step steps =>
    obtain ⟨middle, first, rest⟩ := Misuse.ok_of_bind made
    exact Step.reached_applyAll steps (step.reached_apply before first) rest

theorem SubSelect.reached_build (sub : SubSelect) {b next : Builder}
    (before : Reached (fun _ => True) start b) (made : sub.build b = .ok next) :
    Reached (fun _ => True) start next := by
  cases sub with
  | inPlace steps => exact Step.reached_applyAll steps (.empty b.setting) made
  | made setting steps => exact Step.reached_applyAll steps (.empty setting) made
  | copied steps => exact Step.reached_applyAll steps before made

end

end Chains

/-! ## Values that are held in part -/

namespace Bindings

def Below (x y : Bindings) : Prop := ∀ k, (x.get k).length ≤ (y.get k).length

variable {x y : Bindings}

theorem Below.refl (x : Bindings) : x.Below x := fun _ => Nat.le_refl _

theorem Below.extend (below : x.Below y) (k : BindingClass) {values more : List Value}
    (counts : values.length ≤ more.length) : (x.extend k values).Below (y.extend k more) := by
  intro j
  have before := below j
  by_cases same : j = k
  · subst same
    rw [get_extend, get_extend, List.length_append, List.length_append]
    omega
  · rw [Bindings.extend, Bindings.extend, get_put_of_ne _ _ same, get_put_of_ne _ _ same]
    exact before

theorem Below.clear (below : x.Below y) (k : BindingClass) : (x.clear k).Below (y.clear k) := by
  intro j
  by_cases same : j = k
  · subst same
    simp only [get_clear, Nat.le_refl]
  · rw [Bindings.clear, Bindings.clear, get_put_of_ne _ _ same, get_put_of_ne _ _ same]
    exact below j

theorem Below.length_flatMap_le (below : x.Below y) (classes : List BindingClass) :
    (classes.flatMap x.get).length ≤ (classes.flatMap y.get).length := by
  induction classes with
  | nil => exact Nat.le_refl _
  | cons k rest ih =>
    have first := below k
    simp only [List.flatMap_cons, List.length_append]
    omega

theorem Below.length_toList_le (below : x.Below y) : x.toList.length ≤ y.toList.length := by
  rw [toList_eq_flatMap, toList_eq_flatMap]
  exact below.length_flatMap_le _

/-- The lists of all values tell apart what is held class by class, as long as no class holds
more. -/
theorem Below.get_eq_of_toList_eq (below : x.Below y) (same : x.toList = y.toList) :
    x.get = y.get := by
  have each : ∀ classes : List BindingClass, classes.flatMap x.get = classes.flatMap y.get →
      ∀ k ∈ classes, x.get k = y.get k := by
    intro classes whole
    induction classes with
    | nil => exact nofun
    | cons k rest ih =>
      rw [List.flatMap_cons, List.flatMap_cons] at whole
      have lengths := congrArg List.length whole
      rw [List.length_append, List.length_append] at lengths
      -- Neither part is longer and the whole is as long, so both are.
      have first := below k
      have later := below.length_flatMap_le rest
      obtain ⟨here, rests⟩ := List.append_inj whole (by omega)
      intro j member
      rcases List.mem_cons.mp member with rfl | inside
      · exact here
      · exact ih rests j inside
  rw [toList_eq_flatMap, toList_eq_flatMap] at same
  funext k
  exact each _ same k (BindingClass.mem_all k)

end Bindings

namespace Builder

def holding (b : Builder) (x : Bindings) : Builder := { b with bindings := x }

variable {b next : Builder} {connector : Connector} {column : String} {arguments : List Operand}

/-- A change adds values to one class, the same ones whatever is held before. -/
def AddsTo (b : Builder) (k : BindingClass) (f : Builder → Except Misuse Builder)
    (next : Builder) : Prop :=
  ∃ values, next.bindings = b.bindings.extend k values ∧
    ∀ x, f (b.holding x) = .ok (next.holding (x.extend k values))

theorem adds_compare (made : b.compare connector column arguments = .ok next) :
    b.AddsTo .conditions (·.compare connector column arguments) next := by
  obtain ⟨c, found, rest⟩ := Misuse.ok_of_bind made
  split at rest
  · next null =>
    cases rest
    refine ⟨_, rfl, fun x => ?_⟩
    simp only [Builder.compare, found]
    exact if_pos null
  · next other =>
    split at rest
    · next null =>
      cases rest
      refine ⟨_, rfl, fun x => ?_⟩
      simp only [Builder.compare, found]
      exact (if_neg other).trans (if_pos null)
    · next plain =>
      cases rest
      refine ⟨_, rfl, fun x => ?_⟩
      simp only [Builder.compare, found]
      exact (if_neg other).trans (if_neg plain)

theorem adds_on {first operator second : String}
    (made : b.on connector first operator second = .ok next) :
    b.AddsTo .conditions (·.on connector first operator second) next := by
  unfold Builder.on at made
  split at made
  · cases made
  · next joining =>
    obtain ⟨known, checked, rest⟩ := Misuse.ok_of_bind made
    cases rest
    refine ⟨_, rfl, fun x => ?_⟩
    simp only [Builder.on, checked]
    exact if_neg joining

theorem adds_compareColumns {first : String}
    (made : b.compareColumns connector first arguments = .ok next) :
    b.AddsTo .conditions (·.compareColumns connector first arguments) next := by
  obtain ⟨c, found, rest⟩ := Misuse.ok_of_bind made
  split at rest
  · next second text =>
    cases rest
    refine ⟨_, rfl, fun x => ?_⟩
    simp only [Builder.compareColumns, found, bind, Except.bind, text]
    rfl
  · cases rest

theorem adds_compareDate {part : DatePart}
    (made : b.compareDate connector part column arguments = .ok next) :
    b.AddsTo .conditions (·.compareDate connector part column arguments) next := by
  obtain ⟨c, found, rest⟩ := Misuse.ok_of_bind made
  cases rest
  refine ⟨_, rfl, fun x => ?_⟩
  simp only [Builder.compareDate, found]
  rfl

theorem adds_having (made : b.having connector column arguments = .ok next) :
    b.AddsTo .having (·.having connector column arguments) next := by
  obtain ⟨c, found, rest⟩ := Misuse.ok_of_bind made
  cases rest
  refine ⟨_, rfl, fun x => ?_⟩
  simp only [Builder.having, found]
  rfl

end Builder

theorem Bindings.Below.of_addsTo {b next : Builder} {x : Bindings} (below : b.bindings.Below x)
    {k : BindingClass} {f : Builder → Except Misuse Builder} (adds : b.AddsTo k f next) :
    ∃ w, next.bindings.Below w ∧ f (b.holding x) = .ok (next.holding w) := by
  obtain ⟨values, held, made⟩ := adds
  exact ⟨_, held ▸ below.extend k (Nat.le_refl _), made x⟩

theorem Bindings.Below.addOrder {b : Builder} {x : Bindings} (below : b.bindings.Below x)
    (order : Order Query) {values more : List Value} (counts : values.length ≤ more.length) :
    ∃ w, (b.addOrder order values).bindings.Below w ∧
      Except.ok ((b.holding x).addOrder order more) =
        (Except.ok ((b.addOrder order values).holding w) : Except Misuse Builder) := by
  by_cases alone : b.clauses.unions.isEmpty
  · refine ⟨x.extend .order more, ?_, ?_⟩ <;> simp only [Builder.addOrder, alone, if_true]
    · exact below.extend .order counts
    · simp [Builder.holding, alone, bound]
  · refine ⟨x.extend .unionOrder more, ?_, ?_⟩ <;> simp only [Builder.addOrder, alone]
    · exact below.extend .unionOrder counts
    · simp [Builder.holding, alone, bound]

theorem Bindings.Below.nested {b child : Builder} {x z : Bindings} (below : b.bindings.Below x)
    (connector : Connector) (counts : child.bindings.conditions.length ≤ z.conditions.length) :
    ∃ w, (b.nested connector child).bindings.Below w ∧
      Except.ok ((b.holding x).nested connector (child.holding z)) =
        (Except.ok ((b.nested connector child).holding w) : Except Misuse Builder) := by
  by_cases empty : child.clauses.conditions.isEmpty
  · refine ⟨x, ?_, ?_⟩ <;> simp only [Builder.nested, empty, if_true]
    · exact below
    · simp [Builder.holding, empty]
  · refine ⟨x.extend .conditions z.conditions, ?_, ?_⟩ <;> simp only [Builder.nested, empty]
    · exact below.extend .conditions counts
    · simp [Builder.holding, empty, addCondition, bound]

/-- A step does not look at the values that are held, and where less was held less is held after
it. -/
theorem Step.perform_holding (step : Step) {b sub child next : Builder} {x y z : Bindings}
    (outer : b.bindings.Below x) (inner : sub.bindings.Below y) (gathered : child.bindings.Below z)
    (made : step.perform b sub child = .ok next) :
    ∃ w, next.bindings.Below w ∧
      step.perform (b.holding x) (sub.holding y) (child.holding z) = .ok (next.holding w) := by
  have subHeld : sub.held.length ≤ y.toList.length := inner.length_toList_le
  cases step with
  | fresh | table name =>
    cases made
    exact ⟨_, .refl _, rfl⟩
  | source name | sourceRaw raw =>
    cases made
    exact ⟨_, (outer.clear .source).extend .source (Nat.le_refl _), rfl⟩
  | sourceSub _ label =>
    cases made
    exact ⟨_, (outer.clear .source).extend .source subHeld, rfl⟩
  | select columns =>
    cases made
    exact ⟨_, outer.clear .select, rfl⟩
  | addSelect columns | selectRaw raw =>
    cases made
    exact ⟨_, outer.extend .select (Nat.le_refl _), rfl⟩
  | selectSub _ label =>
    cases made
    exact ⟨_, outer.extend .select subHeld, rfl⟩
  | distinct mode | limit n | offset n | page page perPage | lock lock =>
    cases made
    exact ⟨_, outer, rfl⟩
  | groupBy columns | groupByRaw raw =>
    cases made
    exact ⟨_, outer.extend .groupBy (Nat.le_refl _), rfl⟩
  | orderBy column direction | orderByRaw raw | randomOrder =>
    cases made
    exact outer.addOrder _ (Nat.le_refl _)
  | orderBySub _ direction =>
    cases made
    exact outer.addOrder _ subHeld
  | reorder =>
    cases made
    exact ⟨_, (outer.clear .order).clear .unionOrder, rfl⟩
  | union all _ =>
    cases made
    exact ⟨_, outer.extend .union subHeld, rfl⟩
  | join kind table first operator second =>
    obtain ⟨on, gathered, rest⟩ := Misuse.ok_of_bind made
    cases rest
    refine ⟨_, outer.extend .join (Nat.le_refl _), ?_⟩
    change (b.joinConditions.on .and first operator second >>= _) = _
    rw [gathered]
    rfl
  | crossJoin table =>
    cases made
    exact ⟨_, outer.extend .join (Nat.le_refl _), rfl⟩
  | joinWith kind table _ =>
    cases made
    exact ⟨_, outer.extend .join (gathered .conditions), rfl⟩
  | joinSub kind _ label first operator second =>
    obtain ⟨on, gathered, rest⟩ := Misuse.ok_of_bind made
    cases rest
    have counts : (sub.held ++ on.bindings.conditions).length ≤
        (y.toList ++ on.bindings.conditions).length := by
      simpa using subHeld
    refine ⟨_, outer.extend .join counts, ?_⟩
    change (b.joinConditions.on .and first operator second >>= _) = _
    rw [gathered]
    rfl
  | on connector first operator second => exact outer.of_addsTo (adds_on made)
  | compare connector column arguments => exact outer.of_addsTo (adds_compare made)
  | nested connector _ =>
    cases made
    exact outer.nested connector (gathered .conditions)
  | conditionRaw connector raw | between connector column low high negated
  | inList connector column operands negated | isNull connector column negated =>
    cases made
    exact ⟨_, outer.extend .conditions (Nat.le_refl _), rfl⟩
  | compareColumns connector first arguments => exact outer.of_addsTo (adds_compareColumns made)
  | inSub column _ negated | holdsRow connector _ negated =>
    cases made
    exact ⟨_, outer.extend .conditions subHeld, rfl⟩
  | compareSub column operator _ =>
    obtain ⟨known, checked, rest⟩ := Misuse.ok_of_bind made
    cases rest
    refine ⟨_, outer.extend .conditions subHeld, ?_⟩
    change (checkedOperator operator >>= _) = _
    rw [checked]
    rfl
  | compareDate connector part column arguments => exact outer.of_addsTo (adds_compareDate made)
  | having connector column arguments => exact outer.of_addsTo (adds_having made)
  | havingRaw connector raw | havingBetween column low high | havingNull column negated =>
    cases made
    exact ⟨_, outer.extend .having (Nat.le_refl _), rfl⟩

/-! ## What every reached builder holds -/

theorem Step.perform_balanced (step : Step) {owned childOwned : Bool} {b sub child next : Builder}
    (outer : b.Balanced owned) (inner : sub.Balanced true) (gathered : child.Balanced childOwned)
    (made : step.perform b sub child = .ok next) :
    next.Balanced (step.bringsSource || owned) := by
  cases step with
  | sourceSub _ label =>
    cases made
    exact outer.sourceSub inner label
  | selectSub _ label =>
    cases made
    exact outer.selectSub inner label
  | orderBySub _ direction =>
    cases made
    exact outer.orderBySub inner direction
  | union all _ =>
    cases made
    exact outer.union all inner
  | joinWith kind table _ =>
    cases made
    exact outer.addJoin kind (fun _ => rfl) gathered
  | joinSub kind _ label first operator second =>
    obtain ⟨on, conditions, rest⟩ := Misuse.ok_of_bind made
    cases rest
    exact outer.joinSub inner kind label ((balanced_empty b.setting true).on conditions)
  | nested connector _ =>
    cases made
    exact outer.nested connector gathered
  | inSub column _ negated =>
    cases made
    exact outer.inSub inner column negated
  | holdsRow connector _ negated =>
    cases made
    exact outer.holdsRow inner connector negated
  | compareSub column operator _ => exact outer.compareSub inner made
  | _ => exact Step.apply_balanced _ rfl outer made

namespace Builder

variable {b : Builder}

/-- The values held are some of those with which the builder is balanced. -/
def Covered (b : Builder) : Prop := ∃ x, b.bindings.Below x ∧ (b.holding x).Balanced true

theorem Balanced.covered (balanced : b.Balanced true) : b.Covered :=
  ⟨b.bindings, .refl _, balanced⟩

theorem Covered.balanced (covered : b.Covered) (consistent : b.Consistent) : b.Balanced true := by
  obtain ⟨x, below, balanced⟩ := covered
  have whole : x.toList = b.statement.bindings := balanced.held_eq b.setting
  have same := below.get_eq_of_toList_eq (consistent.trans whole.symm)
  refine ⟨balanced.plain, balanced.ordered, fun k known s => ?_⟩
  rw [same]
  exact balanced.holds k known s

theorem Balanced.of_or {brings owned : Bool} (balanced : b.Balanced (brings || owned)) :
    b.Balanced owned :=
  ⟨balanced.plain, balanced.ordered, fun k known =>
    balanced.holds k (known.imp_right fun same => by rw [same, Bool.or_true])⟩

theorem Balanced.consistent (balanced : b.Balanced true) : b.Consistent :=
  balanced.held_eq b.setting

theorem values_compiled (s r : Setting) (c : Clauses Query) :
    (s.compiled c).values = (r.compiled c).values :=
  Clauses.values_map_congr fun q _ => Setting.bindings_query s r q

theorem balanced_nestedConditions_holding (b : Builder) :
    (b.nestedConditions.holding { source := b.compiled.values .source }).Balanced true := by
  refine ⟨rfl, fun _ => rfl, fun k _ s => ?_⟩
  cases k with
  | source => exact congrFun (values_compiled b.setting s b.clauses) .source
  | _ => rfl

theorem covered_nestedConditions (b : Builder) : b.nestedConditions.Covered := by
  refine ⟨_, fun k => ?_, balanced_nestedConditions_holding b⟩
  cases k <;> exact Nat.zero_le _

theorem SourceFree.balanced_nestedConditions (free : b.SourceFree) :
    b.nestedConditions.Balanced true := by
  have balanced := balanced_nestedConditions_holding b
  rw [free] at balanced
  exact balanced

/-- The builder for a group is consistent exactly if its source binds no values. -/
theorem consistent_nestedConditions_iff : b.nestedConditions.Consistent ↔ b.SourceFree := by
  constructor
  · intro consistent
    have balanced := (covered_nestedConditions b).balanced consistent
    exact (balanced.holds .source (.inr rfl) b.setting).symm
  · intro free
    exact free.balanced_nestedConditions.consistent

namespace Reached

variable {handed start : Builder → Prop}

theorem covered (given : ∀ b, start b → b.Covered) (reached : Reached handed start b) :
    b.Covered := by
  induction reached with
  | start first => exact given _ first
  | empty setting => exact (balanced_empty setting false).covered
  | joinConditions outer ih => exact (balanced_empty _ true).covered
  | nestedConditions outer ih => exact covered_nestedConditions _
  | step step outer inner fit gathered made outerIH innerIH childIH =>
    obtain ⟨x, outerBelow, outerBalanced⟩ := outerIH
    obtain ⟨y, innerBelow, innerBalanced⟩ := innerIH
    obtain ⟨z, childBelow, childBalanced⟩ := childIH
    -- The step does the same with the values that its parts are balanced with.
    obtain ⟨w, below, performed⟩ := step.perform_holding outerBelow innerBelow childBelow made
    have balanced := step.perform_balanced outerBalanced innerBalanced childBalanced performed
    rw [Bool.or_true] at balanced
    exact ⟨w, below, balanced⟩

theorem balanced (given : ∀ b, start b → b.Covered ∧ b.Balanced false)
    (reached : Reached Consistent start b) : b.Balanced false := by
  induction reached with
  | start first => exact (given _ first).2
  | empty setting => exact (balanced_empty setting false).weaken
  | joinConditions outer ih => exact (balanced_empty _ true).weaken
  | nestedConditions outer ih => exact balanced_nestedConditions _
  | step step outer inner consistent gathered made outerIH innerIH childIH =>
    have covered := inner.covered fun b first => (given b first).1
    exact (step.perform_balanced outerIH (covered.balanced consistent) childIH made).of_or

end Reached

/-- The outer builder has the values of the source twice in its statement, and holds them once. -/
theorem consistent_copied_group_iff (balanced : b.Balanced true) (connector inside : Connector)
    (negated : Bool) :
    (b.nested connector (b.nestedConditions.holdsRow inside b.nestedConditions negated)).Consistent
      ↔ b.SourceFree := by
  have source : ∀ s : Setting, (s.query b.nestedConditions.query).bindings =
      b.compiled.values .source := by
    intro s
    calc
      _ = (b.nestedConditions.holding { source := b.compiled.values .source }).held :=
        ((balanced_nestedConditions_holding b).held_eq s).symm
      _ = b.compiled.values .source := by simp [Builder.held, holding, Bindings.toList]
  let condition : Condition Query :=
    .nested [(inside, .holdsRow b.nestedConditions.query negated)]
  -- The copy brings nothing into the group; its values would have had to come along.
  have whole : (b.addCondition connector condition (b.compiled.values .source)).Balanced true :=
    balanced.addCondition connector fun s => by
      simp [condition, Condition.map, Condition.mapList, Condition.leaves, Condition.allLeaves,
        Condition.leafValues, source]
  change (b.addCondition connector condition []).held = _ ↔ _
  constructor
  · intro consistent
    have below : (b.bindings.extend .conditions []).Below
        (b.bindings.extend .conditions (b.compiled.values .source)) :=
      (Bindings.Below.refl _).extend .conditions (Nat.zero_le _)
    have same := congrFun
      (below.get_eq_of_toList_eq (consistent.trans (whole.held_eq b.setting).symm)) .conditions
    rw [Bindings.get_extend, Bindings.get_extend] at same
    exact (List.append_cancel_left same).symm
  · intro free
    rw [free] at whole
    exact whole.held_eq b.setting

/-- Further steps lose no values, whatever groups they make. -/
theorem balanced_of_continues {start : Builder → Prop}
    (given : ∀ b, start b → b.Covered ∧ b.Balanced false) {owned : Bool} {next : Builder}
    (balanced : b.Balanced owned) (further : Relation.ReflTransGen (Continues start) b next) :
    next.Balanced owned := by
  induction further with
  | refl => exact balanced
  | tail earlier last ih =>
    obtain ⟨step, sub, child, inner, consistent, gathered, made⟩ := last
    have covered := inner.covered fun b first => (given b first).1
    exact (step.perform_balanced ih (covered.balanced consistent) (gathered.balanced given)
      made).of_or

/-- For a builder that holds what it binds, the builder handed to the closure of a group does so,
and may be copied into the group, exactly if the source binds no values. Steps with consistent
sub-selects then keep it consistent, and whatever the source the builder with the group. -/
theorem consistent_in_group_iff (reached : Reached (fun _ => True) (fun _ => False) b)
    (consistent : b.Consistent) :
    (b.nestedConditions.Consistent ↔ b.SourceFree) ∧
      (∀ connector inside negated, (b.nested connector
        (b.nestedConditions.holdsRow inside b.nestedConditions negated)).Consistent ↔
          b.SourceFree) ∧
      ∀ child, Relation.ReflTransGen
        (Continues fun given => given = b ∨ given = b.nestedConditions) b.nestedConditions child →
          (b.SourceFree → child.Consistent) ∧
            ∀ connector, (b.nested connector child).Consistent := by
  have balanced := (reached.covered fun _ none => none.elim).balanced consistent
  refine ⟨consistent_nestedConditions_iff, consistent_copied_group_iff balanced, ?_⟩
  intro child further
  have given : ∀ x, x = b ∨ x = b.nestedConditions → x.Covered ∧ x.Balanced false := by
    rintro x (rfl | rfl)
    · exact ⟨balanced.covered, balanced.weaken⟩
    · exact ⟨covered_nestedConditions b, balanced_nestedConditions b⟩
  have gathered := balanced_of_continues given (balanced_nestedConditions b) further
  refine ⟨fun free => ?_, fun connector => (balanced.nested connector gathered).consistent⟩
  exact (balanced_of_continues given free.balanced_nestedConditions further).consistent

theorem consistent_in_group_of_extended_copy :
    let steps : List Step := [.table "users", .conditionRaw .and ⟨"age > ?", [.int 30]⟩]
    let b := (({ setting := ⟨.postgres, "app_"⟩ } : Builder).table "users").conditionRaw .and
      ⟨"age > ?", [.int 30]⟩
    let copied := b.nestedConditions.conditionRaw .and ⟨"city = ?", [.text "Graz"]⟩
    let child := copied.holdsRow .or copied false
    Step.applyAll { setting := ⟨.postgres, "app_"⟩ } steps = .ok b ∧ b.Consistent ∧
      b.SourceFree ∧ b.nestedConditions.Consistent ∧ child.Consistent ∧
      (b.nested .and child).Consistent ∧
      (b.nested .and child).statement =
        ⟨"select * from \"app_users\" where age > $1 and (city = $2 or " ++
          "exists (select * from \"app_users\" where city = $3))",
          [.int 30, .text "Graz", .text "Graz"]⟩ := by
  intro steps b copied child
  have built : Step.applyAll { setting := ⟨.postgres, "app_"⟩ } steps = .ok b := rfl
  have reached : Reached (fun _ => True) (fun _ => False) b :=
    Step.reached_applyAll steps (.empty _) built
  have consistent : b.Consistent := by decide +kernel
  have free : b.SourceFree := by decide +kernel
  obtain ⟨group, -, further⟩ := consistent_in_group_iff reached consistent
  let start : Builder → Prop := fun given => given = b ∨ given = b.nestedConditions
  let raw : Step := .conditionRaw .and ⟨"city = ?", [.text "Graz"]⟩
  have known : ({ setting := b.setting } : Builder).Consistent := by decide +kernel
  have handed : Reached Consistent start copied :=
    .step raw (.start (.inr rfl)) (.empty b.setting) known (.empty b.setting) rfl
  have first : Continues start b.nestedConditions copied :=
    ⟨raw, _, _, .empty b.setting, known, .empty b.setting, rfl⟩
  have second : Continues start copied child :=
    ⟨.holdsRow .or (.copied []) false, _, _, handed, by decide +kernel, .empty b.setting, rfl⟩
  obtain ⟨inside, outside⟩ := further child ((Relation.ReflTransGen.single first).tail second)
  exact ⟨built, consistent, free, group.mpr free, inside free, outside .and, by decide +kernel⟩

/-- The copy binds the value of the source and does not hold it. -/
theorem not_consistent_in_group_of_source_with_value :
    let b := ({ setting := ⟨.mysql, ""⟩ } : Builder).sourceRaw ⟨"t where n > ?", [.int 1]⟩
    let outer := b.nested .and (b.nestedConditions.holdsRow .and b.nestedConditions false)
    Reached (fun _ => True) (fun _ => False) b ∧ b.Consistent ∧
      ¬b.nestedConditions.Consistent ∧ ¬outer.Consistent ∧
      outer.held = [.int 1] ∧ outer.statement =
        ⟨"select * from t where n > ? where (exists (select * from t where n > ?))",
          [.int 1, .int 1]⟩ := by
  intro b outer
  have built : Step.applyAll { setting := ⟨.mysql, ""⟩ }
      [.sourceRaw ⟨"t where n > ?", [.int 1]⟩] = .ok b := rfl
  exact ⟨Step.reached_applyAll _ (.empty _) built, by decide +kernel, by decide +kernel,
    by decide +kernel, by decide +kernel, by decide +kernel⟩

end Builder

end SqlComposer
