import SqlComposer.Query.Basic

/-!
The sub-selects of a statement. A statement is put together from its clauses, and clauses from
conditions that may be grouped; what holds of a statement as soon as it holds of the sub-selects
of its clauses holds of every statement (`Query.induction`).
-/

namespace SqlComposer

variable {A B C Q : Type}

/-! ## Conditions inside groups -/

mutual

def Condition.leaves : Condition Q → List (Condition Q)
  | .nested list => Condition.allLeaves list
  | leaf => [leaf]

def Condition.allLeaves : Conditions Q → List (Condition Q)
  | [] => []
  | (_, condition) :: rest => condition.leaves ++ Condition.allLeaves rest

end

mutual

theorem Condition.leaves_map (f : A → B) :
    ∀ c : Condition A, (c.map f).leaves = c.leaves.map (Condition.map f)
  | .nested list => by
    simp only [Condition.map, Condition.leaves]
    exact Condition.allLeaves_map f list
  | .compare .. | .compareSub .. | .raw .. | .between .. | .inList .. | .inSub .. | .isNull ..
  | .compareColumns .. | .holdsRow .. | .compareDate .. => rfl

theorem Condition.allLeaves_map (f : A → B) :
    ∀ l : Conditions A,
      Condition.allLeaves (Condition.mapList f l) = (Condition.allLeaves l).map (Condition.map f)
  | [] => rfl
  | (_, condition) :: rest => by
    simp only [Condition.mapList, Condition.allLeaves, List.map_append]
    rw [Condition.leaves_map f condition, Condition.allLeaves_map f rest]

end

theorem Condition.mapList_eq_map (f : A → B) (l : Conditions A) :
    Condition.mapList f l = l.map fun entry => (entry.1, entry.2.map f) := by
  induction l with
  | nil => rfl
  | cons entry l ih => simp [Condition.mapList, ih]

theorem Condition.mapList_append (f : A → B) (l m : Conditions A) :
    Condition.mapList f (l ++ m) = Condition.mapList f l ++ Condition.mapList f m := by
  simp [Condition.mapList_eq_map]

theorem Condition.allLeaves_append (l m : Conditions Q) :
    Condition.allLeaves (l ++ m) = Condition.allLeaves l ++ Condition.allLeaves m := by
  induction l with
  | nil => rfl
  | cons entry l ih =>
    rcases entry with ⟨connector, condition⟩
    simp [Condition.allLeaves, ih]

/-! ## Sub-selects -/

def Source.subs : Source Q → List Q
  | .sub query _ => [query]
  | _ => []

def Selection.subs : Selection Q → List Q
  | .sub query _ => [query]
  | _ => []

def Condition.leafSubs : Condition Q → List Q
  | .compareSub _ _ query => [query]
  | .inSub _ query _ => [query]
  | .holdsRow query _ => [query]
  | _ => []

def Conditions.subs (l : Conditions Q) : List Q :=
  (Condition.allLeaves l).flatMap Condition.leafSubs

def JoinTarget.subs : JoinTarget Q → List Q
  | .sub query _ => [query]
  | _ => []

def Join.subs (j : Join Q) : List Q := j.target.subs ++ Conditions.subs j.conditions

def Order.subs : Order Q → List Q
  | .sub query _ => [query]
  | _ => []

/-- The sub-selects of clauses, without those inside them. -/
def Clauses.subs (c : Clauses Q) : List Q :=
  c.source.toList.flatMap Source.subs ++ c.columns.flatMap Selection.subs ++
    c.joins.flatMap Join.subs ++ Conditions.subs c.conditions ++ c.orders.flatMap Order.subs ++
    c.unions.map Branch.query ++ c.unionOrders.flatMap Order.subs

section Map

variable (f : A → B)

theorem Source.subs_map (s : Source A) : (s.map f).subs = s.subs.map f := by
  cases s <;> rfl

theorem Selection.subs_map (s : Selection A) : (s.map f).subs = s.subs.map f := by
  cases s <;> rfl

theorem Condition.leafSubs_map (c : Condition A) : (c.map f).leafSubs = c.leafSubs.map f := by
  cases c <;> simp only [Condition.map, Condition.leafSubs, List.map_cons, List.map_nil]

theorem Conditions.subs_map (l : Conditions A) :
    Conditions.subs (Condition.mapList f l) = (Conditions.subs l).map f := by
  simp only [Conditions.subs, Condition.allLeaves_map, List.flatMap_map, List.map_flatMap,
    Condition.leafSubs_map]

theorem Join.subs_map (j : Join A) : (j.map f).subs = j.subs.map f := by
  rcases j with ⟨kind, target, conditions⟩
  cases target <;> simp [Join.map, Join.subs, JoinTarget.map, JoinTarget.subs, Conditions.subs_map]

theorem Order.subs_map (o : Order A) : (o.map f).subs = o.subs.map f := by
  cases o <;> rfl

theorem Clauses.subs_map (c : Clauses A) : (c.map f).subs = c.subs.map f := by
  simp only [Clauses.subs, Clauses.map, List.map_append, List.map_flatMap, List.flatMap_map,
    List.map_map, Conditions.subs_map, Selection.subs_map, Join.subs_map, Order.subs_map]
  cases c.source <;> simp [Source.subs_map, Function.comp_def, Branch.map]

end Map

section Congruence

variable {f g : A → B}

theorem Source.map_congr {s : Source A} (same : ∀ q ∈ s.subs, f q = g q) : s.map f = s.map g := by
  cases s <;> simp_all [Source.map, Source.subs]

theorem Selection.map_congr {s : Selection A} (same : ∀ q ∈ s.subs, f q = g q) :
    s.map f = s.map g := by
  cases s <;> simp_all [Selection.map, Selection.subs]

mutual

theorem Condition.map_congr :
    ∀ c : Condition A, (∀ q ∈ c.leaves.flatMap Condition.leafSubs, f q = g q) → c.map f = c.map g
  | .nested list, same => by
    simp only [Condition.map]
    rw [Condition.mapList_congr list same]
  | .compareSub .., same | .inSub .., same | .holdsRow .., same => by
    simp_all [Condition.map, Condition.leaves, Condition.leafSubs]
  | .compare .., _ | .raw .., _ | .between .., _ | .inList .., _ | .isNull .., _
  | .compareColumns .., _ | .compareDate .., _ => rfl

theorem Condition.mapList_congr :
    ∀ l : Conditions A, (∀ q ∈ Conditions.subs l, f q = g q) →
      Condition.mapList f l = Condition.mapList g l
  | [], _ => rfl
  | (_, condition) :: rest, same => by
    simp only [Conditions.subs, Condition.allLeaves, List.flatMap_append, List.mem_append] at same
    simp only [Condition.mapList]
    rw [Condition.map_congr condition fun q mem => same q (.inl mem),
      Condition.mapList_congr rest fun q mem => same q (.inr mem)]

end

theorem Join.map_congr {j : Join A} (same : ∀ q ∈ j.subs, f q = g q) : j.map f = j.map g := by
  rcases j with ⟨kind, target, conditions⟩
  simp only [Join.subs, List.mem_append] at same
  simp only [Join.map, Condition.mapList_congr conditions fun q mem => same q (.inr mem)]
  cases target <;> simp_all [JoinTarget.map, JoinTarget.subs]

theorem Order.map_congr {o : Order A} (same : ∀ q ∈ o.subs, f q = g q) : o.map f = o.map g := by
  cases o <;> simp_all [Order.map, Order.subs]

theorem Clauses.map_congr {c : Clauses A} (same : ∀ q ∈ c.subs, f q = g q) :
    c.map f = c.map g := by
  simp only [Clauses.subs, List.mem_append, List.mem_flatMap, List.mem_map] at same
  have source : c.source.map (Source.map f) = c.source.map (Source.map g) :=
    Option.map_congr fun s mem => Source.map_congr fun q inside =>
      same q (by simp_all only [Option.mem_toList]; grind)
  have columns : c.columns.map (Selection.map f) = c.columns.map (Selection.map g) :=
    List.map_congr_left fun s mem => Selection.map_congr fun q inside => same q (by grind)
  have joins : c.joins.map (Join.map f) = c.joins.map (Join.map g) :=
    List.map_congr_left fun j mem => Join.map_congr fun q inside => same q (by grind)
  have conditions : Condition.mapList f c.conditions = Condition.mapList g c.conditions :=
    Condition.mapList_congr c.conditions fun q inside => same q (by grind)
  have orders : c.orders.map (Order.map f) = c.orders.map (Order.map g) :=
    List.map_congr_left fun o mem => Order.map_congr fun q inside => same q (by grind)
  have unions : c.unions.map (Branch.map f) = c.unions.map (Branch.map g) :=
    List.map_congr_left fun b mem => by simp only [Branch.map]; rw [same b.query (by grind)]
  have unionOrders : c.unionOrders.map (Order.map f) = c.unionOrders.map (Order.map g) :=
    List.map_congr_left fun o mem => Order.map_congr fun q inside => same q (by grind)
  simp only [Clauses.map, source, columns, joins, conditions, orders, unions, unionOrders]

end Congruence

theorem Source.map_map (f : A → B) (g : B → C) (s : Source A) :
    (s.map f).map g = s.map (g ∘ f) := by
  cases s <;> rfl

theorem Selection.map_map (f : A → B) (g : B → C) (s : Selection A) :
    (s.map f).map g = s.map (g ∘ f) := by
  cases s <;> rfl

mutual

theorem Condition.map_map (f : A → B) (g : B → C) :
    ∀ c : Condition A, (c.map f).map g = c.map (g ∘ f)
  | .nested list => by
    simp only [Condition.map]
    rw [Condition.mapList_mapList f g list]
  | .compare .. | .compareSub .. | .raw .. | .between .. | .inList .. | .inSub .. | .isNull ..
  | .compareColumns .. | .holdsRow .. | .compareDate .. => rfl

theorem Condition.mapList_mapList (f : A → B) (g : B → C) :
    ∀ l : Conditions A, Condition.mapList g (Condition.mapList f l) = Condition.mapList (g ∘ f) l
  | [] => rfl
  | (_, condition) :: rest => by
    simp only [Condition.mapList]
    rw [Condition.map_map f g condition, Condition.mapList_mapList f g rest]

end

theorem Join.map_map (f : A → B) (g : B → C) (j : Join A) :
    (j.map f).map g = j.map (g ∘ f) := by
  rcases j with ⟨kind, target, conditions⟩
  cases target <;> simp [Join.map, JoinTarget.map, Condition.mapList_mapList]

theorem Order.map_map (f : A → B) (g : B → C) (o : Order A) :
    (o.map f).map g = o.map (g ∘ f) := by
  cases o <;> rfl

theorem Clauses.map_map (f : A → B) (g : B → C) (c : Clauses A) :
    (c.map f).map g = c.map (g ∘ f) := by
  simp [Clauses.map, Function.comp_def, Source.map_map, Selection.map_map, Join.map_map,
    Order.map_map, Condition.mapList_mapList, Branch.map]

/-! ## Induction on statements -/

section Size

variable [SizeOf Q] {q : Q}

theorem Source.sizeOf_lt_of_mem_subs {s : Source Q} (mem : q ∈ s.subs) : sizeOf q < sizeOf s := by
  cases s with
  | sub query label =>
    rw [List.mem_singleton.mp mem, Source.sub.sizeOf_spec]
    omega
  | table name => cases mem
  | raw sql => cases mem

theorem Selection.sizeOf_lt_of_mem_subs {s : Selection Q} (mem : q ∈ s.subs) :
    sizeOf q < sizeOf s := by
  cases s with
  | sub query label =>
    rw [List.mem_singleton.mp mem, Selection.sub.sizeOf_spec]
    omega
  | column name => cases mem
  | raw sql => cases mem

mutual

theorem Condition.sizeOf_lt_of_mem_leaves :
    ∀ c : Condition Q, q ∈ c.leaves.flatMap Condition.leafSubs → sizeOf q < sizeOf c
  | .nested list, mem => by
    have := Conditions.sizeOf_lt_of_mem_subs list mem
    simp only [Condition.nested.sizeOf_spec]
    omega
  | .compareSub .., mem | .inSub .., mem | .holdsRow .., mem => by
    simp only [Condition.leaves, Condition.leafSubs, List.flatMap_singleton,
      List.mem_singleton] at mem
    simp only [mem, Condition.compareSub.sizeOf_spec, Condition.inSub.sizeOf_spec,
      Condition.holdsRow.sizeOf_spec]
    omega
  | .compare .., mem | .raw .., mem | .between .., mem | .inList .., mem | .isNull .., mem
  | .compareColumns .., mem | .compareDate .., mem => by
    simp [Condition.leaves, Condition.leafSubs] at mem

theorem Conditions.sizeOf_lt_of_mem_subs :
    ∀ l : Conditions Q, q ∈ Conditions.subs l → sizeOf q < sizeOf l
  | [], mem => by simp [Conditions.subs, Condition.allLeaves] at mem
  | (connector, condition) :: rest, mem => by
    simp only [Conditions.subs, Condition.allLeaves, List.flatMap_append, List.mem_append] at mem
    simp only [List.cons.sizeOf_spec, Prod.mk.sizeOf_spec]
    rcases mem with mem | mem
    · have := Condition.sizeOf_lt_of_mem_leaves condition mem
      omega
    · have := Conditions.sizeOf_lt_of_mem_subs rest mem
      omega

end

theorem Join.sizeOf_lt_of_mem_subs {j : Join Q} (mem : q ∈ j.subs) : sizeOf q < sizeOf j := by
  rcases j with ⟨kind, target, conditions⟩
  simp only [Join.subs, List.mem_append] at mem
  simp only [Join.mk.sizeOf_spec]
  rcases mem with mem | mem
  · cases target with
    | sub query label =>
      rw [List.mem_singleton.mp mem, JoinTarget.sub.sizeOf_spec]
      omega
    | table name => cases mem
  · have := Conditions.sizeOf_lt_of_mem_subs conditions mem
    omega

theorem Order.sizeOf_lt_of_mem_subs {o : Order Q} (mem : q ∈ o.subs) : sizeOf q < sizeOf o := by
  cases o with
  | sub query direction =>
    rw [List.mem_singleton.mp mem, Order.sub.sizeOf_spec]
    omega
  | column name direction => cases mem
  | raw sql => cases mem

theorem sizeOf_lt_of_mem_flatMap {A : Type} [SizeOf A] {subs : A → List Q} {l : List A}
    (below : ∀ a, q ∈ subs a → sizeOf q < sizeOf a) (mem : q ∈ l.flatMap subs) :
    sizeOf q < sizeOf l := by
  rcases List.mem_flatMap.mp mem with ⟨a, inside, found⟩
  have first := below a found
  have second := List.sizeOf_lt_of_mem inside
  omega

theorem Clauses.sizeOf_lt_of_mem_subs {c : Clauses Q} (mem : q ∈ c.subs) :
    sizeOf q < sizeOf c := by
  obtain ⟨source, columns, joins, conditions, groups, havings, orders, limit, offset, unions,
    unionOrders, unionLimit, unionOffset, aggregate, lock, distinct⟩ := c
  simp only [Clauses.subs, List.mem_append] at mem
  simp only [Clauses.mk.sizeOf_spec]
  rcases mem with (((((mem | mem) | mem) | mem) | mem) | mem) | mem
  · cases source with
    | none => simp at mem
    | some s =>
      have := Source.sizeOf_lt_of_mem_subs (s := s) (by simpa using mem)
      simp only [Option.some.sizeOf_spec]
      omega
  · have := sizeOf_lt_of_mem_flatMap (fun _ => Selection.sizeOf_lt_of_mem_subs) mem
    omega
  · have := sizeOf_lt_of_mem_flatMap (fun _ => Join.sizeOf_lt_of_mem_subs) mem
    omega
  · have := Conditions.sizeOf_lt_of_mem_subs conditions mem
    omega
  · have := sizeOf_lt_of_mem_flatMap (fun _ => Order.sizeOf_lt_of_mem_subs) mem
    omega
  · rcases List.mem_map.mp mem with ⟨⟨all, query⟩, inside, rfl⟩
    have := List.sizeOf_lt_of_mem inside
    simp only [Branch.mk.sizeOf_spec] at this ⊢
    omega
  · have := sizeOf_lt_of_mem_flatMap (fun _ => Order.sizeOf_lt_of_mem_subs) mem
    omega

end Size

/-- What holds of clauses whose sub-selects it holds of, holds of every statement. -/
theorem Query.induction {P : Query → Prop}
    (step : ∀ c : Clauses Query, (∀ q ∈ c.subs, P q) → P (.mk c)) : ∀ q, P q
  | .mk c => step c fun q _ => Query.induction step q
termination_by q => sizeOf q
decreasing_by
  have := Clauses.sizeOf_lt_of_mem_subs ‹_ ∈ c.subs›
  simp only [Query.mk.sizeOf_spec]
  omega

end SqlComposer
