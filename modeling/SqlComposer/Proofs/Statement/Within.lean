import SqlComposer.Proofs.Query.SubQueries
import SqlComposer.Proofs.Statement.Phrase
import SqlComposer.Proofs.Statement.Request

/-!
Clauses, records and requests whose texts come from a lexicon. The predicates take another one for
sub-selects, so that of a whole statement is a fold as well (`Query.within_mk`).
-/

namespace SqlComposer

variable (L : Lexicon) {A B Q : Type}

def Name.Within (n : Name) : Prop :=
  (∀ own ∈ n.pinned, L.Name own) ∧ L.Name n.table ∧ ∀ label ∈ n.label, L.Name label

def Operand.Within : Operand → Prop
  | .value _ => True
  | .expression sql => L.expression sql

def Group.Within : Group → Prop
  | .column name => L.Name name
  | .raw sql => L.raw sql

def Having.Within : Having → Prop
  | .compare column operator operand =>
    L.Name column ∧ L.operator operator ∧ operand.Within L
  | .raw sql => L.raw sql
  | .between column low high _ => L.Name column ∧ low.Within L ∧ high.Within L
  | .isNull column _ => L.Name column

structure Aggregate.Within (a : Aggregate) : Prop where
  function : L.function a.function
  columns : ∀ column ∈ a.columns, L.Name column

def Distinct.Within : Distinct → Prop
  | .on columns => ∀ column ∈ columns, L.Name column
  | _ => True

section SubSelects

variable (P : Q → Prop)

def Source.Within : Source Q → Prop
  | .table name => name.Within L
  | .sub query label => P query ∧ L.Name label
  | .raw sql => L.raw sql

def Selection.Within : Selection Q → Prop
  | .column name => L.Name name
  | .sub query label => P query ∧ L.Name label
  | .raw sql => L.raw sql

mutual

def Condition.Within : Condition Q → Prop
  | .compare column operator operand => L.Name column ∧ L.operator operator ∧ operand.Within L
  | .compareSub column operator query => L.Name column ∧ L.operator operator ∧ P query
  | .nested conditions => Condition.AllWithin conditions
  | .raw sql => L.raw sql
  | .between column low high _ => L.Name column ∧ low.Within L ∧ high.Within L
  | .inList column operands _ => L.Name column ∧ ∀ o ∈ operands, o.Within L
  | .inSub column query _ => L.Name column ∧ P query
  | .isNull column _ => L.Name column
  | .compareColumns first operator second => L.Name first ∧ L.operator operator ∧ L.Name second
  | .holdsRow query _ => P query
  | .compareDate _ column operator operand =>
    L.Name column ∧ L.operator operator ∧ operand.Within L

def Condition.AllWithin : Conditions Q → Prop
  | [] => True
  | (_, condition) :: rest => condition.Within ∧ Condition.AllWithin rest

end

def JoinTarget.Within : JoinTarget Q → Prop
  | .table name => name.Within L
  | .sub query label => P query ∧ L.Name label

structure Join.Within (j : Join Q) : Prop where
  target : j.target.Within L P
  conditions : Condition.AllWithin L P j.conditions

def Order.Within : Order Q → Prop
  | .column name _ => L.Name name
  | .raw sql => L.raw sql
  | .sub query _ => P query

structure Clauses.Within (c : Clauses Q) : Prop where
  source : ∀ s ∈ c.source, s.Within L P
  columns : ∀ s ∈ c.columns, s.Within L P
  joins : ∀ j ∈ c.joins, j.Within L P
  conditions : Condition.AllWithin L P c.conditions
  groups : ∀ g ∈ c.groups, g.Within L
  havings : ∀ h ∈ c.havings, h.2.Within L
  orders : ∀ o ∈ c.orders, o.Within L P
  unions : ∀ b ∈ c.unions, P b.query
  unionOrders : ∀ o ∈ c.unionOrders, o.Within L P
  aggregate : ∀ a ∈ c.aggregate, a.Within L
  distinct : c.distinct.Within L

end SubSelects

def Query.Within (q : Query) : Prop := q.fold fun c => c.Within L id

def Record.Within (r : Record) : Prop :=
  ∀ entry ∈ r.entries, L.Name entry.1 ∧ entry.2.Within L

def Request.Within : Request → Prop
  | .insert records | .insertOrIgnore records => ∀ r ∈ records, r.Within L
  | .insertGetId record key => record.Within L ∧ L.Name key
  | .insertUsing columns rows => (∀ column ∈ columns, L.Name column) ∧ rows.Within L
  | .upsert records uniqueBy updated =>
    (∀ r ∈ records, r.Within L) ∧ (∀ column ∈ uniqueBy, L.Name column) ∧
      ∀ column ∈ updated, L.Name column
  | .update record => record.Within L
  | .select | .holdsRow | .delete | .truncate => True

variable {L}

/-! ## Sub-selects of another kind -/

section Map

variable {f : A → B} {P : B → Prop}

theorem Source.within_map {s : Source A} : (s.map f).Within L P ↔ s.Within L (P ∘ f) := by
  cases s <;> rfl

theorem Selection.within_map {s : Selection A} : (s.map f).Within L P ↔ s.Within L (P ∘ f) := by
  cases s <;> rfl

mutual

theorem Condition.within_map :
    ∀ {c : Condition A}, (c.map f).Within L P ↔ c.Within L (P ∘ f)
  | .nested list => by
    simp only [Condition.map, Condition.Within]
    exact Condition.allWithin_mapList
  | .compare .. | .compareSub .. | .raw .. | .between .. | .inList .. | .inSub .. | .isNull ..
  | .compareColumns .. | .holdsRow .. | .compareDate .. => Iff.rfl

theorem Condition.allWithin_mapList :
    ∀ {l : Conditions A},
      Condition.AllWithin L P (Condition.mapList f l) ↔ Condition.AllWithin L (P ∘ f) l
  | [] => Iff.rfl
  | (_, condition) :: rest => by
    simp only [Condition.mapList, Condition.AllWithin]
    exact and_congr Condition.within_map Condition.allWithin_mapList

end

theorem Join.within_map {j : Join A} : (j.map f).Within L P ↔ j.Within L (P ∘ f) := by
  have target : (j.target.map f).Within L P ↔ j.target.Within L (P ∘ f) := by
    cases j.target <;> rfl
  constructor
  · intro within
    exact ⟨target.mp within.target, Condition.allWithin_mapList.mp within.conditions⟩
  · intro within
    exact ⟨target.mpr within.target, Condition.allWithin_mapList.mpr within.conditions⟩

theorem Order.within_map {o : Order A} : (o.map f).Within L P ↔ o.Within L (P ∘ f) := by
  cases o <;> rfl

theorem Clauses.within_map {c : Clauses A} : (c.map f).Within L P ↔ c.Within L (P ∘ f) := by
  have source : (∀ s ∈ c.source.map (Source.map f), s.Within L P) ↔
      ∀ s ∈ c.source, s.Within L (P ∘ f) := by
    cases c.source <;> simp [Source.within_map]
  have columns : (∀ s ∈ c.columns.map (Selection.map f), s.Within L P) ↔
      ∀ s ∈ c.columns, s.Within L (P ∘ f) := by
    simp [Selection.within_map]
  have joins : (∀ j ∈ c.joins.map (Join.map f), j.Within L P) ↔
      ∀ j ∈ c.joins, j.Within L (P ∘ f) := by
    simp [Join.within_map]
  have orders (list : List (Order A)) : (∀ o ∈ list.map (Order.map f), o.Within L P) ↔
      ∀ o ∈ list, o.Within L (P ∘ f) := by
    simp [Order.within_map]
  have unions : (∀ b ∈ c.unions.map (Branch.map f), P b.query) ↔
      ∀ b ∈ c.unions, (P ∘ f) b.query := by
    simp [Branch.map]
  constructor
  · intro within
    exact
      { source := source.mp within.source
        columns := columns.mp within.columns
        joins := joins.mp within.joins
        conditions := Condition.allWithin_mapList.mp within.conditions
        groups := within.groups
        havings := within.havings
        orders := (orders c.orders).mp within.orders
        unions := unions.mp within.unions
        unionOrders := (orders c.unionOrders).mp within.unionOrders
        aggregate := within.aggregate
        distinct := within.distinct }
  · intro within
    exact
      { source := source.mpr within.source
        columns := columns.mpr within.columns
        joins := joins.mpr within.joins
        conditions := Condition.allWithin_mapList.mpr within.conditions
        groups := within.groups
        havings := within.havings
        orders := (orders c.orders).mpr within.orders
        unions := unions.mpr within.unions
        unionOrders := (orders c.unionOrders).mpr within.unionOrders
        aggregate := within.aggregate
        distinct := within.distinct }

theorem Query.within_mk {c : Clauses Query} :
    (Query.mk c).Within L ↔ c.Within L (Query.Within L) := by
  rw [Query.Within, Query.fold_mk]
  exact Clauses.within_map

end Map

theorem Clauses.Within.table?_within {P : Q → Prop} {c : Clauses Q} (within : c.Within L P)
    {name : Name} (found : c.table? = some name) : name.Within L := by
  unfold Clauses.table? at found
  split at found
  · next source =>
    cases found
    exact within.source _ source
  · cases found

/-! ## A weaker predicate on sub-selects -/

section Weaken

variable {P R : Q → Prop}

theorem Source.Within.weaken {s : Source Q} (within : s.Within L P)
    (weaker : ∀ q ∈ s.subs, P q → R q) : s.Within L R := by
  cases s with
  | sub query label => exact ⟨weaker query List.mem_cons_self within.1, within.2⟩
  | table name => exact within
  | raw sql => exact within

theorem Selection.Within.weaken {s : Selection Q} (within : s.Within L P)
    (weaker : ∀ q ∈ s.subs, P q → R q) : s.Within L R := by
  cases s with
  | sub query label => exact ⟨weaker query List.mem_cons_self within.1, within.2⟩
  | column name => exact within
  | raw sql => exact within

mutual

theorem Condition.Within.weaken :
    ∀ {c : Condition Q}, c.Within L P →
      (∀ q ∈ c.leaves.flatMap Condition.leafSubs, P q → R q) → c.Within L R
  | .nested _, within, weaker => Condition.AllWithin.weaken within weaker
  | .compareSub _ _ query, within, weaker =>
    ⟨within.1, within.2.1, weaker query List.mem_cons_self within.2.2⟩
  | .inSub _ query _, within, weaker => ⟨within.1, weaker query List.mem_cons_self within.2⟩
  | .holdsRow query _, within, weaker => weaker query List.mem_cons_self within
  | .compare .., within, _ | .raw .., within, _ | .between .., within, _
  | .inList .., within, _ | .isNull .., within, _ | .compareColumns .., within, _
  | .compareDate .., within, _ => within

theorem Condition.AllWithin.weaken :
    ∀ {l : Conditions Q}, Condition.AllWithin L P l →
      (∀ q ∈ Conditions.subs l, P q → R q) → Condition.AllWithin L R l
  | [], _, _ => trivial
  | (_, _) :: _, ⟨first, rest⟩, weaker => by
    simp only [Conditions.subs, Condition.allLeaves, List.flatMap_append, List.mem_append] at weaker
    exact ⟨first.weaken fun q mem => weaker q (.inl mem),
      Condition.AllWithin.weaken rest fun q mem => weaker q (.inr mem)⟩

end

theorem Join.Within.weaken {j : Join Q} (within : j.Within L P)
    (weaker : ∀ q ∈ j.subs, P q → R q) : j.Within L R := by
  simp only [Join.subs, List.mem_append] at weaker
  refine ⟨?_, within.conditions.weaken fun q mem => weaker q (.inr mem)⟩
  have target := within.target
  cases shape : j.target with
  | table name =>
    rw [shape] at target
    exact target
  | sub query label =>
    rw [shape] at target
    refine ⟨weaker query (.inl ?_) target.1, target.2⟩
    rw [shape]
    exact List.mem_cons_self

theorem Order.Within.weaken {o : Order Q} (within : o.Within L P)
    (weaker : ∀ q ∈ o.subs, P q → R q) : o.Within L R := by
  cases o with
  | sub query direction => exact weaker query List.mem_cons_self within
  | column name direction => exact within
  | raw sql => exact within

theorem Clauses.Within.weaken {c : Clauses Q} (within : c.Within L P)
    (weaker : ∀ q ∈ c.subs, P q → R q) : c.Within L R := by
  simp only [Clauses.subs, List.mem_append, List.mem_flatMap, List.mem_map] at weaker
  exact
    { source := fun s mem => (within.source s mem).weaken fun q inside =>
        have listed := Option.mem_toList.mpr mem
        weaker q (by grind)
      columns := fun s mem => (within.columns s mem).weaken fun q inside => weaker q (by grind)
      joins := fun j mem => (within.joins j mem).weaken fun q inside => weaker q (by grind)
      conditions := within.conditions.weaken fun q inside => weaker q (by grind)
      groups := within.groups
      havings := within.havings
      orders := fun o mem => (within.orders o mem).weaken fun q inside => weaker q (by grind)
      unions := fun b mem => weaker b.query (by grind) (within.unions b mem)
      unionOrders := fun o mem =>
        (within.unionOrders o mem).weaken fun q inside => weaker q (by grind)
      aggregate := within.aggregate
      distinct := within.distinct }

end Weaken

end SqlComposer
