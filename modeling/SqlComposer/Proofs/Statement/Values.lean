import SqlComposer.Proofs.Query.SubQueries
import SqlComposer.Query.Bindings
import SqlComposer.Statement.Select

/-!
The values of a select statement, clause by clause. Compiling binds exactly these values, in the
order of the classes and whatever the dialect (`Setting.bindings_select`).
-/

namespace SqlComposer

/-! ## What each clause binds -/

def Source.values : Source Fragment → List Value
  | .table _ => []
  | .sub query _ => query.bindings
  | .raw sql => sql.bindings

def Selection.values : Selection Fragment → List Value
  | .column _ => []
  | .raw sql => sql.bindings
  | .sub query _ => query.bindings

def Condition.leafValues : Condition Fragment → List Value
  | .compare _ _ operand => operand.bindings
  | .compareSub _ _ query => query.bindings
  | .nested _ => []
  | .raw sql => sql.bindings
  | .between _ low high _ => low.bindings ++ high.bindings
  | .inList _ operands _ => operands.flatMap Operand.bindings
  | .inSub _ query _ => query.bindings
  | .isNull _ _ => []
  | .compareColumns _ _ _ => []
  | .holdsRow query _ => query.bindings
  | .compareDate _ _ _ operand => operand.bindings

def Conditions.values (l : Conditions Fragment) : List Value :=
  (Condition.allLeaves l).flatMap Condition.leafValues

def JoinTarget.values : JoinTarget Fragment → List Value
  | .table _ => []
  | .sub query _ => query.bindings

def Join.values (j : Join Fragment) : List Value :=
  j.target.values ++ Conditions.values j.conditions

def Group.values : Group → List Value
  | .column _ => []
  | .raw sql => sql.bindings

def Having.values : Having → List Value
  | .compare _ _ operand => operand.bindings
  | .raw sql => sql.bindings
  | .between _ low high _ => low.bindings ++ high.bindings
  | .isNull _ _ => []

def Order.values : Order Fragment → List Value
  | .column _ _ => []
  | .raw sql => sql.bindings
  | .sub query _ => query.bindings

def Clauses.values (c : Clauses Fragment) : BindingClass → List Value
  | .select => c.columns.flatMap Selection.values
  | .source => c.source.toList.flatMap Source.values
  | .join => c.joins.flatMap Join.values
  | .conditions => Conditions.values c.conditions
  | .groupBy => c.groups.flatMap Group.values
  | .having => c.havings.flatMap fun entry => entry.2.values
  | .order => c.orders.flatMap Order.values
  | .union => c.unions.flatMap fun branch => branch.query.bindings
  | .unionOrder => c.unionOrders.flatMap Order.values

def BindingClass.all : List BindingClass :=
  [.select, .source, .join, .conditions, .groupBy, .having, .order, .union, .unionOrder]

/-- The classes of a statement without its unions. An aggregate stands in for the projection. -/
def Clauses.bodyClasses {Q : Type} (c : Clauses Q) : List BindingClass :=
  (if c.aggregate.isNone then [.select] else []) ++
    [.source, .join, .conditions, .groupBy, .having, .order]

/-- The classes whose clauses a statement writes. Over a union an aggregate takes the projection
in, since it counts the rows of the whole. -/
def Clauses.writtenClasses {Q : Type} (c : Clauses Q) : List BindingClass :=
  if c.aggregate.isSome ∧ !c.unions.isEmpty then BindingClass.all
  else c.bodyClasses ++ if c.unions.isEmpty then [] else [.union, .unionOrder]

theorem BindingClass.mem_all (k : BindingClass) : k ∈ BindingClass.all := by
  cases k <;> decide

theorem Bindings.toList_eq_flatMap (b : Bindings) : b.toList = BindingClass.all.flatMap b.get := by
  simp [Bindings.toList, BindingClass.all, Bindings.get]

/-! ## What compiling binds -/

@[simp] theorem Fragment.bindings_commas (list : List Fragment) :
    (Fragment.commas list).bindings = list.flatMap (·.bindings) := by
  simp [Fragment.commas]

@[simp] theorem Fragment.bindings_operands (list : List Operand) :
    (Fragment.operands list).bindings = list.flatMap Operand.bindings := by
  simp [Fragment.operands, List.flatMap_map]

@[simp] theorem Dialect.bindings_unionBody (d : Dialect) (f : Fragment) :
    (d.unionBody f).bindings = f.bindings := by
  cases d <;> simp [Dialect.unionBody]

@[simp] theorem Dialect.bindings_branch (d : Dialect) (b : Branch Fragment) :
    (d.branch b).bindings = b.query.bindings := by
  simp only [Dialect.branch]
  split <;> simp

namespace Setting

variable (s : Setting)

@[simp] theorem bindings_column (text : String) : (s.column text).bindings = [] := by
  simp [Setting.column]

@[simp] theorem bindings_columns (list : List String) : (s.columns list).bindings = [] := by
  simp [Setting.columns]

@[simp] theorem bindings_table (name : Name) : (s.table name).bindings = [] := by
  simp [Setting.table]

@[simp] theorem bindings_tableText (text : String) : (s.tableText text).bindings = [] := by
  simp [Setting.tableText]

@[simp] theorem bindings_distinct (mode : Distinct) : (s.distinct mode).bindings = [] := by
  unfold Setting.distinct
  split <;> simp

@[simp] theorem bindings_aggregate (mode : Distinct) (a : Aggregate) :
    (s.aggregate mode a).bindings = [] := by
  simp only [Setting.aggregate, Fragment.bindings_cat, List.flatMap_cons,
    Fragment.bindings_ofText]
  split <;> simp

@[simp] theorem bindings_selection (selection : Selection Fragment) :
    (s.selection selection).bindings = selection.values := by
  cases selection <;> simp [Setting.selection, Selection.values]

theorem bindings_projection (c : Clauses Fragment) :
    (s.projection c).bindings = c.columns.flatMap Selection.values := by
  unfold Setting.projection
  split
  · next none => simp [List.isEmpty_iff.mp none]
  · simp [List.flatMap_map]

@[simp] theorem bindings_source (source : Source Fragment) :
    (s.source source).bindings = source.values := by
  cases source <;> simp [Setting.source, Source.values]

@[simp] theorem bindings_compareDate (part : DatePart) (name operator : String) (o : Operand) :
    (s.compareDate part name operator o).bindings = o.bindings := by
  unfold Setting.compareDate
  cases s.dialect <;> cases part <;> cases o <;> simp

mutual

theorem bindings_condition :
    ∀ c : Condition Fragment, (s.condition c).bindings = c.leaves.flatMap Condition.leafValues
  | .nested list => by
    simpa [Setting.condition, Condition.leaves, Conditions.values] using bindings_conditions list
  | .inList name list negated => by
    simp only [Setting.condition, Condition.leaves, List.flatMap_singleton, Condition.leafValues]
    split
    · next none => simp [List.isEmpty_iff.mp none]
    · simp
  | .compare .. | .compareSub .. | .raw .. | .between .. | .inSub .. | .isNull ..
  | .compareColumns .. | .holdsRow .. | .compareDate .. => by
    simp [Setting.condition, Setting.compare, Setting.between, Setting.isNull, Condition.leaves,
      Condition.leafValues]

theorem bindings_conditions :
    ∀ l : Conditions Fragment, (s.conditions l).bindings = Conditions.values l
  | [] => rfl
  | (_, first) :: rest => by
    simp [Setting.conditions, Conditions.values, Condition.allLeaves, bindings_condition first,
      bindings_furtherConditions rest]

theorem bindings_furtherConditions :
    ∀ l : Conditions Fragment, (s.furtherConditions l).bindings = Conditions.values l
  | [] => rfl
  | (_, next) :: rest => by
    simp [Setting.furtherConditions, Conditions.values, Condition.allLeaves,
      bindings_condition next, bindings_furtherConditions rest]

end

@[simp] theorem bindings_join (j : Join Fragment) : (s.join j).bindings = j.values := by
  rcases j with ⟨kind, target, conditions⟩
  have targetValues : (s.joinTarget target).bindings = target.values := by
    cases target <;> simp [Setting.joinTarget, JoinTarget.values]
  cases conditions with
  | nil => simp [Setting.join, Join.values, Conditions.values, Condition.allLeaves, targetValues]
  | cons entry rest => simp [Setting.join, Join.values, targetValues, bindings_conditions]

@[simp] theorem bindings_joins (list : List (Join Fragment)) :
    (s.joins list).bindings = list.flatMap Join.values := by
  simp [Setting.joins, List.flatMap_map]

@[simp] theorem bindings_whereClause (l : Conditions Fragment) :
    (s.whereClause l).bindings = Conditions.values l := by
  simp [Setting.whereClause, bindings_conditions]

@[simp] theorem bindings_groups (list : List Group) :
    (s.groups list).bindings = list.flatMap Group.values := by
  have one (g : Group) : (s.group g).bindings = g.values := by
    cases g <;> simp [Setting.group, Group.values]
  simp [Setting.groups, List.flatMap_map, one]

@[simp] theorem bindings_havings (list : List (Connector × Having)) :
    (s.havings list).bindings = list.flatMap fun entry => entry.2.values := by
  have one (h : Having) : (s.having h).bindings = h.values := by
    cases h <;>
      simp [Setting.having, Setting.compare, Setting.between, Setting.isNull, Having.values]
  cases list with
  | nil => rfl
  | cons entry rest =>
    rcases entry with ⟨connector, first⟩
    simp [Setting.havings, List.flatMap_map, one]

@[simp] theorem bindings_orders (list : List (Order Fragment)) :
    (s.orders list).bindings = list.flatMap Order.values := by
  have one (o : Order Fragment) : (s.order o).bindings = o.values := by
    cases o <;> simp [Setting.order, Order.values]
  simp [Setting.orders, List.flatMap_map, one]

theorem bindings_segment {A : Type} (entries : List A) (f : Fragment)
    (none : entries = [] → f.bindings = []) :
    (segment entries f).flatMap (·.bindings) = f.bindings := by
  unfold segment
  split
  · next empty => simp [none (List.isEmpty_iff.mp empty)]
  · simp

theorem bindings_body (c : Clauses Fragment) :
    (s.body c).bindings = c.bodyClasses.flatMap c.values := by
  have source : (c.source.map s.source).toList.flatMap (·.bindings) = c.values .source := by
    cases h : c.source <;> simp [Clauses.values, h]
  have lock : (c.lock.map fun lock => Fragment.ofText (s.dialect.lock lock)).toList.flatMap
      (·.bindings) = [] := by
    cases c.lock <;> simp
  have conditions : (segment c.conditions (s.whereClause c.conditions)).flatMap (·.bindings) =
      c.values .conditions := by
    rw [bindings_segment _ _ fun none => by simp [none, Conditions.values, Condition.allLeaves]]
    exact s.bindings_whereClause c.conditions
  rw [Setting.body, Fragment.bindings_joined, Clauses.bodyClasses]
  simp only [List.flatMap_append, List.flatMap_singleton, source, lock, conditions]
  rw [bindings_segment _ _ fun none => by simp [none],
    bindings_segment _ _ fun none => by simp [none],
    bindings_segment _ _ fun none => by simp [none],
    bindings_segment _ _ fun none => by simp [none]]
  cases c.aggregate <;> simp [Clauses.values, bindings_projection]

theorem bindings_unions (c : Clauses Fragment) :
    (s.unions c).bindings = c.values .union ++ c.values .unionOrder := by
  rw [Setting.unions, Fragment.bindings_joined]
  simp only [List.flatMap_append]
  rw [bindings_segment _ _ fun none => by simp [none]]
  simp [Clauses.values, List.flatMap_map]

theorem bindings_united (c : Clauses Fragment) :
    (s.united c).bindings =
      (c.bodyClasses ++ if c.unions.isEmpty then [] else [BindingClass.union, .unionOrder]).flatMap
        c.values := by
  unfold Setting.united
  split <;> simp [bindings_body, bindings_unions]

theorem bindings_select_eq (c : Clauses Fragment) :
    (s.select c).bindings = c.writtenClasses.flatMap c.values := by
  unfold Setting.select Clauses.writtenClasses
  split
  · next both =>
    obtain ⟨a, counted⟩ := Option.isSome_iff_exists.mp both.1
    have plain : Clauses.values { c with aggregate := none } = c.values := by
      funext k
      cases k <;> rfl
    have branched : c.unions.isEmpty = false := by simpa using both.2
    simp [Setting.unionAggregate, counted, bindings_united, plain, branched, Clauses.bodyClasses,
      BindingClass.all]
  · exact s.bindings_united c

/-- A select statement without an aggregate binds the values of its clauses, class by class.
Orders of a union need a union to stand in. -/
theorem bindings_select {c : Clauses Fragment} (plain : c.aggregate = none)
    (ordered : c.unions = [] → c.unionOrders = []) :
    (s.select c).bindings = BindingClass.all.flatMap c.values := by
  rw [bindings_select_eq]
  by_cases none : c.unions = []
  · have unions : c.values .union = [] := by simp [Clauses.values, none]
    have unionOrders : c.values .unionOrder = [] := by simp [Clauses.values, ordered none]
    simp [Clauses.writtenClasses, Clauses.bodyClasses, plain, none, BindingClass.all, unions,
      unionOrders]
  · simp [Clauses.writtenClasses, Clauses.bodyClasses, plain, none, BindingClass.all]

end Setting

end SqlComposer
