import SqlComposer.Query.Clauses

/-!
A select statement, whose sub-selects are select statements. `Query.fold` rebuilds one from the
inside out; every function on whole statements is such a fold, and `fold_mk` is the only
equation about it.
-/

namespace SqlComposer

inductive Query where
  | mk (clauses : Clauses Query)

namespace Query

def clauses : Query → Clauses Query
  | mk c => c

mutual

variable {A : Type} (f : Clauses A → A)

def fold : Query → A
  | mk c =>
    f { source := foldSource c.source
        columns := foldSelections c.columns
        joins := foldJoins c.joins
        conditions := foldConditions c.conditions
        groups := c.groups
        havings := c.havings
        orders := foldOrders c.orders
        limit := c.limit
        offset := c.offset
        unions := foldBranches c.unions
        unionOrders := foldOrders c.unionOrders
        unionLimit := c.unionLimit
        unionOffset := c.unionOffset
        aggregate := c.aggregate
        lock := c.lock
        distinct := c.distinct }

def foldSource : Option (Source Query) → Option (Source A)
  | none => none
  | some (.table name) => some (.table name)
  | some (.sub query label) => some (.sub (fold query) label)
  | some (.raw sql) => some (.raw sql)

def foldSelections : List (Selection Query) → List (Selection A)
  | [] => []
  | .column name :: rest => .column name :: foldSelections rest
  | .raw sql :: rest => .raw sql :: foldSelections rest
  | .sub query label :: rest => .sub (fold query) label :: foldSelections rest

def foldCondition : Condition Query → Condition A
  | .compare column operator operand => .compare column operator operand
  | .compareSub column operator query => .compareSub column operator (fold query)
  | .nested conditions => .nested (foldConditions conditions)
  | .raw sql => .raw sql
  | .between column low high negated => .between column low high negated
  | .inList column operands negated => .inList column operands negated
  | .inSub column query negated => .inSub column (fold query) negated
  | .isNull column negated => .isNull column negated
  | .compareColumns first operator second => .compareColumns first operator second
  | .holdsRow query negated => .holdsRow (fold query) negated
  | .compareDate part column operator operand => .compareDate part column operator operand

def foldConditions : List (Connector × Condition Query) → List (Connector × Condition A)
  | [] => []
  | (connector, condition) :: rest => (connector, foldCondition condition) :: foldConditions rest

def foldTarget : JoinTarget Query → JoinTarget A
  | .table name => .table name
  | .sub query label => .sub (fold query) label

def foldJoins : List (Join Query) → List (Join A)
  | [] => []
  | ⟨kind, target, conditions⟩ :: rest =>
    ⟨kind, foldTarget target, foldConditions conditions⟩ :: foldJoins rest

def foldOrders : List (Order Query) → List (Order A)
  | [] => []
  | .column name direction :: rest => .column name direction :: foldOrders rest
  | .raw sql :: rest => .raw sql :: foldOrders rest
  | .sub query direction :: rest => .sub (fold query) direction :: foldOrders rest

def foldBranches : List (Branch Query) → List (Branch A)
  | [] => []
  | ⟨all, query⟩ :: rest => ⟨all, fold query⟩ :: foldBranches rest

end

variable {A : Type} (f : Clauses A → A)

theorem foldSource_eq_map (s : Option (Source Query)) :
    foldSource f s = s.map (·.map (fold f)) := by
  rcases s with _ | ⟨_ | _ | _⟩ <;> simp [foldSource, Source.map]

theorem foldSelections_eq_map (l : List (Selection Query)) :
    foldSelections f l = l.map (·.map (fold f)) := by
  induction l with
  | nil => rfl
  | cons s l ih => cases s <;> simp [foldSelections, Selection.map, ih]

theorem foldOrders_eq_map (l : List (Order Query)) :
    foldOrders f l = l.map (·.map (fold f)) := by
  induction l with
  | nil => rfl
  | cons o l ih => cases o <;> simp [foldOrders, Order.map, ih]

theorem foldBranches_eq_map (l : List (Branch Query)) :
    foldBranches f l = l.map (·.map (fold f)) := by
  induction l with
  | nil => rfl
  | cons b l ih => simp [foldBranches, Branch.map, ih]

mutual

theorem foldCondition_eq_map : ∀ c : Condition Query, foldCondition f c = c.map (fold f)
  | .nested conditions => by
    simp [foldCondition, Condition.map, foldConditions_eq_map conditions]
  | .compare .. | .compareSub .. | .raw .. | .between .. | .inList .. | .inSub .. | .isNull ..
  | .compareColumns .. | .holdsRow .. | .compareDate .. => rfl

theorem foldConditions_eq_map :
    ∀ l : List (Connector × Condition Query), foldConditions f l = Condition.mapList (fold f) l
  | [] => rfl
  | (connector, condition) :: rest => by
    simp [foldConditions, Condition.mapList, foldCondition_eq_map condition,
      foldConditions_eq_map rest]

end

theorem foldJoins_eq_map (l : List (Join Query)) :
    foldJoins f l = l.map (·.map (fold f)) := by
  induction l with
  | nil => rfl
  | cons j l ih =>
    obtain ⟨kind, target, conditions⟩ := j
    cases target <;>
      simp [foldJoins, foldTarget, Join.map, JoinTarget.map, foldConditions_eq_map, ih]

theorem fold_mk (c : Clauses Query) : fold f (mk c) = f (c.map (fold f)) := by
  simp [fold, Clauses.map, foldSource_eq_map, foldSelections_eq_map, foldOrders_eq_map,
    foldBranches_eq_map, foldConditions_eq_map, foldJoins_eq_map]

end Query

end SqlComposer
