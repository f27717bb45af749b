import SqlComposer.Value.Basic

/-!
Bound values sorted by the clause they belong to. Their common order is the order in which a
select statement mentions its clauses.
-/

namespace SqlComposer

structure Bindings where
  select : List Value := []
  source : List Value := []
  join : List Value := []
  conditions : List Value := []
  groupBy : List Value := []
  having : List Value := []
  order : List Value := []
  union : List Value := []
  unionOrder : List Value := []
  deriving DecidableEq, Repr, Inhabited

inductive BindingClass where
  | select
  | source
  | join
  | conditions
  | groupBy
  | having
  | order
  | union
  | unionOrder
  deriving DecidableEq, Repr

namespace Bindings

def get (b : Bindings) : BindingClass → List Value
  | .select => b.select
  | .source => b.source
  | .join => b.join
  | .conditions => b.conditions
  | .groupBy => b.groupBy
  | .having => b.having
  | .order => b.order
  | .union => b.union
  | .unionOrder => b.unionOrder

def put (b : Bindings) (k : BindingClass) (values : List Value) : Bindings :=
  match k with
  | .select => { b with select := values }
  | .source => { b with source := values }
  | .join => { b with join := values }
  | .conditions => { b with conditions := values }
  | .groupBy => { b with groupBy := values }
  | .having => { b with having := values }
  | .order => { b with order := values }
  | .union => { b with union := values }
  | .unionOrder => { b with unionOrder := values }

def extend (b : Bindings) (k : BindingClass) (values : List Value) : Bindings :=
  b.put k (b.get k ++ values)

def clear (b : Bindings) (k : BindingClass) : Bindings := b.put k []

def toList (b : Bindings) : List Value :=
  b.select ++ b.source ++ b.join ++ b.conditions ++ b.groupBy ++ b.having ++ b.order ++
    b.union ++ b.unionOrder

def size (b : Bindings) : Nat := b.toList.length

def isEmpty (b : Bindings) : Bool := b.toList.isEmpty

@[simp] theorem get_put (b : Bindings) (k : BindingClass) (values : List Value) :
    (b.put k values).get k = values := by
  cases k <;> rfl

theorem get_put_of_ne (b : Bindings) {k other : BindingClass} (values : List Value)
    (different : other ≠ k) : (b.put k values).get other = b.get other := by
  cases k <;> cases other <;> first | rfl | exact absurd rfl different

theorem get_extend (b : Bindings) (k : BindingClass) (values : List Value) :
    (b.extend k values).get k = b.get k ++ values := by
  simp [extend]

theorem get_clear (b : Bindings) (k : BindingClass) : (b.clear k).get k = [] := by
  simp [clear]

end Bindings

end SqlComposer
