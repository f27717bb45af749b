import SqlComposer.Query.Name
import SqlComposer.Value.Basic

/-!
The clauses of a select statement. Sub-selects have a type `Q` of their own: a statement takes
statements there, and a compiler takes what it has made of them.
-/

namespace SqlComposer

/-- SQL inlined as it stands; each `?` outside single quotes takes one of the bindings. -/
structure RawSql where
  sql : String
  bindings : List Value := []
  deriving DecidableEq, Repr, Inhabited

inductive Source (Q : Type) where
  | table (name : Name)
  | sub (query : Q) (label : String)
  | raw (raw : RawSql)

inductive Selection (Q : Type) where
  | column (column : String)
  | raw (raw : RawSql)
  | sub (query : Q) (label : String)

inductive DatePart where
  | date
  | time
  | day
  | month
  | year
  deriving DecidableEq, Repr

inductive Condition (Q : Type) where
  | compare (column operator : String) (operand : Operand)
  | compareSub (column operator : String) (query : Q)
  | nested (conditions : List (Connector × Condition Q))
  | raw (raw : RawSql)
  | between (column : String) (low high : Operand) (negated : Bool)
  | inList (column : String) (operands : List Operand) (negated : Bool)
  | inSub (column : String) (query : Q) (negated : Bool)
  | isNull (column : String) (negated : Bool)
  | compareColumns (first operator second : String)
  | holdsRow (query : Q) (negated : Bool)
  | compareDate (part : DatePart) (column operator : String) (operand : Operand)

/-- Conditions with the connector that stands before each; the first connector is not written. -/
abbrev Conditions (Q : Type) := List (Connector × Condition Q)

inductive JoinKind where
  | inner
  | left
  | right
  | cross
  deriving DecidableEq, Repr

inductive JoinTarget (Q : Type) where
  | table (name : Name)
  | sub (query : Q) (label : String)

structure Join (Q : Type) where
  kind : JoinKind
  target : JoinTarget Q
  conditions : List (Connector × Condition Q)

inductive Group where
  | column (column : String)
  | raw (raw : RawSql)
  deriving DecidableEq, Repr

inductive Having where
  | compare (column operator : String) (operand : Operand)
  | raw (raw : RawSql)
  | between (column : String) (low high : Operand) (negated : Bool)
  | isNull (column : String) (negated : Bool)
  deriving DecidableEq, Repr

inductive Direction where
  | asc
  | desc
  deriving DecidableEq, Repr, Inhabited

inductive Order (Q : Type) where
  | column (column : String) (direction : Direction)
  | raw (raw : RawSql)
  | sub (query : Q) (direction : Direction)

structure Branch (Q : Type) where
  all : Bool
  query : Q

structure Aggregate where
  function : String
  columns : List String
  deriving DecidableEq, Repr

inductive Lock where
  | share
  | update
  deriving DecidableEq, Repr

inductive Distinct where
  | off
  | rows
  | on (columns : List String)
  deriving DecidableEq, Repr, Inhabited

structure Clauses (Q : Type) where
  source : Option (Source Q) := none
  columns : List (Selection Q) := []
  joins : List (Join Q) := []
  conditions : List (Connector × Condition Q) := []
  groups : List Group := []
  havings : List (Connector × Having) := []
  orders : List (Order Q) := []
  limit : Option UInt64 := none
  offset : Option UInt64 := none
  unions : List (Branch Q) := []
  unionOrders : List (Order Q) := []
  unionLimit : Option UInt64 := none
  unionOffset : Option UInt64 := none
  aggregate : Option Aggregate := none
  lock : Option Lock := none
  distinct : Distinct := .off

variable {A B : Type}

def Source.map (f : A → B) : Source A → Source B
  | .table name => .table name
  | .sub query label => .sub (f query) label
  | .raw sql => .raw sql

def Selection.map (f : A → B) : Selection A → Selection B
  | .column name => .column name
  | .raw sql => .raw sql
  | .sub query label => .sub (f query) label

mutual

def Condition.map (f : A → B) : Condition A → Condition B
  | .compare column operator operand => .compare column operator operand
  | .compareSub column operator query => .compareSub column operator (f query)
  | .nested conditions => .nested (Condition.mapList f conditions)
  | .raw sql => .raw sql
  | .between column low high negated => .between column low high negated
  | .inList column operands negated => .inList column operands negated
  | .inSub column query negated => .inSub column (f query) negated
  | .isNull column negated => .isNull column negated
  | .compareColumns first operator second => .compareColumns first operator second
  | .holdsRow query negated => .holdsRow (f query) negated
  | .compareDate part column operator operand => .compareDate part column operator operand

def Condition.mapList (f : A → B) : Conditions A → Conditions B
  | [] => []
  | (connector, condition) :: rest =>
    (connector, Condition.map f condition) :: Condition.mapList f rest

end

def JoinTarget.map (f : A → B) : JoinTarget A → JoinTarget B
  | .table name => .table name
  | .sub query label => .sub (f query) label

def Join.map (f : A → B) (j : Join A) : Join B :=
  ⟨j.kind, j.target.map f, Condition.mapList f j.conditions⟩

def Order.map (f : A → B) : Order A → Order B
  | .column name direction => .column name direction
  | .raw sql => .raw sql
  | .sub query direction => .sub (f query) direction

def Branch.map (f : A → B) (b : Branch A) : Branch B := ⟨b.all, f b.query⟩

def Clauses.map (f : A → B) (c : Clauses A) : Clauses B :=
  { c with
    source := c.source.map (·.map f)
    columns := c.columns.map (·.map f)
    joins := c.joins.map (·.map f)
    conditions := Condition.mapList f c.conditions
    orders := c.orders.map (·.map f)
    unions := c.unions.map (·.map f)
    unionOrders := c.unionOrders.map (·.map f) }

def Clauses.table? {Q : Type} (c : Clauses Q) : Option Name :=
  match c.source with
  | some (.table name) => some name
  | _ => none

end SqlComposer
