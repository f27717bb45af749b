import SqlComposer.Builder.Arguments
import SqlComposer.Query.Bindings
import SqlComposer.Statement.Update

/-!
A statement under construction. Beside its clauses a builder keeps the values they bind, sorted
by clause, so that the bindings can be had without compiling.
-/

namespace SqlComposer

structure Builder where
  setting : Setting
  clauses : Clauses Query := {}
  bindings : Bindings := {}
  /-- Set while the conditions of a join are built. -/
  inJoin : Bool := false

namespace Builder

variable (b : Builder)

def fresh : Builder := { setting := b.setting }

def query : Query := .mk b.clauses

def held : List Value := b.bindings.toList

def compiled : Clauses Fragment := b.setting.compiled b.clauses

def fragment : Fragment := b.setting.query b.query

def statementOf (f : Fragment) : Statement := f.statement b.setting.dialect.style

def statement : Statement := b.statementOf b.fragment

def bound (k : BindingClass) (values : List Value) : Builder :=
  { b with bindings := b.bindings.extend k values }

def unbound (k : BindingClass) : Builder := { b with bindings := b.bindings.clear k }

/-! ## Sources -/

def table (name : String) : Builder :=
  { b with clauses := { source := some (.table (Name.parse name)) }, bindings := {} }

def withSource (source : Source Query) (values : List Value) : Builder :=
  { (b.unbound .source).bound .source values with
    clauses := { b.clauses with source := some source } }

def source (name : String) : Builder := b.withSource (.table (Name.parse name)) []

def sourceRaw (raw : RawSql) : Builder := b.withSource (.raw raw) raw.bindings

def sourceSub (sub : Builder) (label : String) : Builder :=
  b.withSource (.sub sub.query label) sub.held

/-! ## Projection -/

def select (columns : List String) : Builder :=
  { b.unbound .select with clauses := { b.clauses with columns := columns.map .column } }

def addSelections (list : List (Selection Query)) (values : List Value) : Builder :=
  { b.bound .select values with
    clauses := { b.clauses with columns := b.clauses.columns ++ list } }

def addSelect (columns : List String) : Builder := b.addSelections (columns.map .column) []

def selectRaw (raw : RawSql) : Builder := b.addSelections [.raw raw] raw.bindings

def selectSub (sub : Builder) (label : String) : Builder :=
  b.addSelections [.sub sub.query label] sub.held

def distinct (distinct : Distinct) : Builder :=
  { b with clauses := { b.clauses with distinct } }

/-! ## Groups, orders and limits

Once a statement has unions, orders and limits are those of the whole union. -/

def addGroups (list : List Group) (values : List Value) : Builder :=
  { b.bound .groupBy values with clauses := { b.clauses with groups := b.clauses.groups ++ list } }

def groupBy (columns : List String) : Builder := b.addGroups (columns.map .column) []

def groupByRaw (raw : RawSql) : Builder := b.addGroups [.raw raw] raw.bindings

def addOrder (order : Order Query) (values : List Value) : Builder :=
  if b.clauses.unions.isEmpty then
    { b.bound .order values with
      clauses := { b.clauses with orders := b.clauses.orders ++ [order] } }
  else
    { b.bound .unionOrder values with
      clauses := { b.clauses with unionOrders := b.clauses.unionOrders ++ [order] } }

def orderBy (column : String) (direction : Direction) : Builder :=
  b.addOrder (.column column direction) []

def orderByRaw (raw : RawSql) : Builder := b.addOrder (.raw raw) raw.bindings

def orderBySub (sub : Builder) (direction : Direction) : Builder :=
  b.addOrder (.sub sub.query direction) sub.held

def randomOrder : Builder := b.orderByRaw ⟨b.setting.dialect.randomFunction, []⟩

def reorder : Builder :=
  { (b.unbound .order).unbound .unionOrder with
    clauses := { b.clauses with orders := [], unionOrders := [] } }

def limit (n : UInt64) : Builder :=
  { b with
    clauses :=
      if b.clauses.unions.isEmpty then { b.clauses with limit := some n }
      else { b.clauses with unionLimit := some n } }

def offset (n : UInt64) : Builder :=
  { b with
    clauses :=
      if b.clauses.unions.isEmpty then { b.clauses with offset := some n }
      else { b.clauses with unionOffset := some n } }

/-- The first row of a page, or the greatest number there is. -/
def pageOffset (page perPage : UInt64) : UInt64 :=
  UInt64.ofNat (min ((page.toNat - 1) * perPage.toNat) (UInt64.size - 1))

def page (page perPage : UInt64) : Builder := (b.offset (pageOffset page perPage)).limit perPage

def lock (lock : Lock) : Builder := { b with clauses := { b.clauses with lock := some lock } }

def union (all : Bool) (sub : Builder) : Builder :=
  { b.bound .union sub.held with
    clauses := { b.clauses with unions := b.clauses.unions ++ [⟨all, sub.query⟩] } }

/-! ## Joins -/

def joinConditions : Builder := { b.fresh with inJoin := true }

def addJoin (kind : JoinKind) (target : JoinTarget Query) (values : List Value)
    (on : Builder) : Builder :=
  { b.bound .join (values ++ on.bindings.conditions) with
    clauses :=
      { b.clauses with joins := b.clauses.joins ++ [⟨kind, target, on.clauses.conditions⟩] } }

def join (kind : JoinKind) (table : String) (on : Builder) : Builder :=
  b.addJoin kind (.table (Name.parse table)) [] on

def joinSub (kind : JoinKind) (sub : Builder) (label : String) (on : Builder) : Builder :=
  b.addJoin kind (.sub sub.query label) sub.held on

def crossJoin (table : String) : Builder := b.join .cross table b.fresh

/-! ## Conditions -/

def addCondition (connector : Connector) (condition : Condition Query) (values : List Value) :
    Builder :=
  { b.bound .conditions values with
    clauses := { b.clauses with conditions := b.clauses.conditions ++ [(connector, condition)] } }

def on (connector : Connector) (first operator second : String) : Except Misuse Builder := do
  if !b.inJoin then throw .conditionOutsideJoin
  let operator ← checkedOperator operator
  return b.addCondition connector (.compareColumns first operator second) []

def isNull (connector : Connector) (column : String) (negated : Bool) : Builder :=
  b.addCondition connector (.isNull column negated) []

/-- Comparison with NULL for equality or inequality asks whether the column is NULL. -/
def compare (connector : Connector) (column : String) (arguments : List Operand) :
    Except Misuse Builder := do
  let c ← Comparison.ofArguments connector arguments
  if c.operand = .value .null ∧ c.operator = "=" then
    return b.isNull c.connector column false
  else if c.operand = .value .null ∧ (c.operator = "!=" ∨ c.operator = "<>") then
    return b.isNull c.connector column true
  else
    return b.addCondition c.connector (.compare column c.operator c.operand) c.operand.bindings

/-- An empty builder for the conditions of a group, on the same source. -/
def nestedConditions : Builder :=
  { b.fresh with clauses := { source := b.clauses.source } }

def nested (connector : Connector) (child : Builder) : Builder :=
  if child.clauses.conditions.isEmpty then b
  else b.addCondition connector (.nested child.clauses.conditions) child.bindings.conditions

def conditionRaw (connector : Connector) (raw : RawSql) : Builder :=
  b.addCondition connector (.raw raw) raw.bindings

def between (connector : Connector) (column : String) (low high : Operand) (negated : Bool) :
    Builder :=
  b.addCondition connector (.between column low high negated) (low.bindings ++ high.bindings)

def inList (connector : Connector) (column : String) (operands : List Operand) (negated : Bool) :
    Builder :=
  b.addCondition connector (.inList column operands negated) (operands.flatMap Operand.bindings)

def inSub (column : String) (sub : Builder) (negated : Bool) : Builder :=
  b.addCondition .and (.inSub column sub.query negated) sub.held

def compareColumns (connector : Connector) (first : String) (arguments : List Operand) :
    Except Misuse Builder := do
  let c ← Comparison.ofArguments connector arguments
  match c.operand.text? with
  | some second => return b.addCondition c.connector (.compareColumns first c.operator second) []
  | none => throw (.columnExpected c.operand)

def holdsRow (connector : Connector) (sub : Builder) (negated : Bool) : Builder :=
  b.addCondition connector (.holdsRow sub.query negated) sub.held

def compareSub (column operator : String) (sub : Builder) : Except Misuse Builder := do
  let operator ← checkedOperator operator
  return b.addCondition .and (.compareSub column operator sub.query) sub.held

def compareDate (connector : Connector) (part : DatePart) (column : String)
    (arguments : List Operand) : Except Misuse Builder := do
  let c ← Comparison.ofArguments connector arguments
  let operand := if part = .day ∨ part = .month then padDatePart c.operand else c.operand
  return b.addCondition c.connector (.compareDate part column c.operator operand) operand.bindings

/-! ## Conditions on groups -/

def addHaving (connector : Connector) (having : Having) (values : List Value) : Builder :=
  { b.bound .having values with
    clauses := { b.clauses with havings := b.clauses.havings ++ [(connector, having)] } }

def having (connector : Connector) (column : String) (arguments : List Operand) :
    Except Misuse Builder := do
  let c ← Comparison.ofArguments connector arguments
  return b.addHaving c.connector (.compare column c.operator c.operand) c.operand.bindings

def havingRaw (connector : Connector) (raw : RawSql) : Builder :=
  b.addHaving connector (.raw raw) raw.bindings

def havingBetween (column : String) (low high : Operand) : Builder :=
  b.addHaving .and (.between column low high false) (low.bindings ++ high.bindings)

def havingNull (column : String) (negated : Bool) : Builder :=
  b.addHaving .and (.isNull column negated) []

end Builder

end SqlComposer
