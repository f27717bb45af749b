import SqlComposer.Builder.Basic
import SqlComposer.Connection.Basic
import SqlComposer.Page

/-!
Running what a builder has built: reading rows, single values, aggregates and pages, and
changing rows.
-/

namespace SqlComposer.Builder

variable (b : Builder)

/-! ## The statements that are run -/

def existsStatement : Statement := b.statementOf (b.setting.holdsRow b.compiled)

/-- The same rows under an aggregate. Without unions the projection and the orders go. -/
def aggregated (function : String) (columns : List String) : Builder :=
  let counted :=
    if b.clauses.unions.isEmpty then
      { (b.unbound .select).unbound .order with
        clauses := { b.clauses with columns := [], orders := [] } }
    else b
  { counted with clauses := { counted.clauses with aggregate := some ⟨function, columns⟩ } }

def unlimited : Builder :=
  { b with
    clauses := { b.clauses with
      limit := none, offset := none, unionLimit := none, unionOffset := none } }

/-- The rows that a page count goes over. Grouped rows are counted from outside. -/
def counter : Builder :=
  let rows := b.reorder.unlimited
  if rows.clauses.groups.isEmpty ∧ rows.clauses.havings.isEmpty then rows
  else rows.fresh.sourceSub rows "aggregate_table"

def insertStatement (records : List Record) : Except Misuse Statement :=
  (b.setting.insert b.compiled records).map b.statementOf

def insertOrIgnoreStatement (records : List Record) : Except Misuse Statement :=
  (b.setting.insertOrIgnore b.compiled records).map b.statementOf

def insertGetIdStatement (r : Record) (key : String) : Except Misuse Statement :=
  (b.setting.insertGetId b.compiled r key).map b.statementOf

def insertUsingStatement (columns : List String) (rows : Builder) : Except Misuse Statement :=
  (b.setting.insertUsing b.compiled columns (b.setting.query rows.query)).map b.statementOf

def upsertStatement (records : List Record) (uniqueBy update : List String) :
    Except Misuse Statement :=
  (b.setting.upsert b.compiled records uniqueBy update).map b.statementOf

def updateStatement (r : Record) : Except Misuse Statement :=
  (b.setting.update b.compiled r).map b.statementOf

def deleteStatement : Except Misuse Statement :=
  (b.setting.delete b.compiled).map b.statementOf

def truncateStatement : Except Misuse Statement :=
  (b.setting.truncate b.compiled).map b.statementOf

def stepRecord (column sign : String) (amount : Int64) : Record :=
  let wrapped := (b.statementOf (b.setting.column column)).sql
  Record.ofList [(column, .expression (wrapped ++ " " ++ sign ++ " " ++ toString amount.toInt))]

/-! ## Reading -/

variable {m : Type → Type} [Monad m] [Connection m]

def get : Run m (List Row) := Run.fetchAll b.statement

def first : Run m (Option Row) := do
  let rows ← (b.limit 1).get
  return rows.head?

def find (id : Operand) : Run m (Option Row) := do
  let found ← Run.ofExcept (b.compare .and "id" [id])
  found.first

def value (column : String) : Run m (Option Value) := do
  let row ← (b.select [column]).first
  return row.bind Row.first?

def pluck (column : String) : Run m (List Value) := do
  let rows ← (b.select [column]).get
  return rows.filterMap Row.first?

def exists? : Run m Bool := do
  let rows ← Run.fetchAll b.existsStatement
  match rows.head? with
  | some row => Run.ofRead (row.read "exists" Value.bool?)
  | none => return false

def aggregate (function : String) (columns : List String) : Run m Value := do
  let rows ← (b.aggregated function columns).get
  match rows.head?.bind fun row => row.get? "aggregate" with
  | some v => return v
  | none => Run.fail (.emptyAggregate function)

def count : Run m Int64 := do
  let v ← b.aggregate "count" ["*"]
  match v.int64? with
  | some n => return n
  | none => Run.fail (.unexpected "count" v)

def numericAggregate (function column : String) : Run m Binary64 := do
  let v ← b.aggregate function [column]
  if v.isNull then return Binary64.zero false
  match v.float? with
  | some x => return x
  | none => Run.fail (.unexpected function v)

/-- One page of the rows and the number of rows on all pages. Where there are none, only the
count is run. -/
def paginate (perPage page : UInt64) : Run m Page := do
  let (perPage, page) := Page.normalize perPage page
  let n ← b.counter.count
  let total := UInt64.ofNat n.toInt.toNat
  let items ← if total = 0 then pure [] else (b.page page perPage).get
  return Page.ofRows total perPage page items

/-! ## Changing -/

def run (statement : Except Misuse Statement) : Run m UInt64 := do
  let statement ← Run.ofExcept statement
  let outcome ← Run.execute statement
  return outcome.rowsAffected

def insert (records : List Record) : Run m UInt64 :=
  if records.isEmpty then return 0 else run (b.insertStatement records)

def insertOrIgnore (records : List Record) : Run m UInt64 :=
  if records.isEmpty then return 0 else run (b.insertOrIgnoreStatement records)

def upsert (records : List Record) (uniqueBy update : List String) : Run m UInt64 :=
  if records.isEmpty then return 0 else run (b.upsertStatement records uniqueBy update)

def insertGetId (r : Record) (sequence : Option String) : Run m Int64 := do
  let key := sequence.getD "id"
  let statement ← Run.ofExcept (b.insertGetIdStatement r key)
  if b.setting.dialect.returnsInsertedId then
    let rows ← Run.fetchAll statement
    let v := (rows.head?.bind Row.first?).getD .null
    match v.int64? with
    | some n => return n
    | none => Run.fail (.unexpected key v)
  else
    let outcome ← Run.execute statement
    match outcome.lastInsertId with
    | some n => return n
    | none => Run.fail (.decode key (b.setting.dialect.name ++ " reported no inserted id"))

def insertUsing (columns : List String) (rows : Builder) : Run m UInt64 :=
  run (b.insertUsingStatement columns rows)

def update (r : Record) : Run m UInt64 := run (b.updateStatement r)

def increment (column : String) (amount : Int64) : Run m UInt64 :=
  b.update (b.stepRecord column "+" amount)

def decrement (column : String) (amount : Int64) : Run m UInt64 :=
  b.update (b.stepRecord column "-" amount)

def delete : Run m UInt64 := run b.deleteStatement

def truncate : Run m Unit := discard (run (m := m) b.truncateStatement)

end SqlComposer.Builder
