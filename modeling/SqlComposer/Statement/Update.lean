import SqlComposer.Statement.Insert

/-!
Updates and deletes. Where the dialect cannot join or limit a write, the rows are chosen by
their key: `where key in (select key …)` with the same joins, conditions, orders and limits.
-/

namespace SqlComposer

open Fragment

/-- The column that tells rows apart, where joined and limited writes go through it. -/
def Dialect.rowKey : Dialect → Option String
  | .postgres => some "ctid"
  | .sqlite => some "rowid"
  | _ => none

def unqualified (column : String) : String :=
  match Text.cutLastDot column with
  | some (_, name) => name
  | none => column

/-- Clauses that select the row key alone, otherwise restricted as before. -/
def Clauses.selectingKey {Q : Type} (c : Clauses Q) (key : String) : Clauses Q :=
  let reference :=
    match c.table? with
    | some name => name.reference ++ "." ++ key
    | none => key
  { c with
    columns := [.column reference], aggregate := none, distinct := .off, lock := none,
    unions := [] }

namespace Setting

variable (s : Setting)

def assignment (target : Fragment) (o : Operand) : Fragment := cat [target, " = ", operand o]

def assignments (r : Record) : Fragment :=
  commas (r.entries.map fun (name, o) => assignment (s.column name) o)

def plainAssignments (r : Record) : Fragment :=
  commas (r.entries.map fun (name, o) => assignment (ident (unqualified name)) o)

def conditionSegment (c : Clauses Fragment) : List Fragment :=
  segment c.conditions (s.whereClause c.conditions)

def orderSegment (c : Clauses Fragment) : List Fragment := segment c.orders (s.orders c.orders)

def limitSegment (c : Clauses Fragment) : List Fragment :=
  (c.limit.map fun limit => ofText ("limit " ++ toString limit.toNat)).toList

/-- A write of the rows whose key the same clauses select, or of all that meet the conditions
where neither a join nor a limit restricts them further. -/
def keyedWrite (head : Fragment) (key : String) (c : Clauses Fragment) : Fragment :=
  if c.joins.isEmpty ∧ c.limit.isNone then joined (head :: s.conditionSegment c)
  else cat [head, " where ", ident key, " in (", s.select (c.selectingKey key), ")"]

def update (c : Clauses Fragment) (r : Record) : Except Misuse Fragment := do
  let target ← s.written c
  match s.dialect.rowKey with
  | some key =>
    return s.keyedWrite (cat ["update ", target, " set ", plainAssignments r]) key c
  | none =>
    return joined <|
      [cat ["update ", target]] ++
      segment c.joins (s.joins c.joins) ++
      [cat ["set ", s.assignments r]] ++
      s.conditionSegment c ++
      if c.joins.isEmpty then s.orderSegment c ++ limitSegment c else []

def deletedName (c : Clauses Fragment) : Fragment :=
  match c.table? with
  | some name => prefixed (name.pinned.getD s.tablePrefix) name.reference
  | none => {}

def delete (c : Clauses Fragment) : Except Misuse Fragment := do
  let target ← s.written c
  match s.dialect.rowKey with
  | some key => return s.keyedWrite (cat ["delete from ", target]) key c
  | none =>
    if c.joins.isEmpty then
      return joined <|
        [cat ["delete from ", target]] ++ s.conditionSegment c ++ s.orderSegment c ++
        limitSegment c
    else
      return joined <|
        [cat ["delete ", s.deletedName c, " from ", target], s.joins c.joins] ++
        s.conditionSegment c

def truncate (c : Clauses Fragment) : Except Misuse Fragment := do
  let target ← s.written c
  return match s.dialect with
    | .postgres => cat ["truncate ", target, " restart identity cascade"]
    | .sqlite => cat ["delete from ", target]
    | _ => cat ["truncate table ", target]

end Setting

end SqlComposer
