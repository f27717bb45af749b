import SqlComposer.Error
import SqlComposer.Record
import SqlComposer.Statement.Select

/-!
Inserts. The first record fixes the columns and their order; every other record sets the same
columns, in whatever order it set them.
-/

namespace SqlComposer

open Fragment

namespace Setting

variable (s : Setting)

/-- What is written to: a table, or raw SQL in its place. -/
def written (c : Clauses Fragment) : Except Misuse Fragment :=
  match c.source with
  | some (.table name) => .ok (s.table name)
  | some (.raw sql) => .ok (Fragment.raw sql)
  | _ => .error .tableRequired

def rowOperands (columns : List String) (r : Record) : Except Misuse (List Operand) :=
  if r.size = columns.length then
    columns.mapM fun column =>
      match r.get? column with
      | some o => .ok o
      | none => .error (.missingColumn column)
  else .error (.columnCount r.size columns.length)

def insertRow (columns : List String) (r : Record) : Except Misuse Fragment := do
  let list ← rowOperands columns r
  return cat ["(", operands list, ")"]

/-- An insert under a verb such as `insert ignore`. A first record without columns, or none at
all, inserts a row of defaults. -/
def insertAs (verb : String) (c : Clauses Fragment) (records : List Record) :
    Except Misuse Fragment := do
  let target ← s.written c
  match records.head?.filter (!·.isEmpty) with
  | none => return cat [verb ++ " into ", target, " default values"]
  | some first =>
    let rows ← records.mapM (insertRow first.columns)
    return cat [verb ++ " into ", target, " (", s.columns first.columns, ") values ", commas rows]

def insert (c : Clauses Fragment) (records : List Record) : Except Misuse Fragment :=
  s.insertAs "insert" c records

def insertOrIgnore (c : Clauses Fragment) (records : List Record) : Except Misuse Fragment :=
  match s.dialect with
  | .generic => .error (.unsupported "insert or ignore" s.dialect.name)
  | .mysql => s.insertAs "insert ignore" c records
  | .sqlite => s.insertAs "insert or ignore" c records
  | .postgres => do
    let inserted ← s.insert c records
    return cat [inserted, " on conflict do nothing"]

def insertGetId (c : Clauses Fragment) (r : Record) (key : String) : Except Misuse Fragment := do
  let inserted ← s.insert c [r]
  return if s.dialect.returnsInsertedId then cat [inserted, " returning ", ident key] else inserted

def insertUsing (c : Clauses Fragment) (columns : List String) (rows : Fragment) :
    Except Misuse Fragment := do
  let target ← s.written c
  return if columns.isEmpty then cat ["insert into ", target, " ", rows]
    else cat ["insert into ", target, " (", s.columns columns, ") ", rows]

def upsert (c : Clauses Fragment) (records : List Record) (uniqueBy update : List String) :
    Except Misuse Fragment :=
  match s.dialect with
  | .generic => .error (.unsupported "upsert" s.dialect.name)
  | .mysql =>
    if update.isEmpty then s.insertOrIgnore c records
    else do
      let inserted ← s.insert c records
      let assigned := update.map fun column =>
        cat [ident column, " = values(", ident column, ")"]
      return cat [inserted, " on duplicate key update ", commas assigned]
  | _ => do
    let inserted ← s.insert c records
    let conflict := cat [inserted, " on conflict (", idents uniqueBy, ") do "]
    let assigned := update.map fun column =>
      cat [ident column, " = ", ident "excluded", ".", ident column]
    return if update.isEmpty then cat [conflict, "nothing"]
      else cat [conflict, "update set ", commas assigned]

end Setting

end SqlComposer
