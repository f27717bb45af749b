import SqlComposer.Fragment.Context
import SqlComposer.Fragment.Names
import SqlComposer.Query.Basic

/-!
Select statements. Each function takes clauses whose sub-selects are fragments already, so a
whole statement is a fold: `Setting.query`. Clauses come in the order projection, source, joins,
conditions, groups, havings, orders, limit and offset, lock, and the bindings with them.
-/

namespace SqlComposer

open Fragment

/-- The dialect statements are written in and the prefix of their tables. -/
structure Setting where
  dialect : Dialect
  tablePrefix : String := ""
  deriving DecidableEq, Repr, Inhabited

def DatePart.keyword : DatePart → String
  | date => "date"
  | time => "time"
  | day => "day"
  | month => "month"
  | year => "year"

def DatePart.conversion : DatePart → String
  | date => "%Y-%m-%d"
  | time => "%H:%M:%S"
  | day => "%d"
  | month => "%m"
  | year => "%Y"

def JoinKind.keyword : JoinKind → String
  | inner => "inner"
  | left => "left"
  | right => "right"
  | cross => "cross"

def Direction.keyword : Direction → String
  | asc => "asc"
  | desc => "desc"

def negation (negated : Bool) : String := if negated then "not " else ""

def segment {A : Type} (entries : List A) (f : Fragment) : List Fragment :=
  if entries.isEmpty then [] else [f]

namespace Dialect

def offsetOnly (d : Dialect) (offset : UInt64) : String :=
  match d with
  | postgres => "offset " ++ toString offset.toNat
  | sqlite => "limit -1 offset " ++ toString offset.toNat
  | _ => "limit 18446744073709551615 offset " ++ toString offset.toNat

def limitOffset (d : Dialect) : Option UInt64 → Option UInt64 → String
  | some limit, some offset =>
    "limit " ++ toString limit.toNat ++ " offset " ++ toString offset.toNat
  | some limit, none => "limit " ++ toString limit.toNat
  | none, some offset => d.offsetOnly offset
  | none, none => ""

def lock : Dialect → Lock → String
  | sqlite, _ => ""
  | _, .update => "for update"
  | postgres, .share => "for share"
  | _, .share => "lock in share mode"

def unionBody (d : Dialect) (f : Fragment) : Fragment :=
  match d with
  | sqlite => cat ["select * from (", f, ")"]
  | _ => cat ["(", f, ")"]

def branch (d : Dialect) (b : Branch Fragment) : Fragment :=
  cat [if b.all then "union all " else "union ", d.unionBody b.query]

end Dialect

namespace Setting

variable (s : Setting)

def column (text : String) : Fragment := Fragment.column s.tablePrefix text

def columns (list : List String) : Fragment := Fragment.columns s.tablePrefix list

def table (name : Name) : Fragment := Fragment.table s.tablePrefix name

def tableText (text : String) : Fragment := Fragment.tableText s.tablePrefix text

def distinct (distinct : Distinct) : Fragment :=
  match distinct, s.dialect with
  | .off, _ => "select"
  | .on columns, .postgres => cat ["select distinct on (", s.columns columns, ")"]
  | _, _ => "select distinct"

/-- `*` alone is never counted distinctly. -/
def aggregate (distinct : Distinct) (a : Aggregate) : Fragment :=
  let columns := s.columns a.columns
  let starOnly := columns.pieces == [.ident "*"]
  let cast :=
    if s.dialect = .postgres ∧ (a.function = "sum" ∨ a.function = "avg") then "::float8" else ""
  cat ["select " ++ a.function ++ "(",
    if distinct ≠ .off ∧ !starOnly then cat ["distinct ", columns] else columns,
    ")" ++ cast ++ " as aggregate"]

def selection : Selection Fragment → Fragment
  | .column name => s.column name
  | .raw sql => Fragment.raw sql
  | .sub query label => cat ["(", query, ") as ", ident label]

def projection (c : Clauses Fragment) : Fragment :=
  if c.columns.isEmpty then cat [s.distinct c.distinct, " *"]
  else cat [s.distinct c.distinct, " ", commas (c.columns.map s.selection)]

def source : Source Fragment → Fragment
  | .table name => cat ["from ", s.table name]
  | .sub query label => cat ["from (", query, ") as ", s.tableText label]
  | .raw sql => cat ["from ", Fragment.raw sql]

def compareDate (part : DatePart) (name operator : String) (o : Operand) : Fragment :=
  match s.dialect with
  | .postgres =>
    match part with
    | .date => cat [s.column name, "::date " ++ operator ++ " ", operand o, "::date"]
    | .time => cat [s.column name, "::time " ++ operator ++ " ", operand o, "::time"]
    | other =>
      cat ["extract(" ++ other.keyword ++ " from ", s.column name, ") " ++ operator ++ " ",
        operand o, "::int"]
  | .sqlite =>
    let right :=
      match o with
      | .value _ => cat ["cast(", operand o, " as text)"]
      | .expression _ => operand o
    cat ["strftime('" ++ part.conversion ++ "', ", s.column name, ") " ++ operator ++ " ", right]
  | _ => cat [part.keyword ++ "(", s.column name, ") " ++ operator ++ " ", operand o]

def compare (name operator : String) (o : Operand) : Fragment :=
  cat [s.column name, " " ++ operator ++ " ", operand o]

def between (name : String) (low high : Operand) (negated : Bool) : Fragment :=
  cat [s.column name, " " ++ negation negated ++ "between ", operand low, " and ", operand high]

def isNull (name : String) (negated : Bool) : Fragment :=
  cat [s.column name, " is " ++ negation negated ++ "null"]

mutual

def condition : Condition Fragment → Fragment
  | .compare name operator o => s.compare name operator o
  | .compareSub name operator query => cat [s.column name, " " ++ operator ++ " (", query, ")"]
  | .nested list => cat ["(", conditions list, ")"]
  | .raw sql => Fragment.raw sql
  | .between name low high negated => s.between name low high negated
  | .inList name list negated =>
    if list.isEmpty then (if negated then "1 = 1" else "0 = 1" : String)
    else cat [s.column name, " " ++ negation negated ++ "in (", operands list, ")"]
  | .inSub name query negated =>
    cat [s.column name, " " ++ negation negated ++ "in (", query, ")"]
  | .isNull name negated => s.isNull name negated
  | .compareColumns first operator second =>
    cat [s.column first, " " ++ operator ++ " ", s.column second]
  | .holdsRow query negated => cat [negation negated ++ "exists (", query, ")"]
  | .compareDate part name operator o => s.compareDate part name operator o

def conditions : List (Connector × Condition Fragment) → Fragment
  | [] => {}
  | (_, first) :: rest => cat [condition first, furtherConditions rest]

def furtherConditions : List (Connector × Condition Fragment) → Fragment
  | [] => {}
  | (connector, next) :: rest =>
    cat [" " ++ connector.keyword ++ " ", condition next, furtherConditions rest]

end

def joinTarget : JoinTarget Fragment → Fragment
  | .table name => s.table name
  | .sub query label => cat ["(", query, ") as ", s.tableText label]

def join (j : Join Fragment) : Fragment :=
  let head := cat [j.kind.keyword ++ " join ", s.joinTarget j.target]
  if j.conditions.isEmpty then head else cat [head, " on ", s.conditions j.conditions]

def joins (list : List (Join Fragment)) : Fragment := separated " " (list.map s.join)

def whereClause (list : Conditions Fragment) : Fragment := cat ["where ", s.conditions list]

def group : Group → Fragment
  | .column name => s.column name
  | .raw sql => Fragment.raw sql

def groups (list : List Group) : Fragment := cat ["group by ", commas (list.map s.group)]

def having : Having → Fragment
  | .compare name operator o => s.compare name operator o
  | .raw sql => Fragment.raw sql
  | .between name low high negated => s.between name low high negated
  | .isNull name negated => s.isNull name negated

def havings : List (Connector × Having) → Fragment
  | [] => "having "
  | (_, first) :: rest =>
    cat ["having ", s.having first,
      cat (rest.map fun (connector, next) => cat [" " ++ connector.keyword ++ " ", s.having next])]

def order : Order Fragment → Fragment
  | .column name direction => cat [s.column name, " " ++ direction.keyword]
  | .raw sql => Fragment.raw sql
  | .sub query direction => cat ["(", query, ") " ++ direction.keyword]

def orders (list : List (Order Fragment)) : Fragment :=
  cat ["order by ", commas (list.map s.order)]

def body (c : Clauses Fragment) : Fragment :=
  joined <|
    [match c.aggregate with
      | some a => s.aggregate c.distinct a
      | none => s.projection c] ++
    (c.source.map s.source).toList ++
    segment c.joins (s.joins c.joins) ++
    segment c.conditions (s.whereClause c.conditions) ++
    segment c.groups (s.groups c.groups) ++
    segment c.havings (s.havings c.havings) ++
    segment c.orders (s.orders c.orders) ++
    [(s.dialect.limitOffset c.limit c.offset : Fragment)] ++
    (c.lock.map fun lock => ofText (s.dialect.lock lock)).toList

def unions (c : Clauses Fragment) : Fragment :=
  joined <|
    c.unions.map s.dialect.branch ++
    segment c.unionOrders (s.orders c.unionOrders) ++
    [(s.dialect.limitOffset c.unionLimit c.unionOffset : Fragment)]

def united (c : Clauses Fragment) : Fragment :=
  if c.unions.isEmpty then s.body c
  else cat [s.dialect.unionBody (s.body c), " ", s.unions c]

def unionAggregate (c : Clauses Fragment) : Fragment :=
  match c.aggregate with
  | some a =>
    cat [s.aggregate .off a, " from (", s.united { c with aggregate := none }, ") as ",
      s.tableText "temp_table"]
  | none => s.united c

def select (c : Clauses Fragment) : Fragment :=
  if c.aggregate.isSome ∧ !c.unions.isEmpty then s.unionAggregate c else s.united c

def query (q : Query) : Fragment := q.fold s.select

def compiled (c : Clauses Query) : Clauses Fragment := c.map s.query

def holdsRow (c : Clauses Fragment) : Fragment :=
  cat ["select exists(", s.select c, ") as ", ident "exists"]

theorem query_mk (c : Clauses Query) : s.query (.mk c) = s.select (s.compiled c) :=
  Query.fold_mk s.select c

theorem query_of_alone {c : Clauses Query} (alone : c.unions = []) :
    s.query (.mk c) = s.body (s.compiled c) := by
  have none : (s.compiled c).unions.isEmpty = true := by simp [compiled, Clauses.map, alone]
  rw [query_mk, select, if_neg (by simp [none]), united, if_pos none]

end Setting

end SqlComposer
