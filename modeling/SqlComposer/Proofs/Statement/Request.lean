import SqlComposer.Builder.Run

/-!
What can be asked of the clauses of a statement: the rows they select, whether there is one, or a
change to the table they name. Every statement a builder runs answers such a request.
-/

namespace SqlComposer

inductive Request where
  | select
  | holdsRow
  | insert (records : List Record)
  | insertOrIgnore (records : List Record)
  | insertGetId (record : Record) (key : String)
  | insertUsing (columns : List String) (rows : Query)
  | upsert (records : List Record) (uniqueBy updated : List String)
  | update (record : Record)
  | delete
  | truncate

namespace Request

def compile (s : Setting) (c : Clauses Fragment) : Request → Except Misuse Fragment
  | select => .ok (s.select c)
  | holdsRow => .ok (s.holdsRow c)
  | insert records => s.insert c records
  | insertOrIgnore records => s.insertOrIgnore c records
  | insertGetId record key => s.insertGetId c record key
  | insertUsing columns rows => s.insertUsing c columns (s.query rows)
  | upsert records uniqueBy updated => s.upsert c records uniqueBy updated
  | update record => s.update c record
  | delete => s.delete c
  | truncate => s.truncate c

def statement (s : Setting) (c : Clauses Query) (r : Request) : Except Misuse Statement :=
  (r.compile s (s.compiled c)).map (·.statement s.dialect.style)

variable (b : Builder)

theorem statement_select : select.statement b.setting b.clauses = .ok b.statement := by
  simp [statement, compile, Except.map, Builder.statement, Builder.statementOf, Builder.fragment,
    Builder.query, Setting.query_mk]

theorem statement_holdsRow :
    holdsRow.statement b.setting b.clauses = .ok b.existsStatement := rfl

theorem statement_insert (records : List Record) :
    (insert records).statement b.setting b.clauses = b.insertStatement records := rfl

theorem statement_insertOrIgnore (records : List Record) :
    (insertOrIgnore records).statement b.setting b.clauses = b.insertOrIgnoreStatement records :=
  rfl

theorem statement_insertGetId (record : Record) (key : String) :
    (insertGetId record key).statement b.setting b.clauses =
      b.insertGetIdStatement record key := rfl

theorem statement_insertUsing (columns : List String) (rows : Builder) :
    (insertUsing columns rows.query).statement b.setting b.clauses =
      b.insertUsingStatement columns rows := rfl

theorem statement_upsert (records : List Record) (uniqueBy updated : List String) :
    (upsert records uniqueBy updated).statement b.setting b.clauses =
      b.upsertStatement records uniqueBy updated := rfl

theorem statement_update (record : Record) :
    (update record).statement b.setting b.clauses = b.updateStatement record := rfl

theorem statement_delete : delete.statement b.setting b.clauses = b.deleteStatement := rfl

theorem statement_truncate : truncate.statement b.setting b.clauses = b.truncateStatement := rfl

end Request

end SqlComposer
