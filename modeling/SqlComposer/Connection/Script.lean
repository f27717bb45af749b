import SqlComposer.Connection.Basic

/-!
A connection that answers from a script: queued rows, a fixed outcome for changes, and the
numbers of the statements to refuse. It keeps every statement it was given.
-/

namespace SqlComposer

inductive Call where
  | fetchAll
  | execute
  deriving DecidableEq, Repr

structure Script where
  answers : List (List Row) := []
  refused : List Nat := []
  outcome : Outcome := {}
  calls : List (Call × Statement) := []
  deriving Inhabited

namespace Script

def record (s : Script) (call : Call) (statement : Statement) : Option QueryError × Script :=
  let number := s.calls.length
  (if number ∈ s.refused then
      some (.database ("statement " ++ toString number ++ " rejected"))
    else none,
    { s with calls := s.calls ++ [(call, statement)] })

def fetchAll (statement : Statement) (s : Script) : Except QueryError (List Row) × Script :=
  match s.record .fetchAll statement with
  | (some e, s) => (.error e, s)
  | (none, s) => (.ok (s.answers.head?.getD []), { s with answers := s.answers.tail })

def execute (statement : Statement) (s : Script) : Except QueryError Outcome × Script :=
  match s.record .execute statement with
  | (some e, s) => (.error e, s)
  | (none, s) => (.ok s.outcome, s)

instance : Connection (StateM Script) where
  fetchAll statement := fun s => s.fetchAll statement
  execute statement := fun s => s.execute statement

def run {A : Type} (s : Script) (action : Run (StateM Script) A) : Except Failure A × Script :=
  StateT.run (m := Id) (ExceptT.run action) s

end Script

end SqlComposer
