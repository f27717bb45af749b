import SqlComposer.Connection.Row
import SqlComposer.Fragment.Context

/-!
What statements are run on: something that answers a statement with rows or with the outcome of
a change, or refuses it.
-/

namespace SqlComposer

structure Outcome where
  rowsAffected : UInt64 := 0
  lastInsertId : Option Int64 := none
  deriving DecidableEq, Repr, Inhabited

class Connection (m : Type → Type) where
  fetchAll : Statement → m (Except QueryError (List Row))
  execute : Statement → m (Except QueryError Outcome)

abbrev Run (m : Type → Type) (A : Type) := ExceptT Failure m A

namespace Run

variable {m : Type → Type} [Monad m] {A : Type}

def ofExcept (result : Except Misuse A) : Run m A := ExceptT.mk <| pure <| result.mapError .misuse

def ofRead (result : Except QueryError A) : Run m A := ExceptT.mk <| pure <| result.mapError .error

def fail (e : QueryError) : Run m A := throw (.error e)

/-- Treats an error as a mistake of the caller. -/
def must (run : Run m A) : Run m A :=
  tryCatch run fun
    | .error e => throw (.misuse (.unhandled e))
    | other => throw other

def attempt (run : Run m A) : Run m (Except QueryError A) :=
  tryCatch (do return .ok (← run)) fun
    | .error e => return .error e
    | other => throw other

variable [Connection m]

def fetchAll (s : Statement) : Run m (List Row) := do
  let answer ← ExceptT.lift (Connection.fetchAll s)
  ofRead answer

def execute (s : Statement) : Run m Outcome := do
  let answer ← ExceptT.lift (Connection.execute s)
  ofRead answer

end Run

end SqlComposer
