import SqlComposer.Value.Basic

/-!
What can go wrong: calls that no statement can be made from, and errors met while running one.
-/

namespace SqlComposer

structure CommandFailure where
  command : String
  reason : String
  deriving DecidableEq, Repr

namespace CommandFailure

def message (f : CommandFailure) : String := f.command ++ ": " ++ f.reason

end CommandFailure

inductive QueryError where
  | database (reason : String)
  | emptyAggregate (function : String)
  | unknownDriver (driver : String)
  | unsupportedDriver (driver : String)
  | tableNotFound (table : String)
  | columnNotFound (column : String)
  | decode (column reason : String)
  | introspection (table reason : String)
  | createTable (table : String) (cause : QueryError)
  | alter (table : String) (failures : List CommandFailure)
  | configuration
  deriving Repr

namespace QueryError

def message : QueryError → String
  | database reason => "Database error: " ++ reason
  | emptyAggregate function => "aggregate " ++ function ++ " get nothing"
  | unknownDriver driver => "Unknown driver: " ++ driver
  | unsupportedDriver driver => "Unsupported driver: " ++ driver
  | tableNotFound table => "Table not found: " ++ table
  | columnNotFound column => "Column not found: " ++ column
  | decode column reason => "Failed to decode column '" ++ column ++ "': " ++ reason
  | introspection table reason => "Failed to introspect table '" ++ table ++ "': " ++ reason
  | createTable table cause => "Failed to create table '" ++ table ++ "': " ++ cause.message
  | alter table failures =>
    "Failed to alter table '" ++ table ++ "':\n" ++
      "\n".intercalate (failures.map fun f => "  - " ++ f.message)
  | configuration => "Invalid configuration"

def unexpected (column : String) (v : Value) : QueryError :=
  decode column ("unexpected value " ++ v.diagnostic)

end QueryError

/-- A call that makes no sense whatever the database holds. -/
inductive Misuse where
  | argumentCount
  | unknownOperator (operator : String)
  | operatorExpected (operand : Operand)
  | connectorExpected (operand : Operand)
  | columnExpected (operand : Operand)
  | conditionOutsideJoin
  | tableRequired
  | unsupported (feature dialect : String)
  | columnCount (found expected : Nat)
  | missingColumn (column : String)
  | unhandled (error : QueryError)
  deriving Repr

namespace Misuse

def message : Misuse → String
  | argumentCount => "expected one to three arguments"
  | unknownOperator operator => "invalid operator: " ++ operator
  | operatorExpected operand => "invalid operator: " ++ operand.diagnostic
  | connectorExpected operand => "invalid boolean: " ++ operand.diagnostic
  | columnExpected operand =>
    "column comparisons take a column name, got " ++ operand.diagnostic
  | conditionOutsideJoin => "`on` is only available inside a join clause"
  | tableRequired => "insert, update and delete statements require a table"
  | unsupported feature dialect =>
    feature ++ " is not supported by the " ++ dialect ++ " grammar"
  | columnCount found expected =>
    "assertion `left == right` failed: every inserted record must set the same columns\n  left: " ++
      toString found ++ "\n right: " ++ toString expected
  | missingColumn column => "inserted record is missing column `" ++ column ++ "`"
  | unhandled error => error.message

theorem ok_of_bind {A B : Type} {first : Except Misuse A} {next : A → Except Misuse B} {b : B}
    (made : first >>= next = .ok b) : ∃ a, first = .ok a ∧ next a = .ok b := by
  cases first with
  | error m => cases made
  | ok a => exact ⟨a, rfl, made⟩

theorem mem_of_mapM {A B : Type} {g : A → Except Misuse B} {list : List A} {results : List B}
    (made : list.mapM g = .ok results) {b : B} (mem : b ∈ results) :
    ∃ a ∈ list, g a = .ok b := by
  induction list generalizing results with
  | nil =>
    cases made
    cases mem
  | cons a rest ih =>
    rw [List.mapM_cons] at made
    rcases ok_of_bind made with ⟨first, one, tail⟩
    rcases ok_of_bind tail with ⟨others, more, same⟩
    cases same
    rcases List.mem_cons.mp mem with rfl | mem
    · exact ⟨a, List.mem_cons_self, one⟩
    · rcases ih more mem with ⟨later, listed, found⟩
      exact ⟨later, List.mem_cons_of_mem a listed, found⟩

end Misuse

inductive Failure where
  | error (e : QueryError)
  | misuse (m : Misuse)
  deriving Repr

end SqlComposer
