/-!
The dialects of SQL that statements are written in.
-/

namespace SqlComposer

inductive Dialect where
  | generic
  | mysql
  | postgres
  | sqlite
  deriving DecidableEq, Repr, Inhabited

inductive Placeholder where
  | question
  | numbered
  deriving DecidableEq, Repr

namespace Dialect

def name : Dialect → String
  | generic => "sql"
  | mysql => "mysql"
  | postgres => "postgres"
  | sqlite => "sqlite3"

def quote : Dialect → Char
  | postgres => '"'
  | _ => '`'

def placeholder : Dialect → Placeholder
  | postgres => .numbered
  | _ => .question

def randomFunction : Dialect → String
  | mysql => "RAND()"
  | _ => "RANDOM()"

/-- Whether an insert that reports the new key answers with a row. -/
def returnsInsertedId : Dialect → Bool
  | postgres => true
  | _ => false

end Dialect

def Placeholder.mark : Placeholder → Nat → String
  | question, _ => "?"
  | numbered, n => "$" ++ toString n

end SqlComposer
