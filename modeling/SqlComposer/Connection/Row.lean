import SqlComposer.Error
import SqlComposer.Value.Read

/-!
Result rows. A column is looked up by its exact name first and then without regard to the case
of ASCII letters; the first match counts.
-/

namespace SqlComposer

structure Row where
  entries : List (String × Value) := []
  deriving DecidableEq, Repr, Inhabited

namespace Row

def columns (r : Row) : List String := r.entries.map (·.1)

def values (r : Row) : List Value := r.entries.map (·.2)

def first? (r : Row) : Option Value := r.values.head?

def get? (r : Row) (column : String) : Option Value :=
  ((r.entries.find? fun entry => entry.1 = column).or
    (r.entries.find? fun entry => entry.1.toLower = column.toLower)).map (·.2)

def text? (r : Row) (column : String) : Option String := (r.get? column).bind Value.text?

def read {A : Type} (r : Row) (column : String) (read : Value → Option A) :
    Except QueryError A :=
  match r.get? column with
  | none => .error (.columnNotFound column)
  | some v =>
    match read v with
    | some a => .ok a
    | none => .error (.unexpected column v)

def json (r : Row) : String :=
  "\x7b" ++ ",".intercalate (r.entries.map fun (column, v) => Text.json column ++ ":" ++ v.json) ++
    "\x7d"

end Row

end SqlComposer
