import SqlComposer.Dialect
import SqlComposer.Error
import SqlComposer.Text.Escaped

/-!
Dialects by driver name, in the order of the names.
-/

namespace SqlComposer

structure Registry where
  entries : List (String × Dialect) := []
  deriving DecidableEq, Repr, Inhabited

namespace Registry

def place (driver : String) (d : Dialect) : List (String × Dialect) → List (String × Dialect)
  | [] => [(driver, d)]
  | entry :: rest =>
    if driver < entry.1 then (driver, d) :: entry :: rest
    else if driver = entry.1 then (driver, d) :: rest
    else entry :: place driver d rest

def register (r : Registry) (driver : String) (d : Dialect) : Registry :=
  ⟨place driver d r.entries⟩

def get (r : Registry) (driver : String) : Except QueryError Dialect :=
  match r.entries.find? fun entry => entry.1 = driver with
  | some entry => .ok entry.2
  | none => .error (.unknownDriver driver)

def drivers (r : Registry) : List String := r.entries.map (·.1)

def defaults : Registry :=
  [("sql", .generic), ("mysql", .mysql), ("postgres", .postgres), ("pgsql", .postgres),
    ("sqlite3", .sqlite), ("sqlite", .sqlite)].foldl (fun r (driver, d) => r.register driver d) {}

def diagnostic (r : Registry) : String :=
  "GrammarRegistry \x7b drivers: [" ++ ", ".intercalate (r.drivers.map Text.diagnostic) ++ "] \x7d"

theorem find?_place (driver : String) (d : Dialect) (entries : List (String × Dialect)) :
    (place driver d entries).find? (fun entry => entry.1 = driver) = some (driver, d) := by
  induction entries with
  | nil => simp [place]
  | cons entry rest ih =>
    by_cases before : driver < entry.1
    · simp [place, before]
    · by_cases same : driver = entry.1
      · simp [place, same]
      · simp [place, before, same, ih, Ne.symm same]

theorem get_register (r : Registry) (driver : String) (d : Dialect) :
    (r.register driver d).get driver = .ok d := by
  simp [get, register, find?_place]

end Registry

end SqlComposer
