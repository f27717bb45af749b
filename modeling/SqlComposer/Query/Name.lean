import SqlComposer.Text.Blank
import SqlComposer.Text.Split

/-!
Names as they are written in calls: an expression or a table, with an optional label after
` as `. The last ` as ` counts.
-/

namespace SqlComposer

def splitLabel (s : String) : String × Option String :=
  match Text.cutLastAs s.toList with
  | some (before, after) =>
    (Text.trim (String.ofList before), some (Text.trim (String.ofList after)))
  | none => (Text.trim s, none)

/-- A table reference. A pinned prefix is used in place of the connection's. -/
structure Name where
  pinned : Option String := none
  table : String
  label : Option String := none
  deriving DecidableEq, Repr, Inhabited

namespace Name

def parse (s : String) : Name :=
  let (table, label) := splitLabel s
  { table, label }

def reference (n : Name) : String := n.label.getD n.table

end Name

inductive Connector where
  | and
  | or
  deriving DecidableEq, Repr, Inhabited

namespace Connector

def keyword : Connector → String
  | and => "and"
  | or => "or"

def parse (s : String) : Option Connector :=
  match (Text.trim s).toLower with
  | "and" => some and
  | "or" => some or
  | _ => none

theorem parse_keyword (c : Connector) : parse c.keyword = some c := by
  cases c <;> decide +kernel

end Connector

end SqlComposer
