import SqlComposer.Schema.ColumnType
import SqlComposer.Value.Basic

/-!
Columns and the modifiers that shape them.
-/

namespace SqlComposer

inductive DefaultValue where
  | literal (v : Value)
  | expression (sql : String)
  deriving DecidableEq, Repr

namespace DefaultValue

/-- Binary data has no literal of its own here and is kept as the SQL that denotes it. -/
def ofValue : Value → DefaultValue
  | .blob bytes => expression (Value.blob bytes).inline
  | v => literal v

def sql : DefaultValue → String
  | literal v => v.inline
  | expression sql => sql

theorem sql_ofValue (v : Value) : (ofValue v).sql = v.inline := by
  cases v <;> rfl

end DefaultValue

/-- What a declaration asks for beside the column itself, until the blueprint is finished. -/
structure Pending where
  unique : Bool := false
  index : Bool := false
  primary : Bool := false
  change : Bool := false
  deriving DecidableEq, Repr, Inhabited

/-- `nativeType` is what a database reported; `indexes` names the indexes over the column. -/
structure Column where
  name : String
  type : ColumnType
  nativeType : Option String := none
  nullable : Bool := false
  default : Option DefaultValue := none
  length : Option UInt32 := none
  precision : Option UInt32 := none
  scale : Option UInt32 := none
  unsigned : Bool := false
  autoIncrement : Bool := false
  comment : Option String := none
  options : List String := []
  indexes : List String := []
  primary : Bool := false
  position : Nat := 0
  pending : Pending := {}
  deriving DecidableEq, Repr

inductive Modifier where
  | nullable
  | notNull
  | default (v : Value)
  | defaultRaw (sql : String)
  | comment (text : String)
  | unsigned
  | autoIncrement
  | length (n : UInt32)
  | precision (precision scale : UInt32)
  | unique
  | index
  | primary
  | change
  deriving DecidableEq, Repr

namespace Column

def isEnum (c : Column) : Bool := c.type = .enum

def modify (c : Column) : Modifier → Column
  | .nullable => { c with nullable := true }
  | .notNull => { c with nullable := false }
  | .default v => { c with default := some (.ofValue v) }
  | .defaultRaw sql => { c with default := some (.expression sql) }
  | .comment text => { c with comment := some text }
  | .unsigned => { c with unsigned := true }
  | .autoIncrement => { c with autoIncrement := true }
  | .length n => { c with length := some n }
  | .precision precision scale => { c with precision := some precision, scale := some scale }
  | .unique => { c with pending := { c.pending with unique := true } }
  | .index => { c with pending := { c.pending with index := true } }
  | .primary => { c with pending := { c.pending with primary := true } }
  | .change => { c with pending := { c.pending with change := true } }

def modifyAll (c : Column) (modifiers : List Modifier) : Column := modifiers.foldl modify c

def settled (c : Column) : Column := { c with pending := {} }

end Column

end SqlComposer
