import SqlComposer.Schema.Command

/-!
Blueprints: a table and the commands recorded against it. Commands are intentions, so recording
one leaves the table alone; `preview` is the table that they lead to. What a column declaration
asks for beside the column becomes commands of its own when the blueprint is finished.
-/

namespace SqlComposer

inductive Declaration where
  | plain (name : String) (type : ColumnType)
  | string (name : String)
  | char (name : String)
  | increments (name : String)
  | bigIncrements (name : String)
  | unsignedInteger (name : String)
  | unsignedBigInteger (name : String)
  | decimal (name : String) (precision scale : UInt32)
  | enum (name : String) (options : List String)
  deriving DecidableEq, Repr

namespace Declaration

def column : Declaration → Column
  | plain name type => { name, type }
  | string name => { name, type := .string, length := some 255 }
  | char name => { name, type := .char, length := some 255 }
  | increments name => { name, type := .integer, unsigned := true, autoIncrement := true }
  | bigIncrements name => { name, type := .bigInteger, unsigned := true, autoIncrement := true }
  | unsignedInteger name => { name, type := .integer, unsigned := true }
  | unsignedBigInteger name => { name, type := .bigInteger, unsigned := true }
  | decimal name precision scale =>
    { name, type := .decimal, precision := some precision, scale := some scale }
  | enum name options => { name, type := .enum, options }

end Declaration

def timestampColumns : List Column :=
  ["created_at", "updated_at"].map fun name => { name, type := .timestamp, nullable := true }

inductive BlueprintStep where
  | declare (c : Column)
  | timestamps
  | dropColumn (name : String)
  | renameColumn (before after : String)
  | index (unique : Bool) (name : Option String) (columns : List String)
  | primary (columns : List String)
  | dropIndex (name : String)
  | renameIndex (before after : String)
  | dropPrimary
  | finish
  | engine (name : Option String)
  | charset (name : Option String)
  | collation (name : Option String)
  | comment (text : Option String)
  deriving DecidableEq, Repr

structure Blueprint where
  table : Table
  commands : List Command := []
  deriving DecidableEq, Repr

namespace Command

/-- A declaration marked as a change becomes one; nothing is pending any more. -/
def settled : Command → Command
  | addColumn c => if c.pending.change then changeColumn c.settled else addColumn c.settled
  | changeColumn c => changeColumn c.settled
  | other => other

def declared? : Command → Option Column
  | addColumn c | changeColumn c => some c
  | _ => none

end Command

namespace Table

variable (t : Table)

def indexCommand (unique : Bool) (name : Option String) (columns : List String) : Command :=
  .createIndex ⟨name.getD (t.indexName columns (indexSuffix unique)), columns, unique⟩

def primaryCommand (columns : List String) : Command := .createPrimary ⟨t.primaryName, columns⟩

def requests (c : Column) : List Command :=
  (if c.pending.unique then [t.indexCommand true none [c.name]] else []) ++
  (if c.pending.index then [t.indexCommand false none [c.name]] else []) ++
  (if c.pending.primary && !c.autoIncrement then [t.primaryCommand [c.name]] else [])

end Table

namespace Blueprint

variable (b : Blueprint)

def record (c : Command) : Blueprint := { b with commands := b.commands ++ [c] }

def declare (c : Column) : Blueprint := b.record (.addColumn c)

/-- The requests stand after the recorded commands, in the order of the columns. -/
def finish : Blueprint :=
  { b with
    commands := b.commands.map Command.settled ++
      (b.commands.filterMap Command.declared?).flatMap b.table.requests }

def setOptions (f : TableOptions → TableOptions) : Blueprint :=
  { b with table := { b.table with options := f b.table.options } }

def step : BlueprintStep → Blueprint
  | .declare c => b.declare c
  | .timestamps => timestampColumns.foldl declare b
  | .dropColumn name => b.record (.dropColumn name)
  | .renameColumn before after => b.record (.renameColumn before after)
  | .index unique name columns => b.record (b.table.indexCommand unique name columns)
  | .primary columns => b.record (b.table.primaryCommand columns)
  | .dropIndex name => b.record (.dropIndex name)
  | .renameIndex before after => b.record (.renameIndex before after)
  | .dropPrimary => b.record .dropPrimary
  | .finish => b.finish
  | .engine name => b.setOptions fun o => { o with engine := name }
  | .charset name => b.setOptions fun o => { o with charset := name }
  | .collation name => b.setOptions fun o => { o with collation := name }
  | .comment text => b.setOptions fun o => { o with comment := text }

def draw (steps : List BlueprintStep) : Blueprint := steps.foldl step b

def preview : Table := b.table.applyAll b.commands

end Blueprint

end SqlComposer
