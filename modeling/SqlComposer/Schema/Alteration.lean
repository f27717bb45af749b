import SqlComposer.Schema.Blueprint
import SqlComposer.Schema.Ddl

/-!
The statements that make a table and those that carry out a command. One dialect cannot change
columns or keys in place and rebuilds the table instead: a copy takes the new shape and the
rows, and then the table's name.
-/

namespace SqlComposer

namespace Dialect

variable (d : Dialect)

def declaresIndexes : Dialect → Bool
  | postgres | sqlite => false
  | _ => true

def prerequisites (c : Column) : List Ddl :=
  if d = postgres ∧ c.isEnum then [.createType c.options] else []

def followUps (t : TableName) (c : Column) : List Ddl :=
  match d with
  | postgres =>
    (encodeComment c (d.needsTypeHint c)).toList.map fun text => .commentColumn t c.name text
  | _ => []

def defineTable (t : Table) : TableDefinition :=
  { table := t.tableName
    columns := t.columns.map d.define
    primary := if t.declaresPrimaryInline then none else t.primary
    indexes := if d.declaresIndexes then t.indexes else []
    options := t.options }

def createIndexes (t : Table) : List Ddl := t.indexes.map fun i => .createIndex t.tableName i

def createTable (ifAbsent : Bool) (t : Table) : List Ddl :=
  t.columns.flatMap d.prerequisites ++ [.createTable ifAbsent (d.defineTable t)] ++
    (if d.declaresIndexes then [] else createIndexes t) ++
    t.columns.flatMap (d.followUps t.tableName)

end Dialect

namespace Table

/-- Only a column of the key can number the rows. -/
def withKeyedNumbers (t : Table) : Table :=
  t.mapColumns fun c => { c with autoIncrement := c.autoIncrement && c.primary }

/-- The copy under its temporary name, without indexes, which keep theirs until the end. -/
def copy (t : Table) : Table := { t with name := "__temp__" ++ t.name, indexes := [] }

end Table

namespace Dialect

variable (d : Dialect)

def rebuild (t : Table) (c : Command) : List Ddl :=
  let target := (t.apply c).withKeyedNumbers
  let temporary := target.copy
  let kept := target.columnNames.filter t.hasColumn
  [.dropTable true temporary.tableName] ++ d.createTable false temporary ++
    [.copyRows t.tableName temporary.tableName kept, .dropTable false t.tableName,
      .renameTable temporary.tableName target.tableName] ++
    createIndexes target

def addColumn (t : Table) (c : Column) : List Ddl :=
  d.prerequisites c ++ [.addColumn t.tableName (d.define c)] ++ d.followUps t.tableName c

/-- A change in place keeps a column from numbering the rows anew. -/
def changeColumn (t : Table) (c : Column) : List Ddl :=
  match d with
  | sqlite => d.rebuild t (.changeColumn c)
  | _ =>
    let plain := { c with autoIncrement := false }
    d.prerequisites plain ++ [.changeColumn t.tableName (d.define plain)] ++
      d.followUps t.tableName plain

def dropColumn (t : Table) (name : String) : List Ddl :=
  ((t.indexes.filter fun i => i.covers name).map fun i => .dropIndex t.tableName i.name) ++
    [.dropColumn t.tableName name]

def renameIndex (t : Table) (before after : String) : List Ddl :=
  match d with
  | sqlite =>
    .dropIndex t.tableName before ::
      (t.index? before).toList.map fun i => .createIndex t.tableName { i with name := after }
  | _ => [.renameIndex t.tableName before after]

def createPrimary (t : Table) (k : PrimaryKey) : List Ddl :=
  match d with
  | sqlite => d.rebuild t (.createPrimary k)
  | _ => [.addPrimary t.tableName k]

def dropPrimary (t : Table) : List Ddl :=
  match d with
  | sqlite => d.rebuild t .dropPrimary
  | _ => [.dropPrimary t.tableName ((t.primary.map (·.name)).getD t.primaryName)]

def statements (t : Table) : Command → List Ddl
  | .addColumn c => d.addColumn t c
  | .changeColumn c => d.changeColumn t c
  | .renameColumn before after => [.renameColumn t.tableName before after]
  | .dropColumn name => dropColumn t name
  | .createIndex i => [.createIndex t.tableName i]
  | .dropIndex name => [.dropIndex t.tableName name]
  | .renameIndex before after => d.renameIndex t before after
  | .createPrimary k => d.createPrimary t k
  | .dropPrimary => d.dropPrimary t

end Dialect

end SqlComposer
