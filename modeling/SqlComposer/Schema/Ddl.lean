import SqlComposer.Fragment.Names
import SqlComposer.Schema.Comment
import SqlComposer.Schema.NativeType
import SqlComposer.Schema.Table

/-!
Statements that define tables, as data and as text. Definitions are made for one dialect; the
text of a statement is the dialect's own spelling of it.
-/

namespace SqlComposer

structure ColumnDefinition where
  name : String
  type : NativeType
  unsigned : Bool
  nullable : Bool
  default : Option String
  autoIncrement : Bool
  check : Option (List String)
  comment : Option String
  deriving DecidableEq, Repr

structure TableDefinition where
  table : TableName
  columns : List ColumnDefinition
  primary : Option PrimaryKey
  indexes : List Index
  options : TableOptions
  deriving DecidableEq, Repr

inductive Ddl where
  | createType (options : List String)
  | createTable (ifAbsent : Bool) (definition : TableDefinition)
  | dropTable (ifExists : Bool) (table : TableName)
  | renameTable (before after : TableName)
  | copyRows (source target : TableName) (columns : List String)
  | addColumn (table : TableName) (definition : ColumnDefinition)
  | changeColumn (table : TableName) (definition : ColumnDefinition)
  | renameColumn (table : TableName) (before after : String)
  | dropColumn (table : TableName) (name : String)
  | commentColumn (table : TableName) (column text : String)
  | createIndex (table : TableName) (index : Index)
  | dropIndex (table : TableName) (name : String)
  | renameIndex (table : TableName) (before after : String)
  | addPrimary (table : TableName) (key : PrimaryKey)
  | dropPrimary (table : TableName) (key : String)
  deriving DecidableEq, Repr

namespace Dialect

variable (d : Dialect)

def commentClause (c : Column) : Option String :=
  match d with
  | mysql => encodeComment c (d.needsTypeHint c)
  | _ => none

/-- A column that numbers the rows has no default and takes no NULL. -/
def define (c : Column) : ColumnDefinition :=
  { name := c.name
    type := d.nativeType c
    unsigned := c.unsigned && d.supportsUnsigned
    nullable := c.nullable && !c.autoIncrement
    default := if c.autoIncrement then none else c.default.map (·.sql)
    autoIncrement := c.autoIncrement
    check := if d = sqlite ∧ c.isEnum then some c.options else none
    comment := d.commentClause c }

/-! ## Text -/

def quoteTable (t : TableName) : String :=
  Piece.render d.style 1 (Fragment.prefixed t.tablePrefix t.name).pieces

def quoteNames (names : List String) : String := ", ".intercalate (names.map d.quoteIdentifier)

def commentText (text : String) : String := "COMMENT " ++ Text.literal text

def checkText (column : String) (options : List String) : String :=
  "CHECK (" ++ d.quoteIdentifier column ++ " IN (" ++ quotedOptions options ++ "))"

def columnText (c : ColumnDefinition) : String :=
  d.quoteIdentifier c.name ++ " " ++ c.type.sql d ++
    (if c.unsigned then " UNSIGNED" else "") ++
    (if c.nullable then " NULL" else " NOT NULL") ++
    (match c.default with | some sql => " DEFAULT " ++ sql | none => "") ++
    (if c.autoIncrement then d.autoIncrementClause else "") ++
    (match c.check with | some options => " " ++ d.checkText c.name options | none => "") ++
    (match c.comment with | some text => " " ++ commentText text | none => "")

def primaryText (k : PrimaryKey) : String :=
  (match d with | postgres => "CONSTRAINT " ++ d.quoteIdentifier k.name ++ " " | _ => "") ++
    "PRIMARY KEY (" ++ d.quoteNames k.columns ++ ")"

def indexText (i : Index) : String :=
  (if i.unique then "UNIQUE INDEX " else "INDEX ") ++ d.quoteIdentifier i.name ++ " (" ++
    d.quoteNames i.columns ++ ")"

def optionsText (o : TableOptions) : String :=
  match d with
  | mysql =>
    (match o.engine with | some name => " ENGINE = " ++ name | none => "") ++
    (match o.charset with | some name => " DEFAULT CHARSET = " ++ name | none => "") ++
    (match o.collation with | some name => " COLLATE = " ++ name | none => "") ++
    (match o.comment with | some text => " COMMENT = " ++ Text.literal text | none => "")
  | _ => ""

def tableText (t : TableDefinition) : String :=
  d.quoteTable t.table ++ " (" ++
    ", ".intercalate (t.columns.map d.columnText ++ t.primary.toList.map d.primaryText ++
      t.indexes.map d.indexText) ++
    ")" ++ d.optionsText t.options

def alterText (t : TableName) (action : String) : String :=
  "ALTER TABLE " ++ d.quoteTable t ++ " " ++ action

def retypeText (c : ColumnDefinition) : String :=
  let name := d.quoteIdentifier c.name
  let type := c.type.sql d
  let converted :=
    match c.type with
    | .named _ => name ++ "::text::" ++ type
    | _ => name ++ "::" ++ type
  let actions :=
    ["TYPE " ++ type ++ " USING " ++ converted,
      if c.nullable then "DROP NOT NULL" else "SET NOT NULL",
      match c.default with | some sql => "SET DEFAULT " ++ sql | none => "DROP DEFAULT"]
  ", ".intercalate (actions.map fun action => "ALTER COLUMN " ++ name ++ " " ++ action)

end Dialect

namespace Ddl

def sql (d : Dialect) : Ddl → String
  | createType options =>
    "DO $$ BEGIN CREATE TYPE " ++ d.quoteIdentifier (enumTypeName options) ++ " AS ENUM (" ++
      quotedOptions options ++ "); EXCEPTION WHEN duplicate_object THEN NULL; END $$"
  | createTable ifAbsent t =>
    "CREATE TABLE " ++ (if ifAbsent then "IF NOT EXISTS " else "") ++ d.tableText t
  | dropTable ifExists t =>
    "DROP TABLE " ++ (if ifExists then "IF EXISTS " else "") ++ d.quoteTable t
  | renameTable before after => d.alterText before ("RENAME TO " ++ d.quoteTable after)
  | copyRows source target columns =>
    "INSERT INTO " ++ d.quoteTable target ++ " (" ++ d.quoteNames columns ++ ") SELECT " ++
      d.quoteNames columns ++ " FROM " ++ d.quoteTable source
  | addColumn t c => d.alterText t ("ADD COLUMN " ++ d.columnText c)
  | changeColumn t c =>
    match d with
    | .postgres => d.alterText t (d.retypeText c)
    | _ => d.alterText t ("MODIFY COLUMN " ++ d.columnText c)
  | renameColumn t before after =>
    d.alterText t
      ("RENAME COLUMN " ++ d.quoteIdentifier before ++ " TO " ++ d.quoteIdentifier after)
  | dropColumn t name => d.alterText t ("DROP COLUMN " ++ d.quoteIdentifier name)
  | commentColumn t column text =>
    "COMMENT ON COLUMN " ++ d.quoteTable t ++ "." ++ d.quoteIdentifier column ++ " IS " ++
      Text.literal text
  | createIndex t i =>
    "CREATE " ++ (if i.unique then "UNIQUE " else "") ++ "INDEX " ++ d.quoteIdentifier i.name ++
      " ON " ++ d.quoteTable t ++ " (" ++ d.quoteNames i.columns ++ ")"
  | dropIndex t name =>
    match d with
    | .postgres | .sqlite => "DROP INDEX " ++ d.quoteIdentifier name
    | _ => "DROP INDEX " ++ d.quoteIdentifier name ++ " ON " ++ d.quoteTable t
  | renameIndex t before after =>
    match d with
    | .postgres =>
      "ALTER INDEX " ++ d.quoteIdentifier before ++ " RENAME TO " ++ d.quoteIdentifier after
    | _ =>
      d.alterText t
        ("RENAME INDEX " ++ d.quoteIdentifier before ++ " TO " ++ d.quoteIdentifier after)
  | addPrimary t k => d.alterText t ("ADD " ++ d.primaryText k)
  | dropPrimary t key =>
    match d with
    | .postgres => d.alterText t ("DROP CONSTRAINT " ++ d.quoteIdentifier key)
    | _ => d.alterText t "DROP PRIMARY KEY"

end Ddl

end SqlComposer
