import SqlComposer.Schema.Column
import SqlComposer.Text.Casing

/-!
The model of a table: its columns, its indexes and its primary key. Columns and indexes are
looked up by name, and the first of a name counts.
-/

namespace SqlComposer

structure Index where
  name : String
  columns : List String
  unique : Bool
  deriving DecidableEq, Repr

structure PrimaryKey where
  name : String
  columns : List String
  deriving DecidableEq, Repr

structure TableName where
  tablePrefix : String
  name : String
  deriving DecidableEq, Repr

structure TableOptions where
  engine : Option String := none
  charset : Option String := none
  collation : Option String := none
  comment : Option String := none
  deriving DecidableEq, Repr, Inhabited

structure Table where
  name : String
  tablePrefix : String := ""
  columns : List Column := []
  indexes : List Index := []
  primary : Option PrimaryKey := none
  options : TableOptions := {}
  deriving DecidableEq, Repr

def Index.covers (i : Index) (column : String) : Bool := i.columns.contains column

def PrimaryKey.covers (k : PrimaryKey) (column : String) : Bool := k.columns.contains column

def indexSuffix (unique : Bool) : String := if unique then "unique" else "index"

def renamed (before after : String) (names : List String) : List String :=
  names.map fun name => if name = before then after else name

def Column.modifyNamed (name : String) (f : Column → Column) : List Column → List Column
  | [] => []
  | c :: rest => if c.name = name then f c :: rest else c :: modifyNamed name f rest

namespace Table

variable (t : Table)

def tableName : TableName := ⟨t.tablePrefix, t.name⟩

def fullName : String := t.tablePrefix ++ t.name

def column? (name : String) : Option Column := t.columns.find? fun c => c.name = name

def hasColumn (name : String) : Bool := (t.column? name).isSome

def columnNames : List String := t.columns.map (·.name)

def index? (name : String) : Option Index := t.indexes.find? fun i => i.name = name

def hasIndex (name : String) : Bool := (t.index? name).isSome

/-- In small letters, with underscores for hyphens, points and spaces. -/
def indexName (columns : List String) (suffix : String) : String :=
  (Text.lowerCase (t.fullName ++ "_" ++ "_".intercalate columns ++ "_" ++ suffix)).map fun c =>
    if c = '-' ∨ c = '.' ∨ c = ' ' then '_' else c

def primaryName : String := t.fullName ++ "_pkey"

def modifyColumn (name : String) (f : Column → Column) : Table :=
  { t with columns := Column.modifyNamed name f t.columns }

def mapColumns (f : Column → Column) : Table := { t with columns := t.columns.map f }

def noteIndex (i : Index) : Table :=
  i.columns.foldl (fun t name =>
    t.modifyColumn name fun c => { c with indexes := c.indexes ++ [i.name] }) t

/-- The key's first column numbers the rows by itself and so declares the key. -/
def declaresPrimaryInline : Bool :=
  match t.primary with
  | some ⟨_, [name]⟩ => (t.column? name).any (·.autoIncrement)
  | _ => false

end Table

end SqlComposer
