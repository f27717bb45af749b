import SqlComposer.Fragment.Context
import SqlComposer.Schema.Column
import SqlComposer.Schema.EnumType
import SqlComposer.Text.Blank

/-!
Column types in the words of each dialect, and back. A native type is read by its base: in small
letters, without lengths and without what only marks a number's range.
-/

namespace SqlComposer

inductive NativeType where
  | plain (name : String)
  | sized (name : String) (length : UInt32)
  | decimal (precision scale : UInt32)
  | options (list : List String)
  | named (name : String)
  deriving DecidableEq, Repr

def quotedOptions (options : List String) : String := ", ".intercalate (options.map Text.literal)

namespace NativeType

def sql (d : Dialect) : NativeType → String
  | plain name => name
  | sized name length => name ++ "(" ++ toString length.toNat ++ ")"
  | decimal precision scale =>
    "DECIMAL(" ++ toString precision.toNat ++ ", " ++ toString scale.toNat ++ ")"
  | options list => "ENUM(" ++ quotedOptions list ++ ")"
  | named name => d.quoteIdentifier name

def varchar (c : Column) : NativeType := sized "VARCHAR" (c.length.getD 255)

def char (c : Column) : NativeType := sized "CHAR" (c.length.getD 255)

def decimalOf (c : Column) : NativeType := decimal (c.precision.getD 8) (c.scale.getD 2)

def generic (c : Column) : NativeType :=
  match c.type with
  | .string => varchar c
  | .char => char c
  | .text | .mediumText | .longText | .json | .jsonb => plain "TEXT"
  | .binary => plain "BLOB"
  | .tinyInteger | .smallInteger => plain "SMALLINT"
  | .integer | .year => plain "INTEGER"
  | .bigInteger => plain "BIGINT"
  | .float => plain "REAL"
  | .double => plain "DOUBLE PRECISION"
  | .decimal => decimalOf c
  | .boolean => plain "BOOLEAN"
  | .date => plain "DATE"
  | .dateTime | .timestamp => plain "TIMESTAMP"
  | .dateTimeTz | .timestampTz => plain "TIMESTAMP WITH TIME ZONE"
  | .time => plain "TIME"
  | .uuid => sized "CHAR" 36
  | .ipAddress => sized "VARCHAR" 45
  | .macAddress => sized "VARCHAR" 17
  | .enum => sized "VARCHAR" 255

def mysql (c : Column) : NativeType :=
  match c.type with
  | .string => varchar c
  | .char => char c
  | .text => plain "TEXT"
  | .mediumText => plain "MEDIUMTEXT"
  | .longText => plain "LONGTEXT"
  | .binary => plain "BLOB"
  | .tinyInteger => plain "TINYINT"
  | .smallInteger => plain "SMALLINT"
  | .integer => plain "INT"
  | .bigInteger => plain "BIGINT"
  | .float => plain "FLOAT"
  | .double => plain "DOUBLE"
  | .decimal => decimalOf c
  | .boolean => sized "TINYINT" 1
  | .date => plain "DATE"
  | .dateTime | .dateTimeTz => plain "DATETIME"
  | .time => plain "TIME"
  | .timestamp | .timestampTz => plain "TIMESTAMP"
  | .year => plain "YEAR"
  | .json | .jsonb => plain "JSON"
  | .uuid => sized "CHAR" 36
  | .ipAddress => sized "VARCHAR" 45
  | .macAddress => sized "VARCHAR" 17
  | .enum => options c.options

def serial? : ColumnType → Option String
  | .tinyInteger | .smallInteger => some "SMALLSERIAL"
  | .integer => some "SERIAL"
  | .bigInteger => some "BIGSERIAL"
  | _ => none

def postgres (c : Column) : NativeType :=
  match c.type with
  | .string => varchar c
  | .char => char c
  | .text | .mediumText | .longText => plain "TEXT"
  | .binary => plain "BYTEA"
  | .tinyInteger | .smallInteger => plain "SMALLINT"
  | .integer | .year => plain "INTEGER"
  | .bigInteger => plain "BIGINT"
  | .float => plain "REAL"
  | .double => plain "DOUBLE PRECISION"
  | .decimal => decimalOf c
  | .boolean => plain "BOOLEAN"
  | .date => plain "DATE"
  | .dateTime | .timestamp => plain "TIMESTAMP(0) WITHOUT TIME ZONE"
  | .dateTimeTz | .timestampTz => plain "TIMESTAMP(0) WITH TIME ZONE"
  | .time => plain "TIME(0) WITHOUT TIME ZONE"
  | .json => plain "JSON"
  | .jsonb => plain "JSONB"
  | .uuid => plain "UUID"
  | .ipAddress => plain "INET"
  | .macAddress => plain "MACADDR"
  | .enum => named (enumTypeName c.options)

def sqlite (c : Column) : NativeType :=
  match c.type with
  | .string => varchar c
  | .char => char c
  | .text | .enum => plain "TEXT"
  | .mediumText => plain "MEDIUMTEXT"
  | .longText => plain "LONGTEXT"
  | .binary => plain "BLOB"
  | .tinyInteger => plain "TINYINT"
  | .smallInteger => plain "SMALLINT"
  | .integer => plain "INTEGER"
  | .bigInteger => plain "BIGINT"
  | .float => plain "FLOAT"
  | .double => plain "DOUBLE"
  | .decimal => decimalOf c
  | .boolean => plain "BOOLEAN"
  | .date => plain "DATE"
  | .dateTime => plain "DATETIME"
  | .dateTimeTz => plain "DATETIMETZ"
  | .time => plain "TIME"
  | .timestamp => plain "TIMESTAMP"
  | .timestampTz => plain "TIMESTAMPTZ"
  | .year => plain "YEAR"
  | .json => plain "JSON"
  | .jsonb => plain "JSONB"
  | .uuid => plain "UUID"
  | .ipAddress => plain "INET"
  | .macAddress => plain "MACADDR"

/-! ## Reading -/

def outside (depth : Nat) : List Char → List Char
  | [] => []
  | '(' :: cs => outside (depth + 1) cs
  | ')' :: cs => outside (depth - 1) cs
  | c :: cs => if depth = 0 then c :: outside depth cs else outside depth cs

def base (native : String) : String :=
  let words := Text.words ((outside 0 native.toList).map Char.toLower)
  " ".intercalate ((words.map String.ofList).filter fun w => w ≠ "unsigned" ∧ w ≠ "zerofill")

def genericNames : List (String × ColumnType) :=
  [("varchar", .string), ("character varying", .string), ("char", .char), ("character", .char),
    ("text", .text), ("blob", .binary), ("smallint", .smallInteger), ("integer", .integer),
    ("int", .integer), ("bigint", .bigInteger), ("real", .float), ("double precision", .double),
    ("double", .double), ("decimal", .decimal), ("numeric", .decimal), ("boolean", .boolean),
    ("date", .date), ("timestamp", .dateTime), ("timestamp with time zone", .dateTimeTz),
    ("time", .time)]

def mysqlNames : List (String × ColumnType) :=
  [("varchar", .string), ("char", .char), ("text", .text), ("mediumtext", .mediumText),
    ("longtext", .longText), ("blob", .binary), ("tinyint", .tinyInteger),
    ("smallint", .smallInteger), ("int", .integer), ("integer", .integer),
    ("bigint", .bigInteger), ("float", .float), ("double", .double), ("decimal", .decimal),
    ("date", .date), ("datetime", .dateTime), ("time", .time), ("timestamp", .timestamp),
    ("year", .year), ("json", .json), ("enum", .enum)]

def postgresNames : List (String × ColumnType) :=
  [("character varying", .string), ("varchar", .string), ("character", .char), ("char", .char),
    ("bpchar", .char), ("text", .text), ("bytea", .binary), ("smallint", .smallInteger),
    ("int2", .smallInteger), ("smallserial", .smallInteger), ("integer", .integer),
    ("int", .integer), ("int4", .integer), ("serial", .integer), ("bigint", .bigInteger),
    ("int8", .bigInteger), ("bigserial", .bigInteger), ("real", .float), ("float4", .float),
    ("double precision", .double), ("float8", .double), ("numeric", .decimal),
    ("decimal", .decimal), ("boolean", .boolean), ("bool", .boolean), ("date", .date),
    ("timestamp without time zone", .dateTime), ("timestamp", .dateTime),
    ("timestamp with time zone", .dateTimeTz), ("timestamptz", .dateTimeTz),
    ("time without time zone", .time), ("time", .time), ("json", .json), ("jsonb", .jsonb),
    ("uuid", .uuid), ("inet", .ipAddress), ("macaddr", .macAddress)]

def sqliteNames : List (String × ColumnType) :=
  [("varchar", .string), ("char", .char), ("text", .text), ("mediumtext", .mediumText),
    ("longtext", .longText), ("blob", .binary), ("tinyint", .tinyInteger),
    ("smallint", .smallInteger), ("integer", .integer), ("int", .integer),
    ("bigint", .bigInteger), ("float", .float), ("real", .float), ("double", .double),
    ("decimal", .decimal), ("numeric", .decimal), ("boolean", .boolean), ("date", .date),
    ("datetime", .dateTime), ("datetimetz", .dateTimeTz), ("time", .time),
    ("timestamp", .timestamp), ("timestamptz", .timestampTz), ("year", .year), ("json", .json),
    ("jsonb", .jsonb), ("uuid", .uuid), ("inet", .ipAddress), ("macaddr", .macAddress)]

end NativeType

namespace Dialect

/-- Where rows are numbered by a type of its own, that type wins over the declared one. -/
def nativeType (d : Dialect) (c : Column) : NativeType :=
  match d with
  | generic => .generic c
  | mysql => .mysql c
  | postgres =>
    match NativeType.serial? c.type with
    | some name => if c.autoIncrement then .plain name else .postgres c
    | none => .postgres c
  | sqlite => if c.autoIncrement then .plain "INTEGER" else .sqlite c

def typeName (d : Dialect) (c : Column) : String := (d.nativeType c).sql d

def readType (d : Dialect) (native : String) : Option ColumnType :=
  match d with
  | generic => NativeType.genericNames.lookup (NativeType.base native)
  | mysql =>
    if "tinyint(1)".toList <+: (Text.trim native).toLower.toList then some .boolean
    else NativeType.mysqlNames.lookup (NativeType.base native)
  | postgres => NativeType.postgresNames.lookup (NativeType.base native)
  | sqlite => NativeType.sqliteNames.lookup (NativeType.base native)

def needsTypeHint (d : Dialect) (c : Column) : Bool :=
  !c.isEnum && d.readType (d.typeName c) ≠ some c.type

def supportsUnsigned : Dialect → Bool
  | mysql => true
  | _ => false

def autoIncrementClause : Dialect → String
  | postgres => " PRIMARY KEY"
  | sqlite => " PRIMARY KEY AUTOINCREMENT"
  | _ => " AUTO_INCREMENT PRIMARY KEY"

end Dialect

end SqlComposer
