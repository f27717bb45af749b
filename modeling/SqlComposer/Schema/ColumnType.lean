/-!
The kinds of datum a column holds, whatever a dialect calls them.
-/

namespace SqlComposer

inductive ColumnType where
  | string
  | char
  | text
  | mediumText
  | longText
  | binary
  | tinyInteger
  | smallInteger
  | integer
  | bigInteger
  | float
  | double
  | decimal
  | boolean
  | date
  | dateTime
  | dateTimeTz
  | time
  | timestamp
  | timestampTz
  | year
  | json
  | jsonb
  | uuid
  | ipAddress
  | macAddress
  | enum
  deriving DecidableEq, Repr, Inhabited

structure UnknownColumnType where
  text : String
  deriving DecidableEq, Repr

def UnknownColumnType.message (e : UnknownColumnType) : String :=
  "unknown column type: " ++ e.text

namespace ColumnType

def all : List ColumnType :=
  [string, char, text, mediumText, longText, binary, tinyInteger, smallInteger, integer,
    bigInteger, float, double, decimal, boolean, date, dateTime, dateTimeTz, time, timestamp,
    timestampTz, year, json, jsonb, uuid, ipAddress, macAddress, enum]

def name : ColumnType → String
  | string => "string"
  | char => "char"
  | text => "text"
  | mediumText => "mediumText"
  | longText => "longText"
  | binary => "binary"
  | tinyInteger => "tinyInteger"
  | smallInteger => "smallInteger"
  | integer => "integer"
  | bigInteger => "bigInteger"
  | float => "float"
  | double => "double"
  | decimal => "decimal"
  | boolean => "boolean"
  | date => "date"
  | dateTime => "dateTime"
  | dateTimeTz => "dateTimeTz"
  | time => "time"
  | timestamp => "timestamp"
  | timestampTz => "timestampTz"
  | year => "year"
  | json => "json"
  | jsonb => "jsonb"
  | uuid => "uuid"
  | ipAddress => "ipAddress"
  | macAddress => "macAddress"
  | enum => "enum"

def parse (s : String) : Except UnknownColumnType ColumnType :=
  match all.find? fun t => t.name = s with
  | some t => .ok t
  | none => .error ⟨s⟩

def isInteger : ColumnType → Bool
  | tinyInteger | smallInteger | integer | bigInteger => true
  | _ => false

theorem parse_name (t : ColumnType) : parse t.name = .ok t := by
  cases t <;> simp [parse, all, name]

end ColumnType

end SqlComposer
