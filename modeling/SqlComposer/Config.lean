import SqlComposer.Error
import SqlComposer.Json.Fields
import SqlComposer.Text.Escaped

/-!
How to reach a database, and how its tables are named. Both are read from JSON documents, where
every field may be left out, and written with all fields in the order of their declaration.
-/

namespace SqlComposer

structure Config where
  driver : String := ""
  dsn : String := ""
  readOnly : Bool := false
  name : String := ""
  deriving DecidableEq, Repr, Inhabited

structure ConnectionOptions where
  tablePrefix : String := ""
  collation : Option String := none
  charset : Option String := none
  deriving DecidableEq, Repr, Inhabited

namespace Json

def textField (found : List (String × FieldValue)) (name : String) : Option String :=
  match found.lookup name with
  | some (.text s) => some s
  | _ => none

def flagField (found : List (String × FieldValue)) (name : String) : Bool :=
  match found.lookup name with
  | some (.flag b) => b
  | _ => false

def optionalText : Option String → String
  | some s => Text.json s
  | none => "null"

def object (members : List (String × String)) : String :=
  "\x7b" ++ ",".intercalate (members.map fun (name, value) => Text.json name ++ ":" ++ value) ++
    "\x7d"

end Json

namespace Config

def fields : List Json.Field :=
  [⟨"driver", .text⟩, ⟨"dsn", .text⟩, ⟨"read_only", .flag⟩, ⟨"name", .text⟩]

def ofJson (s : String) : Except QueryError Config :=
  match Json.readFields fields s with
  | none => .error .configuration
  | some found =>
    .ok {
      driver := (Json.textField found "driver").getD ""
      dsn := (Json.textField found "dsn").getD ""
      readOnly := Json.flagField found "read_only"
      name := (Json.textField found "name").getD "" }

def json (c : Config) : String :=
  Json.object [("driver", Text.json c.driver), ("dsn", Text.json c.dsn),
    ("read_only", if c.readOnly then "true" else "false"), ("name", Text.json c.name)]

end Config

namespace ConnectionOptions

def fields : List Json.Field :=
  [⟨"prefix", .text⟩, ⟨"collation", .optionalText⟩, ⟨"charset", .optionalText⟩]

def ofJson (s : String) : Except QueryError ConnectionOptions :=
  match Json.readFields fields s with
  | none => .error .configuration
  | some found =>
    .ok {
      tablePrefix := (Json.textField found "prefix").getD ""
      collation := Json.textField found "collation"
      charset := Json.textField found "charset" }

def json (o : ConnectionOptions) : String :=
  Json.object [("prefix", Text.json o.tablePrefix), ("collation", Json.optionalText o.collation),
    ("charset", Json.optionalText o.charset)]

end ConnectionOptions

end SqlComposer
