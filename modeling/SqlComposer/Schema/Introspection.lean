import SqlComposer.Connection.Row
import SqlComposer.Schema.Comment
import SqlComposer.Schema.NativeType
import SqlComposer.Schema.Table
import SqlComposer.Text.Quoted

/-!
Reading a table's model from the rows that describe it. A row has to name what it describes;
all else may be missing from it.
-/

namespace SqlComposer

structure IndexEntry where
  name : String
  column : String
  unique : Bool
  primary : Bool
  deriving DecidableEq, Repr

namespace Row

variable (r : Row)

def requiredText (column : String) : Except QueryError String :=
  match (r.get? column).bind Value.string? with
  | some s => .ok s
  | none => .error (.introspection "" ("missing `" ++ column ++ "` in metadata row"))

def number? (column : String) : Option UInt32 :=
  ((r.get? column).bind Value.int64?).bind fun n =>
    if 0 ≤ n.toInt ∧ n.toInt < UInt32.size then some (UInt32.ofNat n.toInt.toNat) else none

def flag (column : String) : Bool := ((r.get? column).bind Value.bool?).getD false

/-- A flag that may also be given as `yes` or `no`. -/
def yes (column : String) : Bool :=
  match r.get? column with
  | some (.text s) => s.toLower = "yes"
  | some v => v.bool?.getD false
  | none => false

def defaultValue? : Option DefaultValue :=
  ((r.get? "default_value").bind Value.string?).map .expression

end Row

def occursIn (word : List Char) : List Char → Bool
  | [] => word.isEmpty
  | c :: cs => word.isPrefixOf (c :: cs) || occursIn word cs

theorem occursIn_iff {word cs : List Char} : occursIn word cs = true ↔ word <:+: cs := by
  induction cs with
  | nil => simp [occursIn]
  | cons c cs ih => simp [occursIn, ih, List.infix_cons_iff]

def mentions (s : String) (word : String) : Bool := occursIn word.toList s.toLower.toList

/-! ## Columns -/

def typeArguments (native : List Char) : List UInt32 :=
  match native.dropWhile (· ≠ '(') with
  | [] => []
  | _ :: arguments =>
    (Text.splitAt ',' (arguments.reverse.dropWhile (· = ')')).reverse).filterMap fun part =>
      Text.readUInt32 (Text.dropEndBlanks (Text.dropBlanks part))

def declaredList (native : List Char) : Option (List Char) :=
  if "enum(".toList <+: native.map Char.toLower then
    match (native.drop 5).reverse with
    | ')' :: list => some list.reverse
    | _ => none
  else none

def declaredOptions (native : String) : List String :=
  match declaredList (Text.trim native).toList with
  | some list => (Text.literals list).map String.ofList
  | none => []

/-- A column as the information schema lists it. A default is kept as an expression, and a
column that numbers the rows has none. -/
def Dialect.listedColumn (d : Dialect) (r : Row) : Except QueryError Column := do
  let name ← r.requiredText "name"
  let native ← r.requiredText "native_type"
  let (hint, comment) := decodeComment (r.text? "comment")
  let type := (hint.or (d.readType native)).getD .string
  let numbered := (r.text? "extra").any fun extra => mentions extra "auto_increment"
  let isText := type = .string || type = .char
  return {
    name
    type
    nativeType := some native
    nullable := r.yes "nullable"
    default := if numbered then none else r.defaultValue?
    length := if isText then r.number? "length" else none
    precision := if type = .decimal then r.number? "precision" else none
    scale := if type = .decimal then r.number? "scale" else none
    unsigned := mentions native "unsigned"
    autoIncrement := numbered
    comment }

def declaredColumn (r : Row) : Except QueryError Column := do
  let name ← r.requiredText "name"
  let native ← r.requiredText "native_type"
  let type := (Dialect.sqlite.readType native).getD .string
  let sizes := typeArguments native.toList
  let isText := type = .string || type = .char
  return {
    name
    type
    nativeType := some native
    nullable := r.text? "nullable" = some "YES"
    default := r.defaultValue?
    length := if isText then sizes[0]? else none
    precision := if type = .decimal then sizes[0]? else none
    scale := if type = .decimal then sizes[1]? else none
    primary := (r.number? "pk").any (0 < ·) }

/-- An enumeration of this library is known by the name of its type. -/
def Column.ofEnumType (c : Column) (typeName : String) : Column :=
  if "enum_".toList <+: typeName.toList then
    { c with type := .enum, nativeType := some typeName }
  else c

def Dialect.readColumn (d : Dialect) (r : Row) : Except QueryError Column :=
  match d with
  | generic => d.listedColumn r
  | mysql => do
    let c ← d.listedColumn r
    if c.isEnum then return { c with options := declaredOptions (c.nativeType.getD "") }
    else return c
  | postgres => do
    let c ← d.listedColumn r
    return c.ofEnumType ((r.text? "udt_name").getD "")
  | sqlite => declaredColumn r

def readOptions (rows : List Row) : List String :=
  rows.filterMap fun r => r.first?.bind Value.string?

/-! ## Indexes -/

def Dialect.readIndexEntry (d : Dialect) (r : Row) : Except QueryError IndexEntry :=
  match d with
  | generic => do
    let kind ← r.requiredText "constraint_type"
    let name ← r.requiredText "index_name"
    let column ← r.requiredText "column_name"
    return ⟨name, column, true, kind.toLower = "primary key"⟩
  | mysql => do
    let name ← r.requiredText "index_name"
    let column ← r.requiredText "column_name"
    let repeats := ((r.get? "non_unique").bind Value.int64?).getD 1
    return ⟨name, column, repeats = 0, name = "PRIMARY"⟩
  | postgres => do
    let name ← r.requiredText "index_name"
    let column ← r.requiredText "column_name"
    return ⟨name, column, r.flag "is_unique", r.flag "is_primary"⟩
  | sqlite => do
    let name ← r.requiredText "index_name"
    let column ← r.requiredText "column_name"
    return ⟨name, column, r.flag "is_unique", r.text? "origin" = some "pk"⟩

def Dialect.readIndexEntries (d : Dialect) (rows : List Row) :
    Except QueryError (List IndexEntry) :=
  rows.mapM d.readIndexEntry

def addEntry (e : IndexEntry) : List Index → List Index
  | [] => [⟨e.name, [e.column], e.unique⟩]
  | i :: rest =>
    if i.name = e.name then { i with columns := i.columns ++ [e.column] } :: rest
    else i :: addEntry e rest

def indexesOf (entries : List IndexEntry) : List Index :=
  entries.foldl (fun indexes e => addEntry e indexes) []

def primaryOf : List IndexEntry → Option PrimaryKey
  | [] => none
  | e :: rest => some ⟨e.name, (e :: rest).map (·.column)⟩

namespace Table

variable (t : Table)

def flaggedPrimary : Option PrimaryKey :=
  match (t.columns.filter (·.primary)).map (·.name) with
  | [] => none
  | names => some ⟨t.primaryName, names⟩

def withEntries (entries : List IndexEntry) : Table :=
  let primary := (primaryOf (entries.filter (·.primary))).or t.flaggedPrimary
  let keyed :=
    match primary with
    | some k => t.mapColumns fun c => { c with primary := k.covers c.name }
    | none => t
  let indexes := indexesOf (entries.filter (!·.primary))
  { indexes.foldl noteIndex keyed with indexes, primary }

end Table

end SqlComposer
