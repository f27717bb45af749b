import Mathlib.Data.List.Forall2
import SqlComposer.Proofs.Schema.TypeReading
import SqlComposer.Schema.Ddl
import SqlComposer.Schema.Introspection

/-!
Columns that are read from the rows of a database. A row tells a column's type with its sizes,
whether it takes NULL and its default, so the column that is read is defined as the reported one but
for its check and for numbering the rows (`Column.Listed`).
-/

namespace SqlComposer

namespace Row

variable {r : Row}

def described (r : Row) (name native : String) : Column :=
  let type := (Dialect.sqlite.readType native).getD .string
  let sizes := typeArguments native.toList
  let isText := type = .string || type = .char
  { name
    type
    nativeType := some native
    nullable := r.text? "nullable" = some "YES"
    default := r.defaultValue?
    length := if isText then sizes[0]? else none
    precision := if type = .decimal then sizes[0]? else none
    scale := if type = .decimal then sizes[1]? else none
    primary := (r.number? "pk").any (0 < ·) }

section Described

-- The type is any text here. With the type name of a column in its place, unification would go on
-- to read it.
variable {name native : String}

theorem name_described : (r.described name native).name = name := rfl

theorem type_described :
    (r.described name native).type = (Dialect.sqlite.readType native).getD .string := rfl

theorem autoIncrement_described : (r.described name native).autoIncrement = false := rfl

theorem nullable_described :
    (r.described name native).nullable = decide (r.text? "nullable" = some "YES") := rfl

theorem default_described : (r.described name native).default = r.defaultValue? := rfl

theorem length_described
    (text : (r.described name native).type = .string ∨ (r.described name native).type = .char) :
    (r.described name native).length = (typeArguments native.toList)[0]? := by
  rw [type_described] at text
  rcases text with string | char
  · simp [described, string]
  · simp [described, char]

theorem precision_described (decimal : (r.described name native).type = .decimal) :
    (r.described name native).precision = (typeArguments native.toList)[0]? := by
  rw [type_described] at decimal
  simp only [described, decimal, if_true]

theorem scale_described (decimal : (r.described name native).type = .decimal) :
    (r.described name native).scale = (typeArguments native.toList)[1]? := by
  rw [type_described] at decimal
  simp only [described, decimal, if_true]

theorem readColumn_eq_described
    (named : r.requiredText "name" = .ok name) (typed : r.requiredText "native_type" = .ok native) :
    Dialect.sqlite.readColumn r = .ok (r.described name native) := by
  rw [Dialect.readColumn, declaredColumn, named, typed]
  rfl

end Described

/-- A row that reports a column as the text that made its table declares it. What it says of the
key is left open. -/
structure Reports (r : Row) (c : Column) : Prop where
  name : r.get? "name" = some (.text c.name)
  type : r.get? "native_type" = some (.text (Dialect.sqlite.typeName c))
  nullable : r.get? "nullable" =
    some (.text (if (Dialect.sqlite.define c).nullable then "YES" else "NO"))
  default : r.get? "default_value" =
    some (Value.ofOption ((Dialect.sqlite.define c).default.map .text))

instance (r : Row) (c : Column) : Decidable (r.Reports c) :=
  decidable_of_iff (r.get? "name" = some (.text c.name) ∧
      r.get? "native_type" = some (.text (Dialect.sqlite.typeName c)) ∧
      r.get? "nullable" =
        some (.text (if (Dialect.sqlite.define c).nullable then "YES" else "NO")) ∧
      r.get? "default_value" =
        some (Value.ofOption ((Dialect.sqlite.define c).default.map .text)))
    ⟨fun ⟨name, type, nullable, default⟩ => ⟨name, type, nullable, default⟩,
      fun reports => ⟨reports.name, reports.type, reports.nullable, reports.default⟩⟩

end Row

namespace Column

/-- A column that has been read from its row and is still without what only the text tells. -/
structure Listed (c d : Column) : Prop where
  unnumbered : d.autoIncrement = false
  define : Dialect.sqlite.define d =
    { Dialect.sqlite.define c with autoIncrement := false, check := none }

theorem Listed.name_eq {c d : Column} (listed : c.Listed d) : d.name = c.name :=
  congrArg ColumnDefinition.name listed.define

section Read

variable {c d : Column}

def listedType (c : Column) : ColumnType :=
  if c.autoIncrement then .integer else Dialect.sqlite.storedType c.type

theorem listedType_ne_enum (c : Column) : c.listedType ≠ .enum := by
  unfold listedType
  split
  · decide
  · cases c.type <;> decide

theorem sized_of_length {name : String} (flat : NativeType.Flat name.toList) {n : UInt32}
    {length : Option UInt32}
    (size : length = (typeArguments ((NativeType.sized name n).sql .sqlite).toList)[0]?) :
    NativeType.sized name (length.getD 255) = .sized name n := by
  rw [size, NativeType.typeArguments_sized flat]
  rfl

theorem nativeType_of_sizes (plain : d.autoIncrement = false) (type : d.type = c.listedType)
    (length : d.type = .string ∨ d.type = .char →
      d.length = (typeArguments (Dialect.sqlite.typeName c).toList)[0]?)
    (precision : d.type = .decimal →
      d.precision = (typeArguments (Dialect.sqlite.typeName c).toList)[0]?)
    (scale : d.type = .decimal → d.scale = (typeArguments (Dialect.sqlite.typeName c).toList)[1]?) :
    Dialect.sqlite.nativeType d = Dialect.sqlite.nativeType c := by
  have left : Dialect.sqlite.nativeType d = NativeType.sqlite d := by
    simp [Dialect.nativeType, plain]
  rw [left]
  cases numbered : c.autoIncrement
  · have right : Dialect.sqlite.nativeType c = NativeType.sqlite c := by
      simp [Dialect.nativeType, numbered]
    have stored : d.type = Dialect.sqlite.storedType c.type := by
      simpa [listedType, numbered] using type
    rw [Dialect.typeName, right] at length precision scale
    rw [right]
    cases own : c.type
    case string =>
      rw [own] at stored
      have size := length (.inl stored)
      simp only [NativeType.sqlite, own, stored, Dialect.storedType, NativeType.varchar] at size ⊢
      exact sized_of_length (by decide) size
    case char =>
      rw [own] at stored
      have size := length (.inr stored)
      simp only [NativeType.sqlite, own, stored, Dialect.storedType, NativeType.char] at size ⊢
      exact sized_of_length (by decide) size
    case decimal =>
      rw [own] at stored
      have first := precision stored
      have second := scale stored
      simp only [NativeType.sqlite, own, stored, Dialect.storedType, NativeType.decimalOf,
        NativeType.typeArguments_decimal] at first second ⊢
      rw [first, second]
      rfl
    all_goals
      rw [own] at stored
      simp only [NativeType.sqlite, own, stored, Dialect.storedType]
  · have stored : d.type = .integer := by
      simpa [listedType, numbered] using type
    simp only [NativeType.sqlite, stored, Dialect.nativeType, numbered, if_true]

theorem listed_of_parts (name : d.name = c.name) (plain : d.autoIncrement = false)
    (type : Dialect.sqlite.nativeType d = Dialect.sqlite.nativeType c) (bare : d.isEnum = false)
    (nullable : d.nullable = (Dialect.sqlite.define c).nullable)
    (default : d.default.map (·.sql) = (Dialect.sqlite.define c).default) : c.Listed d := by
  refine ⟨plain, ?_⟩
  have read : Dialect.sqlite.define d =
      ⟨c.name, Dialect.sqlite.nativeType c, false, (Dialect.sqlite.define c).nullable,
        (Dialect.sqlite.define c).default, false, none, none⟩ := by
    simp [Dialect.define, Dialect.supportsUnsigned, Dialect.commentClause, name, plain, type, bare,
      nullable, default]
  rw [read]
  simp [Dialect.define, Dialect.supportsUnsigned, Dialect.commentClause]

theorem listed_described {r : Row} (reports : r.Reports c) :
    c.Listed (r.described c.name (Dialect.sqlite.typeName c)) := by
  have type : (r.described c.name (Dialect.sqlite.typeName c)).type = c.listedType := by
    rw [Row.type_described, Dialect.readType_sqlite]
    rfl
  have native : Dialect.sqlite.nativeType (r.described c.name (Dialect.sqlite.typeName c)) =
      Dialect.sqlite.nativeType c :=
    nativeType_of_sizes Row.autoIncrement_described type Row.length_described
      Row.precision_described Row.scale_described
  have nullable : (r.described c.name (Dialect.sqlite.typeName c)).nullable =
      (Dialect.sqlite.define c).nullable := by
    rw [Row.nullable_described, Row.text?, reports.nullable]
    cases (Dialect.sqlite.define c).nullable <;> decide
  have default : (r.described c.name (Dialect.sqlite.typeName c)).default.map (·.sql) =
      (Dialect.sqlite.define c).default := by
    rw [Row.default_described, Row.defaultValue?, reports.default]
    cases (Dialect.sqlite.define c).default <;> rfl
  have bare : (r.described c.name (Dialect.sqlite.typeName c)).isEnum = false := by
    rw [isEnum, type, decide_eq_false_iff_not]
    exact c.listedType_ne_enum
  exact listed_of_parts Row.name_described Row.autoIncrement_described native bare nullable default

theorem exists_readColumn {r : Row} (reports : r.Reports c) :
    ∃ d, Dialect.sqlite.readColumn r = .ok d ∧ c.Listed d := by
  have name : r.requiredText "name" = .ok c.name := by
    rw [Row.requiredText, reports.name]
    rfl
  have native : r.requiredText "native_type" = .ok (Dialect.sqlite.typeName c) := by
    rw [Row.requiredText, reports.type]
    rfl
  exact ⟨_, Row.readColumn_eq_described name native, listed_described reports⟩

end Read

end Column

theorem exists_mapM_readColumn {rows : List Row} {columns : List Column}
    (reported : List.Forall₂ Row.Reports rows columns) :
    ∃ read, rows.mapM Dialect.sqlite.readColumn = .ok read ∧
      List.Forall₂ Column.Listed columns read := by
  induction reported with
  | nil => exact ⟨[], rfl, .nil⟩
  | cons reports _ ih =>
    obtain ⟨d, first, listed⟩ := Column.exists_readColumn reports
    obtain ⟨others, rest, all⟩ := ih
    refine ⟨d :: others, ?_, .cons listed all⟩
    rw [List.mapM_cons, first, rest]
    rfl

end SqlComposer
