import SqlComposer.Proofs.Statement.Reading
import SqlComposer.Schema.Introspection

/-!
What a dialect reads its own native types as. A type in parentheses is read by its name, whatever
its lengths, and its lengths are read back as they were written. Where several column types share
a native type, it is read as one of them (`Dialect.readType_typeName`).
-/

namespace SqlComposer

namespace Text

theorem readUInt32_toString (n : UInt32) : readUInt32 (toString n.toNat).toList = some n := by
  have digits : ∀ c ∈ (toString n.toNat).toList, c.isDigit = true :=
    fun c mem => isDigit_of_mem_toString mem
  have unsigned : readUnsigned (toString n.toNat).toList = readNat (toString n.toNat).toList := by
    unfold readUnsigned
    split
    · next cs written =>
      have plus := digits '+' (by rw [written]; exact List.mem_cons_self)
      cases plus
    · rfl
  have value : natOfDigits (toString n.toNat).toList = n.toNat := by
    rw [Nat.toString_eq_repr, Nat.toList_repr]
    exact Nat.ofDigitChars_toDigits (by decide) (by decide)
  have shown : (toString n.toNat).toList ≠ [] := by
    rw [Nat.toString_eq_repr, Nat.toList_repr]
    exact List.ne_nil_of_length_pos Nat.length_toDigits_pos
  rw [readUInt32, unsigned, readNat, if_pos ⟨shown, List.all_eq_true.mpr digits⟩, value]
  simp [UInt32.toNat_lt_size]

theorem dropWhile_ne_append {mark : Char} {cs : List Char} (absent : mark ∉ cs)
    (rest : List Char) :
    (cs ++ rest).dropWhile (· ≠ mark) = rest.dropWhile (· ≠ mark) :=
  List.dropWhile_append_of_pos fun _ mem => decide_eq_true (ne_of_mem_of_not_mem mem absent)

theorem dropWhile_ne_of_not_mem {mark : Char} {cs : List Char} (absent : mark ∉ cs) :
    cs.dropWhile (· ≠ mark) = [] := by
  rw [← List.append_nil cs, dropWhile_ne_append absent, List.dropWhile_nil]

theorem exists_splitWhere_cons (separates : Char → Bool) (cs : List Char) :
    ∃ first more, splitWhere separates cs = first :: more := by
  cases cs with
  | nil => exact ⟨[], [], rfl⟩
  | cons c cs =>
    unfold splitWhere
    split
    · exact ⟨_, _, rfl⟩
    · split <;> exact ⟨_, _, rfl⟩

theorem splitWhere_append {separates : Char → Bool} {part cs : List Char}
    (whole : ∀ c ∈ part, separates c = false) {first : List Char} {more : List (List Char)}
    (split : splitWhere separates cs = first :: more) :
    splitWhere separates (part ++ cs) = (part ++ first) :: more := by
  induction part with
  | nil => exact split
  | cons c part ih =>
    have rest := ih fun d mem => whole d (List.mem_cons_of_mem c mem)
    simp [splitWhere, whole c List.mem_cons_self, rest]

theorem splitAt_of_not_mem {mark : Char} {cs : List Char} (absent : mark ∉ cs) :
    splitAt mark cs = [cs] := by
  have whole : ∀ c ∈ cs, decide (c = mark) = false :=
    fun c mem => decide_eq_false (ne_of_mem_of_not_mem mem absent)
  have split : splitAt mark (cs ++ []) = [cs ++ []] := splitWhere_append whole rfl
  rwa [List.append_nil] at split

theorem splitAt_append {mark : Char} {part : List Char} (absent : mark ∉ part) (cs : List Char) :
    splitAt mark (part ++ mark :: cs) = part :: splitAt mark cs := by
  have whole : ∀ c ∈ part, decide (c = mark) = false :=
    fun c mem => decide_eq_false (ne_of_mem_of_not_mem mem absent)
  have start : splitAt mark (mark :: cs) = [] :: splitAt mark cs := by simp [splitAt, splitWhere]
  have split : splitAt mark (part ++ mark :: cs) = (part ++ []) :: splitAt mark cs :=
    splitWhere_append whole start
  rwa [List.append_nil] at split

theorem dropBlanks_of_visible {cs : List Char} (visible : ∀ c ∈ cs, isBlank c = false) :
    dropBlanks cs = cs := by
  cases cs with
  | nil => rfl
  | cons c cs => simp [dropBlanks, visible c]

theorem dropEndBlanks_of_visible {cs : List Char} (visible : ∀ c ∈ cs, isBlank c = false) :
    dropEndBlanks cs = cs := by
  have reversed : dropBlanks cs.reverse = cs.reverse :=
    dropBlanks_of_visible fun c mem => visible c (List.mem_reverse.mp mem)
  rw [dropEndBlanks, ← dropBlanks, reversed, List.reverse_reverse]

end Text

/-! ## Types in parentheses -/

namespace NativeType

open Text

variable {name : String} {d : Dialect}

def Flat (cs : List Char) : Prop := '(' ∉ cs ∧ ')' ∉ cs

instance (cs : List Char) : Decidable (Flat cs) := inferInstanceAs (Decidable (_ ∧ _))

theorem Flat.append {cs ds : List Char} (first : Flat cs) (second : Flat ds) :
    Flat (cs ++ ds) := by
  simp only [Flat, List.mem_append, not_or]
  exact ⟨⟨first.1, second.1⟩, first.2, second.2⟩

theorem flat_toString (n : Nat) : Flat (toString n).toList := by
  constructor <;>
  · intro mem
    have digit := isDigit_of_mem_toString mem
    cases digit

theorem outside_append {cs : List Char} (flat : Flat cs) (depth : Nat) (rest : List Char) :
    outside depth (cs ++ rest) = (if depth = 0 then cs else []) ++ outside depth rest := by
  induction cs with
  | nil => simp
  | cons c cs ih =>
    simp only [Flat, List.mem_cons, not_or] at flat
    have tail := ih ⟨flat.1.2, flat.2.2⟩
    rw [List.cons_append, outside.eq_4 _ _ _ (Ne.symm flat.1.1) (Ne.symm flat.2.1), tail]
    split <;> simp

theorem outside_arguments {arguments : List Char} (flat : Flat arguments) (rest : List Char) :
    outside 0 ('(' :: arguments ++ ')' :: rest) = outside 0 rest := by
  rw [List.cons_append, outside, outside_append flat, outside]
  rfl

theorem base_of_arguments {arguments : String} (named : Flat name.toList)
    (flat : Flat arguments.toList) : base (name ++ "(" ++ arguments ++ ")") = base name := by
  have outer : outside 0 (name ++ "(" ++ arguments ++ ")").toList = outside 0 name.toList := by
    have split : (name ++ "(" ++ arguments ++ ")").toList =
        name.toList ++ ('(' :: arguments.toList ++ [')']) := by
      simp
    have alone := outside_append named 0 []
    rw [List.append_nil] at alone
    rw [split, outside_append named, outside_arguments flat, alone]
  rw [base, outer, base]

theorem base_sized (named : Flat name.toList) (n : UInt32) :
    base ((sized name n).sql d) = base name :=
  base_of_arguments named (flat_toString _)

def decimalArguments (precision scale : UInt32) : String :=
  toString precision.toNat ++ ", " ++ toString scale.toNat

theorem flat_decimalArguments (precision scale : UInt32) :
    Flat (decimalArguments precision scale).toList := by
  rw [decimalArguments, String.toList_append, String.toList_append]
  exact ((flat_toString _).append (by decide)).append (flat_toString _)

theorem sql_decimal (precision scale : UInt32) :
    (decimal precision scale).sql d =
      "DECIMAL" ++ "(" ++ decimalArguments precision scale ++ ")" := by
  simp [sql, decimalArguments, String.append_assoc]

theorem base_decimal (precision scale : UInt32) :
    base ((decimal precision scale).sql d) = base "DECIMAL" := by
  rw [sql_decimal, base_of_arguments (by decide) (flat_decimalArguments _ _)]

theorem typeArguments_of_arguments {arguments : String} (named : Flat name.toList)
    (flat : Flat arguments.toList) :
    typeArguments (name ++ "(" ++ arguments ++ ")").toList =
      (splitAt ',' arguments.toList).filterMap fun part =>
        readUInt32 (dropEndBlanks (dropBlanks part)) := by
  have split : (name ++ "(" ++ arguments ++ ")").toList =
      name.toList ++ '(' :: (arguments.toList ++ [')']) := by
    simp
  have opened : (name.toList ++ '(' :: (arguments.toList ++ [')'])).dropWhile (· ≠ '(') =
      '(' :: (arguments.toList ++ [')']) := by
    rw [dropWhile_ne_append named.1, List.dropWhile_cons_of_neg (by decide)]
  have closed : ((arguments.toList ++ [')']).reverse.dropWhile (· = ')')).reverse =
      arguments.toList := by
    have last : arguments.toList.reverse.dropWhile (· = ')') = arguments.toList.reverse := by
      cases reversed : arguments.toList.reverse with
      | nil => rfl
      | cons c rest =>
        have mem : c ∈ arguments.toList := by
          rw [← List.mem_reverse, reversed]
          exact List.mem_cons_self
        have other : c ≠ ')' := ne_of_mem_of_not_mem mem flat.2
        exact List.dropWhile_cons_of_neg (by simpa using other)
    rw [List.reverse_append, List.reverse_singleton, List.singleton_append,
      List.dropWhile_cons_of_pos (by decide), last, List.reverse_reverse]
  rw [split, typeArguments, opened]
  simp only [closed]

theorem trimmed_toString (n : Nat) :
    dropEndBlanks (dropBlanks (toString n).toList) = (toString n).toList := by
  have visible : ∀ c ∈ (toString n).toList, isBlank c = false := by
    intro c mem
    rw [Bool.eq_false_iff]
    intro blank
    have digit := isDigit_of_mem_toString mem
    rw [isDigit_of_isBlank blank] at digit
    cases digit
  rw [dropBlanks_of_visible visible, dropEndBlanks_of_visible visible]

theorem comma_not_mem_toString (n : Nat) : ',' ∉ (toString n).toList := by
  intro mem
  have digit := isDigit_of_mem_toString mem
  cases digit

theorem typeArguments_sized (named : Flat name.toList) (n : UInt32) :
    typeArguments ((sized name n).sql d).toList = [n] := by
  rw [sql, typeArguments_of_arguments named (flat_toString _),
    splitAt_of_not_mem (comma_not_mem_toString _), List.filterMap_cons, trimmed_toString,
    readUInt32_toString]
  rfl

theorem typeArguments_decimal (precision scale : UInt32) :
    typeArguments ((decimal precision scale).sql d).toList = [precision, scale] := by
  have parts : splitAt ',' (decimalArguments precision scale).toList =
      [(toString precision.toNat).toList, ' ' :: (toString scale.toNat).toList] := by
    have split : (decimalArguments precision scale).toList =
        (toString precision.toNat).toList ++ ',' :: ' ' :: (toString scale.toNat).toList := by
      rw [decimalArguments, String.toList_append, String.toList_append, List.append_assoc]
      rfl
    have single : ',' ∉ ' ' :: (toString scale.toNat).toList := by
      rw [List.mem_cons, not_or]
      exact ⟨by decide, comma_not_mem_toString _⟩
    rw [split, splitAt_append (comma_not_mem_toString _), splitAt_of_not_mem single]
  have blank (cs : List Char) : dropBlanks (' ' :: cs) = dropBlanks cs :=
    List.dropWhile_cons_of_pos (by decide)
  rw [sql_decimal, typeArguments_of_arguments (by decide) (flat_decimalArguments _ _), parts]
  simp only [List.filterMap_cons, blank, trimmed_toString, readUInt32_toString, List.filterMap_nil]

end NativeType

/-! ## The types of a dialect -/

namespace Dialect

open NativeType Text

/-- The type that a column's native type is read as. It is another one where the dialect has no
native type for the column's alone. -/
def storedType : Dialect → ColumnType → ColumnType
  | mysql, .dateTimeTz => .dateTime
  | mysql, .timestampTz => .timestamp
  | mysql, .jsonb => .json
  | mysql, .uuid => .char
  | mysql, .ipAddress | mysql, .macAddress => .string
  | postgres, .mediumText | postgres, .longText => .text
  | postgres, .tinyInteger => .smallInteger
  | postgres, .year => .integer
  | postgres, .timestamp => .dateTime
  | postgres, .timestampTz => .dateTimeTz
  | sqlite, .enum => .text
  | _, type => type

theorem readType_sqlite (c : Column) :
    sqlite.readType (sqlite.typeName c) =
      some (if c.autoIncrement then .integer else sqlite.storedType c.type) := by
  unfold typeName nativeType
  cases c.autoIncrement
  · simp only [Bool.false_eq_true, if_false, readType]
    cases h : c.type <;> simp only [NativeType.sqlite, h, varchar, char, decimalOf]
    case string => rw [base_sized (by decide)]; decide
    case char => rw [base_sized (by decide)]; decide
    case decimal => rw [base_decimal]; decide
    all_goals decide
  · exact (by decide : sqlite.readType "INTEGER" = some .integer)

theorem readType_postgres {c : Column} (plain : c.isEnum = false) :
    postgres.readType (postgres.typeName c) = some (postgres.storedType c.type) := by
  unfold typeName nativeType
  simp only [readType]
  cases h : c.type <;> simp only [serial?, NativeType.postgres, h, varchar, char, decimalOf]
  case string => rw [base_sized (by decide)]; decide
  case char => rw [base_sized (by decide)]; decide
  case decimal => rw [base_decimal]; decide
  case enum => simp [Column.isEnum, h] at plain
  all_goals first | decide | (cases c.autoIncrement <;> decide)

theorem trim_of_arguments {name arguments : String} {c : Char} {rest : List Char}
    (begins : name.toList = c :: rest) (visible : isBlank c = false) :
    trim (name ++ "(" ++ arguments ++ ")") = name ++ "(" ++ arguments ++ ")" := by
  have split : (name ++ "(" ++ arguments ++ ")").toList =
      c :: (rest ++ '(' :: arguments.toList ++ [')']) := by
    simp [begins]
  have opened : dropBlanks (c :: (rest ++ '(' :: arguments.toList ++ [')'])) =
      c :: (rest ++ '(' :: arguments.toList ++ [')']) := by
    rw [dropBlanks, List.dropWhile_cons_of_neg (by simp [visible])]
  have closed : dropEndBlanks (c :: (rest ++ '(' :: arguments.toList ++ [')'])) =
      c :: (rest ++ '(' :: arguments.toList ++ [')']) := by
    rw [dropEndBlanks, ← List.cons_append, List.reverse_append, List.reverse_singleton,
      List.singleton_append, List.dropWhile_cons_of_neg (by decide), List.reverse_cons,
      List.reverse_reverse]
  apply String.toList_injective
  rw [toList_trim, split, opened, closed]

theorem readType_mysql_of_arguments {name arguments : String} {c : Char} {rest : List Char}
    (begins : name.toList = c :: rest) (visible : isBlank c = false) (other : c.toLower ≠ 't') :
    mysql.readType (name ++ "(" ++ arguments ++ ")") =
      mysqlNames.lookup (base (name ++ "(" ++ arguments ++ ")")) := by
  have flag : ¬ "tinyint(1)".toList <+:
      (trim (name ++ "(" ++ arguments ++ ")")).toLower.toList := by
    rw [trim_of_arguments begins visible]
    change ¬_ <+: (String.map Char.toLower _).toList
    rw [String.toList_map, String.toList_append, String.toList_append, String.toList_append,
      begins, List.cons_append, List.cons_append, List.cons_append, List.map_cons]
    exact fun same => other (List.cons_prefix_cons.mp same).1.symm
  rw [readType, if_neg flag]

theorem readType_mysql {c : Column} (plain : c.isEnum = false) :
    mysql.readType (mysql.typeName c) = some (mysql.storedType c.type) := by
  unfold typeName nativeType
  cases h : c.type <;> simp only [NativeType.mysql, h, varchar, char, decimalOf]
  case string =>
    rw [sql, readType_mysql_of_arguments rfl (by decide) (by decide),
      base_of_arguments (by decide) (flat_toString _)]
    decide
  case char =>
    rw [sql, readType_mysql_of_arguments rfl (by decide) (by decide),
      base_of_arguments (by decide) (flat_toString _)]
    decide
  case decimal =>
    rw [sql_decimal, readType_mysql_of_arguments rfl (by decide) (by decide),
      base_of_arguments (by decide) (flat_decimalArguments _ _)]
    decide
  case enum => simp [Column.isEnum, h] at plain
  all_goals decide +kernel

theorem readType_typeName {d : Dialect} (hints : d = .mysql ∨ d = .postgres) {c : Column}
    (plain : c.isEnum = false) : d.readType (d.typeName c) = some (d.storedType c.type) := by
  rcases hints with rfl | rfl
  · exact readType_mysql plain
  · exact readType_postgres plain

end Dialect

end SqlComposer
