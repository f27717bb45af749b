import SqlComposer.Proofs.Schema.EnumTypeBlock
import SqlComposer.Proofs.Text.MysqlLiteral

/-!
Texts that MySQL's definitions state as literals: comments of columns and tables, options of
enumerations and defaults. All of them double the quotes of the text and nothing else, although a
backslash escapes what follows it. So a text is read back from its literal exactly if each of its
backslashes stands before a wildcard of patterns (`Dialect.readsStated_iff`).
-/

namespace SqlComposer

open Text

/-- A place of a definition in which a text is stated, with all that is stated around it. -/
inductive TextPlace where
  | columnComment (c : Column)
  | tableComment (o : TableOptions)
  | option (c : Column) (before after : List String)
  | default (c : Column)

namespace TextPlace

def clause : TextPlace → String → String
  | columnComment c, s =>
    Dialect.mysql.columnText (Dialect.mysql.define { c with comment := some s })
  | tableComment o, s => Dialect.mysql.optionsText { o with comment := some s }
  | option c before after, s =>
    Dialect.mysql.columnText
      (Dialect.mysql.define { c with type := .enum, options := before ++ s :: after })
  | default c, s =>
    Dialect.mysql.columnText
      (Dialect.mysql.define
        { c with autoIncrement := false, default := some (.ofValue (.text s)) })

/-- The text of the literal. A comment of a column follows the hint that its type may need. -/
def stored : TextPlace → String → String
  | columnComment c, s =>
    if Dialect.mysql.needsTypeHint c then "T:" ++ c.type.name ++ "|" ++ s else s
  | _, s => s

/-! ## What stands around a text -/

section Clauses

variable (d : ColumnDefinition)

def beforeDefault : String :=
  Dialect.mysql.quoteIdentifier d.name ++ " " ++ d.type.sql .mysql ++
    (if d.unsigned then " UNSIGNED" else "") ++ (if d.nullable then " NULL" else " NOT NULL")

def afterDefault : String :=
  (if d.autoIncrement then Dialect.mysql.autoIncrementClause else "") ++
    (d.check.elim "" fun options => " " ++ Dialect.mysql.checkText d.name options) ++
    (d.comment.elim "" fun text => " " ++ Dialect.commentText text)

def afterType : String :=
  (if d.unsigned then " UNSIGNED" else "") ++ (if d.nullable then " NULL" else " NOT NULL") ++
    (d.default.elim "" fun sql => " DEFAULT " ++ sql) ++ afterDefault d

theorem columnText_eq_of_default (sql : String) :
    Dialect.mysql.columnText { d with default := some sql } =
      beforeDefault d ++ " DEFAULT " ++ sql ++ afterDefault d := by
  simp only [Dialect.columnText, beforeDefault, afterDefault, String.append_assoc]
  cases d.check <;> cases d.comment <;> rfl

theorem columnText_eq_of_type (type : NativeType) :
    Dialect.mysql.columnText { d with type } =
      Dialect.mysql.quoteIdentifier d.name ++ " " ++ type.sql .mysql ++ afterType d := by
  simp only [Dialect.columnText, afterType, afterDefault, String.append_assoc]
  cases d.default <;> cases d.check <;> cases d.comment <;> rfl

theorem columnText_eq_of_comment (text : String) :
    Dialect.mysql.columnText { d with comment := some text } =
      Dialect.mysql.columnText { d with comment := none } ++ " COMMENT " ++ literal text := by
  have spaced : " COMMENT " = " " ++ "COMMENT " := rfl
  simp only [Dialect.columnText, Dialect.commentText, spaced, String.append_assoc,
    String.append_empty]

end Clauses

theorem define_comment (c : Column) (s : String) :
    Dialect.mysql.define { c with comment := some s } =
      { Dialect.mysql.define c with comment := some (stored (.columnComment c) s) } := by
  have hint : Dialect.mysql.commentClause { c with comment := some s } =
      some (stored (.columnComment c) s) := by
    rw [stored]
    exact (apply_ite some _ _ _).symm
  rw [Dialect.define, hint]
  rfl

theorem define_default (c : Column) (s : String) :
    Dialect.mysql.define { c with autoIncrement := false, default := some (.ofValue (.text s)) } =
      { Dialect.mysql.define { c with autoIncrement := false } with
        default := some (literal s) } := rfl

theorem define_options (c : Column) (options : List String) :
    Dialect.mysql.define { c with type := .enum, options } =
      { Dialect.mysql.define { c with type := .enum } with type := .options options } := rfl

theorem head?_afterDefault {d : ColumnDefinition} (plain : d.autoIncrement = false)
    (unchecked : d.check = none) : (afterDefault d).toList.head? ≠ some '\'' := by
  rw [afterDefault, plain, unchecked]
  cases d.comment <;> simp

/-- A text stands as one literal between what does not hang on it, and no quote follows. -/
theorem exists_clause_eq (place : TextPlace) : ∃ front back : List Char,
    back.head? ≠ some '\'' ∧
      ∀ s, (place.clause s).toList = front ++ ((literal (place.stored s)).toList ++ back) := by
  cases place with
  | columnComment c =>
    let bare := { Dialect.mysql.define c with comment := none }
    refine ⟨(Dialect.mysql.columnText bare ++ " COMMENT ").toList, [], nofun, fun s => ?_⟩
    rw [clause, define_comment, columnText_eq_of_comment, String.toList_append, List.append_nil]
  | tableComment o =>
    let bare := Dialect.mysql.optionsText { o with comment := none }
    refine ⟨(bare ++ " COMMENT = ").toList, [], nofun, fun s => ?_⟩
    have text : clause (.tableComment o) s = bare ++ " COMMENT = " ++ literal s := by
      simp only [bare, clause, Dialect.optionsText, String.append_empty, String.append_assoc]
    rw [text, String.toList_append, List.append_nil]
    rfl
  | option c before after =>
    let d := Dialect.mysql.define { c with type := .enum }
    let name := Dialect.mysql.quoteIdentifier d.name
    refine ⟨(name ++ " ENUM(").toList ++ EnumBlock.listed before,
      furtherLiterals after ++ (")" ++ afterType d).toList, ?_, fun s => ?_⟩
    · cases after <;> simp [furtherLiterals]
    · have text : clause (.option c before after) s =
          name ++ " ENUM(" ++ quotedOptions (before ++ s :: after) ++ (")" ++ afterType d) := by
        have spaced : " ENUM(" = " " ++ "ENUM(" := rfl
        rw [clause, define_options, columnText_eq_of_type, NativeType.sql, spaced]
        simp only [name, String.append_assoc]
        rfl
      rw [text, String.toList_append, String.toList_append,
        EnumBlock.toList_quotedOptions_append, List.append_assoc, List.append_assoc,
        List.append_assoc]
      exact (List.append_assoc _ _ _).symm
  | default c =>
    let d := Dialect.mysql.define { c with autoIncrement := false }
    refine ⟨(beforeDefault d ++ " DEFAULT ").toList, (afterDefault d).toList,
      head?_afterDefault rfl rfl, fun s => ?_⟩
    rw [clause, define_default, columnText_eq_of_default, String.toList_append,
      String.toList_append, List.append_assoc]
    rfl

theorem backslash_not_mem_name (type : ColumnType) : '\\' ∉ type.name.toList := by
  cases type <;> decide

theorem backslashesStay_stored (place : TextPlace) (s : String) :
    Mysql.BackslashesStay (place.stored s).toList ↔ Mysql.BackslashesStay s.toList := by
  cases place with
  | columnComment c =>
    rw [stored]
    split
    · have hint : '\\' ∉ ("T:" ++ c.type.name ++ "|").toList := by
        simpa using backslash_not_mem_name c.type
      rw [String.toList_append]
      exact Mysql.backslashesStay_append_of_bare hint s.toList
    · rfl
  | tableComment o => rfl
  | option c before after => rfl
  | default c => rfl

end TextPlace

/-- Wherever a text is stated, nothing around it hangs on it, and its literal ends at its own
closing quote and is read as the text exactly if each backslash stands before a wildcard of
patterns. -/
theorem Dialect.readsStated_iff (place : TextPlace) : ∃ front back : List Char, ∀ s : String,
    (place.clause s).toList = front ++ ((literal (place.stored s)).toList ++ back) ∧
      (Mysql.literal? ((literal (place.stored s)).toList ++ back) =
          some ((place.stored s).toList, back) ↔
        Mysql.BackslashesStay s.toList) := by
  rcases place.exists_clause_eq with ⟨front, back, apart, text⟩
  refine ⟨front, back, fun s => ⟨text s, ?_⟩⟩
  calc
    _ ↔ Mysql.value? (place.stored s).toList = some (place.stored s).toList :=
      Mysql.literal?_literal_iff _ _ apart
    _ ↔ Mysql.BackslashesStay (place.stored s).toList := Mysql.value?_eq_self_iff _
    _ ↔ Mysql.BackslashesStay s.toList := place.backslashesStay_stored s

/-- A backslash at the end of a text takes the closing quote into the literal, and one within it
makes another character of the next. -/
theorem Dialect.not_readsStated_of_backslash :
    let c : Column := { name := "c", type := .string }
    (TextPlace.columnComment c).clause "a\\" = "`c` VARCHAR(255) NOT NULL COMMENT 'a\\'" ∧
      Mysql.literal? "'a\\'".toList = none ∧
      (TextPlace.option c [] [", 'b"]).clause "a\\" = "`c` ENUM('a\\', ', ''b') NOT NULL" ∧
      Mysql.literal? "'a\\', ', ''b') NOT NULL".toList =
        some ("a', ".toList, ", ''b') NOT NULL".toList) ∧
      (TextPlace.default c).clause "C:\\new" = "`c` VARCHAR(255) NOT NULL DEFAULT 'C:\\new'" ∧
      Mysql.literal? "'C:\\new'".toList = some ("C:\new".toList, []) := by
  decide +kernel

end SqlComposer
