import SqlComposer.Proofs.Schema.TypeReading
import SqlComposer.Proofs.Text.Occurrence

/-!
Enumerations that are read back from the type they are declared with. The options are literals and
come back whatever they hold, but the name of the type is looked for outside parentheses and a mark
anywhere, both without regard to literals. So a declaration is read as an enumeration exactly if
its options leave no word of theirs outside the parentheses, and as unsigned if one of them says so
(`Dialect.readsEnumeration_iff`).
-/

namespace SqlComposer

/-! ## Words in front of others -/

namespace Text

variable {part cs : List Char} (visible : ∀ c ∈ part, isBlank c = false)
include visible

theorem words_append_of_apart (given : part ≠ []) (apart : cs.head?.all isBlank = true) :
    words (part ++ cs) = part :: words cs := by
  cases cs with
  | nil =>
    have split : splitWhere isBlank (part ++ []) = [part ++ []] := splitWhere_append visible rfl
    rw [words, split]
    simp [given, words, splitWhere]
  | cons c cs =>
    have blank : isBlank c = true := by simpa using apart
    have start : splitWhere isBlank (c :: cs) = [] :: splitWhere isBlank cs := by
      rw [splitWhere, if_pos blank]
    rw [words, words, splitWhere_append visible start, start]
    simp [given]

theorem exists_words_append_of_joined (joined : cs.head?.all isBlank = false) :
    ∃ c rest others, words (part ++ cs) = (part ++ c :: rest) :: others := by
  cases cs with
  | nil => cases joined
  | cons c cs =>
    have shown : isBlank c = false := by simpa using joined
    obtain ⟨first, more, split⟩ := exists_splitWhere_cons isBlank cs
    have start : splitWhere isBlank (c :: cs) = (c :: first) :: more := by
      simp [splitWhere, shown, split]
    refine ⟨c, first, more.filter (· ≠ []), ?_⟩
    rw [words, splitWhere_append visible start]
    simp

end Text

open Text

/-! ## What is outside the parentheses -/

namespace NativeType

/-- Parentheses are counted inside literals too, so a list can end them too early. What then stands
outside must be words that are left out of the name of a type. -/
def Enclosed (list : List Char) : Prop :=
  let stray := (outside 1 list).map Char.toLower
  stray.head?.all isBlank = true ∧
    ∀ word ∈ words stray, word = "unsigned".toList ∨ word = "zerofill".toList

instance (list : List Char) : Decidable (Enclosed list) := inferInstanceAs (Decidable (_ ∧ _))

theorem outside_append_close (depth : Nat) (cs : List Char) :
    outside depth (cs ++ [')']) = outside depth cs := by
  fun_induction outside depth cs with
  | case1 => rfl
  | case2 depth cs ih => exact ih
  | case3 depth cs ih => exact ih
  | case4 c cs opens closes ih => rw [List.cons_append, outside.eq_4 _ _ _ opens closes, ih]; rfl
  | case5 depth c cs opens closes deep ih =>
    rw [List.cons_append, outside.eq_4 _ _ _ opens closes, if_neg deep, ih]

theorem ofList_eq_iff {cs : List Char} {s : String} : String.ofList cs = s ↔ cs = s.toList := by
  rw [← String.toList_inj, String.toList_ofList]

theorem intercalate_eq_first_iff {first : String} {rest : List String} :
    " ".intercalate (first :: rest) = first ↔ rest = [] := by
  rw [← String.toList_inj, toList_intercalate_cons, List.append_right_eq_self]
  cases rest <;> simp

theorem intercalate_words_iff (stray : List Char) :
    " ".intercalate (((words ("enum".toList ++ stray)).map String.ofList).filter
        fun w => w ≠ "unsigned" ∧ w ≠ "zerofill") = "enum" ↔
      stray.head?.all isBlank = true ∧
        ∀ word ∈ words stray, word = "unsigned".toList ∨ word = "zerofill".toList := by
  have visible : ∀ c ∈ "enum".toList, isBlank c = false := by simp [isBlank]
  cases apart : stray.head?.all isBlank with
  | false =>
    obtain ⟨c, rest, others, parts⟩ := exists_words_append_of_joined visible apart
    have kept : ∀ word : String, word.toList.head? ≠ some 'e' →
        String.ofList ("enum".toList ++ c :: rest) ≠ word := by
      rintro word other rfl
      simp at other
    rw [parts, List.map_cons, List.filter_cons_of_pos]
    rotate_left
    · exact decide_eq_true ⟨kept "unsigned" (by decide), kept "zerofill" (by decide)⟩
    refine iff_of_false (fun same => ?_) (fun enclosed => absurd enclosed.1 (by decide))
    have letters := congrArg String.toList same
    rw [toList_intercalate_cons] at letters
    simp at letters
  | true =>
    rw [words_append_of_apart visible (by decide) apart, List.map_cons, String.ofList_toList,
      List.filter_cons_of_pos (by decide), intercalate_eq_first_iff, List.filter_eq_nil_iff]
    simp only [List.forall_mem_map, decide_eq_true_eq, ne_eq, ofList_eq_iff,
      Classical.not_and_iff_not_or_not, Classical.not_not, true_and]

section Declarations

variable {keyword arguments : String} (lower : keyword.toList.map Char.toLower = "enum".toList)
include lower

theorem flat_of_lower : Flat keyword.toList := by
  constructor <;>
  · intro mem
    have small := List.mem_map_of_mem (f := Char.toLower) mem
    rw [lower] at small
    exact absurd small (by decide)

theorem words_declaration : words ((outside 0 (keyword ++ "(" ++ arguments ++ ")").toList).map
    Char.toLower) = words ("enum".toList ++ (outside 1 arguments.toList).map Char.toLower) := by
  have split : (keyword ++ "(" ++ arguments ++ ")").toList =
      keyword.toList ++ '(' :: (arguments.toList ++ [')']) := by
    simp
  have inside : outside 0 ('(' :: (arguments.toList ++ [')'])) = outside 1 arguments.toList :=
    outside_append_close 1 arguments.toList
  rw [split, outside_append (flat_of_lower lower), inside, if_pos rfl, List.map_append, lower]

theorem base_declaration_iff :
    base (keyword ++ "(" ++ arguments ++ ")") = "enum" ↔ Enclosed arguments.toList := by
  rw [base, words_declaration lower]
  exact intercalate_words_iff _

end Declarations

theorem lookup_mysqlNames_iff {name : String} :
    mysqlNames.lookup name = some .enum ↔ name = "enum" := by
  constructor
  · intro found
    obtain ⟨before, after, split, -⟩ := List.lookup_eq_some_iff.mp found
    have listed : (name, ColumnType.enum) ∈ mysqlNames := by
      rw [split]
      exact List.mem_append_right _ List.mem_cons_self
    simpa [mysqlNames] using listed
  · rintro rfl
    decide

end NativeType

/-! ## Declared enumerations -/

def enumDeclaration (keyword separator : String) (options : List String) : String :=
  keyword ++ "(" ++ separator.intercalate (options.map literal) ++ ")"

namespace Dialect

open NativeType

theorem typeName_of_isEnum {c : Column} (enumeration : c.isEnum = true) :
    mysql.typeName c = enumDeclaration "ENUM" ", " c.options := by
  have type : c.type = .enum := of_decide_eq_true enumeration
  simp [typeName, nativeType, NativeType.mysql, type, sql, enumDeclaration, quotedOptions]

section Keyword

variable {keyword : String} (spelled : keyword = "ENUM" ∨ keyword = "enum")
include spelled

theorem map_toLower_keyword : keyword.toList.map Char.toLower = "enum".toList := by
  rcases spelled with rfl | rfl <;> decide

theorem exists_keyword_cons :
    ∃ c rest, keyword.toList = c :: rest ∧ isBlank c = false ∧ c.toLower ≠ 't' := by
  rcases spelled with rfl | rfl
  · exact ⟨'E', "NUM".toList, by decide, by decide, by decide⟩
  · exact ⟨'e', "num".toList, by decide, by decide, by decide⟩

theorem readType_declaration_iff (arguments : String) :
    mysql.readType (keyword ++ "(" ++ arguments ++ ")") = some .enum ↔
      Enclosed arguments.toList := by
  obtain ⟨c, rest, begins, visible, other⟩ := exists_keyword_cons spelled
  rw [readType_mysql_of_arguments begins visible other, lookup_mysqlNames_iff,
    base_declaration_iff (map_toLower_keyword spelled)]

theorem declaredOptions_declaration (arguments : String) :
    declaredOptions (keyword ++ "(" ++ arguments ++ ")") =
      (literals arguments.toList).map String.ofList := by
  obtain ⟨c, rest, begins, visible, -⟩ := exists_keyword_cons spelled
  have lower := map_toLower_keyword spelled
  have split : (keyword ++ "(" ++ arguments ++ ")").toList =
      keyword.toList ++ '(' :: (arguments.toList ++ [')']) := by
    simp
  have starts : "enum(".toList <+:
      (keyword ++ "(" ++ arguments ++ ")").toList.map Char.toLower := by
    rw [split, List.map_append, lower, List.map_cons]
    exact ⟨(arguments.toList ++ [')']).map Char.toLower, rfl⟩
  have sized : keyword.toList.length = 4 := by
    rw [← List.length_map (f := Char.toLower), lower]
    decide
  have list : (keyword ++ "(" ++ arguments ++ ")").toList.drop 5 = arguments.toList ++ [')'] := by
    rw [split, List.drop_append, sized, List.drop_of_length_le (by omega)]
    rfl
  rw [declaredOptions, trim_of_arguments begins visible, declaredList, if_pos starts, list]
  simp

/-- Between the literals, no text can say what their texts do not. -/
theorem mentions_enumDeclaration_iff {separator : String}
    (commas : separator = ", " ∨ separator = ",") (options : List String) :
    mentions (enumDeclaration keyword separator options) "unsigned" = true ↔
      ∃ option ∈ options, mentions option "unsigned" = true := by
  have apart : ∀ c ∈ separator.toList.map Char.toLower, c ∉ "unsigned".toList := by
    rcases commas with rfl | rfl <;> simp
  have split : (enumDeclaration keyword separator options).toList.map Char.toLower =
      "enum".toList ++ '(' ::
        ((separator.intercalate (options.map literal)).toList.map Char.toLower ++ ')' :: []) := by
    rw [← map_toLower_keyword spelled]
    simp [enumDeclaration]
  have keyword : ¬"unsigned".toList <:+: "enum".toList := by decide
  have behind : ¬"unsigned".toList <:+: [] := by decide
  simp only [mentions_iff]
  rw [split, infix_append_cons_iff (by decide), infix_append_cons_iff (by decide),
    infix_intercalate_literals_iff (fun _ => toLower_eq_quote_iff) (by decide) (by decide) apart,
    or_iff_right keyword, or_iff_left behind]

end Keyword

/-! ## Rows -/

section Rows

variable {r : Row}

theorem exists_listedColumn_of_uncommented {name native : String}
    (named : r.requiredText "name" = .ok name)
    (typed : r.requiredText "native_type" = .ok native)
    (uncommented : (r.text? "comment").bind nonempty = none) :
    ∃ c, mysql.listedColumn r = .ok c ∧ c.type = (mysql.readType native).getD .string ∧
      c.unsigned = mentions native "unsigned" ∧ c.nativeType = some native := by
  have decoded : decodeComment (r.text? "comment") = (none, none) := by
    rw [decodeComment, uncommented]
  rw [listedColumn, named, typed, decoded]
  exact ⟨_, rfl, rfl, rfl, rfl⟩

theorem readColumn_of_listed {c : Column} (listed : mysql.listedColumn r = .ok c) :
    mysql.readColumn r =
      .ok (if c.isEnum then { c with options := declaredOptions (c.nativeType.getD "") }
        else c) := by
  rw [readColumn, listed]
  cases enumeration : c.isEnum <;> simp [bind, Except.bind, pure, Except.pure, enumeration]

theorem exists_readColumn_of_uncommented {name native : String}
    (named : r.requiredText "name" = .ok name)
    (typed : r.requiredText "native_type" = .ok native)
    (uncommented : (r.text? "comment").bind nonempty = none) :
    ∃ c, mysql.readColumn r = .ok c ∧ c.type = (mysql.readType native).getD .string ∧
      c.unsigned = mentions native "unsigned" ∧
      (c.type = .enum → c.options = declaredOptions native) := by
  obtain ⟨c, listed, type, unsigned, kept⟩ :=
    exists_listedColumn_of_uncommented named typed uncommented
  have read := readColumn_of_listed listed
  rw [kept, Option.getD_some] at read
  -- The options are any here, so that nothing goes on to read them.
  generalize declaredOptions native = options at read ⊢
  by_cases enumeration : c.isEnum = true
  · rw [if_pos enumeration] at read
    exact ⟨_, read, type, unsigned, fun _ => rfl⟩
  · rw [if_neg enumeration] at read
    have other : c.type ≠ .enum := fun same => enumeration (decide_eq_true same)
    exact ⟨_, read, type, unsigned, fun same => absurd same other⟩

theorem exists_readColumn_enumDeclaration {name keyword separator : String} {options : List String}
    (spelled : keyword = "ENUM" ∨ keyword = "enum") (commas : separator = ", " ∨ separator = ",")
    (named : r.requiredText "name" = .ok name)
    (typed : r.requiredText "native_type" = .ok (enumDeclaration keyword separator options))
    (uncommented : (r.text? "comment").bind nonempty = none) :
    ∃ c, mysql.readColumn r = .ok c ∧
      (c.type = .enum ↔ Enclosed (separator.intercalate (options.map literal)).toList) ∧
      (c.type = .enum → c.options = options) ∧
      (c.unsigned = true ↔ ∃ option ∈ options, mentions option "unsigned" = true) := by
  obtain ⟨c, read, type, unsigned, listed⟩ :=
    exists_readColumn_of_uncommented named typed uncommented
  have quoteless : separator ≠ "" ∧ '\'' ∉ separator.toList := by
    rcases commas with rfl | rfl <;> decide
  have kept : declaredOptions (enumDeclaration keyword separator options) = options := by
    rw [enumDeclaration, declaredOptions_declaration spelled,
      literals_intercalate quoteless.1 quoteless.2, List.map_map]
    simp
  have enumeration : c.type = .enum ↔
      mysql.readType (enumDeclaration keyword separator options) = some .enum := by
    rw [type]
    cases mysql.readType (enumDeclaration keyword separator options) <;> simp
  refine ⟨c, read, ?_, fun same => (listed same).trans kept, ?_⟩
  · rw [enumeration, enumDeclaration, readType_declaration_iff spelled]
  · rw [unsigned, mentions_enumDeclaration_iff spelled commas]

end Rows

end Dialect

/-- The type that an enumeration is declared with, in capital or small letters and with or without
blanks behind its commas, is read back as an enumeration of the same options and not as unsigned,
exactly if no option says that it is and the options leave nothing outside the parentheses that
counts as a word of the type's name. -/
theorem Dialect.readsEnumeration_iff {r : Row} {name keyword separator : String}
    {options : List String} (spelled : keyword = "ENUM" ∨ keyword = "enum")
    (commas : separator = ", " ∨ separator = ",") (named : r.requiredText "name" = .ok name)
    (typed : r.requiredText "native_type" = .ok (enumDeclaration keyword separator options))
    (uncommented : (r.text? "comment").bind nonempty = none) :
    (∀ c : Column, c.isEnum = true → c.options = options →
      mysql.typeName c = enumDeclaration "ENUM" ", " options) ∧
      ((∃ c, mysql.readColumn r = .ok c ∧ c.type = .enum ∧ c.options = options ∧
        c.unsigned = false) ↔
          (∀ option ∈ options, mentions option "unsigned" = false) ∧
            NativeType.Enclosed (separator.intercalate (options.map literal)).toList) := by
  obtain ⟨c, read, type, kept, unsigned⟩ :=
    exists_readColumn_enumDeclaration spelled commas named typed uncommented
  refine ⟨?_, ?_, ?_⟩
  · rintro c enumeration rfl
    exact typeName_of_isEnum enumeration
  · rintro ⟨found, made, enumeration, -, signed⟩
    cases made.symm.trans read
    refine ⟨fun option mem => Bool.eq_false_iff.mpr fun marks => ?_, type.mp enumeration⟩
    rw [unsigned.mpr ⟨option, mem, marks⟩] at signed
    cases signed
  · rintro ⟨silent, enclosed⟩
    have enumeration := type.mpr enclosed
    refine ⟨c, read, enumeration, kept enumeration, Bool.eq_false_iff.mpr fun marked => ?_⟩
    obtain ⟨option, mem, marks⟩ := unsigned.mp marked
    rw [silent option mem] at marks
    cases marks

/-- Quotes, commas, ends of lines and parentheses in pairs are read back, and so is a parenthesis
that closes before another opens. -/
theorem Dialect.readsEnumeration_of_punctuated_options :
    let options := ["it's", "a, 'b'", "(c (d))", "e) (f", "two\nlines", "un signed", ""]
    let r : Row := ⟨[("name", .text "c"), ("comment", .text ""),
      ("native_type", .text
        "enum('it''s','a, ''b''','(c (d))','e) (f','two\nlines','un signed','')")]⟩
    r.requiredText "name" = .ok "c" ∧
      r.requiredText "native_type" = .ok (enumDeclaration "enum" "," options) ∧
      (r.text? "comment").bind nonempty = none ∧
      ∃ c, mysql.readColumn r = .ok c ∧ c.type = .enum ∧ c.options = options ∧
        c.unsigned = false := by
  intro options r
  have written : enumDeclaration "enum" "," options =
      "enum('it''s','a, ''b''','(c (d))','e) (f','two\nlines','un signed','')" := by decide +kernel
  have typed : r.requiredText "native_type" = .ok (enumDeclaration "enum" "," options) := by
    rw [written]
    rfl
  obtain ⟨-, reads⟩ := Dialect.readsEnumeration_iff (.inr rfl) (.inr rfl)
    (rfl : r.requiredText "name" = .ok "c") typed (by decide +kernel)
  exact ⟨rfl, typed, by decide +kernel, reads.mpr (by decide +kernel)⟩

/-- An option that closes a parenthesis and one that names a mark of numbers are not. -/
theorem Dialect.not_readsEnumeration_of_parenthesis_or_mark :
    let row (native : String) : Row :=
      ⟨[("name", .text "c"), ("native_type", .text native), ("comment", .text "")]⟩
    let column (options : List String) : Column := { name := "c", type := .enum, options }
    mysql.typeName (column ["a)b"]) = "ENUM('a)b')" ∧
      (mysql.readColumn (row "ENUM('a)b')")).toOption.map (fun c => (c.type, c.options)) =
        some (.string, []) ∧
      mysql.typeName (column ["unsigned"]) = "ENUM('unsigned')" ∧
      (mysql.readColumn (row "ENUM('unsigned')")).toOption.map
        (fun c => (c.type, c.options, c.unsigned)) = some (.enum, ["unsigned"], true) := by
  decide +kernel

end SqlComposer
