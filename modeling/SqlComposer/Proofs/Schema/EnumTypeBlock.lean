import Mathlib.Data.List.Basic
import SqlComposer.Proofs.Schema.FramedOptions
import SqlComposer.Proofs.Text.Occurrence
import SqlComposer.Proofs.Text.PostgresLexer
import SqlComposer.Schema.Alteration

/-!
The block that makes an enumeration type. Its options are literals within a body between dollars,
and only quotes are doubled in them. So the body ends where the statement does exactly if no option
holds two dollars in a row; otherwise it breaks off within the literal of an option
(`Dialect.block_prerequisites`).
-/

namespace SqlComposer

open Text

namespace EnumBlock

/-- What the body says: the type with its options, unless it is there already. -/
def declaration (options : List String) : List Token :=
  [.word "BEGIN", .word "CREATE", .word "TYPE", .identifier (enumTypeName options), .word "AS",
    .word "ENUM", .sign '('] ++
    (options.map Token.literal).intersperse (.sign ',') ++
    [.sign ')', .sign ';', .word "EXCEPTION", .word "WHEN", .word "duplicate_object",
      .word "THEN", .word "NULL", .sign ';', .word "END"]

/-! ## The text -/

def opening (name : String) : List Char :=
  " BEGIN CREATE TYPE ".toList ++ (enclosed '"' name).toList ++ " AS ENUM (".toList

def ending : List Char := "; EXCEPTION WHEN duplicate_object THEN NULL; END ".toList

def body (options : List String) : List Char :=
  opening (enumTypeName options) ++ (quotedOptions options).toList ++ ')' :: ending

theorem enumTypeName_ne_star (options : List String) : enumTypeName options ≠ "*" := by
  intro same
  have heads := congrArg (fun s => s.toList.head?) same
  simp [enumTypeName] at heads

theorem toList_sql_createType (options : List String) :
    (Ddl.sql .postgres (.createType options)).toList =
      "DO $$".toList ++ (body options ++ Postgres.dollars) := by
  have text : Ddl.sql .postgres (.createType options) =
      "DO $$ BEGIN CREATE TYPE " ++ Dialect.postgres.quoteIdentifier (enumTypeName options) ++
        " AS ENUM (" ++ quotedOptions options ++
        "); EXCEPTION WHEN duplicate_object THEN NULL; END $$" := rfl
  have name : ∀ n, n ≠ "*" → Dialect.postgres.quoteIdentifier n = enclosed '"' n :=
    fun _ other => if_neg other
  -- The marks of the block stand in the same literals as the first and the last words of the body.
  have front : "DO $$ BEGIN CREATE TYPE ".toList =
      "DO $$".toList ++ " BEGIN CREATE TYPE ".toList := rfl
  have back : "); EXCEPTION WHEN duplicate_object THEN NULL; END $$".toList =
      ')' :: ending ++ Postgres.dollars := rfl
  unfold body opening
  rw [text, name _ (enumTypeName_ne_star options)]
  simp only [String.toList_append, front, back, List.append_assoc]

def listed (options : List String) : List Char :=
  options.flatMap fun option => (literal option).toList ++ ", ".toList

theorem toList_quotedOptions_append (before : List String) (option : String)
    (after : List String) :
    (quotedOptions (before ++ option :: after)).toList =
      listed before ++ ((literal option).toList ++ furtherLiterals after) := by
  rw [quotedOptions, List.map_append, List.map_cons, toList_intercalate_append, List.flatMap_map,
    List.flatMap_map, listed, furtherLiterals]

/-! ## The tokens -/

theorem reads_opening (name : String) : Postgres.lexer.Reads .between (opening name)
    [.word "BEGIN", .word "CREATE", .word "TYPE", .identifier name, .word "AS", .word "ENUM",
      .sign '('] .between := by
  have front : Postgres.lexer.Reads .between " BEGIN CREATE TYPE ".toList
      [.word "BEGIN", .word "CREATE", .word "TYPE"] .between :=
    ⟨by decide, [], [], rfl, rfl, by decide⟩
  have back : Postgres.lexer.Reads .between " AS ENUM (".toList
      [.word "AS", .word "ENUM", .sign '('] .between :=
    ⟨by decide, [], [], rfl, rfl, by decide⟩
  exact (front.append (Postgres.reads_enclosed .double name)).append_of_breaks rfl
    (c := ' ') (by decide) (Postgres.lexer_breaks (by decide)) back

theorem reads_separated (option : String) : Postgres.lexer.Reads .between
    ((literal option).toList ++ ", ".toList) [.literal option, .sign ','] .between := by
  have separator : Postgres.lexer.Reads .between ", ".toList [.sign ','] .between :=
    ⟨by decide, [], [], rfl, rfl, by decide⟩
  exact (Postgres.reads_enclosed .single option).append_of_breaks rfl
    (c := ',') (by decide) (Postgres.lexer_breaks (by decide)) separator

theorem reads_listed (options : List String) : Postgres.lexer.Reads .between (listed options)
    (options.flatMap fun option => [.literal option, .sign ',']) .between := by
  induction options with
  | nil => exact Scanner.reads_nil rfl
  | cons option rest ih => exact (reads_separated option).append ih

theorem intersperse_literals (options : List String) (last : String) :
    ((options ++ [last]).map Token.literal).intersperse (.sign ',') =
      (options.flatMap fun option => [.literal option, .sign ',']) ++ [.literal last] := by
  induction options with
  | nil => rfl
  | cons option rest ih =>
    obtain ⟨next, others, more⟩ : ∃ next others, rest ++ [last] = next :: others :=
      List.exists_cons_of_ne_nil (by simp)
    rw [more] at ih
    rw [List.cons_append, more, List.map_cons, List.map_cons, List.intersperse_cons_cons,
      ← List.map_cons, ih]
    rfl

theorem reads_quotedOptions (options : List String) : ∃ after,
    Postgres.lexer.Reads .between (quotedOptions options).toList
      ((options.map Token.literal).intersperse (.sign ',')) after := by
  rcases List.eq_nil_or_concat' options with rfl | ⟨before, last, rfl⟩
  · exact ⟨.between, Scanner.reads_nil rfl⟩
  · rw [toList_quotedOptions_append, intersperse_literals, furtherLiterals, List.flatMap_nil,
      List.append_nil]
    exact ⟨_, (reads_listed before).append (Postgres.reads_enclosed .single last)⟩

theorem tokens_body (options : List String) :
    Postgres.tokens (body options) = some (declaration options) := by
  have close : Postgres.lexer.Reads .between (')' :: ending)
      [.sign ')', .sign ';', .word "EXCEPTION", .word "WHEN", .word "duplicate_object",
        .word "THEN", .word "NULL", .sign ';', .word "END"] .between :=
    ⟨by decide, [], [], rfl, rfl, by decide⟩
  obtain ⟨after, list⟩ := reads_quotedOptions options
  have whole := ((reads_opening (enumTypeName options)).append list).append_of_breaks rfl
    (c := ')') (by decide) (Postgres.lexer_breaks (by decide)) close
  exact Scanner.scan_of_reads rfl whole

/-! ## Dollars in the options -/

theorem dollar_not_mem_hex (bytes : List UInt8) : '$' ∉ (Value.hex bytes).toList := by
  have digits : ∀ n < 16, '$' ≠ Nat.digitChar n := by decide
  rw [Value.hex, String.toList_ofList, List.mem_flatMap]
  rintro ⟨byte, -, held⟩
  have bound := byte.toNat_lt
  rw [Value.hexByte_eq, List.mem_pair] at held
  rcases held with high | low
  · exact digits _ (by omega) high
  · exact digits _ (by omega) low

theorem dollar_not_mem_opening (options : List String) :
    '$' ∉ opening (enumTypeName options) := by
  have bare : '$' ∉ (enumTypeName options).toList := by
    rw [enumTypeName, String.toList_append, List.mem_append, not_or]
    exact ⟨by decide, dollar_not_mem_hex _⟩
  have name : '$' ∉ (enclosed '"' (enumTypeName options)).toList := by
    rw [enclosed, String.toList_ofList, List.cons_append, List.mem_cons, List.mem_append]
    rintro (same | held | last)
    · cases same
    · exact bare (mem_doubled held)
    · cases List.mem_singleton.mp last
  unfold opening
  rw [List.mem_append, List.mem_append, not_or, not_or]
  exact ⟨⟨by decide, name⟩, by decide⟩

theorem dollars_infix_iff {front : List Char} (bare : '$' ∉ front) (options : List String)
    {back : List Char} (alone : ¬Postgres.dollars <:+: back) :
    Postgres.dollars <:+: front ++ (quotedOptions options).toList ++ ')' :: back ↔
      ∃ option ∈ options, Postgres.dollars <:+: option.toList := by
  have other : ∀ c ∈ front, c ∉ Postgres.dollars := by
    intro c held dollar
    have same : c = '$' := by simpa [Postgres.dollars] using dollar
    exact bare (same ▸ held)
  have apart : ∀ c ∈ ", ".toList.map id, c ∉ Postgres.dollars := by simp [Postgres.dollars]
  have among : Postgres.dollars <:+: (quotedOptions options).toList.map id ↔
      ∃ option ∈ options, Postgres.dollars <:+: option.toList.map id :=
    infix_intercalate_literals_iff (fun _ => Iff.rfl) (by decide) (by decide) apart options
  simp only [List.map_id] at among
  rw [infix_append_cons_iff (by decide), or_iff_left alone,
    infix_append_iff_of_absent (by decide) other, among]

/-- Where no option holds two dollars, the body goes up to the last two of the statement. -/
theorem closeDollars_of_free {options : List String}
    (free : ∀ option ∈ options, ¬Postgres.dollars <:+: option.toList) :
    Postgres.closeDollars (body options ++ Postgres.dollars) = some (body options, []) := by
  -- A body that ended on a dollar would be closed one character early.
  have apart : ¬Postgres.dollars <:+: ending ++ ['$'] := by decide +kernel
  have alone : ¬Postgres.dollars <:+: body options ++ ['$'] := by
    rw [body, List.append_assoc, List.cons_append,
      dollars_infix_iff (dollar_not_mem_opening options) options apart]
    rintro ⟨option, member, held⟩
    exact free option member held
  have closed := Postgres.closeDollars_append [] alone
  rwa [List.append_nil] at closed

/-- What has been read of an option when its first dollars come. -/
def cut (name : String) (before : List String) (head : List Char) : List Char :=
  opening name ++ listed before ++ '\'' :: doubled '\'' head

theorem tokens_cut (name : String) (before : List String) (head : List Char) :
    Postgres.tokens (cut name before head) = none := by
  have front := ((reads_opening name).append (reads_listed before)).1
  have quoted := Postgres.run_opened .single head
  have state : (Postgres.lexer.run .between (cut name before head)).2 =
      .inQuotes .single head := by
    rw [cut, Scanner.run_append, front]
    exact congrArg Prod.snd quoted
  have start : Postgres.lexer.start = .between := rfl
  have within : Postgres.lexer.close (.inQuotes .single head) = none := rfl
  rw [Postgres.tokens, Scanner.scan, start, state, within, Option.map_none]

theorem body_eq_cut (before after : List String) {option : String} {head tail : List Char}
    (split : option.toList = head ++ Postgres.dollars ++ tail) :
    body (before ++ option :: after) =
      cut (enumTypeName (before ++ option :: after)) before head ++ Postgres.dollars ++
        (doubled '\'' tail ++ '\'' :: (furtherLiterals after ++ ')' :: ending)) := by
  have dollars : doubled '\'' Postgres.dollars = Postgres.dollars := rfl
  rw [body, toList_quotedOptions_append, toList_literal, split, doubled_append, doubled_append,
    dollars, cut]
  simp only [List.append_assoc, List.cons_append, List.nil_append]

theorem not_dollars_infix_cut {name : String} (bare : '$' ∉ opening name) {before : List String}
    (free : ∀ option ∈ before, ¬Postgres.dollars <:+: option.toList) {head : List Char}
    (alone : ¬Postgres.dollars <:+: head ++ ['$']) :
    ¬Postgres.dollars <:+: cut name before head ++ ['$'] := by
  -- An option that ends where this one is cut closes its literal behind the same text.
  have shorter : opening name ++
      (quotedOptions (before ++ [String.ofList (head ++ ['$'])])).toList ++ ')' :: [] =
        cut name before head ++ ['$'] ++ ['\'', ')'] := by
    have dollar : doubled '\'' ['$'] = ['$'] := rfl
    rw [toList_quotedOptions_append, toList_literal, String.toList_ofList, doubled_append, dollar,
      cut]
    simp [furtherLiterals]
  intro held
  have longer := held.trans (List.prefix_append _ ['\'', ')']).isInfix
  rw [← shorter, dollars_infix_iff bare _ (by decide)] at longer
  obtain ⟨option, member, dollar⟩ := longer
  rcases List.mem_append.mp member with early | last
  · exact free option early dollar
  · rw [List.mem_singleton.mp last, String.toList_ofList] at dollar
    exact alone dollar

/-- The first dollars of an option close the body, and the literal of that option is left open. -/
theorem exists_closeDollars_of_held {options : List String}
    (held : ∃ option ∈ options, Postgres.dollars <:+: option.toList) :
    ∃ front rest, Postgres.closeDollars (body options ++ Postgres.dollars) = some (front, rest) ∧
      rest ≠ [] ∧ Postgres.tokens front = none := by
  obtain ⟨before, option, after, rfl, dollar, free⟩ : ∃ before option after,
      options = before ++ option :: after ∧ Postgres.dollars <:+: option.toList ∧
        ∀ other ∈ before, ¬Postgres.dollars <:+: other.toList := by
    obtain ⟨option, found⟩ := Option.isSome_iff_exists.mp
      (List.find?_isSome.mpr (by simpa using held) :
        (options.find? fun option => Postgres.dollars <:+: option.toList).isSome)
    obtain ⟨dollar, before, after, split, free⟩ := List.find?_eq_some_iff_append.mp found
    exact ⟨before, option, after, split, by simpa using dollar, by simpa using free⟩
  obtain ⟨head, tail, closed⟩ := Postgres.exists_closeDollars dollar
  obtain ⟨split, alone⟩ := Postgres.closeDollars_eq_some_iff.mp closed
  have bare := dollar_not_mem_opening (before ++ option :: after)
  have apart := not_dollars_infix_cut bare free alone
  rw [body_eq_cut before after split, List.append_assoc _ _ Postgres.dollars]
  refine ⟨_, _, Postgres.closeDollars_append _ apart, ?_, tokens_cut _ before head⟩
  exact List.append_ne_nil_of_right_ne_nil _ (by decide)

end EnumBlock

namespace Dialect

/-- The statement that an enumeration needs begins with a block, whose body ends where the
statement does exactly if no option holds two dollars in a row. Then the body makes the type of
these options in their order; otherwise it breaks off within the literal of an option. -/
theorem block_prerequisites (c : Column) (enumeration : c.isEnum = true) :
    ∃ sql body rest, (postgres.prerequisites c).map (Ddl.sql postgres) = [sql] ∧
      Postgres.block? sql.toList = some (body, rest) ∧
      (rest = [] ↔ ∀ option ∈ c.options, ¬Postgres.dollars <:+: option.toList) ∧
      Postgres.tokens body =
        if rest = [] then some (EnumBlock.declaration c.options) else none := by
  have made : (postgres.prerequisites c).map (Ddl.sql postgres) =
      [Ddl.sql postgres (.createType c.options)] := by
    rw [prerequisites, if_pos ⟨rfl, enumeration⟩, List.map_singleton]
  have block := EnumBlock.toList_sql_createType c.options
  by_cases held : ∃ option ∈ c.options, Postgres.dollars <:+: option.toList
  · obtain ⟨front, rest, closed, more, broken⟩ := EnumBlock.exists_closeDollars_of_held held
    refine ⟨_, front, rest, made, ?_, iff_of_false more ?_, ?_⟩
    · rw [block, Postgres.block?_append, closed]
    · simpa using held
    · rw [broken, if_neg more]
  · have free : ∀ option ∈ c.options, ¬Postgres.dollars <:+: option.toList := by simpa using held
    refine ⟨_, EnumBlock.body c.options, [], made, ?_, iff_of_true rfl free, ?_⟩
    · rw [block, Postgres.block?_append, EnumBlock.closeDollars_of_free free]
    · rw [EnumBlock.tokens_body, if_pos rfl]

/-- Quotes, single dollars, ends of lines and what looks like the end of the block are safe. -/
theorem block_prerequisites_of_quotes_and_dollars :
    let options := ["it's", "$", "'$'$'", "'); END $", "-- two\nlines", ""]
    let c : Column := { name := "c", type := .enum, options }
    c.isEnum = true ∧
      ∃ sql body, (postgres.prerequisites c).map (Ddl.sql postgres) = [sql] ∧
        Postgres.block? sql.toList = some (body, []) ∧
        Postgres.tokens body = some (EnumBlock.declaration options) := by
  intro options c
  have enumeration : c.isEnum = true := by decide
  obtain ⟨sql, body, rest, made, block, whole, read⟩ := block_prerequisites c enumeration
  obtain rfl := whole.mpr (by decide +kernel)
  exact ⟨enumeration, sql, body, made, block, read⟩

/-- Two dollars in an option are not: the body ends between them and leaves the literal open. -/
theorem not_block_prerequisites_of_dollars_in_option :
    let c : Column := { name := "c", type := .enum, options := ["a$$b"] }
    let front := " BEGIN CREATE TYPE \"enum_c2042655f34b0de4\" AS ENUM ('a"
    let rest := "b'); EXCEPTION WHEN duplicate_object THEN NULL; END $$"
    (postgres.prerequisites c).map (Ddl.sql postgres) = ["DO $$" ++ front ++ "$$" ++ rest] ∧
      Postgres.block? ("DO $$" ++ front ++ "$$" ++ rest).toList =
        some (front.toList, rest.toList) ∧
      Postgres.tokens front.toList = none := by
  decide +kernel

end Dialect

end SqlComposer
