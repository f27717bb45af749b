import SqlComposer.Proofs.Statement.Reading
import SqlComposer.Proofs.Text.Lexer
import SqlComposer.Builder.Arguments

/-!
The vocabulary of statements without raw SQL. They read piece by piece: a text gives words,
literals and signs that are fixed in advance, a slot its mark, and a name one identifier
(`Piece.ReadsAs`, `Dialect.tokenReading`).
-/

namespace SqlComposer

open Fragment

/-! ## The vocabulary -/

def keywords : List String :=
  ["select", "distinct", "on", "from", "as", "inner", "left", "right", "cross", "join", "where",
    "and", "or", "not", "in", "between", "is", "null", "exists", "group", "by", "having", "order",
    "asc", "desc", "limit", "offset", "union", "all", "for", "update", "share", "lock", "mode",
    "insert", "ignore", "into", "values", "default", "conflict", "do", "nothing", "duplicate",
    "key", "set", "returning", "delete", "truncate", "table", "restart", "identity", "cascade",
    "cast", "extract", "strftime", "aggregate", "date", "time", "day", "month", "year", "text",
    "int", "float8", "RAND", "RANDOM", "*", "=", "-1"]

def operatorWords : List String :=
  operators.flatMap fun operator => (Text.words operator.toList).map String.ofList

def dateFormats : List String := ["%Y-%m-%d", "%H:%M:%S", "%d", "%m", "%Y"]

def isDecimal (cs : List Char) : Bool := !cs.isEmpty && cs.all Char.isDigit

def isPlaceholder : List Char → Bool
  | ['?'] => true
  | '$' :: digits => isDecimal digits
  | _ => false

/-- Tokens that are known whatever names a statement is made from. -/
def Token.isFixed : Token → Bool
  | .identifier _ => false
  | .literal text => dateFormats.contains text
  | .sign c => Text.signs.contains c
  | .word text =>
    keywords.contains text || operatorWords.contains text || isDecimal text.toList ||
      isPlaceholder text.toList

def Token.isIdentifier : Token → Bool
  | .identifier _ => true
  | _ => false

theorem Token.isFixed_of_isDecimal {text : String} (decimal : isDecimal text.toList = true) :
    (word text).isFixed = true := by
  simp [isFixed, decimal]

theorem Token.isFixed_of_isPlaceholder {text : String} (mark : isPlaceholder text.toList = true) :
    (word text).isFixed = true := by
  simp [isFixed, mark]

/-! ## Reading -/

/-- Any names, the known operators, and no raw SQL but the call for a random order. -/
def Lexicon.quoted : Lexicon where
  letter _ := True
  operator text := text ∈ operators
  function _ := False
  expression _ := False
  raw r := ∃ d : Dialect, r = ⟨d.randomFunction, []⟩
  plain _ _ := trivial
  slots_raw := by
    rintro r ⟨d, rfl⟩
    cases d <;> decide

theorem Lexicon.name_quoted (s : String) : Lexicon.quoted.Name s := fun _ _ => trivial

namespace Text

def quotes : List Char := ['"', '`']

def scansFixed (cs : List Char) : Bool :=
  quotes.all fun quote => ((lexer quote).scan cs).any (·.all Token.isFixed)

variable {quote : Char}

theorem tokens_of_scansFixed (known : quote ∈ quotes) {cs : List Char}
    (fixed : scansFixed cs = true) :
    ∃ tokens, (lexer quote).scan cs = some tokens ∧ ∀ t ∈ tokens, t.isFixed = true := by
  have fixed := List.all_eq_true.mp fixed quote known
  cases found : (lexer quote).scan cs with
  | none =>
    rw [found] at fixed
    cases fixed
  | some tokens =>
    rw [found] at fixed
    exact ⟨tokens, rfl, List.all_eq_true.mp fixed⟩

def endsFresh (cs : List Char) : Bool :=
  quotes.all fun quote => ((lexer quote).run (lexer quote).start cs).2 == (lexer quote).start

theorem run_of_endsFresh (known : quote ∈ quotes) {cs : List Char} (ends : endsFresh cs = true) :
    ((lexer quote).run (lexer quote).start cs).2 = (lexer quote).start :=
  eq_of_beq (List.all_eq_true.mp ends quote known)

def beginsWithBreak (cs : List Char) : Bool :=
  quotes.all fun quote => cs.head?.any fun c => endsWord quote c && c != quote

theorem breaks_of_beginsWithBreak (known : quote ∈ quotes) {cs : List Char}
    (begins : beginsWithBreak cs = true) :
    ∃ c rest, cs = c :: rest ∧ (lexer quote).Breaks c := by
  have begins := List.all_eq_true.mp begins quote known
  cases cs with
  | nil => cases begins
  | cons c rest =>
    have both : (endsWord quote c && c != quote) = true := begins
    rcases Bool.and_eq_true_iff.mp both with ⟨ends, other⟩
    exact ⟨c, rest, rfl, lexer_breaks ends (bne_iff_ne.mp other)⟩

theorem endsWord_of_isDigit (known : quote ∈ quotes) {c : Char} (digit : c.isDigit = true) :
    endsWord quote c = false := by
  have blank : isBlank c = false := by
    rw [Bool.eq_false_iff]
    intro blank
    rw [isDigit_of_isBlank blank] at digit
    cases digit
  have other (d : Char) (sign : d.isDigit = false) : c ≠ d := by
    rintro rfl
    rw [sign] at digit
    cases digit
  have quoted : quote.isDigit = false := by
    have none : (quotes.all fun d => !d.isDigit) = true := rfl
    simpa using List.all_eq_true.mp none quote known
  have unsigned : c ∉ signs := by
    intro mem
    have none : (signs.all fun d => !d.isDigit) = true := rfl
    have sign := List.all_eq_true.mp none c mem
    rw [digit] at sign
    cases sign
  simp [endsWord, blank, other quote quoted, other '\'' rfl, unsigned]

theorem tokens_of_digits (known : quote ∈ quotes) {cs : List Char} {c : Char}
    (within : ∀ d ∈ c :: cs, d.isDigit = true ∨ d = '$') :
    (lexer quote).scan (c :: cs) = some [.word (String.ofList (c :: cs))] := by
  apply scan_word
  intro d mem
  rcases within d mem with digit | rfl
  · exact endsWord_of_isDigit known digit
  · have none : (quotes.all fun quote => !endsWord quote '$') = true := rfl
    simpa using List.all_eq_true.mp none quote known

theorem toString_eq_cons (n : Nat) :
    ∃ c cs, (toString n).toList = c :: cs ∧ ∀ d ∈ c :: cs, d.isDigit = true := by
  have digits : ∀ d ∈ (toString n).toList, d.isDigit = true :=
    fun d mem => isDigit_of_mem_toString mem
  cases shape : (toString n).toList with
  | nil =>
    rw [Nat.toString_eq_repr, Nat.toList_repr] at shape
    have long := Nat.length_toDigits_pos (b := 10) (n := n)
    rw [shape] at long
    cases long
  | cons c cs =>
    rw [shape] at digits
    exact ⟨c, cs, rfl, digits⟩

theorem isDecimal_toString (n : Nat) : isDecimal (toString n).toList = true := by
  rcases toString_eq_cons n with ⟨c, cs, shape, digits⟩
  rw [shape, isDecimal, List.all_eq_true.mpr digits]
  rfl

theorem tokens_trimEnd (visible : isBlank quote = false) {s : String} {own : List Token}
    (scanned : tokens quote s = some own) : tokens quote (trimEnd s) = some own := by
  have skips := lexer_skipsBlanks visible
  rcases exists_blanks_dropEndBlanks s.toList with ⟨blanks, blank, parts⟩
  have read := Scanner.reads_of_scan skips.fresh scanned
  rw [parts, ← toList_trimEnd] at read
  exact Scanner.scan_of_reads skips.fresh (skips.reads_trimmed blank read)

end Text

theorem Placeholder.mark_question (n : Nat) : Placeholder.question.mark n = "?" := by
  simp [mark]

theorem Placeholder.isFixed_mark (p : Placeholder) (n : Nat) :
    (Token.word (p.mark n)).isFixed = true := by
  apply Token.isFixed_of_isPlaceholder
  cases p with
  | question =>
    rw [mark_question]
    decide
  | numbered =>
    have text : (Placeholder.numbered.mark n).toList = '$' :: (toString n).toList := by
      simp [mark]
    rw [text]
    exact Text.isDecimal_toString n

/-! ## Piece by piece -/

/-- Tokens of pieces that are read one by one. A text gives tokens of the vocabulary, a slot its
mark, and a name one identifier, unless it is `*`. -/
inductive Piece.ReadsAs (style : Style) : Nat → List Piece → List Token → Prop where
  | nil (next : Nat) : ReadsAs style next [] []
  | text {next : Nat} {s : String} {rest : List Piece} {own tokens : List Token} :
    Text.tokens style.quote s = some own → (∀ t ∈ own, t.isFixed = true) →
    ReadsAs style next rest tokens → ReadsAs style next (.text s :: rest) (own ++ tokens)
  | slot {next : Nat} {rest : List Piece} {tokens : List Token} :
    ReadsAs style (next + 1) rest tokens →
    ReadsAs style next (.slot :: rest) (.word (style.placeholder.mark next) :: tokens)
  | star {next : Nat} {rest : List Piece} {tokens : List Token} :
    ReadsAs style next rest tokens → ReadsAs style next (.ident "*" :: rest) (.word "*" :: tokens)
  | ident {next : Nat} {name : String} {rest : List Piece} {tokens : List Token} :
    name ≠ "*" → ReadsAs style next rest tokens →
    ReadsAs style next (.ident name :: rest) (.identifier name :: tokens)

namespace Piece.ReadsAs

variable {style : Style} {next : Nat} {pieces more : List Piece} {tokens further : List Token}

theorem append (reads : ReadsAs style next pieces tokens)
    (others : ReadsAs style (next + slots pieces) more further) :
    ReadsAs style next (pieces ++ more) (tokens ++ further) := by
  induction reads with
  | nil next => exact others
  | text scanned fixed _ ih =>
    rw [List.cons_append, List.append_assoc]
    refine .text scanned fixed (ih ?_)
    simpa [slots] using others
  | slot _ ih =>
    refine .slot (ih ?_)
    simpa [slots, Nat.add_assoc, Nat.add_comm 1] using others
  | star _ ih =>
    refine .star (ih ?_)
    simpa [slots] using others
  | ident other _ ih =>
    refine .ident other (ih ?_)
    simpa [slots] using others

theorem trimEnd (visible : Text.isBlank style.quote = false)
    (reads : ReadsAs style next pieces tokens) :
    ReadsAs style next (Fragment.trimEndPieces pieces) tokens := by
  induction reads with
  | nil next => exact .nil next
  | @text next s rest own tokens scanned fixed reads ih =>
    unfold Fragment.trimEndPieces
    cases kept : Fragment.trimEndPieces rest with
    | cons piece more =>
      rw [kept] at ih
      exact .text scanned fixed ih
    | nil =>
      rw [kept] at ih
      cases ih
      have short := Text.tokens_trimEnd visible scanned
      simp only
      -- A text of blanks goes as a whole, and it has no tokens.
      split
      · next empty =>
        rw [empty] at short
        cases short
        exact .nil next
      · exact .text short fixed (.nil next)
  | @slot next rest tokens reads ih =>
    unfold Fragment.trimEndPieces
    cases kept : Fragment.trimEndPieces rest <;> rw [kept] at ih <;> exact .slot ih
  | @star next rest tokens reads ih =>
    unfold Fragment.trimEndPieces
    cases kept : Fragment.trimEndPieces rest <;> rw [kept] at ih <;> exact .star ih
  | @ident next name rest tokens other reads ih =>
    unfold Fragment.trimEndPieces
    cases kept : Fragment.trimEndPieces rest <;> rw [kept] at ih <;> exact .ident other ih

/-- Whatever is read is an identifier or belongs to the vocabulary. -/
theorem confined (reads : ReadsAs style next pieces tokens) :
    ∀ t ∈ tokens, t.isIdentifier = true ∨ t.isFixed = true := by
  induction reads with
  | nil => exact List.forall_mem_nil _
  | text _ fixed _ ih => exact List.forall_mem_append.mpr ⟨fun t mem => .inr (fixed t mem), ih⟩
  | slot _ ih => exact List.forall_mem_cons.mpr ⟨.inr (Placeholder.isFixed_mark _ _), ih⟩
  | star _ ih => exact List.forall_mem_cons.mpr ⟨.inr (by decide), ih⟩
  | ident _ _ ih => exact List.forall_mem_cons.mpr ⟨.inl rfl, ih⟩

end Piece.ReadsAs

namespace Dialect

theorem quote_mem_quotes (d : Dialect) : d.style.quote ∈ Text.quotes := by
  cases d <;> decide

theorem isBlank_quote (d : Dialect) : Text.isBlank d.style.quote = false := by
  cases d <;> decide

theorem tokens_number (d : Dialect) (n : Nat) :
    (Text.lexer d.style.quote).scan (toString n).toList = some [.word (toString n)] := by
  rcases Text.toString_eq_cons n with ⟨c, cs, shape, digits⟩
  have scanned := Text.tokens_of_digits d.quote_mem_quotes fun e mem => .inl (digits e mem)
  rwa [← shape, String.ofList_toList] at scanned

theorem tokens_mark (d : Dialect) (n : Nat) :
    (Text.lexer d.style.quote).scan (d.style.placeholder.mark n).toList =
      some [.word (d.style.placeholder.mark n)] := by
  cases d with
  | postgres =>
    rcases Text.toString_eq_cons n with ⟨c, cs, shape, digits⟩
    have text : (Dialect.postgres.style.placeholder.mark n).toList = '$' :: c :: cs := by
      rw [← shape]
      simp [style, placeholder, Placeholder.mark]
    have within : ∀ e ∈ '$' :: c :: cs, e.isDigit = true ∨ e = '$' :=
      List.forall_mem_cons.mpr ⟨.inr rfl, fun e mem => .inl (digits e mem)⟩
    have scanned := Text.tokens_of_digits (quote_mem_quotes .postgres) within
    rwa [← text, String.ofList_toList] at scanned
  | generic | mysql | sqlite =>
    simp only [style, placeholder, Placeholder.mark_question]
    decide

theorem tokens_identifier (d : Dialect) (name : String) : ∃ tokens,
    (Text.lexer d.style.quote).scan (SqlComposer.quoteIdentifier d.style.quote name).toList =
      some tokens ∧ ∀ next, Piece.ReadsAs d.style next [.ident name] tokens := by
  unfold SqlComposer.quoteIdentifier
  split
  · next star =>
    rw [star]
    refine ⟨[.word "*"], ?_, fun next => .star (.nil next)⟩
    cases d <;> decide
  · next other =>
    exact ⟨_, Text.scan_enclosed d.isBlank_quote name, fun next => .ident other (.nil next)⟩

theorem pieces_random (d : Dialect) :
    (Fragment.raw ⟨d.randomFunction, []⟩).pieces = [.text d.randomFunction] := by
  cases d <;> decide

/-- Every text of a statement without raw SQL reads as tokens of the vocabulary, and its pieces
read one by one. -/
def tokenReading (d : Dialect) :
    Reading Lexicon.quoted d.style Text.LexState Token where
  scanner := Text.lexer d.style.quote
  skips := Text.lexer_skipsBlanks d.isBlank_quote
  Plain tokens := ∀ t ∈ tokens, t.isFixed = true
  Means next pieces tokens := Piece.ReadsAs d.style next pieces tokens
  plain_nil := List.forall_mem_nil _
  plain_append one two := List.forall_mem_append.mpr ⟨one, two⟩
  means_nil := .nil
  means_append := .append
  means_text {text tokens} scanned plain next := by
    have read : Piece.ReadsAs d.style next [.text text] (tokens ++ []) :=
      .text scanned plain (.nil next)
    rwa [List.append_nil] at read
  means_trim := .trimEnd d.isBlank_quote
  entry text known := by
    have scanned : ∀ text ∈ entries, Text.scansFixed text.toList = true := by
      decide +kernel
    exact Text.tokens_of_scansFixed d.quote_mem_quotes (scanned text known)
  opening text known := by
    have scanned : ∀ text ∈ openings,
        Text.scansFixed text.toList = true ∧ Text.endsFresh text.toList = true := by
      decide +kernel
    rcases scanned text known with ⟨fixed, ends⟩
    rcases Text.tokens_of_scansFixed d.quote_mem_quotes fixed with ⟨tokens, found, plain⟩
    have read := Scanner.reads_of_scan rfl found
    rw [Text.run_of_endsFresh d.quote_mem_quotes ends] at read
    exact ⟨tokens, read, plain⟩
  separator text known := by
    have scanned : ∀ text ∈ separators,
        Text.scansFixed text.toList = true ∧ Text.endsFresh text.toList = true ∧
          Text.beginsWithBreak text.toList = true := by
      decide +kernel
    rcases scanned text known with ⟨fixed, ends, begins⟩
    rcases Text.tokens_of_scansFixed d.quote_mem_quotes fixed with ⟨tokens, found, plain⟩
    have read := Scanner.reads_of_scan rfl found
    rw [Text.run_of_endsFresh d.quote_mem_quotes ends] at read
    exact ⟨⟨tokens, read, plain⟩, Text.breaks_of_beginsWithBreak d.quote_mem_quotes begins⟩
  closing text known := by
    have scanned : ∀ text ∈ closings,
        Text.scansFixed text.toList = true ∧ Text.beginsWithBreak text.toList = true := by
      decide +kernel
    rcases scanned text known with ⟨fixed, begins⟩
    exact ⟨Text.tokens_of_scansFixed d.quote_mem_quotes fixed,
      Text.breaks_of_beginsWithBreak d.quote_mem_quotes begins⟩
  operator text known := by
    have scanned : ∀ text ∈ operators, Text.scansFixed text.toList = true := by
      decide +kernel
    exact Text.tokens_of_scansFixed d.quote_mem_quotes (scanned text known)
  function _ none := none.elim
  number n := by
    refine ⟨_, d.tokens_number n, ?_⟩
    intro t mem
    rw [List.mem_singleton.mp mem]
    exact Token.isFixed_of_isDecimal (Text.isDecimal_toString n)
  expression _ none := none.elim
  ident name _ := d.tokens_identifier name
  slot next := ⟨_, d.tokens_mark next, .slot (.nil (next + 1))⟩
  raw r known next := by
    rcases known with ⟨origin, rfl⟩
    have fixed : Text.scansFixed origin.randomFunction.toList = true := by
      cases origin <;> decide
    rcases Text.tokens_of_scansFixed d.quote_mem_quotes fixed with ⟨tokens, found, plain⟩
    have read : Piece.ReadsAs d.style next [.text origin.randomFunction] (tokens ++ []) :=
      .text found plain (.nil next)
    rw [pieces_random]
    refine ⟨tokens, ?_, by rwa [List.append_nil] at read⟩
    simpa [Piece.render] using found

end Dialect

end SqlComposer
