import SqlComposer.Proofs.Text.Scanner
import SqlComposer.Text.Quoted

/-!
Tokens of SQL text. A quoted identifier ends at the first quote character that is not doubled, a
literal at the next single quote; signs stand by themselves, and words are what is left between
blanks, signs and quotes.
-/

namespace SqlComposer

inductive Token where
  | identifier (name : String)
  | literal (text : String)
  | sign (c : Char)
  | word (text : String)
  deriving DecidableEq, Repr

namespace Text

inductive LexState where
  | between
  | inWord (before : List Char)
  | inLiteral (before : List Char)
  | inName (before : List Char)
  /-- After a quote character that ends the name, unless another one follows. -/
  | afterName (name : List Char)
  deriving DecidableEq

def signs : List Char := ['(', ')', ',', '.', ':']

variable (quote : Char)

def beginToken (c : Char) : List Token × LexState :=
  if isBlank c then ([], .between)
  else if c = quote then ([], .inName [])
  else if c = '\'' then ([], .inLiteral [])
  else if c ∈ signs then ([.sign c], .between)
  else ([], .inWord [c])

def endsWord (c : Char) : Bool :=
  isBlank c || c == quote || c == '\'' || signs.contains c

def lexer : Scanner LexState Token where
  start := .between
  step
    | .between, c => beginToken quote c
    | .inWord before, c =>
      if endsWord quote c then
        (.word (String.ofList before) :: (beginToken quote c).1, (beginToken quote c).2)
      else ([], .inWord (before ++ [c]))
    | .inLiteral before, c =>
      if c = '\'' then ([.literal (String.ofList before)], .between)
      else ([], .inLiteral (before ++ [c]))
    | .inName before, c =>
      if c = quote then ([], .afterName before) else ([], .inName (before ++ [c]))
    | .afterName name, c =>
      if c = quote then ([], .inName (name ++ [c]))
      else (.identifier (String.ofList name) :: (beginToken quote c).1, (beginToken quote c).2)
  close
    | .between => some []
    | .inWord before => some [.word (String.ofList before)]
    | .inLiteral _ => none
    | .inName _ => none
    | .afterName name => some [.identifier (String.ofList name)]

/-- The tokens of a statement whose identifiers stand between `quote` characters. -/
def tokens (sql : String) : Option (List Token) := (lexer quote).scan sql.toList

variable {quote}

theorem lexer_breaks {c : Char} (ends : endsWord quote c = true) (other : c ≠ quote) :
    (lexer quote).Breaks c := by
  intro st held closed
  cases st with
  | between =>
    cases closed
    rfl
  | inWord before =>
    cases closed
    simp [lexer, ends]
  | inLiteral before => cases closed
  | inName before => cases closed
  | afterName name =>
    cases closed
    simp [lexer, other]

theorem lexer_skipsBlanks (visible : isBlank quote = false) : (lexer quote).SkipsBlanks where
  fresh := rfl
  breaks c blank := by
    have other : c ≠ quote := by
      rintro rfl
      rw [visible] at blank
      cases blank
    exact lexer_breaks (by simp [endsWord, blank]) other
  dropped c blank := by
    simp [lexer, beginToken, blank]
  enclosed c blank st inside := by
    have other : c ≠ quote := by
      rintro rfl
      rw [visible] at blank
      cases blank
    have literal : c ≠ '\'' := by
      rintro rfl
      revert blank
      decide
    cases st with
    | inLiteral before => simp [lexer, literal]
    | inName before => simp [lexer, other]
    | between => cases inside
    | inWord before => cases inside
    | afterName name => cases inside

theorem run_inWord (before : List Char) {cs : List Char}
    (within : ∀ c ∈ cs, endsWord quote c = false) :
    (lexer quote).run (.inWord before) cs = ([], .inWord (before ++ cs)) := by
  induction cs generalizing before with
  | nil => simp [Scanner.run]
  | cons c rest ih =>
    have step : (lexer quote).step (.inWord before) c = ([], .inWord (before ++ [c])) := by
      simp [lexer, within c List.mem_cons_self]
    rw [Scanner.run, step, ih (before ++ [c]) fun d mem => within d (List.mem_cons_of_mem c mem)]
    simp

theorem scan_word {c : Char} {cs : List Char} (within : ∀ d ∈ c :: cs, endsWord quote d = false) :
    (lexer quote).scan (c :: cs) = some [.word (String.ofList (c :: cs))] := by
  have first := within c List.mem_cons_self
  simp only [endsWord, Bool.or_eq_false_iff, beq_eq_false_iff_ne, List.contains_eq_mem,
    decide_eq_false_iff_not] at first
  rcases first with ⟨⟨⟨blank, quoted⟩, literal⟩, sign⟩
  have step : (lexer quote).step (lexer quote).start c = ([], .inWord [c]) := by
    simp [lexer, beginToken, blank, quoted, literal, sign]
  have run := run_inWord [c] fun d mem => within d (List.mem_cons_of_mem c mem)
  rw [Scanner.scan, Scanner.run, step, run]
  rfl

/-- Inside a name a doubled text reads as the text. -/
theorem run_inName (before cs : List Char) :
    (lexer quote).run (.inName before) (doubled quote cs) = ([], .inName (before ++ cs)) := by
  induction cs generalizing before with
  | nil => simp [doubled, Scanner.run]
  | cons c rest ih =>
    have tail := ih (before ++ [c])
    rw [List.append_assoc] at tail
    by_cases same : c = quote
    · subst same
      have first : (lexer c).step (.inName before) c = ([], .afterName before) := by
        simp [lexer]
      have second : (lexer c).step (.afterName before) c = ([], .inName (before ++ [c])) := by
        simp [lexer]
      rw [doubled, if_pos rfl, Scanner.run, first, Scanner.run, second, tail]
      rfl
    · have step : (lexer quote).step (.inName before) c = ([], .inName (before ++ [c])) := by
        simp [lexer, same]
      rw [doubled, if_neg same, Scanner.run, step, tail]
      rfl

/-- Whatever its characters, an enclosed name is one identifier. -/
theorem scan_enclosed (visible : isBlank quote = false) (name : String) :
    (lexer quote).scan (enclosed quote name).toList = some [.identifier name] := by
  have opened : (lexer quote).step (lexer quote).start quote = ([], .inName []) := by
    simp [lexer, beginToken, visible]
  have closed : (lexer quote).step (.inName name.toList) quote =
      ([], .afterName name.toList) := by
    simp [lexer]
  have body : (lexer quote).run (.inName []) (doubled quote name.toList) =
      ([], .inName name.toList) := run_inName [] name.toList
  have text : (enclosed quote name).toList =
      quote :: (doubled quote name.toList ++ [quote]) := by
    simp [enclosed]
  rw [Scanner.scan, text, Scanner.run, opened, Scanner.run_append, body, Scanner.run, closed]
  simp [Scanner.run, lexer]

end Text

end SqlComposer
