import SqlComposer.Proofs.Text.Lexer
import SqlComposer.Proofs.Text.Literals

/-!
How PostgreSQL reads text. Names stand between double quotes and literals between single ones, and
both end at the first quote that is not doubled. A body that two dollars open goes up to the next
two, whatever quotes it holds.
-/

namespace SqlComposer.Text.Postgres

/-! ## Bodies between dollars -/

def dollars : List Char := ['$', '$']

def closeDollars : List Char → Option (List Char × List Char)
  | [] => none
  | c :: cs =>
    if dollars <+: c :: cs then some ([], cs.tail)
    else (closeDollars cs).map fun (body, rest) => (c :: body, rest)

/-- The body of the block that a `DO` statement begins with, and what follows the block. -/
def block? (cs : List Char) : Option (List Char × List Char) :=
  ("DO $$".toList.isPrefixOf? cs).bind closeDollars

theorem block?_append (cs : List Char) : block? ("DO $$".toList ++ cs) = closeDollars cs := rfl

theorem exists_closeDollars {cs : List Char} (held : dollars <:+: cs) :
    ∃ body rest, closeDollars cs = some (body, rest) := by
  induction cs with
  | nil => exact absurd held (by decide)
  | cons c cs ih =>
    rw [closeDollars]
    split
    · exact ⟨_, _, rfl⟩
    · next ahead =>
      obtain ⟨body, rest, closed⟩ := ih ((List.infix_cons_iff.mp held).resolve_left ahead)
      exact ⟨c :: body, rest, by rw [closed, Option.map_some]⟩

theorem dollars_prefix_cons_iff {c : Char} {cs : List Char} :
    dollars <+: c :: cs ↔ c = '$' ∧ cs.head? = some '$' := by
  rw [dollars, List.cons_prefix_cons, eq_comm]
  cases cs with
  | nil => simp
  | cons d cs => simp [List.cons_prefix_cons, eq_comm]

/-- The closing dollars come first also where a body ends on a dollar of its own. -/
theorem dollars_prefix_closed_iff (c : Char) (body rest : List Char) :
    dollars <+: c :: (body ++ dollars ++ rest) ↔ dollars <+: c :: (body ++ ['$']) := by
  rw [dollars_prefix_cons_iff, dollars_prefix_cons_iff]
  cases body <;> rfl

theorem closeDollars_append {body : List Char} (rest : List Char)
    (alone : ¬dollars <:+: body ++ ['$']) :
    closeDollars (body ++ dollars ++ rest) = some (body, rest) := by
  induction body with
  | nil => rfl
  | cons c body ih =>
    rw [List.cons_append, List.infix_cons_iff, not_or, ← dollars_prefix_closed_iff c body rest]
      at alone
    rw [List.cons_append, List.cons_append, closeDollars, if_neg alone.1, ih alone.2,
      Option.map_some]

theorem closeDollars_eq_some_iff {cs body rest : List Char} :
    closeDollars cs = some (body, rest) ↔
      cs = body ++ dollars ++ rest ∧ ¬dollars <:+: body ++ ['$'] := by
  constructor
  · intro closed
    induction cs generalizing body with
    | nil => cases closed
    | cons c cs ih =>
      rw [closeDollars] at closed
      split at closed
      · next ahead =>
        obtain ⟨rfl, next⟩ := dollars_prefix_cons_iff.mp ahead
        obtain ⟨tail, rfl⟩ := List.head?_eq_some_iff.mp next
        cases closed
        exact ⟨rfl, by decide⟩
      · next ahead =>
        obtain ⟨⟨front, behind⟩, found, split⟩ := Option.map_eq_some_iff.mp closed
        cases split
        obtain ⟨rfl, alone⟩ := ih found
        rw [dollars_prefix_closed_iff] at ahead
        refine ⟨rfl, ?_⟩
        rw [List.cons_append, List.infix_cons_iff, not_or]
        exact ⟨ahead, alone⟩
  · rintro ⟨rfl, alone⟩
    exact closeDollars_append rest alone

/-! ## Tokens -/

inductive Quote where
  | double
  | single
  deriving DecidableEq

namespace Quote

def char : Quote → Char
  | double => '"'
  | single => '\''

def token (text : String) : Quote → Token
  | double => .identifier text
  | single => .literal text

end Quote

inductive LexState where
  | between
  | inWord (before : List Char)
  | inQuotes (quote : Quote) (before : List Char)
  /-- After a quote that ends the text, unless another one follows. -/
  | afterQuotes (quote : Quote) (text : List Char)
  deriving DecidableEq

def blanks : List Char := [' ', '\t', '\n', '\r', '\x0b', '\x0c']

def signs : List Char := ['(', ')', '[', ']', ',', '.', ';', ':']

def beginToken (c : Char) : List Token × LexState :=
  if c ∈ blanks then ([], .between)
  else if c ∈ signs then ([.sign c], .between)
  else if c = Quote.double.char then ([], .inQuotes .double [])
  else if c = Quote.single.char then ([], .inQuotes .single [])
  else ([], .inWord [c])

def endsWord (c : Char) : Prop :=
  c ∈ blanks ++ signs ∨ c = Quote.double.char ∨ c = Quote.single.char

instance (c : Char) : Decidable (endsWord c) := inferInstanceAs (Decidable (_ ∨ _))

def lexer : Scanner LexState Token where
  start := .between
  step
    | .between, c => beginToken c
    | .inWord before, c =>
      if endsWord c then
        (.word (String.ofList before) :: (beginToken c).1, (beginToken c).2)
      else ([], .inWord (before ++ [c]))
    | .inQuotes quote before, c =>
      if c = quote.char then ([], .afterQuotes quote before)
      else ([], .inQuotes quote (before ++ [c]))
    | .afterQuotes quote text, c =>
      if c = quote.char then ([], .inQuotes quote (text ++ [c]))
      else (quote.token (String.ofList text) :: (beginToken c).1, (beginToken c).2)
  close
    | .between => some []
    | .inWord before => some [.word (String.ofList before)]
    | .inQuotes _ _ => none
    | .afterQuotes quote text => some [quote.token (String.ofList text)]

def tokens (cs : List Char) : Option (List Token) := lexer.scan cs

theorem lexer_breaks {c : Char} (ends : c ∈ blanks ++ signs) : lexer.Breaks c := by
  have bare : ∀ quote : Quote, c ≠ quote.char := by
    rintro quote rfl
    cases quote <;> revert ends <;> decide
  intro st held closed
  cases st with
  | between =>
    cases closed
    rfl
  | inWord before =>
    cases closed
    exact if_pos (.inl ends)
  | inQuotes quote before => cases closed
  | afterQuotes quote text =>
    cases closed
    exact if_neg (bare quote)

theorem beginToken_char (quote : Quote) : beginToken quote.char = ([], .inQuotes quote []) := by
  cases quote <;> decide

theorem run_inQuotes (quote : Quote) (before cs : List Char) :
    lexer.run (.inQuotes quote before) (doubled quote.char cs) =
      ([], .inQuotes quote (before ++ cs)) := by
  induction cs generalizing before with
  | nil => simp [doubled, Scanner.run]
  | cons c rest ih =>
    have tail := ih (before ++ [c])
    rw [List.append_assoc] at tail
    by_cases same : c = quote.char
    · subst same
      have first : lexer.step (.inQuotes quote before) quote.char =
          ([], .afterQuotes quote before) := if_pos rfl
      have second : lexer.step (.afterQuotes quote before) quote.char =
          ([], .inQuotes quote (before ++ [quote.char])) := if_pos rfl
      rw [doubled, if_pos rfl, Scanner.run, first, Scanner.run, second, tail]
      rfl
    · have step : lexer.step (.inQuotes quote before) c = ([], .inQuotes quote (before ++ [c])) :=
        if_neg same
      rw [doubled, if_neg same, Scanner.run, step, tail]
      rfl

theorem run_opened (quote : Quote) (cs : List Char) :
    lexer.run lexer.start (quote.char :: doubled quote.char cs) = ([], .inQuotes quote cs) := by
  have opened : lexer.step lexer.start quote.char = ([], .inQuotes quote []) :=
    beginToken_char quote
  rw [Scanner.run, opened, run_inQuotes]
  rfl

theorem reads_enclosed (quote : Quote) (text : String) :
    lexer.Reads lexer.start (enclosed quote.char text).toList [quote.token text]
      (.afterQuotes quote text.toList) := by
  have parts : (enclosed quote.char text).toList =
      (quote.char :: doubled quote.char text.toList) ++ [quote.char] := by
    simp [enclosed]
  have closed : lexer.step (.inQuotes quote text.toList) quote.char =
      ([], .afterQuotes quote text.toList) := if_pos rfl
  have run : lexer.run lexer.start (enclosed quote.char text).toList =
      ([], .afterQuotes quote text.toList) := by
    rw [parts, Scanner.run_append, run_opened, Scanner.run, closed]
    rfl
  have held : lexer.close (.afterQuotes quote text.toList) = some [quote.token text] :=
    congrArg (fun text => some [quote.token text]) String.ofList_toList
  rw [Scanner.Reads, run]
  exact ⟨rfl, [], [quote.token text], rfl, held, rfl⟩

end SqlComposer.Text.Postgres
