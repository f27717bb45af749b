import SqlComposer.Proofs.Statement.Phrase
import SqlComposer.Proofs.Text.Scanner

/-!
Reading the text of a phrase. Where a scanner reads the texts a phrase is made of one by one, it
reads the text of the phrase, and its tokens are theirs one after the other
(`Phrase.scan_statement`).
-/

namespace SqlComposer

open Fragment

variable {L : Lexicon} {style : Style} {S T : Type}

/-- A scanner that reads every text of a lexicon. `Plain` is said of the tokens of texts, and
`Means` of the tokens of pieces whose first slot has the number `next`. -/
structure Reading (L : Lexicon) (style : Style) (S T : Type) where
  scanner : Scanner S T
  skips : scanner.SkipsBlanks
  Plain : List T → Prop
  Means : Nat → List Piece → List T → Prop
  plain_nil : Plain []
  plain_append : ∀ {tokens further}, Plain tokens → Plain further → Plain (tokens ++ further)
  means_nil : ∀ next, Means next [] []
  means_append : ∀ {next pieces more tokens further}, Means next pieces tokens →
    Means (next + Piece.slots pieces) more further → Means next (pieces ++ more) (tokens ++ further)
  means_text : ∀ {text : String} {tokens}, scanner.scan text.toList = some tokens →
    Plain tokens → ∀ next, Means next [.text text] tokens
  means_trim : ∀ {next pieces tokens}, Means next pieces tokens →
    Means next (trimEndPieces pieces) tokens
  entry : ∀ text ∈ entries, ∃ tokens, scanner.scan text.toList = some tokens ∧ Plain tokens
  opening : ∀ text ∈ openings,
    ∃ tokens, scanner.Reads scanner.start text.toList tokens scanner.start ∧ Plain tokens
  separator : ∀ text ∈ separators,
    (∃ tokens, scanner.Reads scanner.start text.toList tokens scanner.start ∧ Plain tokens) ∧
      ∃ c cs, text.toList = c :: cs ∧ scanner.Breaks c
  closing : ∀ text ∈ closings,
    (∃ tokens, scanner.scan text.toList = some tokens ∧ Plain tokens) ∧
      ∃ c cs, text.toList = c :: cs ∧ scanner.Breaks c
  operator : ∀ text, L.operator text →
    ∃ tokens, scanner.scan text.toList = some tokens ∧ Plain tokens
  function : ∀ text, L.function text →
    ∃ tokens, scanner.scan text.toList = some tokens ∧ Plain tokens
  number : ∀ n : Nat, ∃ tokens, scanner.scan (toString n).toList = some tokens ∧ Plain tokens
  expression : ∀ sql, L.expression sql →
    ∃ tokens, scanner.scan sql.toList = some tokens ∧ Plain tokens
  ident : ∀ name, L.Name name → ∃ tokens,
    scanner.scan (quoteIdentifier style.quote name).toList = some tokens ∧
      ∀ next, Means next [.ident name] tokens
  slot : ∀ next, ∃ tokens,
    scanner.scan (style.placeholder.mark next).toList = some tokens ∧ Means next [.slot] tokens
  raw : ∀ r, L.raw r → ∀ next, ∃ tokens,
    scanner.scan (Piece.render style next (Fragment.raw r).pieces).toList = some tokens ∧
      Means next (Fragment.raw r).pieces tokens

namespace Reading

variable (R : Reading L style S T)

def Settled : Edge → S → Prop
  | .room, st => st = R.scanner.start
  | .item, st => ∃ held, R.scanner.close st = some held

variable {R}

theorem settled_start (a : Edge) : R.Settled a R.scanner.start := by
  cases a with
  | room => rfl
  | item => exact ⟨[], R.skips.fresh⟩

theorem settled_item {a : Edge} {st : S} (settled : R.Settled a st) :
    ∃ held, R.scanner.close st = some held := by
  cases a with
  | room =>
    rw [show st = R.scanner.start from settled]
    exact ⟨[], R.skips.fresh⟩
  | item => exact settled

variable (R) in
/-- Wherever the scanner stands at the first edge, the text reads as the tokens and leaves it at
the second. -/
def ReadsText (a b : Edge) (tokens : List T) (cs : List Char) : Prop :=
  ∀ st, R.Settled a st → ∃ after, R.scanner.Reads st cs tokens after ∧ R.Settled b after

variable {a b c : Edge} {tokens further : List T} {cs blanks : List Char}

theorem readsText_nil (a : Edge) : R.ReadsText a a [] [] := by
  intro st settled
  rcases settled_item settled with ⟨held, closed⟩
  exact ⟨st, Scanner.reads_nil closed, settled⟩

theorem readsText_skip : R.ReadsText .room .item [] [] := by
  intro st settled
  have settled : R.Settled .item st := settled_item settled
  exact readsText_nil .item st settled

theorem ReadsText.append {first second : List Char} (one : R.ReadsText a b tokens first)
    (two : R.ReadsText b c further second) :
    R.ReadsText a c (tokens ++ further) (first ++ second) := by
  intro st settled
  rcases one st settled with ⟨middle, read, between⟩
  rcases two middle between with ⟨after, read', last⟩
  exact ⟨after, read.append read', last⟩

theorem readsText_of_scan (scanned : R.scanner.scan cs = some tokens) :
    R.ReadsText .room .item tokens cs := by
  intro st settled
  have read := Scanner.reads_of_scan R.skips.fresh scanned
  rw [show st = R.scanner.start from settled]
  rcases id read with ⟨_, _, held, _, closed, _⟩
  exact ⟨_, read, ⟨held, closed⟩⟩

theorem ReadsText.of_breaks (read : R.ReadsText .room b tokens cs)
    (broken : ∃ c rest, cs = c :: rest ∧ R.scanner.Breaks c) : R.ReadsText .item b tokens cs := by
  intro st settled
  rcases settled with ⟨held, closed⟩
  rcases broken with ⟨c, rest, rfl, breaks⟩
  rcases read _ (settled_start .room) with ⟨after, read, last⟩
  exact ⟨after, read.of_breaks R.skips.fresh closed breaks, last⟩

theorem readsText_of_start (read : R.scanner.Reads R.scanner.start cs tokens R.scanner.start) :
    R.ReadsText .room .room tokens cs := by
  intro st settled
  rw [show st = R.scanner.start from settled]
  exact ⟨_, read, rfl⟩

/-- Blanks at the end of an item may be dropped. -/
theorem ReadsText.trimmed (read : R.ReadsText a .item tokens (cs ++ blanks))
    (blank : ∀ c ∈ blanks, Text.isBlank c = true) : R.ReadsText a .item tokens cs := by
  intro st settled
  rcases read st settled with ⟨after, read, _⟩
  have short := R.skips.reads_trimmed blank read
  rcases id short with ⟨_, _, held, _, closed, _⟩
  exact ⟨_, short, ⟨held, closed⟩⟩

theorem ReadsText.scan (read : R.ReadsText a b tokens cs) : R.scanner.scan cs = some tokens := by
  rcases read _ (settled_start a) with ⟨after, read, _⟩
  exact Scanner.scan_of_reads R.skips.fresh read

end Reading

/-! ## Texts of pieces -/

namespace Text

theorem isDigit_of_isBlank {c : Char} (blank : isBlank c = true) : c.isDigit = false := by
  rw [Bool.eq_false_iff]
  intro digit
  simp only [Char.isDigit, Bool.and_eq_true, decide_eq_true_eq] at digit
  have low : 48 ≤ c.toNat := digit.1
  have high : c.toNat ≤ 57 := digit.2
  simp only [isBlank, Bool.or_eq_true, Bool.and_eq_true, decide_eq_true_eq, beq_iff_eq] at blank
  omega

theorem isDigit_of_mem_toString {n : Nat} {c : Char} (mem : c ∈ (toString n).toList) :
    c.isDigit = true := by
  rw [Nat.toString_eq_repr, Nat.toList_repr] at mem
  exact Nat.isDigit_of_mem_toDigits (by decide) (by decide) mem

theorem exists_blanks_dropEndBlanks (cs : List Char) :
    ∃ blanks, (∀ c ∈ blanks, isBlank c = true) ∧ cs = dropEndBlanks cs ++ blanks := by
  refine ⟨(cs.reverse.takeWhile isBlank).reverse, ?_, ?_⟩
  · intro c mem
    rw [List.mem_reverse] at mem
    exact List.all_eq_true.mp List.all_takeWhile c mem
  · rw [dropEndBlanks, ← List.reverse_append, List.takeWhile_append_dropWhile,
      List.reverse_reverse]

end Text

namespace Fragment

theorem slots_pushChar (c : Char) (pieces : List Piece) :
    Piece.slots (pushChar c pieces) = Piece.slots pieces := by
  unfold pushChar
  split <;> simp [Piece.slots]

theorem render_pushChar (style : Style) (next : Nat) (c : Char) (pieces : List Piece) :
    (Piece.render style next (pushChar c pieces)).toList =
      c :: (Piece.render style next pieces).toList := by
  unfold pushChar
  split <;> simp [Piece.render]

end Fragment

theorem Piece.exists_blanks_trimEndPieces (style : Style) (next : Nat) (pieces : List Piece) :
    ∃ blanks : List Char, (∀ c ∈ blanks, Text.isBlank c = true) ∧
      (render style next pieces).toList =
        (render style next (trimEndPieces pieces)).toList ++ blanks := by
  induction pieces generalizing next with
  | nil => exact ⟨[], by simp, rfl⟩
  | cons piece rest ih =>
    rcases ih (next + slots [piece]) with ⟨blanks, blank, same⟩
    have whole : (render style next (piece :: rest)).toList =
        (render style next [piece]).toList ++
          (render style (next + slots [piece]) (trimEndPieces rest)).toList ++ blanks := by
      rw [← List.singleton_append, render_append, String.toList_append, same, List.append_assoc]
    unfold trimEndPieces
    cases kept : trimEndPieces rest with
    | cons first more =>
      refine ⟨blanks, blank, ?_⟩
      rw [whole, kept, ← String.toList_append, ← render_append]
      rfl
    | nil =>
      simp only [kept, render, String.toList_empty, List.append_nil] at whole
      cases piece with
      | ident name => exact ⟨blanks, blank, whole⟩
      | slot => exact ⟨blanks, blank, whole⟩
      | text s =>
        rcases Text.exists_blanks_dropEndBlanks s.toList with ⟨own, ownBlank, parts⟩
        rw [← Text.toList_trimEnd] at parts
        refine ⟨own ++ blanks, List.forall_mem_append.mpr ⟨ownBlank, blank⟩, ?_⟩
        have trimmed : (render style next (text s :: rest)).toList =
            (Text.trimEnd s).toList ++ (own ++ blanks) := by
          rw [whole, render, render, String.append_empty, parts, List.append_assoc]
        rw [trimmed]
        simp only
        split
        · next empty => simp [empty, render]
        · simp [render]

/-! ## Phrases -/

variable (R : Reading L style S T)

theorem Wording.readsText {a b : Edge} {text : String} (wording : Wording L a b text) :
    ∃ tokens, R.ReadsText a b tokens text.toList ∧ R.Plain tokens := by
  induction wording with
  | entry known =>
    rcases R.entry _ known with ⟨tokens, found, plain⟩
    exact ⟨tokens, Reading.readsText_of_scan found, plain⟩
  | opening known =>
    rcases R.opening _ known with ⟨tokens, read, plain⟩
    exact ⟨tokens, Reading.readsText_of_start read, plain⟩
  | separator known =>
    rcases R.separator _ known with ⟨⟨tokens, read, plain⟩, broken⟩
    exact ⟨tokens, (Reading.readsText_of_start read).of_breaks broken, plain⟩
  | closing known =>
    rcases R.closing _ known with ⟨⟨tokens, found, plain⟩, broken⟩
    exact ⟨tokens, (Reading.readsText_of_scan found).of_breaks broken, plain⟩
  | operator known =>
    rcases R.operator _ known with ⟨tokens, found, plain⟩
    exact ⟨tokens, Reading.readsText_of_scan found, plain⟩
  | function known =>
    rcases R.function _ known with ⟨tokens, found, plain⟩
    exact ⟨tokens, Reading.readsText_of_scan found, plain⟩
  | number n =>
    rcases R.number n with ⟨tokens, found, plain⟩
    exact ⟨tokens, Reading.readsText_of_scan found, plain⟩
  | nil a => exact ⟨[], Reading.readsText_nil a, R.plain_nil⟩
  | append _ _ one two =>
    rcases one with ⟨tokens, read, plain⟩
    rcases two with ⟨further, read', plain'⟩
    rw [String.toList_append]
    exact ⟨tokens ++ further, read.append read', R.plain_append plain plain'⟩

theorem Phrase.readsText {a b : Edge} {f : Fragment} (phrase : Phrase L a b f) (next : Nat) :
    ∃ tokens, R.ReadsText a b tokens (Piece.render style next f.pieces).toList ∧
      R.Means next f.pieces tokens := by
  induction phrase generalizing next with
  | text wording =>
    rcases wording.readsText R with ⟨tokens, read, plain⟩
    refine ⟨tokens, ?_, R.means_text read.scan plain next⟩
    simpa [ofText, Piece.render] using read
  | ident name =>
    rcases R.ident _ name with ⟨tokens, found, means⟩
    refine ⟨tokens, ?_, means next⟩
    simpa [Fragment.ident, Piece.render] using Reading.readsText_of_scan found
  | bind v =>
    rcases R.slot next with ⟨tokens, found, means⟩
    refine ⟨tokens, ?_, means⟩
    simpa [Fragment.bind, Piece.render] using Reading.readsText_of_scan found
  | expression known =>
    rcases R.expression _ known with ⟨tokens, found, plain⟩
    refine ⟨tokens, ?_, R.means_text found plain next⟩
    simpa [ofText, Piece.render] using Reading.readsText_of_scan found
  | raw known =>
    rcases R.raw _ known next with ⟨tokens, found, means⟩
    exact ⟨tokens, Reading.readsText_of_scan found, means⟩
  | nil a => exact ⟨[], Reading.readsText_nil a, R.means_nil next⟩
  | skip => exact ⟨[], Reading.readsText_skip, R.means_nil next⟩
  | append _ _ one two =>
    rcases one next with ⟨tokens, read, means⟩
    rcases two _ with ⟨further, read', means'⟩
    refine ⟨tokens ++ further, ?_, R.means_append means means'⟩
    rw [Piece.render_append, String.toList_append]
    exact read.append read'
  | trim _ ih =>
    rcases ih next with ⟨tokens, read, means⟩
    rcases Piece.exists_blanks_trimEndPieces style next _ with ⟨blanks, blank, same⟩
    rw [same] at read
    exact ⟨tokens, read.trimmed blank, R.means_trim means⟩

/-- The text of a statement that is a phrase scans, with the tokens that its pieces have. -/
theorem Phrase.scan_statement {f : Fragment} (phrase : Phrase L .room .item f) :
    ∃ tokens, R.scanner.scan (f.statement style).sql.toList = some tokens ∧
      R.Means 1 f.pieces tokens := by
  rcases phrase.readsText R 1 with ⟨tokens, read, means⟩
  exact ⟨tokens, read.scan, means⟩

end SqlComposer
