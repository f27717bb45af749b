import SqlComposer.Proofs.Statement.Grammar.Change
import SqlComposer.Proofs.Statement.Reading

/-!
Placeholders and bindings correspond. Read from left to right, the placeholders outside literals
are numbered without a gap where the dialect numbers them, and there are as many as the statement
has values, so that the `i`-th of them stands for the `i`-th value
(`Request.placeholders_statement`). Raw SQL has to keep its part of the bargain
(`RawSql.Answered`), and no other text may hold a quotation mark or a mark of its own.
-/

namespace SqlComposer

open Fragment

/-! ## Reading placeholders -/

namespace Text

inductive MarkState where
  | outside
  | inside
  | numbered (digits : List Char)
  deriving DecidableEq

def beginMark (c : Char) : List String × MarkState :=
  if c = '\'' then ([], .inside)
  else if c = '?' then (["?"], .outside)
  else if c = '$' then ([], .numbered [])
  else ([], .outside)

/-- Question marks, and dollar signs with the digits after them, outside literals. -/
def marks : Scanner MarkState String where
  start := .outside
  step
    | .outside, c => beginMark c
    | .inside, c => ([], if c = '\'' then .outside else .inside)
    | .numbered digits, c =>
      if c.isDigit then ([], .numbered (digits ++ [c]))
      else (String.ofList ('$' :: digits) :: (beginMark c).1, (beginMark c).2)
  close
    | .outside => some []
    | .inside => none
    | .numbered digits => some [String.ofList ('$' :: digits)]

def placeholders (sql : String) : Option (List String) := marks.scan sql.toList

def Unmarked (c : Char) : Prop := c ≠ '\'' ∧ c ≠ '?' ∧ c ≠ '$'

instance : DecidablePred Unmarked := fun c =>
  inferInstanceAs (Decidable (c ≠ '\'' ∧ c ≠ '?' ∧ c ≠ '$'))

theorem beginMark_unmarked {c : Char} (unmarked : Unmarked c) : beginMark c = ([], .outside) := by
  rcases unmarked with ⟨literal, question, dollar⟩
  rw [beginMark, if_neg literal, if_neg question, if_neg dollar]

theorem marks_breaks {c : Char} (other : c.isDigit = false) : marks.Breaks c := by
  intro st held closed
  cases st with
  | outside =>
    cases closed
    rfl
  | inside => cases closed
  | numbered digits =>
    cases closed
    simp [marks, other]

theorem unmarked_of_isBlank {c : Char} (blank : isBlank c = true) : Unmarked c := by
  refine ⟨?_, ?_, ?_⟩ <;> rintro rfl <;> revert blank <;> decide

theorem marks_skipsBlanks : marks.SkipsBlanks where
  fresh := rfl
  breaks c blank := marks_breaks (isDigit_of_isBlank blank)
  dropped c blank := beginMark_unmarked (unmarked_of_isBlank blank)
  enclosed c blank st inside := by
    cases st with
    | inside =>
      have other : c ≠ '\'' := (unmarked_of_isBlank blank).1
      simp [marks, other]
    | outside => cases inside
    | numbered digits => cases inside

theorem run_unmarked {cs : List Char} (unmarked : ∀ c ∈ cs, Unmarked c) :
    marks.run .outside cs = ([], .outside) := by
  induction cs with
  | nil => rfl
  | cons c rest ih =>
    have step : marks.step .outside c = ([], .outside) :=
      beginMark_unmarked (unmarked c List.mem_cons_self)
    rw [Scanner.run, step, ih fun d mem => unmarked d (List.mem_cons_of_mem c mem)]
    rfl

theorem scan_unmarked {cs : List Char} (unmarked : ∀ c ∈ cs, Unmarked c) :
    marks.scan cs = some [] := by
  have run : marks.run marks.start cs = ([], .outside) := run_unmarked unmarked
  rw [Scanner.scan, run]
  rfl

theorem run_digits {digits cs : List Char} (all : ∀ c ∈ cs, c.isDigit = true) :
    marks.run (.numbered digits) cs = ([], .numbered (digits ++ cs)) := by
  induction cs generalizing digits with
  | nil => simp [Scanner.run]
  | cons c rest ih =>
    have step : marks.step (.numbered digits) c = ([], .numbered (digits ++ [c])) := by
      simp [marks, all c List.mem_cons_self]
    rw [Scanner.run, step, ih fun d mem => all d (List.mem_cons_of_mem c mem)]
    simp

end Text

/-! ## Marks of slots -/

namespace Placeholder

theorem run_mark (p : Placeholder) (n : Nat) {st : Text.MarkState} {held : List String}
    (closed : Text.marks.close st = some held) :
    ∃ out after last, Text.marks.run st (p.mark n).toList = (out, after) ∧
      Text.marks.close after = some last ∧ out ++ last = held ++ [p.mark n] ∧
      (after = .outside ∨ ∃ digits, after = .numbered digits) := by
  cases p with
  | question =>
    have step := Text.marks_breaks (c := '?') rfl st held closed
    refine ⟨held ++ ["?"], .outside, [], ?_, rfl, ?_, .inl rfl⟩
    · have text : (Placeholder.question.mark n).toList = ['?'] := by
        simp [Placeholder.mark]
      rw [text, Scanner.run, step]
      simp [Scanner.run, Text.marks, Text.beginMark]
    · rw [List.append_nil]
      rfl
  | numbered =>
    have step := Text.marks_breaks (c := '$') rfl st held closed
    have digits : Text.marks.run (.numbered []) (toString n).toList =
        ([], .numbered (toString n).toList) :=
      Text.run_digits fun c mem => Text.isDigit_of_mem_toString mem
    refine ⟨held, .numbered (toString n).toList, [(Placeholder.numbered).mark n], ?_, ?_, rfl,
      .inr ⟨_, rfl⟩⟩
    · have text : ((Placeholder.numbered).mark n).toList = '$' :: (toString n).toList := by
        simp [Placeholder.mark]
      rw [text, Scanner.run, step]
      change (held ++ [] ++ (Text.marks.run (.numbered []) (toString n).toList).1,
        (Text.marks.run (.numbered []) (toString n).toList).2) = _
      rw [digits]
      simp
    · have text : String.ofList ('$' :: (toString n).toList) =
          (Placeholder.numbered).mark n := by
        rw [String.ofList_cons, String.ofList_toList]
        rfl
      rw [← text]
      rfl

end Placeholder

/-! ## Raw SQL -/

namespace Text

def openQuestions (quoted : Bool) : List Char → Nat
  | [] => 0
  | c :: cs =>
    (if c = '?' ∧ quoted = false then 1 else 0) + openQuestions (quoted != (c == '\'')) cs

def questionsApart : List Char → Bool
  | c :: d :: cs => (c != '?' || !d.isDigit) && questionsApart (d :: cs)
  | _ => true

theorem questionsApart_tail {c : Char} {cs : List Char} (apart : questionsApart (c :: cs) = true) :
    questionsApart cs = true := by
  cases cs with
  | nil => rfl
  | cons d rest => exact (Bool.and_eq_true_iff.mp apart).2

theorem isDigit_of_questionsApart {cs : List Char} (apart : questionsApart ('?' :: cs) = true) :
    ∀ d ∈ cs.head?, d.isDigit = false := by
  intro d mem
  cases cs with
  | nil => cases mem
  | cons e rest =>
    cases mem
    simpa using (Bool.and_eq_true_iff.mp apart).1

end Text

/-- Raw SQL that brings a value for each of its question marks and no mark of another kind. -/
structure RawSql.Answered (r : RawSql) : Prop where
  dollarFree : '$' ∉ r.sql.toList
  apart : Text.questionsApart r.sql.toList = true
  balanced : r.sql.toList.count '\'' % 2 = 0
  answered : Text.openQuestions false r.sql.toList = r.bindings.length

namespace Fragment

theorem slots_rawPieces (quoted : Bool) (cs : List Char) :
    Piece.slots (rawPieces quoted cs) = Text.openQuestions quoted cs := by
  induction cs generalizing quoted with
  | nil => rfl
  | cons c rest ih =>
    rw [rawPieces, Text.openQuestions]
    split
    · next mark =>
      rcases mark with ⟨rfl, rfl⟩
      have tail := ih false
      simp only [Piece.slots, List.count_cons] at tail ⊢
      rw [tail]
      simp [Nat.add_comm]
    · rw [slots_pushChar, ih, Nat.zero_add]

/-- Where the scanner stands in front of raw SQL: inside a literal, outside one, or after the mark
of a slot if no digit follows. -/
def Stands (quoted : Bool) (cs : List Char) (st : Text.MarkState) : Prop :=
  if quoted then st = .inside
  else st = .outside ∨ (∃ digits, st = .numbered digits) ∧ ∀ c ∈ cs.head?, c.isDigit = false

/-- Read from a state, raw SQL gives what that state holds and then the marks of its slots. -/
def ReadsMarks (style : Style) (quoted : Bool) (next : Nat) (st : Text.MarkState)
    (cs : List Char) : Prop :=
  ∃ out after last,
    Text.marks.run st (Piece.render style next (rawPieces quoted cs)).toList = (out, after) ∧
    Text.marks.close after = some last ∧
    out ++ last = (Text.marks.close st).getD [] ++
      (List.range' next (Text.openQuestions quoted cs)).map style.placeholder.mark

section

variable {style : Style} {quoted now : Bool} {next : Nat} {st st' : Text.MarkState}
  {c : Char} {cs : List Char} {out held : List String}

theorem ReadsMarks.cons (plain : ¬(c = '?' ∧ quoted = false))
    (switched : (quoted != (c == '\'')) = now) (read : Text.marks.step st c = (out, st'))
    (kept : out ++ (Text.marks.close st').getD [] = (Text.marks.close st).getD [])
    (tail : ReadsMarks style now next st' cs) : ReadsMarks style quoted next st (c :: cs) := by
  rcases tail with ⟨more, after, last, run, closed, same⟩
  refine ⟨out ++ more, after, last, ?_, closed, ?_⟩
  · rw [rawPieces, if_neg plain, render_pushChar, Scanner.run, read, switched, run]
  · rw [Text.openQuestions, if_neg plain, Nat.zero_add, switched]
    calc
      out ++ more ++ last
        = out ++ (more ++ last) := by rw [List.append_assoc]
      _ = out ++ ((Text.marks.close st').getD [] ++
            (List.range' next (Text.openQuestions now cs)).map style.placeholder.mark) := by
          rw [same]
      _ = (Text.marks.close st).getD [] ++
            (List.range' next (Text.openQuestions now cs)).map style.placeholder.mark := by
          rw [← List.append_assoc, kept]

theorem ReadsMarks.cons_mark (settled : Text.marks.close st = some held)
    (follows : ∀ d ∈ cs.head?, d.isDigit = false)
    (tail : ∀ after, Stands false cs after → ReadsMarks style false (next + 1) after cs) :
    ReadsMarks style false next st ('?' :: cs) := by
  rcases style.placeholder.run_mark next settled with ⟨out, after, last, run, closed, same, place⟩
  have stands : Stands false cs after := by
    rcases place with rfl | numbered
    · exact .inl rfl
    · exact .inr ⟨numbered, follows⟩
  rcases tail after stands with ⟨more, final, ending, run', closed', same'⟩
  refine ⟨out ++ more, final, ending, ?_, closed', ?_⟩
  · rw [rawPieces, if_pos ⟨rfl, rfl⟩, Piece.render, String.toList_append,
      Scanner.run_append, run, run']
  · rw [closed, Option.getD_some] at same'
    have count : Text.openQuestions false ('?' :: cs) = Text.openQuestions false cs + 1 :=
      Nat.add_comm 1 _
    rw [settled, Option.getD_some, count, List.range'_succ, List.map_cons]
    calc
      out ++ more ++ ending
        = out ++ (last ++ (List.range' (next + 1) (Text.openQuestions false cs)).map
            style.placeholder.mark) := by rw [List.append_assoc, same']
      _ = held ++ [style.placeholder.mark next] ++
            (List.range' (next + 1) (Text.openQuestions false cs)).map style.placeholder.mark := by
          rw [← List.append_assoc, same]
      _ = held ++ style.placeholder.mark next ::
            (List.range' (next + 1) (Text.openQuestions false cs)).map style.placeholder.mark := by
          rw [List.append_assoc, List.singleton_append]

end

theorem readsMarks_of_stands (style : Style) (cs : List Char) (quoted : Bool) (next : Nat)
    (st : Text.MarkState) (dollarFree : '$' ∉ cs)
    (apart : Text.questionsApart cs = true)
    (balanced : cs.count '\'' % 2 = if quoted then 1 else 0) (stands : Stands quoted cs st) :
    ReadsMarks style quoted next st cs := by
  induction cs generalizing quoted next st with
  | nil =>
    cases quoted with
    | true => simp at balanced
    | false =>
      rcases stands with rfl | ⟨⟨digits, rfl⟩, _⟩
      · exact ⟨[], .outside, [], rfl, rfl, rfl⟩
      · exact ⟨[], .numbered digits, [String.ofList ('$' :: digits)], rfl, rfl, rfl⟩
  | cons c rest ih =>
    have tailFree : '$' ∉ rest := fun mem => dollarFree (List.mem_cons_of_mem c mem)
    have tailApart := Text.questionsApart_tail apart
    cases quoted with
    | true =>
      have st_eq : st = .inside := stands
      subst st_eq
      by_cases literal : c = '\''
      · subst literal
        have tail : ReadsMarks style false next .outside rest := by
          apply ih false next .outside tailFree tailApart _ (.inl rfl)
          simp only [List.count_cons_self, if_true] at balanced
          simp only [Bool.false_eq_true, if_false]
          omega
        exact .cons (by simp) rfl rfl rfl tail
      · have step : Text.marks.step .inside c = ([], .inside) := by
          simp [Text.marks, literal]
        have tail : ReadsMarks style true next .inside rest := by
          apply ih true next .inside tailFree tailApart _ rfl
          simpa [List.count_cons, literal] using balanced
        exact .cons (by simp) (by simp [literal]) step rfl tail
    | false =>
      obtain ⟨held, settled⟩ : ∃ held, Text.marks.close st = some held := by
        rcases stands with rfl | ⟨⟨digits, rfl⟩, _⟩
        · exact ⟨_, rfl⟩
        · exact ⟨_, rfl⟩
      by_cases mark : c = '?'
      · subst mark
        apply ReadsMarks.cons_mark settled (Text.isDigit_of_questionsApart apart)
        intro after standsAfter
        apply ih false (next + 1) after tailFree tailApart _ standsAfter
        simpa [List.count_cons] using balanced
      · have other : c.isDigit = false ∨ st = .outside := by
          rcases stands with rfl | ⟨_, follows⟩
          · exact .inr rfl
          · exact .inl (follows c rfl)
        have step : Text.marks.step st c =
            (held ++ (Text.beginMark c).1, (Text.beginMark c).2) := by
          rcases other with other | rfl
          · exact Text.marks_breaks other st held settled
          · cases settled
            rfl
        have dollar : c ≠ '$' := fun same => dollarFree (same ▸ List.mem_cons_self)
        by_cases literal : c = '\''
        · subst literal
          have tail : ReadsMarks style true next .inside rest := by
            apply ih true next .inside tailFree tailApart _ rfl
            simp only [List.count_cons_self, Bool.false_eq_true, if_false] at balanced
            simp only [if_true]
            omega
          refine .cons (by simp) rfl step ?_ tail
          rw [settled]
          simp [Text.beginMark, Text.marks]
        · rw [Text.beginMark_unmarked ⟨literal, mark, dollar⟩] at step
          have tail : ReadsMarks style false next .outside rest := by
            apply ih false next .outside tailFree tailApart _ (.inl rfl)
            simpa [List.count_cons, literal] using balanced
          refine .cons (by simp [mark]) (by simp [literal]) step ?_ tail
          rw [settled]
          simp [Text.marks]

end Fragment

theorem RawSql.Answered.slots_eq {r : RawSql} (sound : r.Answered) :
    Piece.slots (Fragment.raw r).pieces = r.bindings.length := by
  rw [← sound.answered]
  exact slots_rawPieces false r.sql.toList

theorem RawSql.Answered.scan_raw {r : RawSql} (sound : r.Answered) (style : Style) (next : Nat) :
    Text.marks.scan (Piece.render style next (Fragment.raw r).pieces).toList =
      some ((List.range' next (Piece.slots (Fragment.raw r).pieces)).map
        style.placeholder.mark) := by
  obtain ⟨out, after, last, run, closed, same⟩ :=
    readsMarks_of_stands style r.sql.toList false next .outside sound.dollarFree sound.apart
      (by simpa using sound.balanced) (.inl rfl)
  have run : Text.marks.run Text.marks.start
      (Piece.render style next (Fragment.raw r).pieces).toList = (out, after) := run
  rw [Scanner.scan, run, closed, Option.map_some, same, Fragment.raw, slots_rawPieces]
  rfl

/-! ## Statements -/

namespace Text

theorem unmarked_of_isDigit {c : Char} (digit : c.isDigit = true) : Unmarked c := by
  refine ⟨?_, ?_, ?_⟩ <;> rintro rfl <;> revert digit <;> decide

theorem unmarked_of_plain {c : Char} (plain : c.isAlpha ∨ c = '_' ∨ c = '.') : Unmarked c := by
  refine ⟨?_, ?_, ?_⟩ <;> rintro rfl <;> revert plain <;> decide

end Text

def Lexicon.unmarked : Lexicon where
  letter := Text.Unmarked
  operator text := ∀ c ∈ text.toList, Text.Unmarked c
  function text := ∀ c ∈ text.toList, Text.Unmarked c
  expression text := ∀ c ∈ text.toList, Text.Unmarked c
  raw := RawSql.Answered
  plain _ := Text.unmarked_of_plain
  slots_raw _ := RawSql.Answered.slots_eq

instance (s : String) : Decidable (Lexicon.unmarked.Name s) :=
  List.decidableBAll Text.Unmarked s.toList

instance (s : String) : Decidable (Lexicon.unmarked.operator s) :=
  List.decidableBAll Text.Unmarked s.toList

theorem unmarked_quoteIdentifier (d : Dialect) {name : String}
    (unmarked : Lexicon.unmarked.Name name) :
    ∀ c ∈ (quoteIdentifier d.style.quote name).toList, Text.Unmarked c := by
  have quote : Text.Unmarked d.style.quote := by
    cases d <;> decide
  intro c mem
  unfold quoteIdentifier at mem
  split at mem
  · have star : c = '*' := by simpa using mem
    subst star
    decide
  · simp only [Text.enclosed, String.toList_ofList, List.mem_append, List.mem_cons,
      List.not_mem_nil, or_false] at mem
    rcases mem with (rfl | mem) | rfl
    · exact quote
    · exact unmarked c (Text.mem_doubled mem)
    · exact quote

def Dialect.markReading (d : Dialect) :
    Reading Lexicon.unmarked d.style Text.MarkState String where
  scanner := Text.marks
  skips := Text.marks_skipsBlanks
  Plain tokens := tokens = []
  Means next pieces tokens :=
    tokens = (List.range' next (Piece.slots pieces)).map d.style.placeholder.mark
  plain_nil := rfl
  plain_append := by
    rintro tokens further rfl rfl
    rfl
  means_nil _ := rfl
  means_append := by
    intro next pieces more tokens further one two
    rw [one, two, ← List.map_append, Piece.slots_append, List.range'_append_1]
  means_text _ plain _ := plain
  means_trim := by
    intro next pieces tokens means
    rw [Piece.slots_trimEndPieces]
    exact means
  entry text known := by
    have scanned : ∀ text ∈ entries, Text.marks.scan text.toList = some [] := by
      decide +kernel
    exact ⟨[], scanned text known, rfl⟩
  opening text known := by
    have scanned : ∀ text ∈ openings,
        Text.marks.scan text.toList = some [] ∧
          (Text.marks.run Text.marks.start text.toList).2 = Text.marks.start := by
      decide +kernel
    rcases scanned text known with ⟨found, last⟩
    have read := Scanner.reads_of_scan Text.marks_skipsBlanks.fresh found
    rw [last] at read
    exact ⟨[], read, rfl⟩
  separator text known := by
    have scanned : ∀ text ∈ separators,
        Text.marks.scan text.toList = some [] ∧
          (Text.marks.run Text.marks.start text.toList).2 = Text.marks.start ∧
          (text.toList.head?.map Char.isDigit) = some false := by
      decide +kernel
    rcases scanned text known with ⟨found, last, first⟩
    have read := Scanner.reads_of_scan Text.marks_skipsBlanks.fresh found
    rw [last] at read
    refine ⟨⟨[], read, rfl⟩, ?_⟩
    cases shape : text.toList with
    | nil =>
      rw [shape] at first
      cases first
    | cons c rest =>
      rw [shape] at first
      exact ⟨c, rest, rfl, Text.marks_breaks (Option.some.inj first)⟩
  closing text known := by
    have scanned : ∀ text ∈ closings,
        Text.marks.scan text.toList = some [] ∧
          (text.toList.head?.map Char.isDigit) = some false := by
      decide +kernel
    rcases scanned text known with ⟨found, first⟩
    refine ⟨⟨[], found, rfl⟩, ?_⟩
    cases shape : text.toList with
    | nil =>
      rw [shape] at first
      cases first
    | cons c rest =>
      rw [shape] at first
      exact ⟨c, rest, rfl, Text.marks_breaks (Option.some.inj first)⟩
  operator _ unmarked := ⟨[], Text.scan_unmarked unmarked, rfl⟩
  function _ unmarked := ⟨[], Text.scan_unmarked unmarked, rfl⟩
  number _ :=
    ⟨[], Text.scan_unmarked fun _ mem =>
      Text.unmarked_of_isDigit (Text.isDigit_of_mem_toString mem), rfl⟩
  expression _ unmarked := ⟨[], Text.scan_unmarked unmarked, rfl⟩
  ident _ name := ⟨[], Text.scan_unmarked (unmarked_quoteIdentifier d name), fun _ => rfl⟩
  slot next := by
    obtain ⟨out, after, last, run, closed, same, _⟩ :=
      d.style.placeholder.run_mark next Text.marks_skipsBlanks.fresh
    refine ⟨_, ?_, rfl⟩
    rw [Scanner.scan, run, closed, Option.map_some, same]
    rfl
  raw _ sound next := ⟨_, sound.scan_raw d.style next, rfl⟩

/-- Whatever is asked of clauses, the placeholders of the answer number its values in order, or
mark them one by one. -/
theorem Request.placeholders_statement {s : Setting} {c : Clauses Query} {r : Request}
    {answer : Statement} (prefixName : Lexicon.unmarked.Name s.tablePrefix)
    (clauses : c.Within Lexicon.unmarked (Query.Within Lexicon.unmarked))
    (request : r.Within Lexicon.unmarked) (made : r.statement s c = .ok answer) :
    Text.placeholders answer.sql = some
      (if s.dialect = .postgres
        then (List.range' 1 answer.bindings.length).map fun n => "$" ++ toString n
        else List.replicate answer.bindings.length "?") := by
  obtain ⟨f, compiled, rfl⟩ : ∃ f, r.compile s (s.compiled c) = .ok f ∧
      f.statement s.dialect.style = answer := by
    unfold Request.statement at made
    cases compiled : r.compile s (s.compiled c) with
    | error e =>
      rw [compiled] at made
      cases made
    | ok f =>
      rw [compiled] at made
      cases made
      exact ⟨f, rfl, rfl⟩
  have phrase := Request.phrase_of_compile prefixName clauses request compiled
  rcases phrase.scan_statement s.dialect.markReading with ⟨tokens, scanned, marks⟩
  have answered : Piece.slots f.pieces = (f.statement s.dialect.style).bindings.length :=
    phrase.slots_eq
  have marks : tokens = (List.range' 1 (f.statement s.dialect.style).bindings.length).map
      s.dialect.style.placeholder.mark := by
    rw [← answered]
    exact marks
  have scanned : Text.placeholders (f.statement s.dialect.style).sql = some tokens := scanned
  rw [scanned, marks]
  cases s.dialect with
  | postgres => rfl
  | generic | mysql | sqlite =>
    have question (list : List Nat) :
        list.map Placeholder.question.mark = List.replicate list.length "?" :=
      List.map_const'
    have counted := question (List.range' 1 f.bindings.length)
    rw [List.length_range'] at counted
    exact congrArg some counted

theorem Request.placeholders_select_of_union :
    let authors : Clauses Query :=
      { source := some (.table { table := "posts" })
        columns := [.column "author"]
        conditions := [(.and, .compare "score" ">" (.value (.int 3)))] }
    let rows : Clauses Query :=
      { source := some (.table { table := "users", label := some "u" })
        conditions :=
          [(.and, .inSub "u.id" (.mk authors) false),
            (.and, .raw ⟨"note <> 'why?' or age > ?", [.int 30]⟩)]
        unions := [⟨true, .mk authors⟩] }
    ∃ answer, Request.select.statement ⟨.postgres, "app_"⟩ rows = .ok answer ∧
      answer.bindings = [.int 3, .int 30, .int 3] ∧
      Text.placeholders answer.sql = some ["$1", "$2", "$3"] := by
  intro authors rows
  have inner : authors.Within Lexicon.unmarked (Query.Within Lexicon.unmarked) := by
    constructor <;> simp [authors, Source.Within, Selection.Within, Condition.AllWithin,
      Condition.Within, Operand.Within, Name.Within, Distinct.Within] <;> decide
  have sound : RawSql.Answered ⟨"note <> 'why?' or age > ?", [.int 30]⟩ := by
    constructor <;> decide
  have outer : rows.Within Lexicon.unmarked (Query.Within Lexicon.unmarked) := by
    have sub := Query.within_mk.mpr inner
    have raw : Lexicon.unmarked.raw ⟨"note <> 'why?' or age > ?", [.int 30]⟩ := sound
    constructor <;> simp [rows, Source.Within, Condition.AllWithin, Condition.Within, Name.Within,
      Distinct.Within, sub, raw] <;> decide
  obtain ⟨answer, made, bound⟩ : ∃ answer,
      Request.select.statement ⟨.postgres, "app_"⟩ rows = .ok answer ∧
        answer.bindings = [.int 3, .int 30, .int 3] := by
    refine ⟨_, rfl, ?_⟩
    simp only [rows, authors]
    decide +kernel
  have asked : Request.select.Within Lexicon.unmarked := trivial
  have marks := Request.placeholders_statement (by decide) outer asked made
  rw [bound] at marks
  exact ⟨answer, made, bound, marks.trans (by decide)⟩

end SqlComposer
