import SqlComposer.Proofs.Statement.Placeholders
import SqlComposer.Proofs.Text.Literals

/-!
Contexts in step. Two contexts that differ only in how they mark slots are asked for the same
things. What they write is spelled by glyphs that no mark enters into, so after every turn they
bind the same values and stand at the same number, and the one writes the number of a slot where
the other writes a question mark (`Context.inStep_after`).
-/

namespace SqlComposer

open Fragment

/-! ## Glyphs -/

inductive Glyph where
  | plain (c : Char)
  | slot
  deriving DecidableEq

namespace Glyph

def write (placeholder : Placeholder) (next : Nat) : List Glyph → List Char
  | [] => []
  | plain c :: rest => c :: write placeholder next rest
  | slot :: rest => (placeholder.mark next).toList ++ write placeholder (next + 1) rest

def slots (glyphs : List Glyph) : Nat := glyphs.count slot

def ofText (s : String) : List Glyph := s.toList.map plain

/-- The glyphs of SQL with a number of single quotes in front of it. A question mark is inside a
literal where the quotes before it are odd in number, and a slot where they are even. -/
def ofSql (quotes : Nat) (cs : List Char) : List Glyph :=
  cs.mapIdx fun i c =>
    if c = '?' ∧ (quotes + (cs.take i).count '\'') % 2 = 0 then slot else plain c

variable {placeholder : Placeholder} {quotes : Nat}

theorem slots_append (a b : List Glyph) : slots (a ++ b) = slots a + slots b :=
  List.count_append

theorem write_append (next : Nat) (a b : List Glyph) :
    write placeholder next (a ++ b) =
      write placeholder next a ++ write placeholder (next + slots a) b := by
  induction a generalizing next with
  | nil => rfl
  | cons glyph a ih =>
    cases glyph with
    | plain c =>
      have same : slots (plain c :: a) = slots a := List.count_cons_of_ne (by simp)
      rw [List.cons_append, write, write, ih, same, List.cons_append]
    | slot =>
      have more : slots (slot :: a) = slots a + 1 := List.count_cons_self
      rw [List.cons_append, write, write, ih, more, List.append_assoc, Nat.add_assoc,
        Nat.add_comm 1]

theorem write_ofText (next : Nat) (s : String) : write placeholder next (ofText s) = s.toList := by
  have plainly (cs : List Char) : write placeholder next (cs.map plain) = cs := by
    induction cs with
    | nil => rfl
    | cons c rest ih => rw [List.map_cons, write, ih]
  exact plainly s.toList

theorem slots_ofText (s : String) : slots (ofText s) = 0 := by
  apply List.count_eq_zero.mpr
  intro member
  rcases List.mem_map.mp member with ⟨c, _, same⟩
  cases same

theorem ofSql_cons (c : Char) (cs : List Char) :
    ofSql quotes (c :: cs) =
      (if c = '?' ∧ quotes % 2 = 0 then slot else plain c) ::
        ofSql (quotes + [c].count '\'') cs := by
  have later (i : Nat) (d : Char) :
      (if d = '?' ∧ (quotes + ((c :: cs).take (i + 1)).count '\'') % 2 = 0 then slot
        else plain d) =
      if d = '?' ∧ (quotes + [c].count '\'' + (cs.take i).count '\'') % 2 = 0 then slot
        else plain d := by
    rw [List.take_succ_cons, ← List.singleton_append, List.count_append, Nat.add_assoc]
  rw [ofSql, List.mapIdx_cons]
  simp only [later]
  rfl

theorem ofSql_cons_of_ne {c : Char} (other : c ≠ '\'') (cs : List Char) :
    ofSql quotes (c :: cs) =
      (if c = '?' ∧ quotes % 2 = 0 then slot else plain c) :: ofSql quotes cs := by
  have none : [c].count '\'' = 0 := List.count_cons_of_ne other
  rw [ofSql_cons, none, Nat.add_zero]

theorem ofSql_quote (cs : List Char) :
    ofSql quotes ('\'' :: cs) = plain '\'' :: ofSql (quotes + 1) cs := by
  rw [ofSql_cons, if_neg (by simp), List.count_singleton_self]

theorem ofSql_append (front back : List Char) :
    ofSql quotes (front ++ back) =
      ofSql quotes front ++ ofSql (quotes + front.count '\'') back := by
  induction front generalizing quotes with
  | nil => rfl
  | cons c front ih =>
    have counted : (c :: front).count '\'' = [c].count '\'' + front.count '\'' := by
      rw [← List.singleton_append, List.count_append]
    rw [List.cons_append, ofSql_cons, ofSql_cons, ih, counted, Nat.add_assoc, List.cons_append]

theorem ofSql_of_even (even : quotes % 2 = 0) (cs : List Char) : ofSql quotes cs = ofSql 0 cs := by
  have same (n : Nat) : (quotes + n) % 2 = (0 + n) % 2 := by omega
  simp only [ofSql, same]

theorem write_question_ofSql (next : Nat) (cs : List Char) :
    write .question next (ofSql quotes cs) = cs := by
  induction cs generalizing quotes next with
  | nil => rfl
  | cons c rest ih =>
    rw [ofSql_cons]
    split
    · next mark =>
      have sign : (Placeholder.question.mark next).toList = ['?'] := by simp [Placeholder.mark]
      rw [write, ih, sign, mark.1, List.singleton_append]
    · rw [write, ih]

/-! ### Literals -/

theorem ofSql_doubled (odd : quotes % 2 = 1) (cs : List Char) :
    ofSql quotes (Text.doubled '\'' cs) = (Text.doubled '\'' cs).map plain := by
  induction cs generalizing quotes with
  | nil => rfl
  | cons c rest ih =>
    rw [Text.doubled]
    split
    · next literal =>
      subst literal
      rw [ofSql_quote, ofSql_quote, ih (by omega), List.map_cons, List.map_cons]
    · next other =>
      have inside : ¬(c = '?' ∧ quotes % 2 = 0) := by omega
      rw [ofSql_cons_of_ne other, if_neg inside, ih odd, List.map_cons]

/-- A literal in SQL, doubled quotes and all, has no slot, and what follows it is read as if the
literal were not there. -/
theorem ofSql_append_literal {front : List Char} (even : front.count '\'' % 2 = 0) (text : String)
    (back : List Char) :
    ofSql 0 (front ++ (Text.literal text).toList ++ back) =
      ofSql 0 front ++ ofText (Text.literal text) ++ ofSql 0 back := by
  have counted : (Text.literal text).toList.count '\'' % 2 = 0 := by
    have doubled := Text.count_doubled text.toList
    rw [Text.toList_literal, List.count_cons_self, List.count_append, List.count_singleton_self]
    omega
  have inside : ofSql (front.count '\'') (Text.literal text).toList =
      ofText (Text.literal text) := by
    rw [ofText, Text.toList_literal, ofSql_quote, ofSql_append, ofSql_doubled (by omega),
      ofSql_quote, List.map_cons, List.map_append]
    rfl
  have behind : (0 + (front ++ (Text.literal text).toList).count '\'') % 2 = 0 := by
    rw [List.count_append]
    omega
  rw [ofSql_append, ofSql_append, ofSql_of_even behind, Nat.zero_add, inside]

end Glyph

/-! ## Pieces spelled by glyphs -/

/-- Whatever marks the slots, the pieces are written as the glyphs are. -/
structure SpelledBy (pieces : List Piece) (glyphs : List Glyph) : Prop where
  render : ∀ style next,
    (Piece.render style next pieces).toList = Glyph.write style.placeholder next glyphs
  slots : Piece.slots pieces = Glyph.slots glyphs

section

variable {pieces more : List Piece} {glyphs further : List Glyph}

theorem spelledBy_nil : SpelledBy [] [] := ⟨fun _ _ => rfl, rfl⟩

theorem spelledBy_text (s : String) : SpelledBy [.text s] (Glyph.ofText s) where
  render style next := by
    rw [Glyph.write_ofText, Piece.render, Piece.render, String.append_empty]
  slots := by
    rw [Glyph.slots_ofText]
    rfl

theorem spelledBy_slot : SpelledBy [.slot] [.slot] where
  render style next := by
    rw [Piece.render, String.toList_append]
    rfl
  slots := rfl

theorem SpelledBy.append (one : SpelledBy pieces glyphs) (two : SpelledBy more further) :
    SpelledBy (pieces ++ more) (glyphs ++ further) where
  render style next := by
    rw [Piece.render_append, String.toList_append, one.render, two.render, one.slots,
      Glyph.write_append]
  slots := by
    rw [Glyph.slots_append, ← one.slots, ← two.slots]
    exact List.count_append

theorem SpelledBy.pushChar (spelled : SpelledBy pieces glyphs) (c : Char) :
    SpelledBy (pushChar c pieces) (.plain c :: glyphs) where
  render style next := by rw [render_pushChar, spelled.render, Glyph.write]
  slots := by
    have same : Glyph.slots (.plain c :: glyphs) = Glyph.slots glyphs :=
      List.count_cons_of_ne (by simp)
    rw [slots_pushChar, spelled.slots, same]

/-- The scan that finds the slots of raw SQL keeps a switch where the glyphs count quotes. -/
theorem spelledBy_rawPieces (quotes : Nat) (cs : List Char) :
    SpelledBy (rawPieces (decide (quotes % 2 = 1)) cs) (Glyph.ofSql quotes cs) := by
  induction cs generalizing quotes with
  | nil => exact spelledBy_nil
  | cons c rest ih =>
    rw [rawPieces]
    by_cases mark : c = '?' ∧ quotes % 2 = 0
    · have outside : decide (quotes % 2 = 1) = false := decide_eq_false (by omega)
      have other : c ≠ '\'' := by
        rw [mark.1]
        decide
      have tail := ih quotes
      rw [outside] at tail ⊢
      rw [if_pos ⟨mark.1, rfl⟩, Glyph.ofSql_cons_of_ne other, if_pos mark]
      exact spelledBy_slot.append tail
    · have plain : ¬(c = '?' ∧ decide (quotes % 2 = 1) = false) := by
        intro both
        have even := of_decide_eq_false both.2
        exact mark ⟨both.1, by omega⟩
      have switched : (decide (quotes % 2 = 1) != (c == '\'')) =
          decide ((quotes + [c].count '\'') % 2 = 1) := by
        rw [List.count_singleton]
        by_cases literal : c = '\''
        · rw [Bool.eq_iff_iff]
          simp only [literal, bne_iff_ne, beq_self_eq_true, if_true, ne_eq, decide_eq_true_eq]
          omega
        · rw [beq_false_of_ne literal, Bool.bne_false]
          simp
      rw [if_neg plain, Glyph.ofSql_cons, if_neg mark, switched]
      exact (ih _).pushChar c

theorem spelledBy_separated (separator : String) {list : List Operand}
    {spell : Operand → List Glyph} (each : ∀ o, SpelledBy (operand o).pieces (spell o)) :
    SpelledBy (separated separator (list.map operand)).pieces
      ((Glyph.ofText separator).intercalate (list.map spell)) := by
  induction list with
  | nil => exact spelledBy_nil
  | cons first rest ih =>
    cases rest with
    | nil => simpa [separated] using each first
    | cons second rest =>
      have whole := (each first).append ((spelledBy_text separator).append ih)
      simpa [separated, List.intercalate] using whole

end

/-! ## Turns -/

inductive Turn where
  | push (v : Value)
  | parameter (o : Operand)
  | parameters (list : List Operand)
  | raw (r : RawSql)

def Operand.glyphs : Operand → List Glyph
  | value _ => [.slot]
  | expression sql => Glyph.ofText sql

namespace Turn

def fragment : Turn → Fragment
  | push v => .bind v
  | parameter o => .operand o
  | parameters list => .operands list
  | raw r => .raw r

def glyphs : Turn → List Glyph
  | push _ => [.slot]
  | parameter o => o.glyphs
  | parameters list => (Glyph.ofText ", ").intercalate (list.map Operand.glyphs)
  | raw r => Glyph.ofSql 0 r.sql.toList

def values : Turn → List Value
  | push v => [v]
  | parameter o => o.bindings
  | parameters list => list.flatMap (·.bindings)
  | raw r => r.bindings

theorem bindings_fragment (turn : Turn) : turn.fragment.bindings = turn.values := by
  cases turn with
  | push v => rfl
  | parameter o => exact bindings_operand o
  | parameters list => simp [fragment, values, operands, commas, List.flatMap_map]
  | raw r => rfl

theorem spelledBy_operand (o : Operand) : SpelledBy (operand o).pieces o.glyphs := by
  cases o with
  | value v => exact spelledBy_slot
  | expression sql => exact spelledBy_text sql

theorem spelledBy_fragment (turn : Turn) : SpelledBy turn.fragment.pieces turn.glyphs := by
  cases turn with
  | push v => exact spelledBy_slot
  | parameter o => exact spelledBy_operand o
  | parameters list => exact spelledBy_separated ", " spelledBy_operand
  | raw r => exact spelledBy_rawPieces 0 r.sql.toList

end Turn

/-! ## Runs -/

namespace Context

def answer (quote : Char) (c : Context) (turn : Turn) : String × Context :=
  c.emit quote turn.fragment

def after (quote : Char) (c : Context) (turns : List Turn) : Context :=
  turns.foldl (fun c turn => (c.answer quote turn).2) c

theorem answer_spec (quote : Char) (c : Context) (turn : Turn) :
    (c.answer quote turn).1.toList = Glyph.write c.placeholder c.next turn.glyphs ∧
      (c.answer quote turn).2 =
        { c with
          next := c.next + Glyph.slots turn.glyphs
          bindings := c.bindings ++ turn.values } := by
  have spelled := turn.spelledBy_fragment
  refine ⟨spelled.render _ _, ?_⟩
  rw [answer, emit, spelled.slots, turn.bindings_fragment]

theorem after_eq (quote : Char) (c : Context) (turns : List Turn) :
    c.after quote turns =
      { c with
        next := c.next + Glyph.slots (turns.flatMap Turn.glyphs)
        bindings := c.bindings ++ turns.flatMap Turn.values } := by
  induction turns generalizing c with
  | nil => simp [after, Glyph.slots]
  | cons turn rest ih =>
    have step : c.after quote (turn :: rest) =
        (c.answer quote turn).2.after quote rest := rfl
    rw [step, ih, (c.answer_spec quote turn).2, List.flatMap_cons, List.flatMap_cons,
      Glyph.slots_append, Nat.add_assoc, List.append_assoc]

/-- The question marks that a context counts in raw SQL are the slots of what it writes. -/
theorem slots_raw (r : RawSql) :
    Glyph.slots (Turn.raw r).glyphs = Text.openQuestions false r.sql.toList := by
  rw [← (Turn.raw r).spelledBy_fragment.slots]
  exact slots_rawPieces false r.sql.toList

theorem answer_raw_literal (quote : Char) (c : Context) {front : String}
    (even : front.toList.count '\'' % 2 = 0) (text back : String) (values : List Value) :
    let opened := c.answer quote (.raw ⟨front, []⟩)
    (c.answer quote (.raw ⟨front ++ Text.literal text ++ back, values⟩)).1 =
      opened.1 ++ Text.literal text ++ (opened.2.answer quote (.raw ⟨back, values⟩)).1 := by
  intro opened
  have before := c.answer_spec quote (.raw ⟨front, []⟩)
  have behind := opened.2.answer_spec quote (.raw ⟨back, values⟩)
  have whole := c.answer_spec quote (.raw ⟨front ++ Text.literal text ++ back, values⟩)
  apply String.toList_injective
  calc
    _ = Glyph.write c.placeholder c.next
          (Glyph.ofSql 0 (front ++ Text.literal text ++ back).toList) := whole.1
    _ = Glyph.write c.placeholder c.next (Glyph.ofSql 0 front.toList) ++
          (Text.literal text).toList ++
          Glyph.write c.placeholder (c.next + Glyph.slots (Glyph.ofSql 0 front.toList))
            (Glyph.ofSql 0 back.toList) := by
      rw [String.toList_append, String.toList_append, Glyph.ofSql_append_literal even,
        Glyph.write_append, Glyph.write_append, Glyph.write_ofText, Glyph.slots_append,
        Glyph.slots_ofText, Nat.add_zero]
    _ = opened.1.toList ++ (Text.literal text).toList ++
          (opened.2.answer quote (.raw ⟨back, values⟩)).1.toList := by
      rw [before.1, behind.1, before.2]
      rfl
    _ = _ := by rw [String.toList_append, String.toList_append]

theorem answer_expression (quote : Char) (c : Context) (sql : String) :
    c.answer quote (.parameter (.expression sql)) = (sql, c) := by
  simp [answer, Turn.fragment, emit, operand, Piece.render, Piece.slots]

theorem answer_raw_of_question (quote : Char) {c : Context} (question : c.placeholder = .question)
    (r : RawSql) :
    c.answer quote (.raw r) =
      (r.sql, { c with
        next := c.next + Text.openQuestions false r.sql.toList
        bindings := c.bindings ++ r.bindings }) := by
  have written := c.answer_spec quote (.raw r)
  rw [slots_raw] at written
  have text : (c.answer quote (.raw r)).1 = r.sql := by
    apply String.toList_injective
    calc
      _ = Glyph.write c.placeholder c.next (Glyph.ofSql 0 r.sql.toList) := written.1
      _ = r.sql.toList := by rw [question, Glyph.write_question_ofSql]
  exact Prod.ext text written.2

/-- Two contexts after the same turns, the one marking slots by question marks and the other by
their numbers, and what they write in a next turn. -/
structure InStep (quote quote' : Char) (c : Context) (done : List Turn)
    (marked numbered : Context) : Prop where
  alike : numbered = { marked with placeholder := .numbered }
  next : marked.next = c.next + Glyph.slots (done.flatMap Turn.glyphs)
  bindings : marked.bindings = c.bindings ++ done.flatMap Turn.values
  marks : ∀ turn : Turn, (marked.answer quote turn).1.toList =
    Glyph.write .question marked.next turn.glyphs
  numbers : ∀ turn : Turn, (numbered.answer quote' turn).1.toList =
    Glyph.write .numbered marked.next turn.glyphs
  /-- Raw SQL is passed on as it is, and its open question marks are counted by themselves. -/
  passes : ∀ r : RawSql, marked.answer quote (.raw r) =
    (r.sql, { marked with
      next := marked.next + Text.openQuestions false r.sql.toList
      bindings := marked.bindings ++ r.bindings })
  copies : ∀ front text back values, front.toList.count '\'' % 2 = 0 →
    let opened := numbered.answer quote' (.raw ⟨front, []⟩)
    (numbered.answer quote' (.raw ⟨front ++ Text.literal text ++ back, values⟩)).1 =
      opened.1 ++ Text.literal text ++ (opened.2.answer quote' (.raw ⟨back, values⟩)).1
  inlines : ∀ sql, marked.answer quote (.parameter (.expression sql)) = (sql, marked) ∧
    numbered.answer quote' (.parameter (.expression sql)) = (sql, numbered)

/-- Contexts that begin alike but for how they mark slots stay in step whatever they are asked. -/
theorem inStep_after (quote quote' : Char) (c : Context) (done : List Turn) :
    InStep quote quote' c done (({ c with placeholder := .question } : Context).after quote done)
      (({ c with placeholder := .numbered } : Context).after quote' done) := by
  rw [after_eq, after_eq]
  exact {
    alike := rfl
    next := rfl
    bindings := rfl
    marks := fun turn => (answer_spec quote _ turn).1
    numbers := fun turn => (answer_spec quote' _ turn).1
    passes := answer_raw_of_question quote rfl
    copies := fun _ text back values even => answer_raw_literal quote' _ even text back values
    inlines := fun sql => ⟨answer_expression quote _ sql, answer_expression quote' _ sql⟩ }

example :
    let begun : Context := { placeholder := .numbered, tablePrefix := "" }
    let pushed := begun.after '"' [.push (.int 1), .parameter (.expression "now()")]
    (pushed.answer '"' (.raw ⟨"a = ? and b = 'it''s ?' and c = ?", []⟩)).1 =
      "a = $2 and b = 'it''s ?' and c = $3" := by
  decide +kernel

end Context

end SqlComposer
