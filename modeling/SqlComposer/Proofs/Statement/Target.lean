import Mathlib.Data.List.Infix
import SqlComposer.Proofs.Statement.Request

/-!
Whatever is asked of clauses on a table, the answer names the table: the pieces of its name stand
together in the fragment (`Request.holds_table_of_compile`), and so its text in the statement.
-/

namespace SqlComposer

def Text.Occurs (part whole : String) : Prop := ∃ before after, whole = before ++ part ++ after

namespace Fragment

def Holds (f part : Fragment) : Prop := part.pieces <:+: f.pieces

def EndsInName (f : Fragment) : Prop := ∃ front name, f.pieces = front ++ [.ident name]

variable {part : Fragment}

theorem holds_cat {f : Fragment} {fragments : List Fragment} (member : f ∈ fragments)
    (holds : f.Holds part) : (cat fragments).Holds part := by
  apply holds.trans
  exact List.infix_of_mem_flatten (List.mem_map_of_mem member)

theorem holds_separated (separator : String) {f : Fragment} {fragments : List Fragment}
    (member : f ∈ fragments) (holds : f.Holds part) :
    (separated separator fragments).Holds part := by
  have among : f ∈ fragments.intersperse (ofText separator) := by
    induction fragments with
    | nil => cases member
    | cons g rest ih =>
      cases rest with
      | nil => exact member
      | cons h rest =>
        rw [List.intersperse_cons_cons, List.mem_cons, List.mem_cons]
        rcases List.mem_cons.mp member with same | later
        · exact .inl same
        · exact .inr (.inr (ih later))
  exact holds_cat among holds

theorem trimEndPieces_append_ident (front rest : List Piece) (name : String) :
    trimEndPieces (front ++ .ident name :: rest) = front ++ .ident name :: trimEndPieces rest := by
  induction front with
  | nil => cases kept : trimEndPieces rest <;> simp [trimEndPieces, kept]
  | cons piece front ih =>
    rw [List.cons_append, List.cons_append]
    cases front <;> simp_all [trimEndPieces]

theorem holds_joined (ends : part.EndsInName) {f : Fragment} {segments : List Fragment}
    (member : f ∈ segments) (holds : f.Holds part) : (joined segments).Holds part := by
  obtain ⟨front, name, own⟩ := ends
  -- A segment with a name in it is not left out, and blanks are dropped only behind the name.
  have visible : f.isBlank = false := by
    obtain ⟨before, after, whole⟩ := holds
    rw [isBlank, ← whole, own]
    simp
  have kept : f ∈ segments.filter (!·.isBlank) := by
    apply List.mem_filter.mpr
    exact ⟨member, by simp [visible]⟩
  obtain ⟨before, after, whole⟩ := holds_separated " " kept holds
  refine ⟨before, trimEndPieces after, ?_⟩
  have split : (separated " " (segments.filter (!·.isBlank))).pieces =
      (before ++ front) ++ .ident name :: after := by
    rw [← whole, own]
    simp
  rw [joined, split, trimEndPieces_append_ident, own]
  simp

end Fragment

namespace Piece

theorem render_of_slots_eq_zero (style : Style) {pieces : List Piece} (none : slots pieces = 0)
    (next : Nat) : render style next pieces = render style 1 pieces := by
  have fixed : .slot ∉ pieces := List.count_eq_zero.mp none
  clear none
  induction pieces with
  | nil => rfl
  | cons piece rest ih =>
    have later := ih fun member => fixed (List.mem_cons_of_mem _ member)
    cases piece with
    | text s => rw [render, render, later]
    | ident name => rw [render, render, later]
    | slot => exact absurd List.mem_cons_self fixed

end Piece

/-- A part without slots reads the same wherever it stands. -/
theorem Fragment.Holds.occurs {f part : Fragment} (holds : f.Holds part)
    (fixed : Piece.slots part.pieces = 0) (style : Style) :
    Text.Occurs (part.statement style).sql (f.statement style).sql := by
  obtain ⟨before, after, whole⟩ := holds
  refine ⟨Piece.render style 1 before,
    Piece.render style (1 + Piece.slots (before ++ part.pieces)) after, ?_⟩
  rw [Fragment.statement, ← whole, Piece.render_append, Piece.render_append,
    Piece.render_of_slots_eq_zero style fixed]
  rfl

open Fragment

namespace Setting

variable (s : Setting) (name : Name)

theorem table_endsInName : (s.table name).EndsInName := by
  cases label : name.label with
  | some own =>
    refine ⟨(prefixed (name.pinned.getD s.tablePrefix) name.table).pieces ++ [.text " as "],
      name.pinned.getD s.tablePrefix ++ own, ?_⟩
    rw [Setting.table, Fragment.table, label]
    simp [labelled, ident]
  | none =>
    rw [EndsInName, Setting.table, Fragment.table, label]
    simp only [Option.map_none, labelled, prefixed]
    split
    · next schema table _ =>
      exact ⟨[.ident schema, .text "."], (name.pinned.getD s.tablePrefix) ++ table, rfl⟩
    · exact ⟨[], (name.pinned.getD s.tablePrefix) ++ name.table, rfl⟩

variable {s : Setting} {name : Name} {c : Clauses Fragment} {f : Fragment}

theorem source_of_table? {Q : Type} {c : Clauses Q} (named : c.table? = some name) :
    c.source = some (.table name) := by
  unfold Clauses.table? at named
  split at named
  · next own found =>
    cases named
    exact found
  · cases named

theorem table?_of_source {Q : Type} {c : Clauses Q} (onTable : c.source = some (.table name)) :
    c.table? = some name := by
  simp [Clauses.table?, onTable]

theorem holds_body (named : c.table? = some name) : (s.body c).Holds (s.table name) := by
  have source : (s.source (.table name)).Holds (s.table name) :=
    holds_cat (f := s.table name) (by simp) List.infix_rfl
  apply holds_joined (s.table_endsInName name) _ source
  simp [source_of_table? named]

theorem holds_united (named : c.table? = some name) : (s.united c).Holds (s.table name) := by
  have body := holds_body (s := s) named
  unfold united
  split
  · exact body
  · have branch : (s.dialect.unionBody (s.body c)).Holds (s.table name) := by
      unfold Dialect.unionBody
      split <;> exact holds_cat (by simp) body
    exact holds_cat List.mem_cons_self branch

theorem holds_select (named : c.table? = some name) : (s.select c).Holds (s.table name) := by
  unfold select
  split
  · unfold unionAggregate
    split
    · have inner : (s.united { c with aggregate := none }).Holds (s.table name) :=
        holds_united named
      exact holds_cat (by simp) inner
    · exact holds_united named
  · exact holds_united named

theorem select_source_statement (s : Setting) (name : Name) :
    (s.select (s.compiled { source := some (.table name) })).statement s.dialect.style =
      ⟨"select * from " ++ ((s.table name).statement s.dialect.style).sql, []⟩ := by
  have whole : s.select (s.compiled { source := some (.table name) }) =
      joined [cat ["select", " *"], cat ["from ", s.table name], ""] := by
    cases s with
    | mk dialect tablePrefix => cases dialect <;> rfl
  have segments : [cat ["select", " *"], cat ["from ", s.table name], ofText ""].filter
      (!·.isBlank) = [cat ["select", " *"], cat ["from ", s.table name]] := rfl
  have wordings : "select" ++ " *" ++ " " ++ "from " = "select * from " := by decide
  obtain ⟨front, last, own⟩ := s.table_endsInName name
  have joint : (separated " " [cat ["select", " *"], cat ["from ", s.table name]]).pieces =
      ([.text "select", .text " *", .text " ", .text "from "] ++ front) ++ .ident last :: [] := by
    simp [separated, own]
  have pieces : (s.select (s.compiled { source := some (.table name) })).pieces =
      [.text "select", .text " *", .text " ", .text "from "] ++ (s.table name).pieces := by
    rw [whole, joined, segments, joint, trimEndPieces_append_ident, own]
    simp [trimEndPieces]
  have bindings : (s.select (s.compiled { source := some (.table name) })).bindings = [] := by
    rw [whole]
    simp [Setting.table]
  rw [Fragment.statement, pieces, bindings, ← wordings]
  simp only [List.cons_append, List.nil_append, Piece.render, String.append_assoc]
  rfl

theorem written_of_table? (named : c.table? = some name) : s.written c = .ok (s.table name) := by
  rw [written, source_of_table? named]

theorem holds_of_mem {fragments : List Fragment} (member : s.table name ∈ fragments) :
    (cat fragments).Holds (s.table name) :=
  holds_cat member List.infix_rfl

section Changes

variable (named : c.table? = some name)
include named

theorem holds_insertAs {verb : String} {records : List Record}
    (made : s.insertAs verb c records = .ok f) : f.Holds (s.table name) := by
  rw [insertAs, written_of_table? named] at made
  obtain ⟨target, written, rest⟩ := Misuse.ok_of_bind made
  cases written
  split at rest
  · cases rest
    exact holds_of_mem (by simp)
  · obtain ⟨rows, _, last⟩ := Misuse.ok_of_bind rest
    cases last
    exact holds_of_mem (by simp)

theorem holds_insertOrIgnore {records : List Record}
    (made : s.insertOrIgnore c records = .ok f) : f.Holds (s.table name) := by
  unfold insertOrIgnore at made
  split at made
  · cases made
  · exact holds_insertAs named made
  · exact holds_insertAs named made
  · obtain ⟨inserted, first, last⟩ := Misuse.ok_of_bind made
    cases last
    exact holds_cat List.mem_cons_self (holds_insertAs named first)

theorem holds_insertGetId {r : Record} {key : String} (made : s.insertGetId c r key = .ok f) :
    f.Holds (s.table name) := by
  obtain ⟨inserted, first, last⟩ := Misuse.ok_of_bind made
  have whole := holds_insertAs named first
  cases returns : s.dialect.returnsInsertedId with
  | true =>
    simp only [returns, if_true] at last
    cases last
    exact holds_cat List.mem_cons_self whole
  | false =>
    simp only [returns] at last
    cases last
    exact whole

theorem holds_insertUsing {columns : List String} {rows : Fragment}
    (made : s.insertUsing c columns rows = .ok f) : f.Holds (s.table name) := by
  rw [insertUsing, written_of_table? named] at made
  obtain ⟨target, written, last⟩ := Misuse.ok_of_bind made
  cases written
  cases last
  split <;> exact holds_of_mem (by simp)

theorem holds_upsert {records : List Record} {uniqueBy updated : List String}
    (made : s.upsert c records uniqueBy updated = .ok f) : f.Holds (s.table name) := by
  unfold upsert at made
  split at made
  · cases made
  · split at made
    · exact holds_insertOrIgnore named made
    · obtain ⟨inserted, first, last⟩ := Misuse.ok_of_bind made
      cases last
      exact holds_cat List.mem_cons_self (holds_insertAs named first)
  · obtain ⟨inserted, first, last⟩ := Misuse.ok_of_bind made
    cases last
    have head : ∀ wording, (cat (inserted :: wording)).Holds (s.table name) := by
      intro wording
      exact holds_cat List.mem_cons_self (holds_insertAs named first)
    split <;> exact holds_cat List.mem_cons_self (head _)

omit named in
theorem holds_keyedWrite {head : Fragment} (target : head.Holds (s.table name)) (key : String) :
    (s.keyedWrite head key c).Holds (s.table name) := by
  unfold keyedWrite
  split
  · exact holds_joined (s.table_endsInName name) List.mem_cons_self target
  · exact holds_cat List.mem_cons_self target

theorem holds_update {r : Record} (made : s.update c r = .ok f) : f.Holds (s.table name) := by
  rw [update, written_of_table? named] at made
  obtain ⟨target, written, rest⟩ := Misuse.ok_of_bind made
  cases written
  split at rest
  · cases rest
    exact holds_keyedWrite (holds_of_mem (by simp)) _
  · cases rest
    have head : (cat ["update ", s.table name]).Holds (s.table name) := holds_of_mem (by simp)
    exact holds_joined (s.table_endsInName name) (by simp) head

theorem holds_delete (made : s.delete c = .ok f) : f.Holds (s.table name) := by
  have head : (cat ["delete from ", s.table name]).Holds (s.table name) := holds_of_mem (by simp)
  rw [delete, written_of_table? named] at made
  obtain ⟨target, written, rest⟩ := Misuse.ok_of_bind made
  cases written
  split at rest
  · cases rest
    exact holds_keyedWrite head _
  · split at rest
    · cases rest
      exact holds_joined (s.table_endsInName name) (by simp) head
    · cases rest
      have joint : (cat ["delete ", s.deletedName c, " from ", s.table name]).Holds
          (s.table name) := holds_of_mem (by simp)
      exact holds_joined (s.table_endsInName name) (by simp) joint

theorem holds_truncate (made : s.truncate c = .ok f) : f.Holds (s.table name) := by
  rw [truncate, written_of_table? named] at made
  obtain ⟨target, written, last⟩ := Misuse.ok_of_bind made
  cases written
  cases last
  split <;> exact holds_of_mem (by simp)

end Changes

end Setting

namespace Request

variable {s : Setting} {name : Name} {r : Request}

theorem holds_table_of_compile {c : Clauses Fragment} (named : c.table? = some name)
    {f : Fragment} (made : r.compile s c = .ok f) : f.Holds (s.table name) := by
  cases r with
  | select =>
    cases made
    exact Setting.holds_select named
  | holdsRow =>
    cases made
    exact holds_cat (by simp) (Setting.holds_select named)
  | insert records => exact Setting.holds_insertAs named made
  | insertOrIgnore records => exact Setting.holds_insertOrIgnore named made
  | insertGetId record key => exact Setting.holds_insertGetId named made
  | insertUsing columns rows => exact Setting.holds_insertUsing named made
  | upsert records uniqueBy updated => exact Setting.holds_upsert named made
  | update record => exact Setting.holds_update named made
  | delete => exact Setting.holds_delete named made
  | truncate => exact Setting.holds_truncate named made

/-- The text of the table, as a statement of its own would write it, stands in every statement. -/
theorem occurs_table_of_statement {c : Clauses Query} (named : c.table? = some name)
    {answer : Statement} (made : r.statement s c = .ok answer) :
    Text.Occurs ((s.table name).statement s.dialect.style).sql answer.sql := by
  have compiled : (s.compiled c).table? = some name := by
    have source := Setting.source_of_table? named
    simp [Setting.compiled, Clauses.map, Clauses.table?, source, Source.map]
  have fixed : Piece.slots (s.table name).pieces = 0 := by
    unfold Setting.table Fragment.table labelled prefixed
    cases Text.cutLastDot name.table <;> cases name.label <;> rfl
  unfold statement at made
  cases built : r.compile s (s.compiled c) with
  | error e =>
    rw [built] at made
    cases made
  | ok f =>
    rw [built] at made
    cases made
    exact (holds_table_of_compile compiled built).occurs fixed _

end Request

end SqlComposer
