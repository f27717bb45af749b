import SqlComposer.Proofs.Query.SubQueries
import SqlComposer.Proofs.Statement.Vocabulary

/-!
What is left of a statement without its names and values. Names that are cut alike leave the same
outline, so clauses that differ only in such names and in values compile to fragments of one
outline (`Setting.outline_select`), whose tokens differ in nothing but identifiers
(`Piece.ReadsAs.outline_eq`).
-/

namespace SqlComposer

open Fragment

/-! ## Outlines -/

/-- Nothing is left of an identifier, and nothing of a `*`, which may stand for one. -/
def Token.outline (t : Token) : Option Token :=
  if t.isIdentifier = true ∨ t = .word "*" then none else some t

def Piece.outline : Piece → Option Piece
  | ident _ => none
  | other => some other

def Fragment.outline (f : Fragment) : List (Option Piece) := f.pieces.map Piece.outline

theorem Piece.eq_of_outline_text {p : Piece} {s : String}
    (same : some (text s) = p.outline) : p = text s := by
  cases p <;> simp_all [outline]

theorem Piece.eq_of_outline_slot {p : Piece} (same : some slot = p.outline) : p = slot := by
  cases p <;> simp_all [outline]

theorem Piece.eq_of_outline_ident {p : Piece} (same : none = p.outline) :
    ∃ name, p = ident name := by
  cases p <;> simp_all [outline]

theorem Piece.ReadsAs.outline_eq {style : Style} {next : Nat} {pieces others : List Piece}
    {tokens further : List Token} (reads : ReadsAs style next pieces tokens)
    (again : ReadsAs style next others further)
    (same : pieces.map Piece.outline = others.map Piece.outline) :
    tokens.map Token.outline = further.map Token.outline := by
  induction reads generalizing others further with
  | nil next =>
    cases List.map_eq_nil_iff.mp same.symm
    cases again
    rfl
  | text scanned _ _ ih =>
    rcases others with _ | ⟨other, others⟩
    · cases same
    · rcases List.cons.inj same with ⟨head, tail⟩
      cases Piece.eq_of_outline_text head
      cases again with
      | text scanned' _ rest =>
        rw [scanned] at scanned'
        cases scanned'
        rw [List.map_append, List.map_append, ih rest tail]
  | slot _ ih =>
    rcases others with _ | ⟨other, others⟩
    · cases same
    · rcases List.cons.inj same with ⟨head, tail⟩
      cases Piece.eq_of_outline_slot head
      cases again with
      | slot rest => rw [List.map_cons, List.map_cons, ih rest tail]
  | star _ ih | ident _ _ ih =>
    rcases others with _ | ⟨other, others⟩
    · cases same
    · rcases List.cons.inj same with ⟨head, tail⟩
      rcases Piece.eq_of_outline_ident head with ⟨name, rfl⟩
      -- Each of the two names may be a `*` or not.
      cases again with
      | star rest => simp [Token.outline, Token.isIdentifier, ih rest tail]
      | ident _ rest => simp [Token.outline, Token.isIdentifier, ih rest tail]

theorem map_eq_map_of_map_eq {A B C D : Type} {h : A → C} {k : B → C} {f : A → D} {g : B → D}
    (each : ∀ a b, h a = k b → f a = g b) {list : List A} {others : List B}
    (same : list.map h = others.map k) : list.map f = others.map g := by
  induction list generalizing others with
  | nil =>
    cases List.map_eq_nil_iff.mp same.symm
    rfl
  | cons first rest ih =>
    rcases others with _ | ⟨second, others⟩
    · cases same
    · rcases List.cons.inj same with ⟨head, tail⟩
      rw [List.map_cons, List.map_cons, each first second head, ih tail]

namespace Fragment

@[simp] theorem outline_empty : ({} : Fragment).outline = [] := rfl

@[simp] theorem outline_ofText (s : String) : (ofText s).outline = [some (.text s)] := rfl

@[simp] theorem outline_ident (name : String) : (ident name).outline = [none] := rfl

@[simp] theorem outline_cat (fragments : List Fragment) :
    (cat fragments).outline = (fragments.map outline).flatten := by
  rw [outline, pieces_cat, List.map_flatMap, List.flatMap_def]
  rfl

theorem outline_separated (separator : String) (fragments : List Fragment) :
    (separated separator fragments).outline =
      ((fragments.map outline).intersperse [some (.text separator)]).flatten := by
  rw [separated, outline_cat]
  congr 1
  induction fragments with
  | nil => rfl
  | cons first rest ih =>
    cases rest with
    | nil => rfl
    | cons second rest => simpa using ih

theorem outline_commas {A : Type} {f g : A → Fragment} {list others : List A}
    (same : list.map (fun a => (f a).outline) = others.map fun a => (g a).outline) :
    (commas (list.map f)).outline = (commas (others.map g)).outline := by
  rw [commas, commas, outline_separated, outline_separated, List.map_map, List.map_map]
  exact congrArg (fun l => (List.intersperse _ l).flatten) same

theorem isBlank_eq (f : Fragment) : f.isBlank = f.outline.all (· == some (.text "")) := by
  rw [isBlank, outline, List.all_map]
  congr 1
  funext p
  cases p <;> simp [Piece.outline]

theorem outline_trimEndPieces {pieces others : List Piece}
    (same : pieces.map Piece.outline = others.map Piece.outline) :
    (trimEndPieces pieces).map Piece.outline = (trimEndPieces others).map Piece.outline := by
  induction pieces generalizing others with
  | nil =>
    cases List.map_eq_nil_iff.mp same.symm
    rfl
  | cons piece rest ih =>
    rcases others with _ | ⟨other, others⟩
    · cases same
    · rcases List.cons.inj same with ⟨head, tail⟩
      -- Either both rests are trimmed to nothing, or neither is.
      have kept := ih tail
      unfold trimEndPieces
      cases own : trimEndPieces rest with
      | nil =>
        rw [own] at kept
        rw [List.map_eq_nil_iff.mp kept.symm]
        cases piece with
        | text s =>
          cases Piece.eq_of_outline_text head
          rfl
        | slot =>
          cases Piece.eq_of_outline_slot head
          rfl
        | ident name =>
          rcases Piece.eq_of_outline_ident head with ⟨name, rfl⟩
          rfl
      | cons first more =>
        rw [own] at kept
        cases theirs : trimEndPieces others with
        | nil =>
          rw [theirs] at kept
          cases kept
        | cons second further =>
          rw [theirs] at kept
          simp only [List.map_cons] at kept ⊢
          rw [head, kept]

theorem outline_joined {segments others : List Fragment}
    (same : segments.map outline = others.map outline) :
    (joined segments).outline = (joined others).outline := by
  have kept (list : List Fragment) : (list.filter (!·.isBlank)).map outline =
      (list.map outline).filter fun o => !o.all (· == some (.text "")) := by
    rw [List.filter_map]
    congr 2
    funext f
    rw [isBlank_eq]
    rfl
  apply outline_trimEndPieces
  have whole (list : List Fragment) :
      (separated " " (list.filter (!·.isBlank))).pieces.map Piece.outline =
        (((list.map outline).filter fun o => !o.all (· == some (.text ""))).intersperse
          [some (.text " ")]).flatten := by
    rw [← kept]
    exact outline_separated " " _
  rw [whole, whole, same]

end Fragment

/-! ## Names and operands -/

/-- How a name is cut before it is quoted. -/
structure NameShape where
  /-- Whether what stands before the last point has a point of its own, if there is a point. -/
  qualified : Option Bool
  labelled : Bool
  deriving DecidableEq, Repr

def nameShape (s : String) : NameShape where
  qualified := (Text.cutLastDot (splitLabel s).1).map fun parts => (Text.cutLastDot parts.1).isSome
  labelled := (splitLabel s).2.isSome

def Operand.blank (o : Operand) : Operand := o.mapValue fun _ => .null

namespace Fragment

variable {own other : String}

theorem outline_prefixed {table another : String}
    (same : (Text.cutLastDot table).isSome = (Text.cutLastDot another).isSome) :
    (prefixed own table).outline = (prefixed other another).outline := by
  unfold prefixed
  cases cut : Text.cutLastDot table <;> cases again : Text.cutLastDot another <;>
    rw [cut, again] at same
  · rfl
  · cases same
  · cases same
  · rfl

theorem outline_labelled {f g : Fragment} {label another : Option String}
    (same : f.outline = g.outline) (labels : label.isSome = another.isSome) :
    (labelled f label).outline = (labelled g another).outline := by
  cases label <;> cases another
  · exact same
  · cases labels
  · cases labels
  · simp [labelled, same]

theorem outline_column {text another : String} (same : nameShape text = nameShape another) :
    (column own text).outline = (column other another).outline := by
  simp only [nameShape, NameShape.mk.injEq] at same
  unfold column
  generalize splitLabel text = parts at same ⊢
  generalize splitLabel another = others at same ⊢
  rcases same with ⟨points, labels⟩
  apply outline_labelled _ labels
  cases cut : Text.cutLastDot parts.1 <;> cases again : Text.cutLastDot others.1 <;>
    rw [cut, again] at points
  · rfl
  · cases points
  · cases points
  · have tables := @outline_prefixed own other _ _ (Option.some.inj points)
    simp [tables]

theorem outline_columns {list others : List String}
    (same : list.map nameShape = others.map nameShape) :
    (columns own list).outline = (columns other others).outline :=
  outline_commas (map_eq_map_of_map_eq (fun _ _ => outline_column) same)

theorem outline_tableText {text another : String} (same : nameShape text = nameShape another) :
    (tableText own text).outline = (tableText other another).outline := by
  have labels := congrArg NameShape.labelled same
  have points := congrArg (fun shape => shape.qualified.isSome) same
  simp only [nameShape, Option.isSome_map] at labels points
  apply outline_labelled (outline_prefixed points)
  simpa [Name.parse] using labels

theorem outline_operand {o another : Operand} (same : o.blank = another.blank) :
    (operand o).outline = (operand another).outline := by
  cases o with
  | value v =>
    cases another with
    | value w => rfl
    | expression sql => cases same
  | expression sql =>
    cases another with
    | value w => cases same
    | expression sql =>
      cases same
      rfl

theorem outline_operands {list others : List Operand}
    (same : list.map Operand.blank = others.map Operand.blank) :
    (operands list).outline = (operands others).outline :=
  outline_commas (map_eq_map_of_map_eq (fun _ _ => outline_operand) same)

end Fragment

end SqlComposer
