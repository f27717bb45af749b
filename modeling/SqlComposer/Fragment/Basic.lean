import SqlComposer.Query.Clauses
import SqlComposer.Text.Blank

/-!
Compiled SQL before a dialect's quoting and numbering: text, identifiers yet to be quoted and
slots yet to be marked, with the values that the slots bind, in order. Fragments are put
together by concatenation, so the values stand in the order of their places in the text.
-/

namespace SqlComposer

inductive Piece where
  | text (s : String)
  | ident (name : String)
  | slot
  deriving DecidableEq, Repr

structure Fragment where
  pieces : List Piece := []
  bindings : List Value := []
  deriving DecidableEq, Repr, Inhabited

namespace Fragment

def ofText (s : String) : Fragment := ⟨[.text s], []⟩

instance : Coe String Fragment := ⟨ofText⟩

def ident (name : String) : Fragment := ⟨[.ident name], []⟩

def bind (v : Value) : Fragment := ⟨[.slot], [v]⟩

def cat (fragments : List Fragment) : Fragment :=
  ⟨fragments.flatMap (·.pieces), fragments.flatMap (·.bindings)⟩

def separated (separator : String) (fragments : List Fragment) : Fragment :=
  cat (fragments.intersperse (ofText separator))

def commas (fragments : List Fragment) : Fragment := separated ", " fragments

def operand : Operand → Fragment
  | .value v => bind v
  | .expression sql => sql

def operands (list : List Operand) : Fragment := commas (list.map operand)

def pushChar (c : Char) : List Piece → List Piece
  | .text s :: rest => .text (c.toString ++ s) :: rest
  | pieces => .text c.toString :: pieces

/-- The pieces of raw SQL: a question mark outside single quotes is a slot. -/
def rawPieces (quoted : Bool) : List Char → List Piece
  | [] => []
  | c :: cs =>
    if c = '?' ∧ quoted = false then .slot :: rawPieces quoted cs
    else pushChar c (rawPieces (quoted != (c == '\'')) cs)

def raw (r : RawSql) : Fragment := ⟨rawPieces false r.sql.toList, r.bindings⟩

def isBlank (f : Fragment) : Bool := f.pieces.all (· == .text "")

def trimEndPieces : List Piece → List Piece
  | [] => []
  | piece :: rest =>
    match trimEndPieces rest with
    | [] =>
      match piece with
      | .text s => if Text.trimEnd s = "" then [] else [.text (Text.trimEnd s)]
      | other => [other]
    | kept => piece :: kept

/-- The segments that have any text, with single spaces between and no blanks at the end. -/
def joined (segments : List Fragment) : Fragment :=
  ⟨trimEndPieces (separated " " (segments.filter (!·.isBlank))).pieces,
    segments.flatMap (·.bindings)⟩

def mapValues (f : Value → Value) (fragment : Fragment) : Fragment :=
  ⟨fragment.pieces, fragment.bindings.map f⟩

@[simp] theorem pieces_ofText (s : String) : (ofText s).pieces = [.text s] := rfl

@[simp] theorem bindings_ofText (s : String) : (ofText s).bindings = [] := rfl

@[simp] theorem bindings_ident (name : String) : (ident name).bindings = [] := rfl

@[simp] theorem bindings_cat (fragments : List Fragment) :
    (cat fragments).bindings = fragments.flatMap (·.bindings) := rfl

@[simp] theorem pieces_cat (fragments : List Fragment) :
    (cat fragments).pieces = fragments.flatMap (·.pieces) := rfl

@[simp] theorem bindings_raw (r : RawSql) : (raw r).bindings = r.bindings := rfl

@[simp] theorem bindings_operand (o : Operand) : (operand o).bindings = o.bindings := by
  cases o <;> rfl

@[simp] theorem bindings_joined (segments : List Fragment) :
    (joined segments).bindings = segments.flatMap (·.bindings) := rfl

@[simp] theorem bindings_separated (separator : String) (fragments : List Fragment) :
    (separated separator fragments).bindings = fragments.flatMap (·.bindings) := by
  induction fragments with
  | nil => rfl
  | cons f rest ih =>
    cases rest with
    | nil => rfl
    | cons g rest => simpa [separated] using ih

end Fragment

end SqlComposer
