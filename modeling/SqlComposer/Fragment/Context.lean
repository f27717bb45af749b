import SqlComposer.Dialect
import SqlComposer.Fragment.Basic
import SqlComposer.Text.Quoted

/-!
Writing fragments as SQL text. A context carries the number of the next slot and the values
bound so far from one fragment to the next.
-/

namespace SqlComposer

def quoteIdentifier (quote : Char) (name : String) : String :=
  if name = "*" then "*" else Text.enclosed quote name

structure Style where
  quote : Char
  placeholder : Placeholder
  deriving DecidableEq, Repr

def Dialect.style (d : Dialect) : Style := ⟨d.quote, d.placeholder⟩

def Dialect.quoteIdentifier (d : Dialect) (name : String) : String :=
  SqlComposer.quoteIdentifier d.quote name

namespace Piece

/-- The text of pieces whose first slot has the number `next`. -/
def render (style : Style) (next : Nat) : List Piece → String
  | [] => ""
  | text s :: rest => s ++ render style next rest
  | ident name :: rest => quoteIdentifier style.quote name ++ render style next rest
  | slot :: rest => style.placeholder.mark next ++ render style (next + 1) rest

def slots (pieces : List Piece) : Nat := pieces.count slot

theorem render_append (style : Style) (next : Nat) (a b : List Piece) :
    render style next (a ++ b) = render style next a ++ render style (next + slots a) b := by
  induction a generalizing next with
  | nil => simp [render, slots]
  | cons piece a ih =>
    cases piece <;>
      simp [render, ih, slots, String.append_assoc, Nat.add_assoc, Nat.add_comm 1]

end Piece

structure Context where
  placeholder : Placeholder
  tablePrefix : String
  next : Nat := 1
  bindings : List Value := []
  deriving DecidableEq, Repr

namespace Context

def emit (c : Context) (quote : Char) (f : Fragment) : String × Context :=
  (Piece.render ⟨quote, c.placeholder⟩ c.next f.pieces,
    { c with next := c.next + Piece.slots f.pieces, bindings := c.bindings ++ f.bindings })

end Context

structure Statement where
  sql : String
  bindings : List Value := []
  deriving DecidableEq, Repr, Inhabited

def Fragment.statement (style : Style) (f : Fragment) : Statement :=
  ⟨Piece.render style 1 f.pieces, f.bindings⟩

end SqlComposer
