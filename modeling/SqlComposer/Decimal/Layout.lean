import SqlComposer.Decimal.Shortest

/-!
How a double is written: which exponents are written out positionally, whether a whole number
keeps its point, and how an exponent looks. Each output of the library has one layout.
-/

namespace SqlComposer.Decimal

structure Layout where
  /-- The least exponent of a leading digit that is written out. -/
  least : Option Int
  /-- The least exponent of a leading digit that is not. -/
  bound : Option Int
  keepsPoint : Bool
  exponentPlus : Bool
  tie : Tie

/-- Never an exponent, and no point in a whole number. -/
def plain : Layout := ⟨none, none, false, false, .up⟩

/-- Positional from `1e-4` up to `1e16`, always with a point. -/
def diagnostic : Layout := ⟨some (-4), some 16, true, false, .up⟩

/-- Positional from `1e-5` up to `1e16`, always with a point. -/
def json : Layout := ⟨some (-5), some 16, true, true, .toEven⟩

def zeros (n : Nat) : List Char := List.replicate n '0'

def positional (layout : Layout) (d : Decimal) : List Char :=
  let digits := Nat.toDigits 10 d.digits
  if 0 ≤ d.exponent then
    digits ++ zeros d.exponent.toNat ++ if layout.keepsPoint then ['.', '0'] else []
  else
    let places := (-d.exponent).toNat
    if digits.length ≤ places then
      ['0', '.'] ++ zeros (places - digits.length) ++ digits
    else
      let whole := digits.length - places
      digits.take whole ++ '.' :: digits.drop whole

def scientific (layout : Layout) (d : Decimal) : List Char :=
  let digits := Nat.toDigits 10 d.digits
  let exponent := d.exponent + (digits.length - 1 : Nat)
  let mantissa :=
    match digits with
    | first :: second :: rest => first :: '.' :: second :: rest
    | short => short
  mantissa ++ 'e' :: (if exponent < 0 then ['-'] else if layout.exponentPlus then ['+'] else []) ++
    Nat.toDigits 10 exponent.natAbs

def Layout.isPositional (layout : Layout) (d : Decimal) : Bool :=
  let leading := d.exponent + ((Nat.toDigits 10 d.digits).length - 1 : Nat)
  layout.least.all (· ≤ leading) && layout.bound.all (leading < ·)

def Layout.magnitude (layout : Layout) (x : Binary64) : List Char :=
  if x.isZero then if layout.keepsPoint then ['0', '.', '0'] else ['0']
  else
    let d := shortest layout.tie x
    if layout.isPositional d then positional layout d else scientific layout d

def Layout.write (layout : Layout) (x : Binary64) : String :=
  if x.isNaN then "NaN"
  else
    let text := if x.isInfinite then ['i', 'n', 'f'] else layout.magnitude x
    String.ofList (if x.sign then '-' :: text else text)

end SqlComposer.Decimal
