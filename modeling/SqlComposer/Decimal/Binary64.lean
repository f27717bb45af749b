/-!
Double-precision numbers as bit patterns, with their exact values. A finite number is
`significand * 2 ^ exponent`, negated when the sign bit is set; `ofRatio` rounds an exact
quotient to the nearest one, halves going to the even significand.
-/

namespace SqlComposer

structure Binary64 where
  bits : UInt64
  deriving DecidableEq, Repr, Inhabited

namespace Binary64

def sign (x : Binary64) : Bool := 1 <<< 63 ≤ x.bits.toNat

def exponentField (x : Binary64) : Nat := (x.bits.toNat >>> 52) % (1 <<< 11)

def fraction (x : Binary64) : Nat := x.bits.toNat % (1 <<< 52)

def isNaN (x : Binary64) : Bool := x.exponentField = 2047 ∧ x.fraction ≠ 0

def isInfinite (x : Binary64) : Bool := x.exponentField = 2047 ∧ x.fraction = 0

def significand (x : Binary64) : Nat :=
  if x.exponentField = 0 then x.fraction else (1 <<< 52) + x.fraction

def exponent (x : Binary64) : Int := (max x.exponentField 1 : Nat) - 1075

def isZero (x : Binary64) : Bool := x.exponentField = 0 ∧ x.fraction = 0

def ofParts (negative : Bool) (magnitude : Nat) : Binary64 :=
  ⟨UInt64.ofNat (magnitude + if negative then 1 <<< 63 else 0)⟩

def nan : Binary64 := ⟨0x7FF8000000000000⟩

def infinity (negative : Bool) : Binary64 := ofParts negative (2047 <<< 52)

def zero (negative : Bool) : Binary64 := ofParts negative 0

def scaled (num den : Nat) (exponent : Int) : Nat × Nat :=
  (num <<< (-exponent).toNat, den <<< exponent.toNat)

/-- The nearest integer to a quotient; a half goes to the even one. -/
def roundHalfEven (num den : Nat) : Nat :=
  let quotient := num / den
  let rest := 2 * (num % den)
  if den < rest ∨ (rest = den ∧ quotient % 2 = 1) then quotient + 1 else quotient

/-- The exponent at which `num / den` has 53 significant bits, or the least exponent there is. -/
def exponentOfRatio (num den : Nat) : Int :=
  let guess : Int := (num.log2 : Int) - den.log2 - 52
  let (n, d) := scaled num den guess
  max (if n / d < 1 <<< 52 then guess - 1 else guess) (-1074)

def ofRatio (negative : Bool) (num den : Nat) : Binary64 :=
  if num = 0 then zero negative
  else
    let exponent := exponentOfRatio num den
    let (n, d) := scaled num den exponent
    let significand := roundHalfEven n d
    -- A significand of `2 ^ 53` carries into the exponent field by itself.
    let magnitude := ((exponent + 1074).toNat <<< 52) + significand
    if 2047 <<< 52 ≤ magnitude then infinity negative else ofParts negative magnitude

def ofInt (n : Int) : Binary64 := ofRatio (n < 0) n.natAbs 1

def ofSingle (bits : UInt32) : Binary64 :=
  let negative := decide (1 <<< 31 ≤ bits.toNat)
  let field := (bits.toNat >>> 23) % (1 <<< 8)
  let fraction := bits.toNat % (1 <<< 23)
  if field = 255 then if fraction = 0 then infinity negative else nan
  else
    let significand := if field = 0 then fraction else (1 <<< 23) + fraction
    let (num, den) := scaled significand 1 (150 - (max field 1 : Nat))
    ofRatio negative num den

def ratio (x : Binary64) : Nat × Nat := scaled x.significand 1 (-x.exponent)

def toInt? (x : Binary64) : Option Int :=
  if x.exponentField = 2047 then none
  else
    let (num, den) := x.ratio
    if num % den = 0 then some (if x.sign then -(num / den : Nat) else (num / den : Nat)) else none

/-- Equality as numbers: a NaN differs from itself and the two zeros are equal. -/
def equal (x y : Binary64) : Bool :=
  !x.isNaN && !y.isNaN && (x == y || (x.isZero && y.isZero))

end Binary64

end SqlComposer
