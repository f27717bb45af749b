import SqlComposer.Decimal.Binary64

/-!
The shortest decimal that reads back as a given double. Decimals with more and more digits are
tried; the first grid that has a point in the rounding interval of the number gives the digits,
and of two such points the nearer. The caller says where an exact tie goes.
-/

namespace SqlComposer

/-- `digits * 10 ^ exponent`. -/
structure Decimal where
  digits : Nat
  exponent : Int
  deriving DecidableEq, Repr

inductive Tie where
  | up
  | toEven
  deriving DecidableEq, Repr

namespace Decimal

/-- Twice the significand and its two interval ends, in units of a quarter of the last place.
Below a power of two the neighbour is only half as far. -/
structure Interval where
  low : Nat
  middle : Nat
  high : Nat
  exponent : Int
  closed : Bool

def intervalOf (x : Binary64) : Interval :=
  let m := x.significand
  let narrow := x.fraction = 0 ∧ 1 < x.exponentField
  { low := 4 * m - if narrow then 1 else 2
    middle := 4 * m
    high := 4 * m + 2
    exponent := x.exponent - 2
    closed := m % 2 = 0 }

def gridRatio (units : Nat) (e2 e10 : Int) : Nat × Nat :=
  ((units <<< e2.toNat) * Nat.pow 10 (-e10).toNat, (1 <<< (-e2).toNat) * Nat.pow 10 e10.toNat)

def Interval.holds (i : Interval) (e10 : Int) (n : Nat) : Bool :=
  let (low, den) := gridRatio i.low i.exponent e10
  let (high, _) := gridRatio i.high i.exponent e10
  if i.closed then low ≤ n * den && n * den ≤ high else low < n * den && n * den < high

def Interval.pick (i : Interval) (tie : Tie) (e10 : Int) : Option Nat :=
  let (num, den) := gridRatio i.middle i.exponent e10
  let below := num / den
  let rest := 2 * (num % den)
  let upper := den < rest || (rest == den && (tie == .up || below % 2 == 1))
  let first := if upper then below + 1 else below
  let second := if upper then below else below + 1
  if i.holds e10 first then some first else if i.holds e10 second then some second else none

/-- The decimal exponent of the leading digit of a positive fraction, or one more. -/
def leadingExponent (x : Binary64) : Int :=
  let (num, den) := x.ratio
  if den ≤ num then (Nat.toDigits 10 (num / den)).length
  else 1 - ((Nat.toDigits 10 (den / num)).length : Int)

/-- The coarsest of the next `tries` grids with a point in the interval. -/
def search (i : Interval) (tie : Tie) (e10 : Int) : Nat → Option Decimal
  | 0 => none
  | tries + 1 =>
    match i.pick tie e10 with
    | some n => if n = 0 then search i tie (e10 - 1) tries else some ⟨n, e10⟩
    | none => search i tie (e10 - 1) tries

def stripZeros (d : Decimal) : Nat → Decimal
  | 0 => d
  | n + 1 => if d.digits ≠ 0 ∧ d.digits % 10 = 0 then stripZeros ⟨d.digits / 10, d.exponent + 1⟩ n
    else d

/-- The digits of a finite double other than zero. Seventeen always suffice. -/
def shortest (tie : Tie) (x : Binary64) : Decimal :=
  match search (intervalOf x) tie (leadingExponent x) 20 with
  | some d => stripZeros d 20
  | none => ⟨0, 0⟩

end Decimal

end SqlComposer
