import SqlComposer.Decimal.Binary64
import SqlComposer.Text.Number

/-!
Reading a double from text: an optional sign, digits with at most one point among or beside
them, an optional exponent; or an infinity or NaN by name in any case of its letters. The
result is the nearest double to the exact decimal value.
-/

namespace SqlComposer.Decimal

structure Mantissa where
  digits : List Char
  places : Nat

def takeDigits (cs : List Char) : List Char × List Char := cs.span Char.isDigit

def readMantissa (cs : List Char) : Option (Mantissa × List Char) :=
  let (whole, rest) := takeDigits cs
  let (places, rest) :=
    match rest with
    | '.' :: rest => takeDigits rest
    | rest => ([], rest)
  if whole ++ places = [] then none else some (⟨whole ++ places, places.length⟩, rest)

def readExponent : List Char → Option Int
  | [] => some 0
  | e :: cs => if e = 'e' ∨ e = 'E' then Text.readSigned cs else none

def pointNumber (negative : Bool) (m : Mantissa) (exponent : Int) : Binary64 :=
  let digits := m.digits.dropWhile (· = '0')
  let value := Text.natOfDigits digits
  let shift := exponent - m.places
  -- Outside this range the result is decided by the position of the leading digit.
  let leading := shift + digits.length
  if value = 0 ∨ leading < -400 then Binary64.zero negative
  else if 400 < leading then Binary64.infinity negative
  else Binary64.ofRatio negative (value * Nat.pow 10 shift.toNat) (Nat.pow 10 (-shift).toNat)

def named (negative : Bool) (cs : List Char) : Option Binary64 :=
  match String.ofList (cs.map Char.toLower) with
  | "inf" => some (Binary64.infinity negative)
  | "infinity" => some (Binary64.infinity negative)
  | "nan" => some Binary64.nan
  | _ => none

def readMagnitude (negative : Bool) (cs : List Char) : Option Binary64 :=
  match readMantissa cs with
  | some (m, rest) => (readExponent rest).map (pointNumber negative m)
  | none => named negative cs

def read : List Char → Option Binary64
  | '+' :: cs => readMagnitude false cs
  | '-' :: cs => readMagnitude true cs
  | cs => readMagnitude false cs

end SqlComposer.Decimal
