import SqlComposer.Decimal.Reading
import SqlComposer.Text.Blank
import SqlComposer.Value.Basic

/-!
Reading a value as a particular kind of datum. A value that does not fit reads as `none`;
numbers in text may have blanks around them.
-/

namespace SqlComposer.Value

def trimmed (s : String) : List Char := Text.dropEndBlanks (Text.dropBlanks s.toList)

def saturate (n : Int) : Int64 :=
  Int64.ofInt (max Int64.minValue.toInt (min n Int64.maxValue.toInt))

def int64? : Value → Option Int64
  | int n => some n
  | bool b => some (if b then 1 else 0)
  | float x => x.toInt?.map saturate
  | text s => Text.readInt64 (trimmed s)
  | _ => none

def uint64? : Value → Option UInt64
  | text s => Text.readUInt64 (trimmed s)
  | v => v.int64?.bind fun n => if 0 ≤ n.toInt then some (UInt64.ofNat n.toInt.toNat) else none

def float? : Value → Option Binary64
  | float x => some x
  | int n => some (Binary64.ofInt n.toInt)
  | text s => Decimal.read (trimmed s)
  | _ => none

def bool? : Value → Option Bool
  | bool b => some b
  | int n => some (n != 0)
  | text s =>
    if s ∈ ["1", "t", "true", "TRUE"] then some true
    else if s ∈ ["0", "f", "false", "FALSE"] then some false
    else none
  | _ => none

def string? : Value → Option String
  | text s => some s
  | int n => some (toString n.toInt)
  | float x => some (Decimal.plain.write x)
  | bool b => some (toString b)
  | blob bytes => String.fromUTF8? ⟨bytes.toArray⟩
  | null => none

def bytes? : Value → Option (List UInt8)
  | blob bytes => some bytes
  | text s => some s.toUTF8.toList
  | _ => none

/-- NULL reads as the absence of a datum. -/
def orNull {α : Type} (read : Value → Option α) (v : Value) : Option (Option α) :=
  if v.isNull then some none else (read v).map some

/-- Unsigned numbers beyond the signed range are kept as text. -/
def ofUInt64 (n : UInt64) : Value :=
  if n.toNat < 1 <<< 63 then int (Int64.ofNat n.toNat) else text (toString n.toNat)

def ofOption : Option Value → Value
  | some v => v
  | none => null

end SqlComposer.Value
