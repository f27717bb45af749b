/-!
Reading integers in ASCII decimal digits, with no blanks, separators or leading point.
-/

namespace SqlComposer.Text

def digitValue (c : Char) : Nat := c.toNat - '0'.toNat

def natOfDigits (cs : List Char) : Nat := cs.foldl (fun n c => 10 * n + digitValue c) 0

def readNat (cs : List Char) : Option Nat :=
  if cs ≠ [] ∧ cs.all Char.isDigit then some (natOfDigits cs) else none

def readUnsigned : List Char → Option Nat
  | '+' :: cs => readNat cs
  | cs => readNat cs

def readSigned : List Char → Option Int
  | '-' :: cs => (readNat cs).map fun n => -(n : Int)
  | cs => (readUnsigned cs).map Int.ofNat

def readInt64 (cs : List Char) : Option Int64 :=
  (readSigned cs).bind fun n =>
    if Int64.minValue.toInt ≤ n ∧ n ≤ Int64.maxValue.toInt then some (Int64.ofInt n) else none

def readUInt64 (cs : List Char) : Option UInt64 :=
  (readUnsigned cs).bind fun n => if n < UInt64.size then some (UInt64.ofNat n) else none

def readUInt32 (cs : List Char) : Option UInt32 :=
  (readUnsigned cs).bind fun n => if n < UInt32.size then some (UInt32.ofNat n) else none

end SqlComposer.Text
