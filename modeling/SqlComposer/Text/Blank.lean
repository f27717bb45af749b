import SqlComposer.Text.Split

/-!
Blank characters and trimming. The class is the `White_Space` property of the character
database, so the no-break space and the ideographic space are blank and U+200B is not.
-/

namespace SqlComposer.Text

def isBlank (c : Char) : Bool :=
  (9 ≤ c.toNat && c.toNat ≤ 13) || c.toNat == 0x20 || c.toNat == 0x85 || c.toNat == 0xA0 ||
  c.toNat == 0x1680 || (0x2000 ≤ c.toNat && c.toNat ≤ 0x200A) || c.toNat == 0x2028 ||
  c.toNat == 0x2029 || c.toNat == 0x202F || c.toNat == 0x205F || c.toNat == 0x3000

def dropBlanks (cs : List Char) : List Char := cs.dropWhile isBlank

def dropEndBlanks (cs : List Char) : List Char := (cs.reverse.dropWhile isBlank).reverse

def trim (s : String) : String := String.ofList (dropEndBlanks (dropBlanks s.toList))

def trimEnd (s : String) : String := String.ofList (dropEndBlanks s.toList)

def words (cs : List Char) : List (List Char) := (splitWhere isBlank cs).filter (· ≠ [])

theorem toList_trim (s : String) : (trim s).toList = dropEndBlanks (dropBlanks s.toList) := by
  simp [trim]

theorem toList_trimEnd (s : String) : (trimEnd s).toList = dropEndBlanks s.toList := by
  simp [trimEnd]

end SqlComposer.Text
