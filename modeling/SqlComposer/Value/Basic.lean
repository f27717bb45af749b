import SqlComposer.Decimal.Layout
import SqlComposer.Text.Escaped
import SqlComposer.Text.Quoted

/-!
Values that a statement binds, and the texts a value has: as an SQL literal, in diagnostics and
in JSON.
-/

namespace SqlComposer

inductive Value where
  | null
  | bool (b : Bool)
  | int (n : Int64)
  | float (x : Binary64)
  | text (s : String)
  | blob (bytes : List UInt8)
  deriving DecidableEq, Repr, Inhabited

/-- The right-hand side of a comparison or an assignment: a value to bind, or SQL to inline. -/
inductive Operand where
  | value (v : Value)
  | expression (sql : String)
  deriving DecidableEq, Repr, Inhabited

namespace Value

def isNull : Value → Bool
  | null => true
  | _ => false

def text? : Value → Option String
  | text s => some s
  | _ => none

def hexByte (byte : UInt8) : List Char := Text.hexPair (Text.hexDigits byte.toNat)

def hex (bytes : List UInt8) : String := String.ofList (bytes.flatMap hexByte)

def inline : Value → String
  | null => "NULL"
  | bool true => "TRUE"
  | bool false => "FALSE"
  | int n => toString n.toInt
  | float x => Decimal.plain.write x
  | text s => Text.literal s
  | blob bytes => "X'" ++ (hex bytes).toUpper ++ "'"

def bracketed (space : String) (items : List String) : String :=
  "[" ++ ("," ++ space).intercalate items ++ "]"

def byteTexts (bytes : List UInt8) : List String := bytes.map fun byte => toString byte.toNat

def diagnostic : Value → String
  | null => "Null"
  | bool b => "Bool(" ++ toString b ++ ")"
  | int n => "Int(" ++ toString n.toInt ++ ")"
  | float x => "Float(" ++ Decimal.diagnostic.write x ++ ")"
  | text s => "Text(" ++ Text.diagnostic s ++ ")"
  | blob bytes => "Blob(" ++ bracketed " " (byteTexts bytes) ++ ")"

def json : Value → String
  | null => "null"
  | bool b => toString b
  | int n => toString n.toInt
  | float x => if x.exponentField = 2047 then "null" else Decimal.json.write x
  | text s => Text.json s
  | blob bytes => bracketed "" (byteTexts bytes)

/-- Equality as values: floats are compared as numbers. -/
def agrees : Value → Value → Bool
  | float x, float y => x.equal y
  | v, w => v == w

end Value

namespace Operand

def value? : Operand → Option Value
  | value v => some v
  | expression _ => none

def text? (o : Operand) : Option String := o.value?.bind Value.text?

def bindings : Operand → List Value
  | value v => [v]
  | expression _ => []

def mapValue (f : Value → Value) : Operand → Operand
  | value v => value (f v)
  | expression sql => expression sql

def diagnostic : Operand → String
  | value v => "Value(" ++ v.diagnostic ++ ")"
  | expression sql => "Expression(Expression(" ++ Text.diagnostic sql ++ "))"

def agrees : Operand → Operand → Bool
  | value v, value w => v.agrees w
  | o, p => o == p

end Operand

end SqlComposer
