import SqlComposer.Text.Printable

/-!
Two quoted renderings of text. The diagnostic form escapes whatever does not show as itself;
the JSON form escapes only what its grammar requires.
-/

namespace SqlComposer.Text

def hexDigits (n : Nat) : List Char := Nat.toDigits 16 n

def hexPair (digits : List Char) : List Char :=
  match digits with
  | [d] => ['0', d]
  | ds => ds

def diagnosticChar (c : Char) : List Char :=
  match c with
  | '"' => ['\\', '"']
  | '\\' => ['\\', '\\']
  | '\n' => ['\\', 'n']
  | '\r' => ['\\', 'r']
  | '\t' => ['\\', 't']
  | '\x00' => ['\\', '0']
  | c => if isPrintable c then [c] else ['\\', 'u', '\x7b'] ++ hexDigits c.toNat ++ ['\x7d']

def diagnostic (s : String) : String :=
  String.ofList ('"' :: s.toList.flatMap diagnosticChar ++ ['"'])

def jsonChar (c : Char) : List Char :=
  match c with
  | '"' => ['\\', '"']
  | '\\' => ['\\', '\\']
  | '\n' => ['\\', 'n']
  | '\r' => ['\\', 'r']
  | '\t' => ['\\', 't']
  | '\x08' => ['\\', 'b']
  | '\x0c' => ['\\', 'f']
  | c => if c.toNat < 0x20 then ['\\', 'u', '0', '0'] ++ hexPair (hexDigits c.toNat) else [c]

def json (s : String) : String := String.ofList ('"' :: s.toList.flatMap jsonChar ++ ['"'])

end SqlComposer.Text
