import SqlComposer.Text.Number

/-!
The tokens of a JSON document. A string keeps the halves of surrogate pairs that its escapes
name; whether they pair up matters only where the text is used.
-/

namespace SqlComposer.Json

inductive Unit16 where
  | char (c : Char)
  | half (code : Nat)
  deriving DecidableEq, Repr

inductive Token where
  | openBrace
  | closeBrace
  | openBracket
  | closeBracket
  | colon
  | comma
  | string (units : List Unit16)
  | number
  | bool (b : Bool)
  | null
  deriving DecidableEq, Repr

def isHexDigit (c : Char) : Bool :=
  c.isDigit || ('a' ≤ c && c ≤ 'f') || ('A' ≤ c && c ≤ 'F')

def hexValue (c : Char) : Nat :=
  if c.isDigit then Text.digitValue c else c.toLower.toNat - 'a'.toNat + 10

def codeUnit (cs : List Char) : Option Nat :=
  if cs.all isHexDigit then some (cs.foldl (fun n c => 16 * n + hexValue c) 0) else none

def unitOfCode (code : Nat) : Unit16 :=
  if 0xD800 ≤ code ∧ code < 0xE000 then .half code else .char (Char.ofNat code)

def escapedChar : Char → Option Char
  | '"' => some '"'
  | '\\' => some '\\'
  | '/' => some '/'
  | 'b' => some '\x08'
  | 'f' => some '\x0c'
  | 'n' => some '\n'
  | 'r' => some '\r'
  | 't' => some '\t'
  | _ => none

def scanString : List Char → Option (List Unit16 × List Char)
  | [] => none
  | '"' :: cs => some ([], cs)
  | '\\' :: 'u' :: a :: b :: c :: d :: cs => do
    let code ← codeUnit [a, b, c, d]
    let (units, rest) ← scanString cs
    return (unitOfCode code :: units, rest)
  | '\\' :: e :: cs => do
    let c ← escapedChar e
    let (units, rest) ← scanString cs
    return (.char c :: units, rest)
  | c :: cs =>
    if c.toNat < 0x20 ∨ c = '\\' then none
    else (scanString cs).map fun (units, rest) => (.char c :: units, rest)

/-- The text of a string, if its surrogate halves pair up. -/
def textOfUnits : List Unit16 → Option (List Char)
  | [] => some []
  | .char c :: rest => (textOfUnits rest).map (c :: ·)
  | .half high :: .half low :: rest =>
    if high < 0xDC00 ∧ 0xDC00 ≤ low then
      (textOfUnits rest).map
        (Char.ofNat (0x10000 + (high - 0xD800) * 0x400 + (low - 0xDC00)) :: ·)
    else none
  | _ => none

def isWholePart : List Char → Bool
  | ['0'] => true
  | c :: cs => c.isDigit && c != '0' && cs.all Char.isDigit
  | [] => false

def isDigits (cs : List Char) : Bool := !cs.isEmpty && cs.all Char.isDigit

def isExponentPart : List Char → Bool
  | [] => true
  | e :: '+' :: cs => (e == 'e' || e == 'E') && isDigits cs
  | e :: '-' :: cs => (e == 'e' || e == 'E') && isDigits cs
  | e :: cs => (e == 'e' || e == 'E') && isDigits cs

def isUnsignedNumber (cs : List Char) : Bool :=
  let (whole, rest) := cs.span Char.isDigit
  isWholePart whole &&
    match rest with
    | '.' :: rest =>
      let (places, rest) := rest.span Char.isDigit
      !places.isEmpty && isExponentPart rest
    | rest => isExponentPart rest

def isNumber : List Char → Bool
  | '-' :: cs => isUnsignedNumber cs
  | cs => isUnsignedNumber cs

def isNumberChar (c : Char) : Bool :=
  c.isDigit || c == '-' || c == '+' || c == '.' || c == 'e' || c == 'E'

def isSpace (c : Char) : Bool := c == ' ' || c == '\t' || c == '\n' || c == '\r'

def punctuation : Char → Option Token
  | '\x7b' => some .openBrace
  | '\x7d' => some .closeBrace
  | '[' => some .openBracket
  | ']' => some .closeBracket
  | ':' => some .colon
  | ',' => some .comma
  | _ => none

def keyword (cs : List Char) : Option Token :=
  match String.ofList cs with
  | "true" => some (.bool true)
  | "false" => some (.bool false)
  | "null" => some .null
  | _ => none

theorem length_lt_of_scanString {cs rest : List Char} {units : List Unit16}
    (scanned : scanString cs = some (units, rest)) : rest.length < cs.length := by
  fun_induction scanString cs generalizing units with
  | case1 => simp at scanned
  | case2 => simp_all
  | case3 _ _ _ _ _ ih =>
    simp only [Option.bind_eq_bind, Option.bind_eq_some_iff] at scanned
    obtain ⟨_, _, ⟨_, tail⟩, found, same⟩ := scanned
    simp only [pure, Option.some.injEq, Prod.mk.injEq] at same
    have := ih (same.2 ▸ found)
    simp only [List.length_cons]
    omega
  | case4 _ _ _ ih =>
    simp only [Option.bind_eq_bind, Option.bind_eq_some_iff] at scanned
    obtain ⟨_, _, ⟨_, tail⟩, found, same⟩ := scanned
    simp only [pure, Option.some.injEq, Prod.mk.injEq] at same
    have := ih (same.2 ▸ found)
    simp only [List.length_cons]
    omega
  | case5 => simp at scanned
  | case6 _ _ _ _ _ _ ih =>
    obtain ⟨⟨_, tail⟩, found, same⟩ := Option.map_eq_some_iff.mp scanned
    simp only [Prod.mk.injEq] at same
    have := ih (same.2 ▸ found)
    simp only [List.length_cons]
    omega

def tokens (cs : List Char) : Option (List Token) :=
  match cs with
  | [] => some []
  | c :: cs =>
    if isSpace c then tokens cs
    else if c = '"' then
      match h : scanString cs with
      | some (units, rest) =>
        have := length_lt_of_scanString h
        (tokens rest).map (.string units :: ·)
      | none => none
    else if isNumberChar c ∧ !c.isAlpha then
      have := (List.dropWhile_sublist (l := cs) isNumberChar).length_le
      if isNumber (c :: cs.takeWhile isNumberChar) then
        (tokens (cs.dropWhile isNumberChar)).map (.number :: ·)
      else none
    else if c.isAlpha then
      have := (List.dropWhile_sublist (l := cs) Char.isAlpha).length_le
      match keyword (c :: cs.takeWhile Char.isAlpha) with
      | some token => (tokens (cs.dropWhile Char.isAlpha)).map (token :: ·)
      | none => none
    else
      match punctuation c with
      | some token => (tokens cs).map (token :: ·)
      | none => none
termination_by cs.length

end SqlComposer.Json
