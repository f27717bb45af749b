import SqlComposer.Json.Token

/-!
Reading a record with named fields from a JSON document: an object whose unknown keys are
passed over, or an array of the fields in order. No field may be given twice, an array may leave
out fields at its end, and nothing may follow the document.
-/

namespace SqlComposer.Json

inductive FieldKind where
  | text
  | optionalText
  | flag
  deriving DecidableEq, Repr

inductive FieldValue where
  | text (s : String)
  | flag (b : Bool)
  | absent
  deriving DecidableEq, Repr

structure Field where
  name : String
  kind : FieldKind
  deriving DecidableEq, Repr

def textOf (units : List Unit16) : Option String := (textOfUnits units).map String.ofList

def FieldKind.read : FieldKind → Token → Option FieldValue
  | text, .string units | optionalText, .string units => (textOf units).map .text
  | optionalText, .null => some .absent
  | flag, .bool b => some (.flag b)
  | _, _ => none

/-- What an enclosing bracket or brace waits for after a value. -/
inductive Frame where
  | element
  | member
  deriving DecidableEq, Repr

inductive Expectation where
  | value
  | firstElement
  | firstMember
  | member
  | colon
  | next
  deriving DecidableEq, Repr

def skipValue : Expectation → List Frame → List Token → Option (List Token)
  | .next, [], tokens => some tokens
  | _, _, [] => none
  | .firstElement, _ :: frames, .closeBracket :: tokens => skipValue .next frames tokens
  | .firstMember, _ :: frames, .closeBrace :: tokens => skipValue .next frames tokens
  | .value, frames, token :: tokens
  | .firstElement, frames, token :: tokens =>
    match token with
    | .openBrace => skipValue .firstMember (.member :: frames) tokens
    | .openBracket => skipValue .firstElement (.element :: frames) tokens
    | .string _ | .number | .bool _ | .null => skipValue .next frames tokens
    | _ => none
  | .firstMember, frames, token :: tokens
  | .member, frames, token :: tokens =>
    match token with
    | .string _ => skipValue .colon frames tokens
    | _ => none
  | .colon, frames, token :: tokens =>
    if token = .colon then skipValue .value frames tokens else none
  | .next, frame :: frames, token :: tokens =>
    match frame, token with
    | .element, .comma => skipValue .value (.element :: frames) tokens
    | .element, .closeBracket => skipValue .next frames tokens
    | .member, .comma => skipValue .member (.member :: frames) tokens
    | .member, .closeBrace => skipValue .next frames tokens
    | _, _ => none

theorem length_le_of_skipValue {e : Expectation} {frames : List Frame} {tokens rest : List Token}
    (skipped : skipValue e frames tokens = some rest) : rest.length ≤ tokens.length := by
  fun_induction skipValue e frames tokens <;> grind

/-- The fields found so far with the one of this name added, and the tokens after its value. -/
def readMember (fields : List Field) (found : List (String × FieldValue)) (units : List Unit16)
    (tokens : List Token) : Option (List (String × FieldValue) × List Token) := do
  let name ← textOf units
  match fields.find? (·.name = name) with
  | none =>
    let rest ← skipValue .value [] tokens
    return (found, rest)
  | some field =>
    if found.any (·.1 = name) then none
    else
      match tokens with
      | [] => none
      | token :: rest =>
        let v ← field.kind.read token
        return ((name, v) :: found, rest)

theorem length_le_of_readMember {fields : List Field} {found found' : List (String × FieldValue)}
    {units : List Unit16} {tokens rest : List Token}
    (read : readMember fields found units tokens = some (found', rest)) :
    rest.length ≤ tokens.length := by
  simp only [readMember, Option.bind_eq_bind, Option.bind_eq_some_iff] at read
  obtain ⟨name, _, read⟩ := read
  split at read
  · simp only [Option.bind_eq_some_iff, pure, Option.some.injEq, Prod.mk.injEq] at read
    obtain ⟨tail, skipped, _, rfl⟩ := read
    exact length_le_of_skipValue skipped
  · split at read
    · simp at read
    · split at read
      · simp at read
      · simp only [Option.bind_eq_some_iff, pure, Option.some.injEq, Prod.mk.injEq] at read
        obtain ⟨_, _, _, rfl⟩ := read
        simp

def readMembers (fields : List Field) (found : List (String × FieldValue)) (tokens : List Token) :
    Option (List (String × FieldValue)) :=
  match tokens with
  | .string units :: .colon :: tokens =>
    match h : readMember fields found units tokens with
    | some (found, .comma :: rest) =>
      have := length_le_of_readMember h
      readMembers fields found rest
    | some (found, [.closeBrace]) => some found
    | _ => none
  | _ => none
termination_by tokens.length
decreasing_by
  simp at *
  omega

def readElements : List Field → List Token → Option (List (String × FieldValue))
  | field :: fields, token :: rest => do
    let v ← field.kind.read token
    match rest with
    | [.closeBracket] => return [(field.name, v)]
    | .comma :: rest =>
      let others ← readElements fields rest
      return (field.name, v) :: others
    | _ => none
  | _, _ => none

def readTokens (fields : List Field) : List Token → Option (List (String × FieldValue))
  | [.openBrace, .closeBrace] => some []
  | [.openBracket, .closeBracket] => some []
  | .openBrace :: rest => readMembers fields [] rest
  | .openBracket :: rest => readElements fields rest
  | _ => none

def readFields (fields : List Field) (s : String) : Option (List (String × FieldValue)) :=
  (tokens s.toList).bind (readTokens fields)

end SqlComposer.Json
