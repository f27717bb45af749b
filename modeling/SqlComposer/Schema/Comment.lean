import SqlComposer.Schema.Column

/-!
Column comments that carry a type. Where the native type does not tell the column type, the
stored comment begins with a hint, `T:type|`, and the user's comment follows.
-/

namespace SqlComposer

def encodeComment (c : Column) (hinted : Bool) : Option String :=
  if hinted then some ("T:" ++ c.type.name ++ "|" ++ c.comment.getD "") else c.comment

def hintedParts : List Char → Option (List Char × List Char)
  | 'T' :: ':' :: rest =>
    match rest.dropWhile (· ≠ '|') with
    | _ :: comment => some (rest.takeWhile (· ≠ '|'), comment)
    | [] => none
  | _ => none

def nonempty (s : String) : Option String := if s = "" then none else some s

/-- A hint that names no type is dropped, and so is an empty comment. -/
def decodeComment (stored : Option String) : Option ColumnType × Option String :=
  match stored.bind nonempty with
  | none => (none, none)
  | some text =>
    match hintedParts text.toList with
    | some (hint, comment) =>
      ((ColumnType.parse (String.ofList hint)).toOption, nonempty (String.ofList comment))
    | none => (none, some text)

end SqlComposer
