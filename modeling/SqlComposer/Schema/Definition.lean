import SqlComposer.Dialect
import SqlComposer.Schema.Table
import SqlComposer.Text.Blank
import SqlComposer.Text.Quoted
import SqlComposer.Text.Word

/-!
What only the text that made a table tells of it: the options a column is held to by a check,
and which column numbers the rows. Both are looked for anywhere in the text.
-/

namespace SqlComposer.Definition

open Text

/-- The same letter in either case. The sign for kelvin is a capital of its letter. -/
def sameLetter (letter c : Char) : Bool := c.toLower = letter || (letter = 'k' && c = '\u212A')

def afterWord : List Char → List Char → Option (List Char)
  | [], cs => some cs
  | letter :: letters, c :: cs => if sameLetter letter c then afterWord letters cs else none
  | _ :: _, [] => none

def afterMark (mark : Char) : List Char → Option (List Char)
  | [] => none
  | c :: cs => if c = mark then some cs else none

def afterBlanks : List Char → Option (List Char)
  | [] => none
  | c :: cs => if isBlank c then some (dropBlanks cs) else none

def pastAny (marks : List Char) : List Char → List Char
  | [] => []
  | c :: cs => if c ∈ marks then cs else c :: cs

def readName (cs : List Char) : Option (List Char × List Char) :=
  let cs := pastAny ['`', '"', '['] cs
  match cs.takeWhile isWord with
  | [] => none
  | name => some (name, pastAny ['`', '"', ']'] (cs.dropWhile isWord))

/-- Literals up to a closing parenthesis, and what follows it. A literal may be followed by one
comma, and blanks may stand anywhere between. -/
def readLiterals (inside comma : Bool) : List Char → Option (List Char × List Char)
  | [] => none
  | c :: cs =>
    if inside then
      (readLiterals (c ≠ '\'') true cs).map fun (text, rest) => (c :: text, rest)
    else if c = ')' then some ([], cs)
    else if c = '\'' then
      (readLiterals true false cs).map fun (text, rest) => (c :: text, rest)
    else if c = ',' ∧ comma then
      (readLiterals false false cs).map fun (text, rest) => (c :: text, rest)
    else if isBlank c then
      (readLiterals false comma cs).map fun (text, rest) => (c :: text, rest)
    else none

/-! ## Checks -/

structure Check where
  column : String
  options : List String
  deriving DecidableEq, Repr

def readCheck (cs : List Char) : Option (Check × List Char) := do
  let cs ← afterWord "check".toList cs
  let cs ← afterMark '(' (dropBlanks cs)
  let (name, cs) ← readName (dropBlanks cs)
  let cs ← afterBlanks cs
  let cs ← afterWord "in".toList cs
  let cs ← afterMark '(' (dropBlanks cs)
  let (list, cs) ← readLiterals false false cs
  let cs ← afterMark ')' (dropBlanks cs)
  return (⟨String.ofList name, (literals list).map String.ofList⟩, cs)

theorem length_dropBlanks_le (cs : List Char) : (dropBlanks cs).length ≤ cs.length :=
  (List.dropWhile_suffix _).length_le

theorem length_of_afterWord {letters cs rest : List Char}
    (read : afterWord letters cs = some rest) :
    cs.length = letters.length + rest.length := by
  fun_induction afterWord letters cs with
  | case1 cs => simp_all
  | case2 letter letters c cs _ ih =>
    have := ih read
    simp
    omega
  | case3 => simp at read
  | case4 => simp at read

theorem length_lt_of_afterMark {mark : Char} {cs rest : List Char}
    (read : afterMark mark cs = some rest) : rest.length < cs.length := by
  cases cs with
  | nil => simp [afterMark] at read
  | cons c cs =>
    simp only [afterMark, Option.ite_none_right_eq_some, Option.some.injEq] at read
    simp [read.2]

theorem length_lt_of_afterBlanks {cs rest : List Char} (read : afterBlanks cs = some rest) :
    rest.length < cs.length := by
  cases cs with
  | nil => simp [afterBlanks] at read
  | cons c cs =>
    simp only [afterBlanks, Option.ite_none_right_eq_some, Option.some.injEq] at read
    have := length_dropBlanks_le cs
    simp [← read.2]
    omega

theorem length_pastAny_le (marks cs : List Char) : (pastAny marks cs).length ≤ cs.length := by
  cases cs with
  | nil => simp [pastAny]
  | cons c cs => simp only [pastAny]; split <;> simp

theorem length_le_of_readName {cs name rest : List Char} (read : readName cs = some (name, rest)) :
    rest.length ≤ cs.length := by
  simp only [readName] at read
  split at read
  · simp at read
  · simp only [Option.some.injEq, Prod.mk.injEq] at read
    have opened := length_pastAny_le ['`', '"', '['] cs
    have named := (List.dropWhile_suffix (l := pastAny ['`', '"', '['] cs) isWord).length_le
    have closed := length_pastAny_le ['`', '"', ']'] ((pastAny ['`', '"', '['] cs).dropWhile isWord)
    rw [← read.2]
    omega

theorem length_lt_of_readLiterals {inside comma : Bool} {cs text rest : List Char}
    (read : readLiterals inside comma cs = some (text, rest)) : rest.length < cs.length := by
  induction cs generalizing inside comma text with
  | nil => simp [readLiterals] at read
  | cons c cs ih =>
    have shorter {inside comma : Bool} {text : List Char}
        (read : (readLiterals inside comma cs).map (fun (text, rest) => (c :: text, rest)) =
          some (text, rest)) : rest.length < (c :: cs).length := by
      obtain ⟨⟨inner, tail⟩, found, same⟩ := Option.map_eq_some_iff.mp read
      simp only [Prod.mk.injEq] at same
      have := ih (same.2 ▸ found)
      simp
      omega
    simp only [readLiterals] at read
    split at read
    · exact shorter read
    · split at read
      · simp_all
      · split at read
        · exact shorter read
        · split at read
          · exact shorter read
          · split at read
            · exact shorter read
            · simp at read

theorem length_lt_of_readCheck {cs rest : List Char} {check : Check}
    (read : readCheck cs = some (check, rest)) : rest.length < cs.length := by
  simp only [readCheck, Option.bind_eq_bind, Option.pure_def, Option.bind_eq_some_iff,
    Option.some.injEq, Prod.mk.injEq, Prod.exists] at read
  obtain ⟨a, word, b, mark, _, c, name, d, blanks, e, member, f, opened, _, g, list, h, closed, _,
    rfl⟩ := read
  have := length_of_afterWord word
  have := length_lt_of_afterMark mark
  have := length_le_of_readName name
  have := length_lt_of_afterBlanks blanks
  have := length_of_afterWord member
  have := length_lt_of_afterMark opened
  have := length_lt_of_readLiterals list
  have := length_lt_of_afterMark closed
  have := length_dropBlanks_le a
  have := length_dropBlanks_le b
  have := length_dropBlanks_le e
  have := length_dropBlanks_le g
  omega

def checks (cs : List Char) : List Check :=
  match h : readCheck cs with
  | some (check, rest) =>
    have := length_lt_of_readCheck h
    check :: checks rest
  | none =>
    match cs with
    | [] => []
    | _ :: cs => checks cs
termination_by cs.length

/-! ## The column that numbers the rows -/

def afterSpacedWord (letters cs : List Char) : Option (List Char) :=
  (afterWord letters cs).bind afterBlanks

def readNumbered (cs : List Char) : Option (List Char) := do
  let (name, cs) ← readName cs
  let cs ← afterBlanks cs
  let cs ← afterSpacedWord "integer".toList cs
  let cs := ((afterSpacedWord "not".toList cs).bind (afterSpacedWord "null".toList)).getD cs
  let cs ← afterSpacedWord "primary".toList cs
  let cs ← afterSpacedWord "key".toList cs
  let _ ← afterWord "autoincrement".toList cs
  return name

def numbered? : List Char → Option String
  | [] => none
  | c :: cs =>
    match readNumbered (c :: cs) with
    | some name => some (String.ofList name)
    | none => numbered? cs

end SqlComposer.Definition

namespace SqlComposer.Table

open Definition

def withCheck (t : Table) (check : Check) : Table :=
  t.modifyColumn check.column fun c => { c with type := .enum, options := check.options }

def withNumbered (t : Table) (name : String) : Table :=
  t.modifyColumn name fun c =>
    { c with type := .bigInteger, autoIncrement := true, primary := true, default := none }

def withDefinition (t : Table) (text : String) : Table :=
  let checked := (checks text.toList).foldl withCheck t
  match numbered? text.toList with
  | some name => checked.withNumbered name
  | none => checked

end SqlComposer.Table

namespace SqlComposer

/-- The text counts only where the database keeps constraints nowhere else. -/
def Dialect.completeTable (d : Dialect) (t : Table) (text : String) : Table :=
  match d with
  | sqlite => t.withDefinition text
  | _ => t

end SqlComposer
