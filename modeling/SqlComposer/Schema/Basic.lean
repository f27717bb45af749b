import SqlComposer.Config
import SqlComposer.Connection.Basic
import SqlComposer.Schema.Alteration
import SqlComposer.Schema.Definition
import SqlComposer.Schema.Introspection
import SqlComposer.Schema.Listing

/-!
Making, changing, dropping and reading tables over a connection. A model changes only once the
statements of a command have run, so after a failure it still describes the table that is there.
-/

namespace SqlComposer

structure Schema where
  dialect : Dialect
  options : ConnectionOptions := {}
  deriving DecidableEq, Repr

inductive CommandOutcome where
  | applied
  | failed (reason : String)
  | skipped
  deriving DecidableEq, Repr

def CommandOutcome.failure? (c : Command) : CommandOutcome → Option CommandFailure
  | applied => none
  | failed reason => some ⟨c.description, reason⟩
  | skipped => some ⟨c.description, "skipped"⟩

def afterBeginning (beginning s : String) : Option String :=
  if beginning.toList <+: s.toList then
    some (String.ofList (s.toList.drop beginning.toList.length))
  else none

namespace Schema

variable (s : Schema)

def fullName (name : String) : String := s.options.tablePrefix ++ name

def emptyTable (name : String) : Table := { name, tablePrefix := s.options.tablePrefix }

/-- A new table takes the character set and the collation of the connection. -/
def blueprint (name : String) : Blueprint :=
  ⟨{ s.emptyTable name with
      options := { charset := s.options.charset, collation := s.options.collation } }, []⟩

def dropStatement (ifExists : Bool) (name : String) : Statement :=
  ⟨(Ddl.dropTable ifExists ⟨"", s.fullName name⟩).sql s.dialect, []⟩

def renameStatement (before after : String) : Statement :=
  ⟨(Ddl.renameTable ⟨"", s.fullName before⟩ ⟨"", s.fullName after⟩).sql s.dialect, []⟩

variable {m : Type → Type} [Monad m] [Connection m]

def runStatements (d : Dialect) : List Ddl → Run m Unit
  | [] => return
  | statement :: rest => do
    let _ ← Run.execute ⟨statement.sql d, []⟩
    runStatements d rest

/-! ## Reading -/

def tables : Run m (List String) := do
  let rows ← Run.fetchAll s.dialect.tableListing
  return (rows.filterMap fun r => r.text? "name").filterMap (afterBeginning s.options.tablePrefix)

def tableExists (name : String) : Run m Bool := do
  let rows ← Run.fetchAll (s.dialect.tableCount (s.fullName name))
  match rows with
  | [] => return false
  | row :: _ =>
    let n ← Run.ofRead (row.read "aggregate" Value.int64?)
    return 0 < n.toInt

/-- An enumeration that came without its options is asked for them. -/
def completeOptions (c : Column) : Run m Column :=
  if c.isEnum ∧ c.options = [] then
    match s.dialect.optionListing c with
    | some query => do
      let rows ← Run.fetchAll query
      return { c with options := readOptions rows }
    | none => return c
  else return c

def readColumns (position : Nat) : List Row → Run m (List Column)
  | [] => return []
  | row :: rows => do
    let c ← Run.ofRead (s.dialect.readColumn row)
    let c ← s.completeOptions { c with position }
    let others ← readColumns (position + 1) rows
    return c :: others

def definitionText (rows : List Row) : Option String :=
  (rows.head?.bind Row.first?).bind Value.string?

def complete (t : Table) : Run m Table :=
  match s.dialect.definitionQuery (s.fullName t.name) with
  | some query => do
    let rows ← Run.fetchAll query
    match definitionText rows with
    | some text => return s.dialect.completeTable t text
    | none => return t
  | none => return t

def table (name : String) : Run m Table := do
  let found ← s.tableExists name
  if !found then Run.fail (.tableNotFound name) else
  let rows ← Run.fetchAll (s.dialect.columnListing (s.fullName name))
  let columns ← s.readColumns 0 rows
  let rows ← Run.fetchAll (s.dialect.indexListing (s.fullName name))
  let entries ← Run.ofRead (s.dialect.readIndexEntries rows)
  s.complete ({ s.emptyTable name with columns }.withEntries entries)

def version : Run m String := do
  let rows ← Run.fetchAll s.dialect.versionQuery
  match rows with
  | [] => Run.fail (.decode "version" "no row returned")
  | row :: _ => Run.ofRead (row.read "version" Value.string?)

/-! ## Changing -/

def createTable (ifAbsent : Bool) (name : String) (define : Blueprint → Blueprint) :
    Run m Table := do
  let t := (define (s.blueprint name)).finish.preview
  match ← Run.attempt (runStatements s.dialect (s.dialect.createTable ifAbsent t)) with
  | .ok _ => return t
  | .error e => Run.fail (.createTable name e)

/-- Carries out commands in order, up to the first that fails. -/
def applyCommands (t : Table) : List Command → Run m (Table × List (Command × CommandOutcome))
  | [] => return (t, [])
  | c :: rest => do
    match ← Run.attempt (runStatements s.dialect (s.dialect.statements t c)) with
    | .ok _ =>
      let (result, outcomes) ← applyCommands (t.apply c) rest
      return (result, (c, .applied) :: outcomes)
    | .error e => return (t, (c, .failed e.message) :: rest.map fun c => (c, .skipped))

def alterTable (name : String) (define : Blueprint → Blueprint) : Run m Table := do
  let t ← s.table name
  let b := (define ⟨t, []⟩).finish
  let (result, outcomes) ← s.applyCommands b.table b.commands
  match outcomes.filterMap fun (c, outcome) => outcome.failure? c with
  | [] => return result
  | failures => Run.fail (.alter name failures)

def dropTable (ifExists : Bool) (name : String) : Run m Unit := do
  let _ ← Run.execute (s.dropStatement ifExists name)

def renameTable (before after : String) : Run m Unit := do
  let _ ← Run.execute (s.renameStatement before after)

end Schema

end SqlComposer
