import SqlComposer.Schema.Table

/-!
Changes of a table and what each of them makes of the model.
-/

namespace SqlComposer

inductive Command where
  | addColumn (c : Column)
  | changeColumn (c : Column)
  | renameColumn (before after : String)
  | dropColumn (name : String)
  | createIndex (i : Index)
  | dropIndex (name : String)
  | renameIndex (before after : String)
  | createPrimary (k : PrimaryKey)
  | dropPrimary
  deriving DecidableEq, Repr

namespace Command

def description : Command → String
  | addColumn c => "add column " ++ c.name
  | changeColumn c => "change column " ++ c.name
  | renameColumn before after => "rename column " ++ before ++ " to " ++ after
  | dropColumn name => "drop column " ++ name
  | createIndex i => "create index " ++ i.name
  | dropIndex name => "drop index " ++ name
  | renameIndex before after => "rename index " ++ before ++ " to " ++ after
  | createPrimary k => "create primary key " ++ k.name
  | dropPrimary => "drop primary key"

end Command

namespace Table

variable (t : Table)

def withoutIndex (name : String) : Table :=
  { t with
    indexes := t.indexes.filter fun i => i.name ≠ name
    columns := t.columns.map fun c =>
      { c with indexes := c.indexes.filter fun n => n ≠ name } }

def withoutPrimary : Table :=
  { t.mapColumns fun c => { c with primary := false } with primary := none }

/-- A new column stands last. One that numbers the rows is the primary key. -/
def addColumn (c : Column) : Table :=
  let added :=
    { c.settled with position := t.columns.length, primary := c.primary || c.autoIncrement }
  { t with
    columns := t.columns ++ [added]
    primary := if c.autoIncrement then some ⟨t.primaryName, [c.name]⟩ else t.primary }

/-- A changed column stays in its place, in its indexes and in the key. -/
def changeColumn (c : Column) : Table :=
  t.modifyColumn c.name fun old =>
    { c.settled with
      position := old.position
      indexes := old.indexes
      primary := old.primary || c.autoIncrement }

def renameColumn (before after : String) : Table :=
  { t.modifyColumn before fun c => { c with name := after } with
    indexes := t.indexes.map fun i => { i with columns := renamed before after i.columns }
    primary := t.primary.map fun k => { k with columns := renamed before after k.columns } }

/-- With a column go the indexes over it and a key that lists it. -/
def dropColumn (name : String) : Table :=
  let kept :=
    { t with
      columns := (t.columns.filter fun c => c.name ≠ name).mapIdx fun i c =>
        { c with position := i } }
  let covering := (t.indexes.filter fun i => i.covers name).map (·.name)
  let bare := covering.foldl withoutIndex kept
  if t.primary.any (·.covers name) then bare.withoutPrimary else bare

def createIndex (i : Index) : Table := { t.noteIndex i with indexes := t.indexes ++ [i] }

def renameIndex (before after : String) : Table :=
  { t with
    indexes := t.indexes.map fun i => if i.name = before then { i with name := after } else i
    columns := t.columns.map fun c => { c with indexes := renamed before after c.indexes } }

def createPrimary (k : PrimaryKey) : Table :=
  let marked := k.columns.foldl (fun t name =>
    t.modifyColumn name fun c => { c with primary := true }) t.withoutPrimary
  { marked with primary := some k }

def apply : Command → Table
  | .addColumn c => t.addColumn c
  | .changeColumn c => t.changeColumn c
  | .renameColumn before after => t.renameColumn before after
  | .dropColumn name => t.dropColumn name
  | .createIndex i => t.createIndex i
  | .dropIndex name => t.withoutIndex name
  | .renameIndex before after => t.renameIndex before after
  | .createPrimary k => t.createPrimary k
  | .dropPrimary => t.withoutPrimary

def applyAll (commands : List Command) : Table := commands.foldl apply t

@[simp] theorem applyAll_nil : t.applyAll [] = t := rfl

@[simp] theorem applyAll_cons (c : Command) (rest : List Command) :
    t.applyAll (c :: rest) = (t.apply c).applyAll rest := rfl

end Table

end SqlComposer
