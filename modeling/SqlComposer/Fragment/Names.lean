import SqlComposer.Fragment.Basic

/-!
Columns and tables as identifiers. A table takes the connection's prefix, or its own pinned one,
in front of its last segment; what stands before the last point is one qualifying identifier.
-/

namespace SqlComposer.Fragment

def prefixed (tablePrefix table : String) : Fragment :=
  match Text.cutLastDot table with
  | some (schema, table) => cat [ident schema, ".", ident (tablePrefix ++ table)]
  | none => ident (tablePrefix ++ table)

def labelled (f : Fragment) : Option String → Fragment
  | some label => cat [f, " as ", ident label]
  | none => f

def column (tablePrefix text : String) : Fragment :=
  let (name, label) := splitLabel text
  let qualified :=
    match Text.cutLastDot name with
    | some (table, column) => cat [prefixed tablePrefix table, ".", ident column]
    | none => ident name
  labelled qualified label

def columns (tablePrefix : String) (list : List String) : Fragment :=
  commas (list.map (column tablePrefix))

def table (tablePrefix : String) (name : Name) : Fragment :=
  let own := name.pinned.getD tablePrefix
  labelled (prefixed own name.table) (name.label.map (own ++ ·))

def tableText (tablePrefix text : String) : Fragment := table tablePrefix (Name.parse text)

def idents (names : List String) : Fragment := commas (names.map ident)

@[simp] theorem bindings_prefixed (tablePrefix table : String) :
    (prefixed tablePrefix table).bindings = [] := by
  unfold prefixed
  split <;> rfl

@[simp] theorem bindings_labelled (f : Fragment) (label : Option String) :
    (labelled f label).bindings = f.bindings := by
  cases label <;> simp [labelled]

@[simp] theorem bindings_column (tablePrefix text : String) :
    (column tablePrefix text).bindings = [] := by
  simp only [column, bindings_labelled]
  split <;> simp

@[simp] theorem bindings_table (tablePrefix : String) (name : Name) :
    (table tablePrefix name).bindings = [] := by
  simp [table]

@[simp] theorem bindings_tableText (tablePrefix text : String) :
    (tableText tablePrefix text).bindings = [] := by
  simp [tableText]

@[simp] theorem bindings_columns (tablePrefix : String) (list : List String) :
    (columns tablePrefix list).bindings = [] := by
  simp [columns, commas]

@[simp] theorem bindings_idents (names : List String) : (idents names).bindings = [] := by
  simp [idents, commas]

end SqlComposer.Fragment
