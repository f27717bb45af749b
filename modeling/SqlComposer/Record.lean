import SqlComposer.Value.Basic

/-!
Ordered column and operand pairs, one per column, as inserts and updates take them. Setting a
column again replaces its operand and keeps its place.
-/

namespace SqlComposer

structure Record where
  entries : List (String × Operand) := []
  deriving DecidableEq, Repr, Inhabited

namespace Record

def setIn (column : String) (operand : Operand) :
    List (String × Operand) → List (String × Operand)
  | [] => [(column, operand)]
  | entry :: entries =>
    if entry.1 = column then (column, operand) :: entries
    else entry :: setIn column operand entries

def set (r : Record) (column : String) (operand : Operand) : Record :=
  ⟨setIn column operand r.entries⟩

def ofList (entries : List (String × Operand)) : Record :=
  entries.foldl (fun r entry => r.set entry.1 entry.2) {}

def columns (r : Record) : List String := r.entries.map (·.1)

def get? (r : Record) (column : String) : Option Operand :=
  (r.entries.find? fun entry => entry.1 = column).map (·.2)

def size (r : Record) : Nat := r.entries.length

def isEmpty (r : Record) : Bool := r.entries.isEmpty

def agrees (r s : Record) : Bool :=
  r.size == s.size &&
    (r.entries.zip s.entries).all fun (a, b) => a.1 == b.1 && a.2.agrees b.2

def mapValues (f : Value → Value) (r : Record) : Record :=
  ⟨r.entries.map fun (column, operand) => (column, operand.mapValue f)⟩

theorem mem_columns_set {r : Record} {column other : String} {operand : Operand} :
    other ∈ (r.set column operand).columns ↔ other = column ∨ other ∈ r.columns := by
  obtain ⟨entries⟩ := r
  simp only [set, columns]
  induction entries with
  | nil => simp [setIn]
  | cons entry entries ih =>
    by_cases h : entry.1 = column
    · simp [setIn, h]
    · simp only [setIn, h, if_false, List.map_cons, List.mem_cons, ih]
      grind

theorem nodup_columns_set {r : Record} (unique : r.columns.Nodup) (column : String)
    (operand : Operand) : (r.set column operand).columns.Nodup := by
  obtain ⟨entries⟩ := r
  simp only [set, columns] at unique ⊢
  induction entries with
  | nil => simp [setIn]
  | cons entry entries ih =>
    by_cases h : entry.1 = column
    · simpa [setIn, h] using unique
    · simp only [setIn, h, if_false, List.map_cons, List.nodup_cons] at unique ⊢
      refine ⟨fun mem => ?_, ih unique.2⟩
      rcases (mem_columns_set (r := ⟨entries⟩)).mp mem with same | mem
      · exact h same
      · exact unique.1 mem

end Record

end SqlComposer
