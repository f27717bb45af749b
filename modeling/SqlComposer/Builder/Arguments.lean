import SqlComposer.Error
import SqlComposer.Query.Name

/-!
The positional arguments of a comparison: a value; an operator and a value; a value and a
connector; or an operator, a value and a connector.
-/

namespace SqlComposer

def operators : List String :=
  ["=", "<", ">", "<=", ">=", "<>", "!=", "<=>", "like", "like binary", "not like", "ilike",
    "not ilike", "&", "|", "^", "<<", ">>", "&~", "rlike", "not rlike", "regexp", "not regexp",
    "~", "~*", "!~", "!~*", "~~*", "!~~*", "similar to", "not similar to"]

def operatorText (s : String) : String := (Text.trim s).toLower

def isOperator (s : String) : Bool := operators.contains (operatorText s)

def checkedOperator (s : String) : Except Misuse String :=
  if isOperator s then .ok (operatorText s) else .error (.unknownOperator s)

theorem mem_operators_of_checkedOperator {s operator : String}
    (checked : checkedOperator s = .ok operator) : operator ∈ operators := by
  unfold checkedOperator at checked
  split at checked
  · next known =>
    cases checked
    simpa [isOperator] using known
  · cases checked

structure Comparison where
  operator : String
  operand : Operand
  connector : Connector
  deriving DecidableEq, Repr

namespace Comparison

def operatorOf (o : Operand) : Option String :=
  (o.text?.filter isOperator).map operatorText

def readOperator (o : Operand) : Except Misuse String :=
  match operatorOf o with
  | some operator => .ok operator
  | none => .error (.operatorExpected o)

def readConnector (o : Operand) : Except Misuse Connector :=
  match o.text?.bind Connector.parse with
  | some connector => .ok connector
  | none => .error (.connectorExpected o)

/-- Of two arguments the first is the operator if it names one, and else the second is the
connector. -/
def ofArguments (connector : Connector) : List Operand → Except Misuse Comparison
  | [operand] => .ok ⟨"=", operand, connector⟩
  | [first, second] =>
    match operatorOf first with
    | some operator => .ok ⟨operator, second, connector⟩
    | none => do
      let connector ← readConnector second
      return ⟨"=", first, connector⟩
  | [first, operand, last] => do
    let operator ← readOperator first
    let connector ← readConnector last
    return ⟨operator, operand, connector⟩
  | _ => .error .argumentCount

theorem mem_operators_of_operatorOf {o : Operand} {operator : String}
    (found : operatorOf o = some operator) : operator ∈ operators := by
  simp only [operatorOf, Option.map_eq_some_iff, Option.filter_eq_some_iff] at found
  obtain ⟨s, ⟨_, known⟩, rfl⟩ := found
  simpa [isOperator] using known

theorem mem_operators_of_readOperator {o : Operand} {operator : String}
    (read : readOperator o = .ok operator) : operator ∈ operators := by
  unfold readOperator at read
  split at read
  · next found =>
    cases read
    exact mem_operators_of_operatorOf found
  · cases read

theorem equality_mem_operators : "=" ∈ operators := by decide

theorem mem_operators_of_ofArguments {connector : Connector} {arguments : List Operand}
    {c : Comparison} (made : ofArguments connector arguments = .ok c) : c.operator ∈ operators := by
  match arguments with
  | [] => cases made
  | [_] =>
    cases made
    exact equality_mem_operators
  | [first, second] =>
    simp only [ofArguments] at made
    split at made
    · next found =>
      cases made
      exact mem_operators_of_operatorOf found
    · obtain ⟨_, _, rest⟩ := Misuse.ok_of_bind made
      cases rest
      exact equality_mem_operators
  | [first, _, last] =>
    obtain ⟨operator, read, rest⟩ := Misuse.ok_of_bind made
    obtain ⟨_, _, rest⟩ := Misuse.ok_of_bind rest
    cases rest
    exact mem_operators_of_readOperator read
  | _ :: _ :: _ :: _ :: _ => cases made

theorem operand_mem_of_ofArguments {connector : Connector} {arguments : List Operand}
    {c : Comparison} (made : ofArguments connector arguments = .ok c) : c.operand ∈ arguments := by
  match arguments with
  | [] => cases made
  | [_] =>
    cases made
    exact List.mem_cons_self
  | [first, second] =>
    simp only [ofArguments] at made
    split at made
    · cases made
      simp
    · obtain ⟨_, _, rest⟩ := Misuse.ok_of_bind made
      cases rest
      simp
  | [first, operand, last] =>
    obtain ⟨_, _, rest⟩ := Misuse.ok_of_bind made
    obtain ⟨_, _, rest⟩ := Misuse.ok_of_bind rest
    cases rest
    simp
  | _ :: _ :: _ :: _ :: _ => cases made

end Comparison

/-- At least two characters, zeros in front; a sign counts as one. -/
def paddedNumber (n : Int64) : String :=
  if 0 ≤ n.toInt ∧ n.toInt < 10 then "0" ++ toString n.toInt else toString n.toInt

/-- Days and months of one digit get a leading zero, so that they compare as text. -/
def padDatePart (o : Operand) : Operand :=
  match o with
  | .value (.int n) => .value (.text (paddedNumber n))
  | .value (.text s) =>
    match s.toList with
    | [c] => if c.isDigit then .value (.text ("0" ++ s)) else o
    | _ => o
  | o => o

end SqlComposer
