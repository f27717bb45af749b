import SqlComposer.Proofs.Builder.Held
import SqlComposer.Proofs.Statement.NameBlind

/-!
Other names and values in place of those of a chain of calls. Where the names are cut alike and
null stays null, the chain goes through as before, and its clauses leave the outlines they left
(`Step.applyAll_renamed`).
-/

namespace SqlComposer

/-! ## Renamed chains -/

/-- Names and values to be put in place of others. -/
structure Renaming where
  name : String → String
  value : Value → Value
  shape_name : ∀ s, nameShape (name s) = nameShape s
  null_value : ∀ v, value v = .null ↔ v = .null

def NameShape.sample : NameShape → String
  | ⟨none, false⟩ => "x"
  | ⟨some false, false⟩ => "x.x"
  | ⟨some true, false⟩ => "x.x.x"
  | ⟨none, true⟩ => "x as x"
  | ⟨some false, true⟩ => "x.x as x"
  | ⟨some true, true⟩ => "x.x.x as x"

theorem NameShape.nameShape_sample (shape : NameShape) : nameShape shape.sample = shape := by
  rcases shape with ⟨_ | _ | _, _ | _⟩ <;> decide +kernel

/-- Nothing but the shape is left of names, and of values whether they are null. -/
def Renaming.masking : Renaming where
  name s := (nameShape s).sample
  value v := if v = .null then .null else .bool true
  shape_name s := (nameShape s).nameShape_sample
  null_value v := by
    split
    · next null => simp [null]
    · next other => simp [other]

def Operand.rename (f : String → String) : Operand → Operand
  | .value (.text s) => .value (.text (f s))
  | other => other

/-- The arguments of a comparison with another operand. Since that may name an operator itself,
the operator and the connector are spelled out. -/
def Comparison.respelled (change : Operand → Operand) (connector : Connector)
    (arguments : List Operand) : List Operand :=
  match ofArguments connector arguments with
  | .ok c => [.value (.text c.operator), change c.operand, .value (.text c.connector.keyword)]
  | .error _ => arguments

def Distinct.rename (f : String → String) : Distinct → Distinct
  | .on columns => .on (columns.map f)
  | other => other

mutual

variable (r : Renaming)

def Step.renamed : Step → Step
  | .table name => .table (r.name name)
  | .source name => .source (r.name name)
  | .sourceSub sub label => .sourceSub sub.renamed (r.name label)
  | .select columns => .select (columns.map r.name)
  | .addSelect columns => .addSelect (columns.map r.name)
  | .selectSub sub label => .selectSub sub.renamed (r.name label)
  | .distinct mode => .distinct (mode.rename r.name)
  | .groupBy columns => .groupBy (columns.map r.name)
  | .orderBy column direction => .orderBy (r.name column) direction
  | .orderBySub sub direction => .orderBySub sub.renamed direction
  | .union all sub => .union all sub.renamed
  | .join kind table first operator second =>
    .join kind (r.name table) (r.name first) operator (r.name second)
  | .crossJoin table => .crossJoin (r.name table)
  | .joinWith kind table steps => .joinWith kind (r.name table) (Step.allRenamed steps)
  | .joinSub kind sub label first operator second =>
    .joinSub kind sub.renamed (r.name label) (r.name first) operator (r.name second)
  | .on connector first operator second => .on connector (r.name first) operator (r.name second)
  | .compare connector column arguments =>
    .compare connector (r.name column)
      (Comparison.respelled (·.mapValue r.value) connector arguments)
  | .nested connector steps => .nested connector (Step.allRenamed steps)
  | .between connector column low high negated =>
    .between connector (r.name column) (low.mapValue r.value) (high.mapValue r.value) negated
  | .inList connector column operands negated =>
    .inList connector (r.name column) (operands.map (·.mapValue r.value)) negated
  | .inSub column sub negated => .inSub (r.name column) sub.renamed negated
  | .isNull connector column negated => .isNull connector (r.name column) negated
  | .compareColumns connector first arguments =>
    .compareColumns connector (r.name first)
      (Comparison.respelled (·.rename r.name) connector arguments)
  | .holdsRow connector sub negated => .holdsRow connector sub.renamed negated
  | .compareSub column operator sub => .compareSub (r.name column) operator sub.renamed
  | .compareDate connector part column arguments =>
    .compareDate connector part (r.name column)
      (Comparison.respelled (·.mapValue r.value) connector arguments)
  | .having connector column arguments =>
    .having connector (r.name column)
      (Comparison.respelled (·.mapValue r.value) connector arguments)
  | .havingBetween column low high =>
    .havingBetween (r.name column) (low.mapValue r.value) (high.mapValue r.value)
  | .havingNull column negated => .havingNull (r.name column) negated
  | other => other

def Step.allRenamed : List Step → List Step
  | [] => []
  | step :: steps => step.renamed :: Step.allRenamed steps

def SubSelect.renamed : SubSelect → SubSelect
  | .inPlace steps => .inPlace (Step.allRenamed steps)
  | .made setting steps => .made setting (Step.allRenamed steps)
  | .copied steps => .copied (Step.allRenamed steps)

end

theorem Operand.text?_rename (f : String → String) (o : Operand) :
    (o.rename f).text? = o.text?.map f := by
  rcases o with v | sql
  · cases v <;> rfl
  · rfl

theorem Operand.blank_mapValue (f : Value → Value) (o : Operand) :
    (o.mapValue f).blank = o.blank := by
  cases o <;> rfl

theorem blank_padDatePart (o : Operand) : (padDatePart o).blank = o.blank := by
  unfold padDatePart
  split
  · rfl
  · split
    · split <;> rfl
    · rfl
  · rfl

namespace Comparison

theorem operatorOf_text {operator : String} (known : operator ∈ operators) :
    operatorOf (.value (.text operator)) = some operator := by
  have written : ∀ operator ∈ operators,
      isOperator operator = true ∧ operatorText operator = operator := by
    decide +kernel
  rcases written operator known with ⟨valid, same⟩
  have text : (Operand.value (.text operator)).text? = some operator := rfl
  rw [operatorOf, text, Option.filter_some, if_pos valid, Option.map_some, same]

theorem ofArguments_respelled (change : Operand → Operand) {connector : Connector}
    {arguments : List Operand} {c : Comparison} (made : ofArguments connector arguments = .ok c) :
    ofArguments connector (respelled change connector arguments) =
      .ok { c with operand := change c.operand } := by
  have operator : readOperator (.value (.text c.operator)) = .ok c.operator := by
    rw [readOperator, operatorOf_text (mem_operators_of_ofArguments made)]
  have joined : readConnector (.value (.text c.connector.keyword)) = .ok c.connector := by
    simp [readConnector, Operand.text?, Operand.value?, Value.text?, Connector.parse_keyword]
  rw [respelled, made]
  simp only
  rw [ofArguments, operator, joined]
  rfl

end Comparison

/-! ## Builders that leave the same outlines -/

theorem map_append_congr {A B C : Type} {f : A → C} {g : B → C} {list more : List A}
    {others further : List B} (before : list.map f = others.map g)
    (added : more.map f = further.map g) : (list ++ more).map f = (others ++ further).map g := by
  rw [List.map_append, List.map_append, before, added]

theorem map_map_append_congr {A A' B B' C : Type} {h : A → A'} {k : B → B'} {f : A' → C}
    {g : B' → C} {list more : List A} {others further : List B}
    (before : (list.map h).map f = (others.map k).map g)
    (added : more.map (fun x => f (h x)) = further.map fun x => g (k x)) :
    ((list ++ more).map h).map f = ((others ++ further).map k).map g := by
  rw [List.map_map, List.map_map] at before ⊢
  exact map_append_congr before added

/-- In any two settings of one dialect, the clauses of the builders leave the same outlines. -/
structure Builder.Alike (b other : Builder) : Prop where
  dialect : b.setting.dialect = other.setting.dialect
  inJoin : b.inJoin = other.inJoin
  clauses : ∀ s t : Setting, s.dialect = t.dialect →
    Clauses.Alike s t (s.compiled b.clauses) (t.compiled other.clauses)

namespace Builder.Alike

variable {b other next : Builder}

theorem empty {setting setting' : Setting} (dialect : setting.dialect = setting'.dialect)
    (inJoin : Bool) : Builder.Alike { setting, inJoin } { setting := setting', inJoin } where
  dialect := dialect
  inJoin := rfl
  clauses _ _ _ := by
    constructor <;> simp [Setting.compiled, Clauses.map, Condition.mapList,
      Setting.conditionOutlines, Setting.distinct]

theorem query (alike : b.Alike other) {s t : Setting} (same : s.dialect = t.dialect) :
    (s.query b.query).outline = (t.query other.query).outline := by
  rw [Builder.query, Builder.query, Setting.query_mk, Setting.query_mk]
  exact Setting.outline_select same (alike.clauses s t same)

theorem withSource (alike : b.Alike other) {source source' : Source Query}
    {values values' : List Value}
    (same : ∀ s t : Setting, s.dialect = t.dialect →
      (s.source (source.map s.query)).outline = (t.source (source'.map t.query)).outline) :
    (b.withSource source values).Alike (other.withSource source' values') :=
  { alike with
    clauses := fun s t dialect =>
      { alike.clauses s t dialect with source := congrArg some (same s t dialect) } }

theorem table (r : Renaming) (alike : b.Alike other) (name : String) :
    (b.table name).Alike (other.table (r.name name)) where
  dialect := alike.dialect
  inJoin := alike.inJoin
  clauses s t dialect :=
    { (empty alike.dialect false).clauses s t dialect with
      source := by
        have named : (s.table (.parse name)).outline = (t.table (.parse (r.name name))).outline :=
          Fragment.outline_tableText (r.shape_name name).symm
        simp [Builder.table, Setting.compiled, Clauses.map, Source.map, Setting.source, named] }

theorem select (alike : b.Alike other) {columns columns' : List String}
    (same : columns.map nameShape = columns'.map nameShape) :
    (b.select columns).Alike (other.select columns') :=
  { alike with
    clauses := fun s t dialect =>
      { alike.clauses s t dialect with
        columns := by
          have each : columns.map (fun name => (s.column name).outline) =
              columns'.map fun name => (t.column name).outline :=
            map_eq_map_of_map_eq (fun _ _ => Setting.outline_named) same
          simpa [Setting.compiled, Clauses.map, Builder.select, Selection.map, Setting.selection,
            Function.comp_def] using each } }

theorem addSelections (alike : b.Alike other) {list list' : List (Selection Query)}
    {values values' : List Value}
    (same : ∀ s t : Setting, s.dialect = t.dialect →
      list.map (fun x => (s.selection (x.map s.query)).outline) =
        list'.map fun x => (t.selection (x.map t.query)).outline) :
    (b.addSelections list values).Alike (other.addSelections list' values') :=
  { alike with
    clauses := fun s t dialect =>
      { alike.clauses s t dialect with
        columns := map_map_append_congr (alike.clauses s t dialect).columns (same s t dialect) } }

theorem distinct (alike : b.Alike other) (r : Renaming) (mode : Distinct) :
    (b.distinct mode).Alike (other.distinct (mode.rename r.name)) :=
  { alike with
    clauses := fun s t dialect =>
      { alike.clauses s t dialect with
        distinct := by
          cases mode with
          | off => rfl
          | rows =>
            show (s.distinct .rows).outline = (t.distinct .rows).outline
            unfold Setting.distinct
            rw [dialect]
          | on columns =>
            apply Setting.outline_distinctOn dialect
            simp [r.shape_name] } }

theorem addGroups (alike : b.Alike other) {list list' : List Group} {values values' : List Value}
    (same : ∀ s t : Setting, s.dialect = t.dialect →
      list.map (fun x => (s.group x).outline) = list'.map fun x => (t.group x).outline) :
    (b.addGroups list values).Alike (other.addGroups list' values') :=
  { alike with
    clauses := fun s t dialect =>
      { alike.clauses s t dialect with
        groups := map_append_congr (alike.clauses s t dialect).groups (same s t dialect) } }

theorem unions_isEmpty (alike : b.Alike other) :
    b.clauses.unions.isEmpty = other.clauses.unions.isEmpty := by
  have same := isEmpty_eq_of_map_eq (alike.clauses b.setting other.setting alike.dialect).unions
  simpa [Setting.compiled, Clauses.map] using same

theorem addOrder (alike : b.Alike other) {order order' : Order Query} {values values' : List Value}
    (same : ∀ s t : Setting, s.dialect = t.dialect →
      (s.order (order.map s.query)).outline = (t.order (order'.map t.query)).outline) :
    (b.addOrder order values).Alike (other.addOrder order' values') := by
  unfold Builder.addOrder
  rw [alike.unions_isEmpty]
  split
  · exact
      { alike with
        clauses := fun s t dialect =>
          { alike.clauses s t dialect with
            orders := map_map_append_congr (alike.clauses s t dialect).orders
              (congrArg (fun o => [o]) (same s t dialect)) } }
  · exact
      { alike with
        clauses := fun s t dialect =>
          { alike.clauses s t dialect with
            unionOrders := map_map_append_congr (alike.clauses s t dialect).unionOrders
              (congrArg (fun o => [o]) (same s t dialect)) } }

theorem reorder (alike : b.Alike other) : b.reorder.Alike other.reorder :=
  { alike with
    clauses := fun s t dialect =>
      { alike.clauses s t dialect with
        orders := by simp [Builder.reorder, Setting.compiled, Clauses.map]
        unionOrders := by simp [Builder.reorder, Setting.compiled, Clauses.map] } }

theorem limit (alike : b.Alike other) (n : UInt64) : (b.limit n).Alike (other.limit n) := by
  unfold Builder.limit
  rw [alike.unions_isEmpty]
  split
  · exact
      { alike with
        clauses := fun s t dialect =>
          { alike.clauses s t dialect with limit := Eq.refl (some n) } }
  · exact
      { alike with
        clauses := fun s t dialect =>
          { alike.clauses s t dialect with unionLimit := Eq.refl (some n) } }

theorem offset (alike : b.Alike other) (n : UInt64) : (b.offset n).Alike (other.offset n) := by
  unfold Builder.offset
  rw [alike.unions_isEmpty]
  split
  · exact
      { alike with
        clauses := fun s t dialect =>
          { alike.clauses s t dialect with offset := Eq.refl (some n) } }
  · exact
      { alike with
        clauses := fun s t dialect =>
          { alike.clauses s t dialect with unionOffset := Eq.refl (some n) } }

theorem lock (alike : b.Alike other) (lock : Lock) : (b.lock lock).Alike (other.lock lock) :=
  { alike with
    clauses := fun s t dialect =>
      { alike.clauses s t dialect with lock := Eq.refl (some lock) } }

theorem union (alike : b.Alike other) (all : Bool) {sub sub' : Builder} (inner : sub.Alike sub') :
    (b.union all sub).Alike (other.union all sub') :=
  { alike with
    clauses := fun s t dialect =>
      { alike.clauses s t dialect with
        unions := map_map_append_congr (alike.clauses s t dialect).unions
          (congrArg (fun o => [(all, o)]) (inner.query dialect)) } }

theorem addJoin (alike : b.Alike other) (kind : JoinKind) {target target' : JoinTarget Query}
    {values values' : List Value} {on on' : Builder} (conditions : on.Alike on')
    (same : ∀ s t : Setting, s.dialect = t.dialect →
      (s.joinTarget (target.map s.query)).outline = (t.joinTarget (target'.map t.query)).outline) :
    (b.addJoin kind target values on).Alike (other.addJoin kind target' values' on') :=
  { alike with
    clauses := fun s t dialect =>
      { alike.clauses s t dialect with
        joins := map_map_append_congr (alike.clauses s t dialect).joins
          (congrArg (fun o => [o]) (Setting.outline_join rfl (same s t dialect)
            (conditions.clauses s t dialect).conditions)) } }

theorem addCondition (alike : b.Alike other) (connector : Connector)
    {condition condition' : Condition Query} {values values' : List Value}
    (same : ∀ s t : Setting, s.dialect = t.dialect →
      (s.condition (condition.map s.query)).outline =
        (t.condition (condition'.map t.query)).outline) :
    (b.addCondition connector condition values).Alike
      (other.addCondition connector condition' values') :=
  { alike with
    clauses := fun s t dialect =>
      { alike.clauses s t dialect with
        conditions := by
          have before := (alike.clauses s t dialect).conditions
          simp only [Setting.compiled, Clauses.map, Builder.addCondition, Setting.conditionOutlines,
            Condition.mapList_append, Condition.mapList, List.map_append, List.map_cons,
            List.map_nil, same s t dialect] at before ⊢
          rw [before] } }

theorem addHaving (alike : b.Alike other) (connector : Connector) {having having' : Having}
    {values values' : List Value}
    (same : ∀ s t : Setting, s.dialect = t.dialect →
      (s.having having).outline = (t.having having').outline) :
    (b.addHaving connector having values).Alike (other.addHaving connector having' values') :=
  { alike with
    clauses := fun s t dialect =>
      { alike.clauses s t dialect with
        havings := map_append_congr (alike.clauses s t dialect).havings
          (congrArg (fun o => [(connector, o)]) (same s t dialect)) } }

theorem nestedConditions (alike : b.Alike other) :
    b.nestedConditions.Alike other.nestedConditions where
  dialect := alike.dialect
  inJoin := rfl
  clauses s t dialect :=
    { (empty alike.dialect false).clauses s t dialect with
      source := (alike.clauses s t dialect).source }

theorem conditions_isEmpty (alike : b.Alike other) :
    b.clauses.conditions.isEmpty = other.clauses.conditions.isEmpty := by
  have same := isEmpty_eq_of_map_eq (alike.clauses b.setting other.setting alike.dialect).conditions
  simpa [Setting.compiled, Clauses.map, Condition.mapList_eq_map] using same

theorem nested (alike : b.Alike other) (connector : Connector) {child child' : Builder}
    (inner : child.Alike child') :
    (b.nested connector child).Alike (other.nested connector child') := by
  unfold Builder.nested
  rw [inner.conditions_isEmpty]
  split
  · exact alike
  · apply alike.addCondition connector
    intro s t dialect
    simp only [Condition.map]
    exact Setting.outline_nested (inner.clauses s t dialect).conditions

/-! Calls that may be refused go through with other names and values. -/

variable (r : Renaming)

theorem on (alike : b.Alike other) {connector : Connector} {first operator second : String}
    (made : b.on connector first operator second = .ok next) :
    ∃ again, other.on connector (r.name first) operator (r.name second) = .ok again ∧
      next.Alike again := by
  unfold Builder.on at made ⊢
  rw [← alike.inJoin]
  split at made
  · cases made
  · next joined =>
    rcases Misuse.ok_of_bind made with ⟨known, checked, rest⟩
    cases rest
    rw [if_neg joined, checked]
    refine ⟨_, rfl, alike.addCondition connector fun s t _ => ?_⟩
    exact Setting.outline_compareColumns (r.shape_name first).symm (r.shape_name second).symm

theorem compare (alike : b.Alike other) {connector : Connector} {column : String}
    {arguments : List Operand} (made : b.compare connector column arguments = .ok next) :
    ∃ again, other.compare connector (r.name column)
        (Comparison.respelled (·.mapValue r.value) connector arguments) = .ok again ∧
      next.Alike again := by
  rcases Misuse.ok_of_bind made with ⟨c, read, rest⟩
  have named := (r.shape_name column).symm
  -- Which condition is made hangs on whether the operand is NULL, and a renaming keeps that.
  have null : c.operand.mapValue r.value = .value .null ↔ c.operand = .value .null := by
    cases c.operand <;> simp [Operand.mapValue, r.null_value]
  unfold Builder.compare
  rw [Comparison.ofArguments_respelled _ read]
  simp only [bind, Except.bind, null] at rest ⊢
  split at rest
  · next equal =>
    cases rest
    rw [if_pos equal]
    exact ⟨_, rfl, alike.addCondition c.connector fun _ _ _ => Setting.outline_isNull named false⟩
  · next other =>
    rw [if_neg other]
    split at rest
    · next unequal =>
      cases rest
      rw [if_pos unequal]
      exact ⟨_, rfl, alike.addCondition c.connector fun _ _ _ => Setting.outline_isNull named true⟩
    · next plain =>
      cases rest
      rw [if_neg plain]
      exact ⟨_, rfl, alike.addCondition c.connector fun _ _ _ =>
        Setting.outline_compare named (c.operand.blank_mapValue r.value).symm⟩

theorem compareColumns (alike : b.Alike other) {connector : Connector} {first : String}
    {arguments : List Operand} (made : b.compareColumns connector first arguments = .ok next) :
    ∃ again, other.compareColumns connector (r.name first)
        (Comparison.respelled (·.rename r.name) connector arguments) = .ok again ∧
      next.Alike again := by
  rcases Misuse.ok_of_bind made with ⟨c, read, rest⟩
  unfold Builder.compareColumns
  rw [Comparison.ofArguments_respelled _ read]
  simp only [bind, Except.bind, Operand.text?_rename] at rest ⊢
  split at rest
  · next second found =>
    cases rest
    rw [found]
    exact ⟨_, rfl, alike.addCondition c.connector fun _ _ _ =>
      Setting.outline_compareColumns (r.shape_name first).symm (r.shape_name second).symm⟩
  · cases rest

theorem compareSub (alike : b.Alike other) {column operator : String} {sub sub' : Builder}
    (inner : sub.Alike sub') (made : b.compareSub column operator sub = .ok next) :
    ∃ again, other.compareSub (r.name column) operator sub' = .ok again ∧ next.Alike again := by
  rcases Misuse.ok_of_bind made with ⟨known, checked, rest⟩
  cases rest
  unfold Builder.compareSub
  rw [checked]
  exact ⟨_, rfl, alike.addCondition .and fun _ _ dialect =>
    Setting.outline_compareSub (r.shape_name column).symm (inner.query dialect)⟩

theorem compareDate (alike : b.Alike other) {connector : Connector} {part : DatePart}
    {column : String} {arguments : List Operand}
    (made : b.compareDate connector part column arguments = .ok next) :
    ∃ again, other.compareDate connector part (r.name column)
        (Comparison.respelled (·.mapValue r.value) connector arguments) = .ok again ∧
      next.Alike again := by
  rcases Misuse.ok_of_bind made with ⟨c, read, rest⟩
  cases rest
  unfold Builder.compareDate
  rw [Comparison.ofArguments_respelled _ read]
  refine ⟨_, rfl, alike.addCondition c.connector fun _ _ dialect =>
    Setting.outline_compareDate dialect part (r.shape_name column).symm ?_⟩
  split <;> simp [blank_padDatePart, Operand.blank_mapValue]

theorem having (alike : b.Alike other) {connector : Connector} {column : String}
    {arguments : List Operand} (made : b.having connector column arguments = .ok next) :
    ∃ again, other.having connector (r.name column)
        (Comparison.respelled (·.mapValue r.value) connector arguments) = .ok again ∧
      next.Alike again := by
  rcases Misuse.ok_of_bind made with ⟨c, read, rest⟩
  cases rest
  unfold Builder.having
  rw [Comparison.ofArguments_respelled _ read]
  exact ⟨_, rfl, alike.addHaving c.connector fun _ _ _ =>
    Setting.outline_compare (r.shape_name column).symm (c.operand.blank_mapValue r.value).symm⟩

end Builder.Alike

/-! ## Chains -/

theorem Operand.map_blank_mapValue (f : Value → Value) (list : List Operand) :
    list.map Operand.blank = (list.map (·.mapValue f)).map Operand.blank := by
  simp [Operand.blank_mapValue]

theorem Renaming.map_shape_name (r : Renaming) (names : List String) :
    names.map nameShape = (names.map r.name).map nameShape := by
  simp [r.shape_name]

namespace Renaming

variable (r : Renaming) (s t : Setting)

theorem outline_names (names : List String) :
    names.map (fun name => (s.column name).outline) =
      (names.map r.name).map fun name => (t.column name).outline :=
  map_eq_map_of_map_eq (fun _ _ => Setting.outline_named) (r.map_shape_name names)

theorem outline_table (name : String) :
    (s.table (.parse name)).outline = (t.table (.parse (r.name name))).outline :=
  Fragment.outline_tableText (r.shape_name name).symm

theorem outline_label (label : String) :
    (s.tableText label).outline = (t.tableText (r.name label)).outline :=
  Fragment.outline_tableText (r.shape_name label).symm

theorem outline_target (name : String) :
    (s.joinTarget ((JoinTarget.table (.parse name)).map s.query)).outline =
      (t.joinTarget ((JoinTarget.table (.parse (r.name name))).map t.query)).outline := by
  simp [JoinTarget.map, Setting.joinTarget, r.outline_table s t name]

end Renaming

mutual

variable (r : Renaming)

/-- A step with other names and values goes through where the step does, and builders that leave
the same outlines go on to leave the same. -/
theorem Step.apply_renamed :
    ∀ (step : Step) {b other next : Builder}, step.apply b = .ok next → b.Alike other →
      ∃ again, (step.renamed r).apply other = .ok again ∧ next.Alike again
  | .fresh, _, _, _, made, alike => by
    cases made
    exact ⟨_, rfl, .empty alike.dialect false⟩
  | .table name, _, _, _, made, alike => by
    cases made
    exact ⟨_, rfl, .table r alike name⟩
  | .source name, _, _, _, made, alike => by
    cases made
    refine ⟨_, rfl, alike.withSource fun s t _ => ?_⟩
    simp [Source.map, Setting.source, r.outline_table s t name]
  | .sourceRaw raw, _, _, _, made, alike => by
    cases made
    exact ⟨_, rfl, alike.withSource fun _ _ _ => by simp [Source.map, Setting.source]⟩
  | .sourceSub sub label, _, _, _, made, alike => by
    rcases Misuse.ok_of_bind made with ⟨_, built, rest⟩
    cases rest
    rcases SubSelect.build_renamed sub built alike with ⟨sub', built', inner⟩
    rw [Step.renamed, Step.apply, built']
    refine ⟨_, rfl, alike.withSource fun s t dialect => ?_⟩
    simp [Source.map, Setting.source, inner.query dialect, r.outline_label s t label]
  | .select columns, _, _, _, made, alike => by
    cases made
    exact ⟨_, rfl, alike.select (r.map_shape_name columns)⟩
  | .addSelect columns, _, _, _, made, alike => by
    cases made
    refine ⟨_, rfl, alike.addSelections fun s t _ => ?_⟩
    simpa [Selection.map, Setting.selection, Function.comp_def] using r.outline_names s t columns
  | .selectRaw raw, _, _, _, made, alike => by
    cases made
    exact ⟨_, rfl, alike.addSelections fun _ _ _ => by simp [Selection.map, Setting.selection]⟩
  | .selectSub sub label, _, _, _, made, alike => by
    rcases Misuse.ok_of_bind made with ⟨_, built, rest⟩
    cases rest
    rcases SubSelect.build_renamed sub built alike with ⟨sub', built', inner⟩
    rw [Step.renamed, Step.apply, built']
    refine ⟨_, rfl, alike.addSelections fun s t dialect => ?_⟩
    simp [Selection.map, Setting.selection, inner.query dialect]
  | .distinct mode, _, _, _, made, alike => by
    cases made
    exact ⟨_, rfl, alike.distinct r mode⟩
  | .groupBy columns, _, _, _, made, alike => by
    cases made
    refine ⟨_, rfl, alike.addGroups fun s t _ => ?_⟩
    simpa [Setting.group, Function.comp_def] using r.outline_names s t columns
  | .groupByRaw raw, _, _, _, made, alike => by
    cases made
    exact ⟨_, rfl, alike.addGroups fun _ _ _ => by simp [Setting.group]⟩
  | .orderBy column direction, _, _, _, made, alike => by
    cases made
    refine ⟨_, rfl, alike.addOrder fun s t _ => ?_⟩
    have named := Setting.outline_named (s := s) (t := t) (r.shape_name column).symm
    simp [Order.map, Setting.order, named]
  | .orderByRaw raw, _, _, _, made, alike => by
    cases made
    exact ⟨_, rfl, alike.addOrder fun _ _ _ => by simp [Order.map, Setting.order]⟩
  | .orderBySub sub direction, _, _, _, made, alike => by
    rcases Misuse.ok_of_bind made with ⟨_, built, rest⟩
    cases rest
    rcases SubSelect.build_renamed sub built alike with ⟨sub', built', inner⟩
    rw [Step.renamed, Step.apply, built']
    refine ⟨_, rfl, alike.addOrder fun s t dialect => ?_⟩
    simp [Order.map, Setting.order, inner.query dialect]
  | .randomOrder, _, _, _, made, alike => by
    cases made
    refine ⟨_, rfl, alike.addOrder fun _ _ _ => ?_⟩
    simp [Order.map, Setting.order, alike.dialect]
  | .reorder, _, _, _, made, alike => by
    cases made
    exact ⟨_, rfl, alike.reorder⟩
  | .limit n, _, _, _, made, alike => by
    cases made
    exact ⟨_, rfl, alike.limit n⟩
  | .offset n, _, _, _, made, alike => by
    cases made
    exact ⟨_, rfl, alike.offset n⟩
  | .page _ perPage, _, _, _, made, alike => by
    cases made
    exact ⟨_, rfl, (alike.offset _).limit perPage⟩
  | .lock lock, _, _, _, made, alike => by
    cases made
    exact ⟨_, rfl, alike.lock lock⟩
  | .union all sub, _, _, _, made, alike => by
    rcases Misuse.ok_of_bind made with ⟨_, built, rest⟩
    cases rest
    rcases SubSelect.build_renamed sub built alike with ⟨sub', built', inner⟩
    rw [Step.renamed, Step.apply, built']
    exact ⟨_, rfl, alike.union all inner⟩
  | .join kind table _ _ _, _, _, _, made, alike => by
    rcases Misuse.ok_of_bind made with ⟨_, gathered, rest⟩
    cases rest
    have bare := Builder.Alike.empty alike.dialect true
    rcases bare.on r gathered with ⟨on', gathered', conditions⟩
    rw [Step.renamed, Step.apply, Builder.joinConditions, Builder.fresh, gathered']
    exact ⟨_, rfl, alike.addJoin kind conditions fun s t _ => r.outline_target s t table⟩
  | .crossJoin table, _, _, _, made, alike => by
    cases made
    have bare := Builder.Alike.empty alike.dialect false
    exact ⟨_, rfl, alike.addJoin .cross bare fun s t _ => r.outline_target s t table⟩
  | .joinWith kind table steps, _, _, _, made, alike => by
    rcases Misuse.ok_of_bind made with ⟨_, gathered, rest⟩
    cases rest
    have bare := Builder.Alike.empty alike.dialect true
    rcases Step.applyAll_renamed steps gathered bare with ⟨on', gathered', conditions⟩
    rw [Step.renamed, Step.apply, Builder.joinConditions, Builder.fresh, gathered']
    exact ⟨_, rfl, alike.addJoin kind conditions fun s t _ => r.outline_target s t table⟩
  | .joinSub kind sub label _ _ _, _, _, _, made, alike => by
    rcases Misuse.ok_of_bind made with ⟨_, built, rest⟩
    rcases Misuse.ok_of_bind rest with ⟨_, gathered, rest⟩
    cases rest
    rcases SubSelect.build_renamed sub built alike with ⟨sub', built', inner⟩
    have bare := Builder.Alike.empty alike.dialect true
    rcases bare.on r gathered with ⟨on', gathered', conditions⟩
    rw [Step.renamed, Step.apply, built', Builder.joinConditions, Builder.fresh]
    simp only [bind, Except.bind, gathered']
    refine ⟨_, rfl, alike.addJoin kind conditions fun s t dialect => ?_⟩
    simp [JoinTarget.map, Setting.joinTarget, inner.query dialect, r.outline_label s t label]
  | .on _ _ _ _, _, _, _, made, alike => alike.on r made
  | .compare _ _ _, _, _, _, made, alike => alike.compare r made
  | .nested connector steps, _, _, _, made, alike => by
    rcases Misuse.ok_of_bind made with ⟨_, gathered, rest⟩
    cases rest
    rcases Step.applyAll_renamed steps gathered alike.nestedConditions with
      ⟨child, gathered', inner⟩
    rw [Step.renamed, Step.apply, gathered']
    exact ⟨_, rfl, alike.nested connector inner⟩
  | .conditionRaw connector raw, _, _, _, made, alike => by
    cases made
    exact ⟨_, rfl, alike.addCondition connector fun _ _ _ => by
      simp [Condition.map, Setting.condition]⟩
  | .between connector column low high negated, _, _, _, made, alike => by
    cases made
    refine ⟨_, rfl, alike.addCondition connector fun _ _ _ => ?_⟩
    exact Setting.outline_between (r.shape_name column).symm (low.blank_mapValue r.value).symm
      (high.blank_mapValue r.value).symm negated
  | .inList connector column operands negated, _, _, _, made, alike => by
    cases made
    refine ⟨_, rfl, alike.addCondition connector fun _ _ _ => ?_⟩
    exact Setting.outline_inList (r.shape_name column).symm
      (Operand.map_blank_mapValue r.value operands) negated
  | .inSub column sub negated, _, _, _, made, alike => by
    rcases Misuse.ok_of_bind made with ⟨_, built, rest⟩
    cases rest
    rcases SubSelect.build_renamed sub built alike with ⟨sub', built', inner⟩
    rw [Step.renamed, Step.apply, built']
    refine ⟨_, rfl, alike.addCondition .and fun _ _ dialect => ?_⟩
    exact Setting.outline_inSub (r.shape_name column).symm (inner.query dialect) negated
  | .isNull connector column negated, _, _, _, made, alike => by
    cases made
    refine ⟨_, rfl, alike.addCondition connector fun _ _ _ => ?_⟩
    exact Setting.outline_isNull (r.shape_name column).symm negated
  | .compareColumns _ _ _, _, _, _, made, alike => alike.compareColumns r made
  | .holdsRow connector sub negated, _, _, _, made, alike => by
    rcases Misuse.ok_of_bind made with ⟨_, built, rest⟩
    cases rest
    rcases SubSelect.build_renamed sub built alike with ⟨sub', built', inner⟩
    rw [Step.renamed, Step.apply, built']
    refine ⟨_, rfl, alike.addCondition connector fun _ _ dialect => ?_⟩
    exact Setting.outline_holdsRow (inner.query dialect) negated
  | .compareSub column operator sub, _, other, _, made, alike => by
    rcases Step.built_of_compareSub made with ⟨_, built, rest⟩
    rcases SubSelect.build_renamed sub built alike with ⟨sub', built', inner⟩
    rcases alike.compareSub r inner rest with ⟨again, made', after⟩
    rcases Misuse.ok_of_bind rest with ⟨known, checked, _⟩
    refine ⟨again, ?_, after⟩
    -- The operator is checked before the sub-select is built or after it; both go through.
    simp only [Step.renamed, Step.apply, checked, built']
    split <;> exact made'
  | .compareDate _ _ _ _, _, _, _, made, alike => alike.compareDate r made
  | .having _ _ _, _, _, _, made, alike => alike.having r made
  | .havingRaw connector raw, _, _, _, made, alike => by
    cases made
    exact ⟨_, rfl, alike.addHaving connector fun _ _ _ => by simp [Setting.having]⟩
  | .havingBetween column low high, _, _, _, made, alike => by
    cases made
    refine ⟨_, rfl, alike.addHaving .and fun _ _ _ => ?_⟩
    exact Setting.outline_between (r.shape_name column).symm (low.blank_mapValue r.value).symm
      (high.blank_mapValue r.value).symm false
  | .havingNull column negated, _, _, _, made, alike => by
    cases made
    refine ⟨_, rfl, alike.addHaving .and fun _ _ _ => ?_⟩
    exact Setting.outline_isNull (r.shape_name column).symm negated

theorem Step.applyAll_renamed :
    ∀ (steps : List Step) {b other next : Builder}, Step.applyAll b steps = .ok next →
      b.Alike other →
      ∃ again, Step.applyAll other (Step.allRenamed r steps) = .ok again ∧ next.Alike again
  | [], _, other, _, made, alike => by
    cases made
    exact ⟨other, rfl, alike⟩
  | step :: steps, _, _, _, made, alike => by
    rcases Misuse.ok_of_bind made with ⟨middle, first, rest⟩
    rcases Step.apply_renamed step first alike with ⟨middle', first', between⟩
    rcases Step.applyAll_renamed steps rest between with ⟨again, rest', last⟩
    rw [Step.allRenamed, Step.applyAll, first']
    exact ⟨again, rest', last⟩

theorem SubSelect.build_renamed :
    ∀ (sub : SubSelect) {b other next : Builder}, sub.build b = .ok next → b.Alike other →
      ∃ again, (sub.renamed r).build other = .ok again ∧ next.Alike again
  | .inPlace steps, _, _, _, made, alike =>
    Step.applyAll_renamed steps made (.empty alike.dialect false)
  | .made _ steps, _, _, _, made, _ => Step.applyAll_renamed steps made (.empty rfl false)
  | .copied steps, _, _, _, made, alike => Step.applyAll_renamed steps made alike

end

end SqlComposer
