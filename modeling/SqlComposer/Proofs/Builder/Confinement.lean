import SqlComposer.Proofs.Builder.Renaming
import SqlComposer.Proofs.Statement.Grammar.Select

/-!
Names cannot change what a statement is. Where a builder comes from calls without raw SQL and
without expressions, its statement reads piece by piece, in every dialect and under every prefix:
texts as tokens of a fixed vocabulary, slots as their marks, and names as identifiers
(`Piece.ReadsAs`). Which texts there are hangs on no name and no value: with others in their place
nothing but the identifiers differs (`Step.tokens_confined`). The invariant is that the clauses
stay within the lexicon of quoted names; operators are checked where they are taken in, so a chain
that goes through has brought no others.
-/

namespace SqlComposer

/-! ## Calls without raw SQL -/

def Operand.isBound : Operand → Bool
  | .value _ => true
  | .expression _ => false

mutual

/-- Whether a call takes neither raw SQL nor an expression; a random order is no raw SQL of the
caller. -/
def Step.rawFree : Step → Bool
  | .sourceRaw _ | .selectRaw _ | .groupByRaw _ | .orderByRaw _ | .conditionRaw _ _
  | .havingRaw _ _ => false
  | .compare _ _ arguments | .compareColumns _ _ arguments | .compareDate _ _ _ arguments
  | .having _ _ arguments => arguments.all Operand.isBound
  | .between _ _ low high _ | .havingBetween _ low high => low.isBound && high.isBound
  | .inList _ _ operands _ => operands.all Operand.isBound
  | .nested _ steps | .joinWith _ _ steps => Step.allRawFree steps
  | .sourceSub sub _ | .selectSub sub _ | .orderBySub sub _ | .union _ sub
  | .joinSub _ sub _ _ _ _ | .inSub _ sub _ | .holdsRow _ sub _ | .compareSub _ _ sub =>
    sub.rawFree
  | .fresh | .table _ | .source _ | .select _ | .addSelect _ | .distinct _ | .groupBy _
  | .orderBy _ _ | .randomOrder | .reorder | .limit _ | .offset _ | .page _ _ | .lock _
  | .join _ _ _ _ _ | .crossJoin _ | .on _ _ _ _ | .isNull _ _ _ | .havingNull _ _ => true

def Step.allRawFree : List Step → Bool
  | [] => true
  | step :: steps => step.rawFree && Step.allRawFree steps

def SubSelect.rawFree : SubSelect → Bool
  | .inPlace steps | .made _ steps | .copied steps => Step.allRawFree steps

end

/-! ## Within the lexicon of quoted names -/

theorem Name.within_quoted (n : Name) : n.Within Lexicon.quoted :=
  ⟨fun own _ => Lexicon.name_quoted own, Lexicon.name_quoted n.table,
    fun label _ => Lexicon.name_quoted label⟩

theorem Operand.within_quoted {o : Operand} (bound : o.isBound = true) :
    o.Within Lexicon.quoted := by
  cases o with
  | value v => trivial
  | expression sql => cases bound

theorem Condition.allWithin_append {L : Lexicon} {Q : Type} {P : Q → Prop}
    {first second : Conditions Q} (one : Condition.AllWithin L P first)
    (two : Condition.AllWithin L P second) : Condition.AllWithin L P (first ++ second) := by
  induction first with
  | nil => exact two
  | cons entry rest ih => exact ⟨one.1, ih one.2⟩

namespace Comparison

theorem operand_within_quoted {connector : Connector} {arguments : List Operand} {c : Comparison}
    (bound : arguments.all Operand.isBound = true)
    (made : ofArguments connector arguments = .ok c) : c.operand.Within Lexicon.quoted :=
  Operand.within_quoted (List.all_eq_true.mp bound _ (operand_mem_of_ofArguments made))

end Comparison

theorem isBound_padDatePart {o : Operand} (bound : o.isBound = true) :
    (padDatePart o).isBound = true := by
  unfold padDatePart
  split
  · rfl
  · split
    · split
      · rfl
      · exact bound
    · exact bound
  · exact bound

namespace Builder

variable {b next : Builder}

/-- The clauses hold quoted names, bound values and known operators, at any depth. -/
def Quoted (b : Builder) : Prop :=
  b.clauses.Within Lexicon.quoted (Query.Within Lexicon.quoted)

theorem Quoted.query_within (quoted : b.Quoted) : b.query.Within Lexicon.quoted :=
  Query.within_mk.mpr quoted

theorem quoted_empty (setting : Setting) (inJoin : Bool) : Quoted { setting, inJoin } := by
  constructor <;> simp [Condition.AllWithin, Distinct.Within]

theorem quoted_table (b : Builder) (name : String) : (b.table name).Quoted :=
  { quoted_empty b.setting false with
    source := by
      intro source mem
      cases mem
      exact Name.within_quoted _ }

theorem Quoted.nestedConditions (quoted : b.Quoted) : b.nestedConditions.Quoted :=
  { quoted_empty b.setting false with source := quoted.source }

theorem Quoted.withSource (quoted : b.Quoted) {source : Source Query} {values : List Value}
    (within : source.Within Lexicon.quoted (Query.Within Lexicon.quoted)) :
    (b.withSource source values).Quoted :=
  { quoted with
    source := by
      intro other mem
      cases mem
      exact within }

theorem Quoted.select (quoted : b.Quoted) (columns : List String) : (b.select columns).Quoted :=
  { quoted with
    columns := by
      intro selection mem
      rcases List.mem_map.mp mem with ⟨name, _, rfl⟩
      exact Lexicon.name_quoted name }

theorem Quoted.addSelections (quoted : b.Quoted) {list : List (Selection Query)}
    {values : List Value}
    (within : ∀ s ∈ list, s.Within Lexicon.quoted (Query.Within Lexicon.quoted)) :
    (b.addSelections list values).Quoted :=
  { quoted with columns := List.forall_mem_append.mpr ⟨quoted.columns, within⟩ }

theorem Quoted.distinct (quoted : b.Quoted) (mode : Distinct) : (b.distinct mode).Quoted :=
  { quoted with
    distinct := by
      cases mode with
      | on columns => exact fun column _ => Lexicon.name_quoted column
      | off | rows => trivial }

theorem Quoted.addGroups (quoted : b.Quoted) {list : List Group} {values : List Value}
    (within : ∀ g ∈ list, g.Within Lexicon.quoted) : (b.addGroups list values).Quoted :=
  { quoted with groups := List.forall_mem_append.mpr ⟨quoted.groups, within⟩ }

theorem Quoted.addOrder (quoted : b.Quoted) {order : Order Query} {values : List Value}
    (within : order.Within Lexicon.quoted (Query.Within Lexicon.quoted)) :
    (b.addOrder order values).Quoted := by
  have added : ∀ o ∈ [order], o.Within Lexicon.quoted (Query.Within Lexicon.quoted) := by
    intro o mem
    rw [List.mem_singleton.mp mem]
    exact within
  unfold Builder.addOrder
  split
  · exact { quoted with orders := List.forall_mem_append.mpr ⟨quoted.orders, added⟩ }
  · exact { quoted with unionOrders := List.forall_mem_append.mpr ⟨quoted.unionOrders, added⟩ }

theorem Quoted.reorder (quoted : b.Quoted) : b.reorder.Quoted :=
  { quoted with
    orders := fun _ mem => (by cases mem)
    unionOrders := fun _ mem => (by cases mem) }

theorem Quoted.limit (quoted : b.Quoted) (n : UInt64) : (b.limit n).Quoted := by
  unfold Builder.limit Quoted
  cases b.clauses.unions.isEmpty <;> exact { quoted with }

theorem Quoted.offset (quoted : b.Quoted) (n : UInt64) : (b.offset n).Quoted := by
  unfold Builder.offset Quoted
  cases b.clauses.unions.isEmpty <;> exact { quoted with }

theorem Quoted.union (quoted : b.Quoted) (all : Bool) {sub : Builder} (inner : sub.Quoted) :
    (b.union all sub).Quoted :=
  { quoted with
    unions := by
      refine List.forall_mem_append.mpr ⟨quoted.unions, ?_⟩
      intro branch mem
      rw [List.mem_singleton.mp mem]
      exact inner.query_within }

theorem Quoted.addJoin (quoted : b.Quoted) (kind : JoinKind) {target : JoinTarget Query}
    {values : List Value} {on : Builder}
    (within : target.Within Lexicon.quoted (Query.Within Lexicon.quoted))
    (conditions : on.Quoted) : (b.addJoin kind target values on).Quoted :=
  { quoted with
    joins := by
      refine List.forall_mem_append.mpr ⟨quoted.joins, ?_⟩
      intro join mem
      rw [List.mem_singleton.mp mem]
      exact ⟨within, conditions.conditions⟩ }

theorem Quoted.addCondition (quoted : b.Quoted) (connector : Connector)
    {condition : Condition Query} {values : List Value}
    (within : condition.Within Lexicon.quoted (Query.Within Lexicon.quoted)) :
    (b.addCondition connector condition values).Quoted :=
  { quoted with
    conditions := Condition.allWithin_append quoted.conditions ⟨within, trivial⟩ }

theorem Quoted.addHaving (quoted : b.Quoted) (connector : Connector) {having : Having}
    {values : List Value} (within : having.Within Lexicon.quoted) :
    (b.addHaving connector having values).Quoted :=
  { quoted with
    havings := by
      refine List.forall_mem_append.mpr ⟨quoted.havings, ?_⟩
      intro entry mem
      rw [List.mem_singleton.mp mem]
      exact within }

theorem Quoted.nested (quoted : b.Quoted) (connector : Connector) {child : Builder}
    (inner : child.Quoted) : (b.nested connector child).Quoted := by
  unfold Builder.nested
  split
  · exact quoted
  · exact quoted.addCondition connector inner.conditions

theorem Quoted.on (quoted : b.Quoted) {connector : Connector} {first operator second : String}
    (made : b.on connector first operator second = .ok next) : next.Quoted := by
  unfold Builder.on at made
  split at made
  · cases made
  · rcases Misuse.ok_of_bind made with ⟨known, checked, rest⟩
    cases rest
    exact quoted.addCondition connector ⟨Lexicon.name_quoted first,
      mem_operators_of_checkedOperator checked, Lexicon.name_quoted second⟩

theorem Quoted.compare (quoted : b.Quoted) {connector : Connector} {column : String}
    {arguments : List Operand} (bound : arguments.all Operand.isBound = true)
    (made : b.compare connector column arguments = .ok next) : next.Quoted := by
  rcases Misuse.ok_of_bind made with ⟨c, read, rest⟩
  have name := Lexicon.name_quoted column
  split at rest
  · cases rest
    exact quoted.addCondition c.connector name
  · split at rest
    · cases rest
      exact quoted.addCondition c.connector name
    · cases rest
      exact quoted.addCondition c.connector ⟨name, Comparison.mem_operators_of_ofArguments read,
        Comparison.operand_within_quoted bound read⟩

theorem Quoted.compareColumns (quoted : b.Quoted) {connector : Connector} {first : String}
    {arguments : List Operand} (made : b.compareColumns connector first arguments = .ok next) :
    next.Quoted := by
  rcases Misuse.ok_of_bind made with ⟨c, read, rest⟩
  split at rest
  · next second _ =>
    cases rest
    exact quoted.addCondition c.connector ⟨Lexicon.name_quoted first,
      Comparison.mem_operators_of_ofArguments read, Lexicon.name_quoted second⟩
  · cases rest

theorem Quoted.compareSub (quoted : b.Quoted) {column operator : String} {sub : Builder}
    (inner : sub.Quoted) (made : b.compareSub column operator sub = .ok next) : next.Quoted := by
  rcases Misuse.ok_of_bind made with ⟨known, checked, rest⟩
  cases rest
  exact quoted.addCondition .and ⟨Lexicon.name_quoted column,
    mem_operators_of_checkedOperator checked, inner.query_within⟩

theorem Quoted.compareDate (quoted : b.Quoted) {connector : Connector} {part : DatePart}
    {column : String} {arguments : List Operand} (bound : arguments.all Operand.isBound = true)
    (made : b.compareDate connector part column arguments = .ok next) : next.Quoted := by
  rcases Misuse.ok_of_bind made with ⟨c, read, rest⟩
  cases rest
  have given := List.all_eq_true.mp bound _ (Comparison.operand_mem_of_ofArguments read)
  refine quoted.addCondition c.connector
    ⟨Lexicon.name_quoted column, Comparison.mem_operators_of_ofArguments read, ?_⟩
  apply Operand.within_quoted
  split
  · exact isBound_padDatePart given
  · exact given

theorem Quoted.having (quoted : b.Quoted) {connector : Connector} {column : String}
    {arguments : List Operand} (bound : arguments.all Operand.isBound = true)
    (made : b.having connector column arguments = .ok next) : next.Quoted := by
  rcases Misuse.ok_of_bind made with ⟨c, read, rest⟩
  cases rest
  exact quoted.addHaving c.connector ⟨Lexicon.name_quoted column,
    Comparison.mem_operators_of_ofArguments read, Comparison.operand_within_quoted bound read⟩

end Builder

/-! ## Steps and chains of steps -/

open Builder

mutual

/-- A step without raw SQL keeps a builder within the lexicon. -/
theorem Step.apply_quoted :
    ∀ (step : Step) {b next : Builder}, step.rawFree = true → b.Quoted →
      step.apply b = .ok next → next.Quoted
  | .fresh, b, _, _, _, made => by
    cases made
    exact quoted_empty b.setting false
  | .table name, b, _, _, _, made => by
    cases made
    exact quoted_table b name
  | .source _, _, _, _, quoted, made => by
    cases made
    exact quoted.withSource (Name.within_quoted _)
  | .sourceSub sub label, _, _, free, quoted, made => by
    rcases Misuse.ok_of_bind made with ⟨_, built, rest⟩
    cases rest
    have inner := SubSelect.build_quoted sub free quoted built
    exact quoted.withSource ⟨inner.query_within, Lexicon.name_quoted label⟩
  | .select columns, _, _, _, quoted, made => by
    cases made
    exact quoted.select columns
  | .addSelect columns, _, _, _, quoted, made => by
    cases made
    refine quoted.addSelections ?_
    intro selection mem
    rcases List.mem_map.mp mem with ⟨name, _, rfl⟩
    exact Lexicon.name_quoted name
  | .selectSub sub label, _, _, free, quoted, made => by
    rcases Misuse.ok_of_bind made with ⟨_, built, rest⟩
    cases rest
    have inner := SubSelect.build_quoted sub free quoted built
    refine quoted.addSelections ?_
    intro selection mem
    rw [List.mem_singleton.mp mem]
    exact ⟨inner.query_within, Lexicon.name_quoted label⟩
  | .distinct mode, _, _, _, quoted, made => by
    cases made
    exact quoted.distinct mode
  | .groupBy columns, _, _, _, quoted, made => by
    cases made
    refine quoted.addGroups ?_
    intro group mem
    rcases List.mem_map.mp mem with ⟨name, _, rfl⟩
    exact Lexicon.name_quoted name
  | .orderBy column _, _, _, _, quoted, made => by
    cases made
    exact quoted.addOrder (Lexicon.name_quoted column)
  | .orderBySub sub _, _, _, free, quoted, made => by
    rcases Misuse.ok_of_bind made with ⟨_, built, rest⟩
    cases rest
    exact quoted.addOrder (SubSelect.build_quoted sub free quoted built).query_within
  | .randomOrder, b, _, _, quoted, made => by
    cases made
    exact quoted.addOrder ⟨b.setting.dialect, rfl⟩
  | .reorder, _, _, _, quoted, made => by
    cases made
    exact quoted.reorder
  | .limit n, _, _, _, quoted, made => by
    cases made
    exact quoted.limit n
  | .offset n, _, _, _, quoted, made => by
    cases made
    exact quoted.offset n
  | .page _ perPage, _, _, _, quoted, made => by
    cases made
    exact (quoted.offset _).limit perPage
  | .lock _, _, _, _, quoted, made => by
    cases made
    exact { quoted with }
  | .union all sub, _, _, free, quoted, made => by
    rcases Misuse.ok_of_bind made with ⟨_, built, rest⟩
    cases rest
    exact quoted.union all (SubSelect.build_quoted sub free quoted built)
  | .join kind _ _ _ _, b, _, _, quoted, made => by
    rcases Misuse.ok_of_bind made with ⟨_, gathered, rest⟩
    cases rest
    exact quoted.addJoin kind (Name.within_quoted _) ((quoted_empty b.setting true).on gathered)
  | .crossJoin _, b, _, _, quoted, made => by
    cases made
    exact quoted.addJoin .cross (Name.within_quoted _) (quoted_empty b.setting false)
  | .joinWith kind _ steps, b, _, free, quoted, made => by
    rcases Misuse.ok_of_bind made with ⟨_, gathered, rest⟩
    cases rest
    have conditions := Step.applyAll_quoted steps free (quoted_empty b.setting true) gathered
    exact quoted.addJoin kind (Name.within_quoted _) conditions
  | .joinSub kind sub label _ _ _, b, _, free, quoted, made => by
    rcases Misuse.ok_of_bind made with ⟨_, built, rest⟩
    rcases Misuse.ok_of_bind rest with ⟨_, gathered, rest⟩
    cases rest
    have inner := SubSelect.build_quoted sub free quoted built
    exact quoted.addJoin kind ⟨inner.query_within, Lexicon.name_quoted label⟩
      ((quoted_empty b.setting true).on gathered)
  | .on _ _ _ _, _, _, _, quoted, made => quoted.on made
  | .compare _ _ _, _, _, bound, quoted, made => quoted.compare bound made
  | .nested connector steps, _, _, free, quoted, made => by
    rcases Misuse.ok_of_bind made with ⟨_, gathered, rest⟩
    cases rest
    exact quoted.nested connector
      (Step.applyAll_quoted steps free quoted.nestedConditions gathered)
  | .between connector column _ _ _, _, _, bound, quoted, made => by
    cases made
    rcases Bool.and_eq_true_iff.mp bound with ⟨first, last⟩
    exact quoted.addCondition connector ⟨Lexicon.name_quoted column,
      Operand.within_quoted first, Operand.within_quoted last⟩
  | .inList connector column _ _, _, _, bound, quoted, made => by
    cases made
    exact quoted.addCondition connector ⟨Lexicon.name_quoted column,
      fun o mem => Operand.within_quoted (List.all_eq_true.mp bound o mem)⟩
  | .inSub column sub _, _, _, free, quoted, made => by
    rcases Misuse.ok_of_bind made with ⟨_, built, rest⟩
    cases rest
    have inner := SubSelect.build_quoted sub free quoted built
    exact quoted.addCondition .and ⟨Lexicon.name_quoted column, inner.query_within⟩
  | .isNull connector column _, _, _, _, quoted, made => by
    cases made
    exact quoted.addCondition connector (Lexicon.name_quoted column)
  | .compareColumns _ _ _, _, _, _, quoted, made => quoted.compareColumns made
  | .holdsRow connector sub _, _, _, free, quoted, made => by
    rcases Misuse.ok_of_bind made with ⟨_, built, rest⟩
    cases rest
    have inner := SubSelect.build_quoted sub free quoted built
    exact quoted.addCondition connector inner.query_within
  | .compareSub _ _ sub, _, _, free, quoted, made => by
    rcases Step.built_of_compareSub made with ⟨_, built, rest⟩
    exact quoted.compareSub (SubSelect.build_quoted sub free quoted built) rest
  | .compareDate _ _ _ _, _, _, bound, quoted, made => quoted.compareDate bound made
  | .having _ _ _, _, _, bound, quoted, made => quoted.having bound made
  | .havingBetween column _ _, _, _, bound, quoted, made => by
    cases made
    rcases Bool.and_eq_true_iff.mp bound with ⟨first, last⟩
    exact quoted.addHaving .and ⟨Lexicon.name_quoted column,
      Operand.within_quoted first, Operand.within_quoted last⟩
  | .havingNull column _, _, _, _, quoted, made => by
    cases made
    exact quoted.addHaving .and (Lexicon.name_quoted column)
  | .sourceRaw _, _, _, free, _, _ | .selectRaw _, _, _, free, _, _
  | .groupByRaw _, _, _, free, _, _ | .orderByRaw _, _, _, free, _, _
  | .conditionRaw _ _, _, _, free, _, _ | .havingRaw _ _, _, _, free, _, _ => by
    cases free

theorem Step.applyAll_quoted :
    ∀ (steps : List Step) {b next : Builder}, Step.allRawFree steps = true → b.Quoted →
      Step.applyAll b steps = .ok next → next.Quoted
  | [], _, _, _, quoted, made => by
    cases made
    exact quoted
  | step :: steps, _, _, free, quoted, made => by
    rcases Misuse.ok_of_bind made with ⟨middle, first, rest⟩
    rcases Bool.and_eq_true_iff.mp free with ⟨head, tail⟩
    exact Step.applyAll_quoted steps tail (Step.apply_quoted step head quoted first) rest

theorem SubSelect.build_quoted :
    ∀ (sub : SubSelect) {b next : Builder}, sub.rawFree = true → b.Quoted →
      sub.build b = .ok next → next.Quoted
  | .inPlace steps, b, _, free, _, made =>
    Step.applyAll_quoted steps free (quoted_empty b.setting false) made
  | .made setting steps, _, _, free, _, made =>
    Step.applyAll_quoted steps free (quoted_empty setting false) made
  | .copied steps, _, _, free, quoted, made => Step.applyAll_quoted steps free quoted made

end

/-! ## Chains with other names -/

theorem isBound_mapValue (f : Value → Value) (o : Operand) :
    (o.mapValue f).isBound = o.isBound := by
  cases o <;> rfl

theorem isBound_rename (f : String → String) (o : Operand) :
    (o.rename f).isBound = o.isBound := by
  rcases o with v | sql
  · cases v <;> rfl
  · rfl

theorem Comparison.all_isBound_respelled {change : Operand → Operand}
    (kept : ∀ o, (change o).isBound = o.isBound) (connector : Connector)
    {arguments : List Operand} (bound : arguments.all Operand.isBound = true) :
    (respelled change connector arguments).all Operand.isBound = true := by
  unfold respelled
  split
  · next c made =>
    have own := List.all_eq_true.mp bound _ (operand_mem_of_ofArguments made)
    have changed : (change c.operand).isBound = true := (kept c.operand).trans own
    rw [List.all_cons, List.all_cons, changed]
    rfl
  · exact bound

mutual

variable (r : Renaming)

theorem Step.rawFree_renamed :
    ∀ step : Step, step.rawFree = true → (step.renamed r).rawFree = true
  | .compare connector _ _, bound | .compareDate connector _ _ _, bound
  | .having connector _ _, bound =>
    Comparison.all_isBound_respelled (isBound_mapValue r.value) connector bound
  | .compareColumns connector _ _, bound =>
    Comparison.all_isBound_respelled (isBound_rename r.name) connector bound
  | .between _ _ low high _, bound | .havingBetween _ low high, bound => by
    simpa [Step.renamed, Step.rawFree, isBound_mapValue] using bound
  | .inList _ _ operands _, bound => by
    simpa [Step.renamed, Step.rawFree, isBound_mapValue] using bound
  | .nested _ steps, free | .joinWith _ _ steps, free => Step.allRawFree_renamed steps free
  | .sourceSub sub _, free | .selectSub sub _, free | .orderBySub sub _, free
  | .union _ sub, free | .joinSub _ sub _ _ _ _, free | .inSub _ sub _, free
  | .holdsRow _ sub _, free | .compareSub _ _ sub, free => SubSelect.rawFree_renamed sub free
  | .fresh, _ | .table _, _ | .source _, _ | .select _, _ | .addSelect _, _ | .distinct _, _
  | .groupBy _, _ | .orderBy _ _, _ | .randomOrder, _ | .reorder, _ | .limit _, _ | .offset _, _
  | .page _ _, _ | .lock _, _ | .join _ _ _ _ _, _ | .crossJoin _, _ | .on _ _ _ _, _
  | .isNull _ _ _, _ | .havingNull _ _, _ => rfl
  | .sourceRaw _, free | .selectRaw _, free | .groupByRaw _, free | .orderByRaw _, free
  | .conditionRaw _ _, free | .havingRaw _ _, free => free

theorem Step.allRawFree_renamed :
    ∀ steps : List Step, Step.allRawFree steps = true →
      Step.allRawFree (Step.allRenamed r steps) = true
  | [], free => free
  | step :: steps, free => by
    rcases Bool.and_eq_true_iff.mp free with ⟨head, tail⟩
    exact Bool.and_eq_true_iff.mpr ⟨step.rawFree_renamed head, Step.allRawFree_renamed steps tail⟩

theorem SubSelect.rawFree_renamed :
    ∀ sub : SubSelect, sub.rawFree = true → (sub.renamed r).rawFree = true
  | .inPlace steps, free | .made _ steps, free | .copied steps, free =>
    Step.allRawFree_renamed steps free

end

/-! ## Statements -/

namespace Builder

def tokens (b : Builder) (s : Setting) : Option (List Token) :=
  Text.tokens s.dialect.quote ((s.query b.query).statement s.dialect.style).sql

theorem Quoted.reads {b : Builder} (quoted : b.Quoted) (s : Setting) : ∃ tokens,
    b.tokens s = some tokens ∧
      Piece.ReadsAs s.dialect.style 1 (s.query b.query).pieces tokens := by
  have phrase := Setting.phrase_query (Lexicon.name_quoted s.tablePrefix) quoted.query_within
  exact phrase.scan_statement s.dialect.tokenReading

/-- Builders that leave the same outlines read as tokens that do. -/
theorem Alike.outline_tokens {b other : Builder} (alike : b.Alike other) (quoted : b.Quoted)
    (others : other.Quoted) {s t : Setting} (dialect : s.dialect = t.dialect) :
    (other.tokens t).map (List.map Token.outline) = (b.tokens s).map (List.map Token.outline) := by
  rcases quoted.reads s with ⟨tokens, scanned, reads⟩
  rcases others.reads t with ⟨further, scanned', reads'⟩
  rw [← dialect] at reads'
  rw [scanned, scanned', Option.map_some, Option.map_some,
    reads.outline_eq reads' (alike.query dialect)]

end Builder

/-- The statement of a chain without raw SQL reads piece by piece: a text gives tokens of the
vocabulary, a slot its mark, and a name one identifier, unless it is `*`. With any other names and
values, and under any prefix, the chain goes through as well, and nothing differs but identifiers.
So nothing that a caller writes stands anywhere else. -/
theorem Step.tokens_confined {setting : Setting} {steps : List Step} {b : Builder}
    (free : Step.allRawFree steps = true)
    (built : Step.applyAll { setting } steps = .ok b) :
    (∃ tokens, Text.tokens b.setting.dialect.quote b.statement.sql = some tokens ∧
      ∀ t ∈ tokens, t.isIdentifier = true ∨ t.isFixed = true) ∧
    ∀ s : Setting, ∃ tokens, b.tokens s = some tokens ∧
      (∀ t ∈ tokens, t.isIdentifier = true ∨ t.isFixed = true) ∧
      Piece.ReadsAs s.dialect.style 1 (s.query b.query).pieces tokens ∧
      ∀ (r : Renaming) (tablePrefix : String), ∃ other further,
        Step.applyAll { setting } (Step.allRenamed r steps) = .ok other ∧
        other.tokens { s with tablePrefix } = some further ∧
        further.map Token.outline = tokens.map Token.outline := by
  have quoted : b.Quoted := Step.applyAll_quoted steps free (quoted_empty setting false) built
  have confined (s : Setting) : ∃ tokens, b.tokens s = some tokens ∧
      (∀ t ∈ tokens, t.isIdentifier = true ∨ t.isFixed = true) ∧
      Piece.ReadsAs s.dialect.style 1 (s.query b.query).pieces tokens := by
    rcases quoted.reads s with ⟨tokens, scanned, reads⟩
    exact ⟨tokens, scanned, reads.confined, reads⟩
  refine ⟨?_, ?_⟩
  · rcases confined b.setting with ⟨tokens, scanned, known, _⟩
    exact ⟨tokens, scanned, known⟩
  · intro s
    rcases confined s with ⟨tokens, scanned, known, reads⟩
    refine ⟨tokens, scanned, known, reads, ?_⟩
    intro r tablePrefix
    rcases Step.applyAll_renamed r steps built (.empty rfl false) with ⟨other, built', alike⟩
    have others : other.Quoted :=
      Step.applyAll_quoted _ (Step.allRawFree_renamed r steps free) (quoted_empty setting false)
        built'
    have same := alike.outline_tokens quoted others (s := s) (t := { s with tablePrefix }) rfl
    rw [scanned, Option.map_some] at same
    rcases Option.map_eq_some_iff.mp same with ⟨further, scanned', outline⟩
    exact ⟨other, further, built', scanned', outline⟩

/-- Keywords, conditions and quotes in names, and an operator among the arguments. -/
theorem Step.tokens_confined_of_hostile_names :
    let steps : List Step :=
      [.table "users\" as u", .addSelect ["u.*", "null", "1 = 1 or 1"],
        .compare .and "id; drop table users --"
          [.value (.text " LIKE "), .value (.text "x' or '1")],
        .holdsRow .or (.made ⟨.sqlite, "p`"⟩ [.table "x`y", .randomOrder]) true,
        .orderBy "note'" .desc, .limit 5]
    Step.allRawFree steps = true ∧
      ∃ b other tokens further,
        Step.applyAll { setting := ⟨.postgres, "t."⟩ } steps = .ok b ∧
        b.tokens ⟨.postgres, "t."⟩ = some tokens ∧
        (∀ t ∈ tokens, t.isIdentifier = true ∨ t.isFixed = true) ∧
        tokens.filter Token.isIdentifier =
          ["t.u", "null", "1 = 1 or 1", "t.users\"", "t.u", "id; drop table users --", "t.x`y",
            "note'"].map .identifier ∧
        Step.applyAll { setting := ⟨.postgres, "t."⟩ } (Step.allRenamed .masking steps) =
          .ok other ∧
        other.tokens ⟨.postgres, ""⟩ = some further ∧
        further.map Token.outline = tokens.map Token.outline := by
  intro steps
  have free : Step.allRawFree steps = true := rfl
  have known : ((Step.applyAll { setting := ⟨.postgres, "t."⟩ } steps).toOption.bind
      (·.tokens ⟨.postgres, "t."⟩)).map (List.filter Token.isIdentifier) =
        some (["t.u", "null", "1 = 1 or 1", "t.users\"", "t.u", "id; drop table users --", "t.x`y",
          "note'"].map .identifier) := by
    simp only [steps]
    decide +kernel
  cases built : Step.applyAll { setting := ⟨.postgres, "t."⟩ } steps with
  | error e =>
    rw [built] at known
    cases known
  | ok b =>
    rw [built] at known
    rcases (Step.tokens_confined free built).2 ⟨.postgres, "t."⟩ with
      ⟨tokens, scanned, confined, _, blind⟩
    rcases blind .masking "" with ⟨other, further, built', scanned', outline⟩
    have names : ((b.tokens ⟨.postgres, "t."⟩).map (List.filter Token.isIdentifier)) = _ := known
    rw [scanned] at names
    exact ⟨free, b, other, tokens, further, rfl, scanned, confined, Option.some.inj names, built',
      scanned', outline⟩

end SqlComposer
