import SqlComposer.Proofs.Statement.Grammar.Name

/-!
Select statements are phrases: each clause is one if its sub-selects are, so a statement within a
lexicon compiles to a phrase (`Setting.phrase_query`).
-/

namespace SqlComposer

open Fragment

/-! ## Keywords around clauses -/

namespace Wording

variable {L : Lexicon}

theorem compared {operator : String} (known : L.operator operator) :
    Wording L .item .room (" " ++ operator ++ " ") :=
  .append (.append (.separator (by simp)) (.operator known)) (.separator (by simp))

theorem comparedCall {operator : String} (known : L.operator operator) :
    Wording L .item .room (") " ++ operator ++ " ") :=
  .append (.append (.separator (by simp)) (.operator known)) (.separator (by simp))

theorem negation (negated : Bool) : Wording L .room .room (negation negated) := by
  cases negated with
  | false => exact .nil .room
  | true => exact .opening (by simp [SqlComposer.negation])

theorem connector (c : Connector) : Wording L .item .room (" " ++ c.keyword ++ " ") := by
  have keyword : Wording L .room .item c.keyword := by
    cases c <;> exact .entry (by simp [Connector.keyword])
  exact .append (.append (.separator (by simp)) keyword) (.separator (by simp))

theorem datePart (part : DatePart) : Wording L .room .item part.keyword := by
  cases part <;> exact .entry (by simp [DatePart.keyword])

theorem direction (d : Direction) : Wording L .room .item d.keyword := by
  cases d <;> exact .entry (by simp [Direction.keyword])

theorem joinKind (kind : JoinKind) : Wording L .room .item kind.keyword := by
  cases kind <;> exact .entry (by simp [JoinKind.keyword])

theorem limitOffset (d : Dialect) (limit offset : Option UInt64) :
    Phrase L .room .item (ofText (d.limitOffset limit offset)) := by
  cases limit with
  | none =>
    cases offset with
    | none => exact .append .skip (.text (.nil .item))
    | some n => cases d <;> exact .text (.append (.opening (by simp)) (.number n.toNat))
  | some m =>
    have limited : Wording L .room .item ("limit " ++ toString m.toNat) :=
      .append (.opening (by simp)) (.number m.toNat)
    cases offset with
    | none => exact .text limited
    | some n => exact .text (.append (.append limited (.separator (by simp))) (.number n.toNat))

theorem lock (d : Dialect) (lock : Lock) : Phrase L .room .item (ofText (d.lock lock)) := by
  cases d with
  | sqlite => exact .append .skip (.text (.nil .item))
  | generic | mysql | postgres => cases lock <;> exact .entry (by simp [Dialect.lock])

end Wording

theorem Phrase.unionBody {L : Lexicon} (d : Dialect) {f : Fragment}
    (phrase : Phrase L .room .item f) : Phrase L .room .item (d.unionBody f) := by
  cases d <;>
    exact .cat_cons (.opening (by simp)) <| .cat_cons phrase <|
      .cat_singleton (.closing (by simp))

namespace Setting

variable {L : Lexicon} {s : Setting}

theorem phrase_distinct (prefixName : L.Name s.tablePrefix) {mode : Distinct}
    (within : mode.Within L) : Phrase L .room .item (s.distinct mode) := by
  unfold Setting.distinct
  split
  · exact .entry (by simp)
  · exact .cat_cons (.opening (by simp)) <| .cat_cons (.columns prefixName within) <|
      .cat_singleton (.closing (by simp))
  · exact .entry (by simp)

theorem phrase_aggregate (prefixName : L.Name s.tablePrefix) (mode : Distinct) {a : Aggregate}
    (within : a.Within L) : Phrase L .room .item (s.aggregate mode a) := by
  have called : Wording L .room .room ("select " ++ a.function ++ "(") :=
    .append (.append (.opening (by simp)) (.function within.function)) (.separator (by simp))
  have columns : Phrase L .room .item (s.columns a.columns) := .columns prefixName within.columns
  have rest (cast : String) (casts : Wording L .item .item cast) :
      Wording L .item .item (")" ++ cast ++ " as aggregate") :=
    .append (.append (.closing (by simp)) casts) (.closing (by simp))
  unfold Setting.aggregate
  refine .cat_cons (.text called) (.cat_cons (b := .item) ?_ (.cat_singleton (.text (rest _ ?_))))
  · split
    · exact .cat_cons (.opening (by simp)) (.cat_singleton columns)
    · exact columns
  · split
    · exact .closing (by simp)
    · exact .nil .item

theorem phrase_compare (prefixName : L.Name s.tablePrefix) {name operator : String} {o : Operand}
    (column : L.Name name) (known : L.operator operator) (operand : o.Within L) :
    Phrase L .room .item (s.compare name operator o) :=
  .cat_cons (.column prefixName column) <| .cat_cons (.text (.compared known)) <|
    .cat_singleton (.operand operand)

theorem phrase_between (prefixName : L.Name s.tablePrefix) {name : String} {low high : Operand}
    (column : L.Name name) (first : low.Within L) (last : high.Within L) (negated : Bool) :
    Phrase L .room .item (s.between name low high negated) := by
  have verb : Wording L .item .room (" " ++ negation negated ++ "between ") :=
    .append (.append (.separator (by simp)) (.negation negated)) (.opening (by simp))
  exact .cat_cons (.column prefixName column) <| .cat_cons (.text verb) <|
    .cat_cons (.operand first) <| .cat_cons (.separator (by simp)) <|
    .cat_singleton (.operand last)

theorem phrase_isNull (prefixName : L.Name s.tablePrefix) {name : String} (column : L.Name name)
    (negated : Bool) : Phrase L .room .item (s.isNull name negated) := by
  have verb : Wording L .item .item (" is " ++ negation negated ++ "null") :=
    .append (.append (.separator (by simp)) (.negation negated)) (.entry (by simp))
  exact .cat_cons (.column prefixName column) (.cat_singleton (.text verb))

theorem phrase_compareDate (prefixName : L.Name s.tablePrefix) (part : DatePart)
    {name operator : String} {o : Operand} (column : L.Name name) (known : L.operator operator)
    (operand : o.Within L) : Phrase L .room .item (s.compareDate part name operator o) := by
  have named : Phrase L .room .item (s.column name) := .column prefixName column
  have right : Phrase L .room .item (Fragment.operand o) := .operand operand
  -- Dates and times are cast on both sides, the other parts are extracted.
  have extracted (part : DatePart) : Phrase L .room .item
      (cat ["extract(" ++ part.keyword ++ " from ", s.column name, ") " ++ operator ++ " ",
        Fragment.operand o, "::int"]) := by
    have head : Wording L .room .room ("extract(" ++ part.keyword ++ " from ") :=
      .append (.append (.opening (by simp)) (.datePart part)) (.separator (by simp))
    exact .cat_cons (.text head) <| .cat_cons named <| .cat_cons (.text (.comparedCall known)) <|
      .cat_cons right <| .cat_singleton (.closing (by simp))
  unfold Setting.compareDate
  cases s.dialect with
  | postgres =>
    cases part with
    | date =>
      have cast : Wording L .item .room ("::date " ++ operator ++ " ") :=
        .append (.append (.separator (by simp)) (.operator known)) (.separator (by simp))
      exact .cat_cons named <| .cat_cons (.text cast) <| .cat_cons right <|
        .cat_singleton (.closing (by simp))
    | time =>
      have cast : Wording L .item .room ("::time " ++ operator ++ " ") :=
        .append (.append (.separator (by simp)) (.operator known)) (.separator (by simp))
      exact .cat_cons named <| .cat_cons (.text cast) <| .cat_cons right <|
        .cat_singleton (.closing (by simp))
    | day => exact extracted .day
    | month => exact extracted .month
    | year => exact extracted .year
  | sqlite =>
    have head : Wording L .room .room ("strftime('" ++ part.conversion ++ "', ") := by
      cases part <;> exact .opening (by simp [DatePart.conversion])
    refine .cat_cons (.text head) <| .cat_cons named <|
      .cat_cons (.text (.comparedCall known)) (.cat_singleton ?_)
    cases o with
    | value v =>
      exact .cat_cons (.opening (by simp)) <| .cat_cons right <|
        .cat_singleton (.closing (by simp))
    | expression sql => exact right
  | generic | mysql =>
    have head : Wording L .room .room (part.keyword ++ "(") :=
      .append (.datePart part) (.separator (by simp))
    exact .cat_cons (.text head) <| .cat_cons named <| .cat_cons (.text (.comparedCall known)) <|
      .cat_singleton right

/-! A clause is a phrase if its sub-selects are. -/

section Clauses

variable (prefixName : L.Name s.tablePrefix)

include prefixName

theorem phrase_selection {selection : Selection Fragment}
    (within : selection.Within L (Phrase L .room .item)) :
    Phrase L .room .item (s.selection selection) := by
  cases selection with
  | column name => exact .column prefixName within
  | raw sql => exact .raw within
  | sub query label =>
    exact .cat_cons (.opening (by simp)) <| .cat_cons within.1 <|
      .cat_cons (.separator (by simp)) <| .cat_singleton (.ident within.2)

theorem phrase_source {source : Source Fragment}
    (within : source.Within L (Phrase L .room .item)) :
    Phrase L .room .item (s.source source) := by
  cases source with
  | table name =>
    exact .cat_cons (.opening (by simp)) (.cat_singleton (.table prefixName within))
  | raw sql => exact .cat_cons (.opening (by simp)) (.cat_singleton (.raw within))
  | sub query label =>
    exact .cat_cons (.opening (by simp)) <| .cat_cons within.1 <|
      .cat_cons (.separator (by simp)) <| .cat_singleton (.tableText prefixName within.2)

end Clauses

mutual

theorem phrase_condition (prefixName : L.Name s.tablePrefix) :
    ∀ {c : Condition Fragment}, c.Within L (Phrase L .room .item) →
      Phrase L .room .item (s.condition c)
  | .nested _, within =>
    .cat_cons (.opening (by simp)) <| .cat_cons (phrase_conditions prefixName within) <|
      .cat_singleton (.closing (by simp))
  | .compare .., within => phrase_compare prefixName within.1 within.2.1 within.2.2
  | .compareSub name operator query, within => by
    have opened : Wording L .item .room (" " ++ operator ++ " (") :=
      .append (.append (.separator (by simp)) (.operator within.2.1)) (.separator (by simp))
    exact .cat_cons (.column prefixName within.1) <| .cat_cons (.text opened) <|
      .cat_cons within.2.2 <| .cat_singleton (.closing (by simp))
  | .raw _, within => .raw within
  | .between _ _ _ negated, within =>
    phrase_between prefixName within.1 within.2.1 within.2.2 negated
  | .inList name list negated, within => by
    have opened : Wording L .item .room (" " ++ negation negated ++ "in (") :=
      .append (.append (.separator (by simp)) (.negation negated)) (.opening (by simp))
    unfold Setting.condition
    split
    · cases negated <;> exact .entry (by simp)
    · exact .cat_cons (.column prefixName within.1) <| .cat_cons (.text opened) <|
        .cat_cons (.operands within.2) <| .cat_singleton (.closing (by simp))
  | .inSub name query negated, within => by
    have opened : Wording L .item .room (" " ++ negation negated ++ "in (") :=
      .append (.append (.separator (by simp)) (.negation negated)) (.opening (by simp))
    exact .cat_cons (.column prefixName within.1) <| .cat_cons (.text opened) <|
      .cat_cons within.2 <| .cat_singleton (.closing (by simp))
  | .isNull _ negated, within => phrase_isNull prefixName within negated
  | .compareColumns .., within =>
    .cat_cons (.column prefixName within.1) <| .cat_cons (.text (.compared within.2.1)) <|
      .cat_singleton (.column prefixName within.2.2)
  | .holdsRow query negated, within =>
    .cat_cons (.text (.append (.negation negated) (.opening (by simp)))) <| .cat_cons within <|
      .cat_singleton (.closing (by simp))
  | .compareDate part _ _ _, within =>
    phrase_compareDate prefixName part within.1 within.2.1 within.2.2

theorem phrase_conditions (prefixName : L.Name s.tablePrefix) :
    ∀ {l : Conditions Fragment}, Condition.AllWithin L (Phrase L .room .item) l →
      Phrase L .room .item (s.conditions l)
  | [], _ => .skip
  | (_, _) :: _, within =>
    .cat_cons (phrase_condition prefixName within.1) <|
      .cat_singleton (phrase_furtherConditions prefixName within.2)

theorem phrase_furtherConditions (prefixName : L.Name s.tablePrefix) :
    ∀ {l : Conditions Fragment}, Condition.AllWithin L (Phrase L .room .item) l →
      Phrase L .item .item (s.furtherConditions l)
  | [], _ => .nil .item
  | (connector, _) :: _, within =>
    .cat_cons (.text (.connector connector)) <|
      .cat_cons (phrase_condition prefixName within.1) <|
      .cat_singleton (phrase_furtherConditions prefixName within.2)

end

section Clauses

variable (prefixName : L.Name s.tablePrefix)

include prefixName

theorem phrase_join {j : Join Fragment} (within : j.Within L (Phrase L .room .item)) :
    Phrase L .room .item (s.join j) := by
  have verb : Wording L .room .room (j.kind.keyword ++ " join ") :=
    .append (.joinKind j.kind) (.separator (by simp))
  have target : Phrase L .room .item (s.joinTarget j.target) := by
    have target := within.target
    cases shape : j.target with
    | table name =>
      rw [shape] at target
      exact .table prefixName target
    | sub query label =>
      rw [shape] at target
      exact .cat_cons (.opening (by simp)) <| .cat_cons target.1 <|
        .cat_cons (.separator (by simp)) <| .cat_singleton (.tableText prefixName target.2)
  have head : Phrase L .room .item (cat [j.kind.keyword ++ " join ", s.joinTarget j.target]) :=
    .cat_cons (.text verb) (.cat_singleton target)
  unfold Setting.join
  simp only
  split
  · exact head
  · exact .cat_cons head <| .cat_cons (.separator (by simp)) <|
      .cat_singleton (phrase_conditions prefixName within.conditions)

theorem phrase_joins {list : List (Join Fragment)}
    (within : ∀ j ∈ list, j.Within L (Phrase L .room .item)) :
    Phrase L .room .item (s.joins list) := by
  apply Phrase.separated (.separator (by simp))
  intro f mem
  rcases List.mem_map.mp mem with ⟨j, listed, rfl⟩
  exact phrase_join prefixName (within j listed)

theorem phrase_groups {list : List Group} (within : ∀ g ∈ list, g.Within L) :
    Phrase L .room .item (s.groups list) := by
  refine .cat_cons (.opening (by simp)) (.cat_singleton (.commas ?_))
  intro f mem
  rcases List.mem_map.mp mem with ⟨g, listed, rfl⟩
  have inside := within g listed
  cases g with
  | column name => exact .column prefixName inside
  | raw sql => exact .raw inside

theorem phrase_having {h : Having} (within : h.Within L) : Phrase L .room .item (s.having h) := by
  cases h with
  | compare name operator o => exact phrase_compare prefixName within.1 within.2.1 within.2.2
  | raw sql => exact .raw within
  | between name low high negated =>
    exact phrase_between prefixName within.1 within.2.1 within.2.2 negated
  | isNull name negated => exact phrase_isNull prefixName within negated

theorem phrase_havings {list : List (Connector × Having)} (within : ∀ h ∈ list, h.2.Within L) :
    Phrase L .room .item (s.havings list) := by
  cases list with
  | nil => exact .to_item (.opening (by simp))
  | cons first rest =>
    refine .cat_cons (.opening (by simp)) <|
      .cat_cons (phrase_having prefixName (within first List.mem_cons_self)) (.cat_singleton ?_)
    have further : ∀ h ∈ rest, h.2.Within L := fun h mem =>
      within h (List.mem_cons_of_mem first mem)
    clear within
    induction rest with
    | nil => exact .nil .item
    | cons next rest ih =>
      have next : Phrase L .item .item (cat [" " ++ next.1.keyword ++ " ", s.having next.2]) :=
        .cat_cons (.text (.connector next.1)) <|
          .cat_singleton (phrase_having prefixName (further next List.mem_cons_self))
      exact .cat_cons next (ih fun h mem => further h (List.mem_cons_of_mem _ mem))

theorem phrase_orders {list : List (Order Fragment)}
    (within : ∀ o ∈ list, o.Within L (Phrase L .room .item)) :
    Phrase L .room .item (s.orders list) := by
  refine .cat_cons (.opening (by simp)) (.cat_singleton (.commas ?_))
  intro f mem
  rcases List.mem_map.mp mem with ⟨o, listed, rfl⟩
  have inside := within o listed
  cases o with
  | column name direction =>
    exact .cat_cons (.column prefixName inside) <|
      .cat_singleton (.text (.append (.separator (by simp)) (.direction direction)))
  | raw sql => exact .raw inside
  | sub query direction =>
    exact .cat_cons (.opening (by simp)) <| .cat_cons inside <|
      .cat_singleton (.text (.append (.separator (by simp)) (.direction direction)))

theorem phrase_projection {c : Clauses Fragment} (within : c.Within L (Phrase L .room .item)) :
    Phrase L .room .item (s.projection c) := by
  have distinct := phrase_distinct prefixName within.distinct
  unfold Setting.projection
  split
  · exact .cat_cons distinct (.cat_singleton (.closing (by simp)))
  · refine .cat_cons distinct <| .cat_cons (.separator (by simp)) <|
      .cat_singleton (.commas ?_)
    intro f mem
    rcases List.mem_map.mp mem with ⟨selection, listed, rfl⟩
    exact phrase_selection prefixName (within.columns selection listed)

end Clauses

theorem phrase_segment {A : Type} {entries : List A} {f : Fragment}
    (phrase : Phrase L .room .item f) : ∀ g ∈ segment entries f, Phrase L .room .item g := by
  intro g mem
  unfold segment at mem
  split at mem
  · cases mem
  · rw [List.mem_singleton.mp mem]
    exact phrase

section Select

variable {c : Clauses Fragment} (prefixName : L.Name s.tablePrefix)
  (within : c.Within L (Phrase L .room .item))

include prefixName within

theorem phrase_conditionSegment :
    ∀ f ∈ s.conditionSegment c, Phrase L .room .item f :=
  phrase_segment <| .cat_cons (.opening (by simp)) <|
    .cat_singleton (phrase_conditions prefixName within.conditions)

theorem phrase_joinSegment : ∀ f ∈ segment c.joins (s.joins c.joins), Phrase L .room .item f :=
  phrase_segment (phrase_joins prefixName within.joins)

theorem phrase_orderSegment : ∀ f ∈ s.orderSegment c, Phrase L .room .item f :=
  phrase_segment (phrase_orders prefixName within.orders)

theorem phrase_body : Phrase L .room .item (s.body c) := by
  apply Phrase.joined
  intro f mem
  simp only [List.mem_append, or_assoc] at mem
  rcases mem with mem | mem | mem | mem | mem | mem | mem | mem | mem
  · rw [List.mem_singleton.mp mem]
    cases aggregate : c.aggregate with
    | none => exact phrase_projection prefixName within
    | some a => exact phrase_aggregate prefixName c.distinct (within.aggregate a aggregate)
  · rcases Option.map_eq_some_iff.mp (Option.mem_toList.mp mem) with ⟨source, found, rfl⟩
    exact phrase_source prefixName (within.source source found)
  · exact phrase_joinSegment prefixName within f mem
  · exact phrase_conditionSegment prefixName within f mem
  · exact phrase_segment (phrase_groups prefixName within.groups) f mem
  · exact phrase_segment (phrase_havings prefixName within.havings) f mem
  · exact phrase_orderSegment prefixName within f mem
  · rw [List.mem_singleton.mp mem]
    exact Wording.limitOffset s.dialect c.limit c.offset
  · rcases Option.map_eq_some_iff.mp (Option.mem_toList.mp mem) with ⟨lock, _, rfl⟩
    exact Wording.lock s.dialect lock

theorem phrase_unions : Phrase L .room .item (s.unions c) := by
  apply Phrase.joined
  intro f mem
  simp only [List.mem_append, or_assoc] at mem
  rcases mem with mem | mem | mem
  · rcases List.mem_map.mp mem with ⟨branch, listed, rfl⟩
    refine .cat_cons ?_ (.cat_singleton (.unionBody s.dialect (within.unions branch listed)))
    cases branch.all <;> exact .opening (by simp)
  · exact phrase_segment (phrase_orders prefixName within.unionOrders) f mem
  · rw [List.mem_singleton.mp mem]
    exact Wording.limitOffset s.dialect c.unionLimit c.unionOffset

theorem phrase_united : Phrase L .room .item (s.united c) := by
  have body := phrase_body prefixName within
  unfold Setting.united
  split
  · exact body
  · exact .cat_cons (.unionBody s.dialect body) <| .cat_cons (.separator (by simp)) <|
      .cat_singleton (phrase_unions prefixName within)

theorem phrase_select : Phrase L .room .item (s.select c) := by
  have united := phrase_united prefixName within
  unfold Setting.select
  split
  · unfold Setting.unionAggregate
    cases aggregate : c.aggregate with
    | none => exact united
    | some a =>
      have rows : Phrase L .room .item (s.united { c with aggregate := none }) :=
        phrase_united prefixName { within with aggregate := fun _ mem => (by cases mem) }
      have counted := phrase_aggregate prefixName .off (within.aggregate a aggregate)
      have label : L.Name "temp_table" := Lexicon.name_of_plain (by decide)
      exact .cat_cons counted <| .cat_cons (.separator (by simp)) <| .cat_cons rows <|
        .cat_cons (.separator (by simp)) <| .cat_singleton (.tableText prefixName label)
  · exact united

theorem phrase_holdsRow : Phrase L .room .item (s.holdsRow c) := by
  have label : L.Name "exists" := Lexicon.name_of_plain (by decide)
  exact .cat_cons (.opening (by simp)) <| .cat_cons (phrase_select prefixName within) <|
    .cat_cons (.separator (by simp)) <| .cat_singleton (.ident label)

end Select

theorem phrase_query (prefixName : L.Name s.tablePrefix) {q : Query} (within : q.Within L) :
    Phrase L .room .item (s.query q) := by
  induction q using Query.induction with
  | step c inner =>
    rw [query_mk]
    apply phrase_select prefixName
    apply Clauses.within_map.mpr
    exact (Query.within_mk.mp within).weaken inner

theorem within_compiled (prefixName : L.Name s.tablePrefix) {c : Clauses Query}
    (within : c.Within L (Query.Within L)) :
    (s.compiled c).Within L (Phrase L .room .item) :=
  Clauses.within_map.mpr (within.weaken fun _ _ inside => phrase_query prefixName inside)

end Setting

end SqlComposer
