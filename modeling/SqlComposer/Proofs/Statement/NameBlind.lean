import SqlComposer.Proofs.Statement.Outline

/-!
What a statement is made of apart from names and values. The parts of clauses leave outlines, and
clauses whose parts leave the same ones in the same order are compiled to fragments of one outline
(`Clauses.Alike`, `Setting.outline_select`).
-/

namespace SqlComposer

open Fragment

variable {s t : Setting}

theorem isEmpty_eq_of_map_eq {A B C : Type} {f : A → C} {g : B → C} {list : List A}
    {others : List B} (same : list.map f = others.map g) : list.isEmpty = others.isEmpty := by
  rw [← List.isEmpty_map, same, List.isEmpty_map]

/-! ## Parts of clauses -/

namespace Setting

variable {name another operator : String} {o o' low low' high high' : Operand}
  {rows rows' : Fragment}

theorem outline_named (same : nameShape name = nameShape another) :
    (s.column name).outline = (t.column another).outline :=
  outline_column same

theorem outline_compare (same : nameShape name = nameShape another)
    (operands : o.blank = o'.blank) :
    (s.compare name operator o).outline = (t.compare another operator o').outline := by
  have column := outline_named (s := s) (t := t) same
  simp [Setting.compare, column, outline_operand operands]

theorem outline_between (same : nameShape name = nameShape another) (first : low.blank = low'.blank)
    (last : high.blank = high'.blank) (negated : Bool) :
    (s.between name low high negated).outline =
      (t.between another low' high' negated).outline := by
  have column := outline_named (s := s) (t := t) same
  simp [Setting.between, column, outline_operand first, outline_operand last]

theorem outline_isNull (same : nameShape name = nameShape another) (negated : Bool) :
    (s.isNull name negated).outline = (t.isNull another negated).outline := by
  have column := outline_named (s := s) (t := t) same
  simp [Setting.isNull, column]

theorem outline_compareDate (dialect : s.dialect = t.dialect) (part : DatePart)
    (same : nameShape name = nameShape another) (operands : o.blank = o'.blank) :
    (s.compareDate part name operator o).outline =
      (t.compareDate part another operator o').outline := by
  have column := outline_named (s := s) (t := t) same
  have right := outline_operand operands
  unfold Setting.compareDate
  rw [dialect]
  cases t.dialect with
  | postgres => cases part <;> simp [column, right]
  | generic | mysql => simp [column, right]
  | sqlite =>
    -- A bound operand is cast, and an expression is not.
    cases o with
    | value v =>
      cases o' with
      | value w => simp [column, right]
      | expression sql => cases operands
    | expression sql =>
      cases o' with
      | value w => cases operands
      | expression sql => simp [column, right]

theorem outline_inList (same : nameShape name = nameShape another) {list others : List Operand}
    (operands : list.map Operand.blank = others.map Operand.blank) (negated : Bool) :
    (s.condition (.inList name list negated)).outline =
      (t.condition (.inList another others negated)).outline := by
  have column := outline_named (s := s) (t := t) same
  simp only [Setting.condition, isEmpty_eq_of_map_eq operands]
  split
  · split <;> rfl
  · simp [column, outline_operands operands]

theorem outline_inSub (same : nameShape name = nameShape another)
    (inner : rows.outline = rows'.outline) (negated : Bool) :
    (s.condition (.inSub name rows negated)).outline =
      (t.condition (.inSub another rows' negated)).outline := by
  have column := outline_named (s := s) (t := t) same
  simp [Setting.condition, column, inner]

theorem outline_compareSub (same : nameShape name = nameShape another)
    (inner : rows.outline = rows'.outline) :
    (s.condition (.compareSub name operator rows)).outline =
      (t.condition (.compareSub another operator rows')).outline := by
  have column := outline_named (s := s) (t := t) same
  simp [Setting.condition, column, inner]

theorem outline_compareColumns {second further : String} (same : nameShape name = nameShape another)
    (same' : nameShape second = nameShape further) :
    (s.condition (.compareColumns name operator second)).outline =
      (t.condition (.compareColumns another operator further)).outline := by
  have first := outline_named (s := s) (t := t) same
  have last := outline_named (s := s) (t := t) same'
  simp [Setting.condition, first, last]

theorem outline_holdsRow (inner : rows.outline = rows'.outline) (negated : Bool) :
    (s.condition (.holdsRow rows negated)).outline =
      (t.condition (.holdsRow rows' negated)).outline := by
  simp [Setting.condition, inner]

theorem outline_distinctOn (dialect : s.dialect = t.dialect) {list others : List String}
    (same : list.map nameShape = others.map nameShape) :
    (s.distinct (.on list)).outline = (t.distinct (.on others)).outline := by
  have columns : (s.columns list).outline = (t.columns others).outline := outline_columns same
  unfold Setting.distinct
  rw [dialect]
  cases t.dialect <;> simp [columns]

end Setting

theorem Dialect.outline_unionBody (d : Dialect) {f g : Fragment} (same : f.outline = g.outline) :
    (d.unionBody f).outline = (d.unionBody g).outline := by
  cases d <;> simp [unionBody, same]

/-! ## Clauses -/

def Setting.conditionOutlines (s : Setting) (list : Conditions Fragment) :
    List (Connector × List (Option Piece)) :=
  list.map fun entry => (entry.1, (s.condition entry.2).outline)

/-- Part by part, the clauses leave the same outlines. -/
structure Clauses.Alike (s t : Setting) (c d : Clauses Fragment) : Prop where
  source : c.source.map (fun x => (s.source x).outline) =
    d.source.map fun x => (t.source x).outline
  columns : c.columns.map (fun x => (s.selection x).outline) =
    d.columns.map fun x => (t.selection x).outline
  joins : c.joins.map (fun x => (s.join x).outline) = d.joins.map fun x => (t.join x).outline
  conditions : s.conditionOutlines c.conditions = t.conditionOutlines d.conditions
  groups : c.groups.map (fun x => (s.group x).outline) = d.groups.map fun x => (t.group x).outline
  havings : c.havings.map (fun entry => (entry.1, (s.having entry.2).outline)) =
    d.havings.map fun entry => (entry.1, (t.having entry.2).outline)
  orders : c.orders.map (fun x => (s.order x).outline) = d.orders.map fun x => (t.order x).outline
  limit : c.limit = d.limit
  offset : c.offset = d.offset
  unions : c.unions.map (fun x => (x.all, x.query.outline)) =
    d.unions.map fun x => (x.all, x.query.outline)
  unionOrders : c.unionOrders.map (fun x => (s.order x).outline) =
    d.unionOrders.map fun x => (t.order x).outline
  unionLimit : c.unionLimit = d.unionLimit
  unionOffset : c.unionOffset = d.unionOffset
  aggregate : c.aggregate = none ∧ d.aggregate = none
  lock : c.lock = d.lock
  distinct : (s.distinct c.distinct).outline = (t.distinct d.distinct).outline

namespace Setting

theorem outline_furtherConditions {list others : Conditions Fragment}
    (same : s.conditionOutlines list = t.conditionOutlines others) :
    (s.furtherConditions list).outline = (t.furtherConditions others).outline := by
  induction list generalizing others with
  | nil =>
    cases List.map_eq_nil_iff.mp same.symm
    rfl
  | cons entry rest ih =>
    rcases others with _ | ⟨other, others⟩
    · cases same
    · rcases List.cons.inj same with ⟨head, tail⟩
      rcases Prod.mk.inj head with ⟨connector, condition⟩
      simp [Setting.furtherConditions, connector, condition, ih tail]

theorem outline_conditions {list others : Conditions Fragment}
    (same : s.conditionOutlines list = t.conditionOutlines others) :
    (s.conditions list).outline = (t.conditions others).outline := by
  cases list with
  | nil =>
    cases List.map_eq_nil_iff.mp same.symm
    rfl
  | cons entry rest =>
    rcases others with _ | ⟨other, others⟩
    · cases same
    · rcases List.cons.inj same with ⟨head, tail⟩
      simp [Setting.conditions, (Prod.mk.inj head).2, outline_furtherConditions tail]

theorem outline_nested {list others : Conditions Fragment}
    (same : s.conditionOutlines list = t.conditionOutlines others) :
    (s.condition (.nested list)).outline = (t.condition (.nested others)).outline := by
  simp [Setting.condition, outline_conditions same]

theorem outline_join {j k : Join Fragment} (kind : j.kind = k.kind)
    (target : (s.joinTarget j.target).outline = (t.joinTarget k.target).outline)
    (conditions : s.conditionOutlines j.conditions = t.conditionOutlines k.conditions) :
    (s.join j).outline = (t.join k).outline := by
  unfold Setting.join
  simp only [isEmpty_eq_of_map_eq conditions]
  split <;> simp [kind, target, outline_conditions conditions]

theorem outline_havings {list others : List (Connector × Having)}
    (same : list.map (fun entry => (entry.1, (s.having entry.2).outline)) =
      others.map fun entry => (entry.1, (t.having entry.2).outline)) :
    (s.havings list).outline = (t.havings others).outline := by
  cases list with
  | nil =>
    cases List.map_eq_nil_iff.mp same.symm
    rfl
  | cons entry rest =>
    rcases others with _ | ⟨other, others⟩
    · cases same
    · rcases List.cons.inj same with ⟨head, tail⟩
      have later : rest.map (fun entry =>
            (cat [" " ++ entry.1.keyword ++ " ", s.having entry.2]).outline) =
          others.map fun entry =>
            (cat [" " ++ entry.1.keyword ++ " ", t.having entry.2]).outline := by
        apply map_eq_map_of_map_eq _ tail
        intro next further both
        rcases Prod.mk.inj both with ⟨connector, having⟩
        simp [connector, having]
      simp only [outline_cat, List.map_cons] at later
      simp only [Setting.havings, outline_cat, List.map_cons, List.map_map, Function.comp_def]
      rw [(Prod.mk.inj head).2, later]

theorem outline_orders {list others : List (Order Fragment)}
    (same : list.map (fun x => (s.order x).outline) = others.map fun x => (t.order x).outline) :
    (s.orders list).outline = (t.orders others).outline := by
  simp [Setting.orders, outline_commas same]

theorem outline_segment {A B : Type} {entries : List A} {others : List B} {f g : Fragment}
    (sizes : entries.isEmpty = others.isEmpty) (same : f.outline = g.outline) :
    (segment entries f).map outline = (segment others g).map outline := by
  unfold segment
  rw [sizes]
  split
  · rfl
  · rw [List.map_singleton, List.map_singleton, same]

section Clauses

variable {c d : Clauses Fragment} (dialect : s.dialect = t.dialect) (alike : c.Alike s t d)

include alike

theorem outline_projection : (s.projection c).outline = (t.projection d).outline := by
  unfold Setting.projection
  rw [isEmpty_eq_of_map_eq alike.columns]
  split <;> simp [alike.distinct, outline_commas alike.columns]

include dialect

theorem outline_body : (s.body c).outline = (t.body d).outline := by
  have source : ((c.source.map s.source).toList).map outline =
      ((d.source.map t.source).toList).map outline := by
    have same := congrArg Option.toList alike.source
    simpa [Option.toList_map, Function.comp_def] using same
  have joins : (s.joins c.joins).outline = (t.joins d.joins).outline := by
    simp only [Setting.joins, outline_separated, List.map_map, Function.comp_def, alike.joins]
  have conditions : (s.whereClause c.conditions).outline =
      (t.whereClause d.conditions).outline := by
    simp [Setting.whereClause, outline_conditions alike.conditions]
  have groups : (s.groups c.groups).outline = (t.groups d.groups).outline := by
    simp [Setting.groups, outline_commas alike.groups]
  unfold Setting.body
  apply outline_joined
  simp only [alike.aggregate.1, alike.aggregate.2, dialect, alike.limit, alike.offset, alike.lock,
    List.map_append, List.map_cons, List.map_nil, source,
    outline_projection alike,
    outline_segment (isEmpty_eq_of_map_eq alike.joins) joins,
    outline_segment (isEmpty_eq_of_map_eq alike.conditions) conditions,
    outline_segment (isEmpty_eq_of_map_eq alike.groups) groups,
    outline_segment (isEmpty_eq_of_map_eq alike.havings) (outline_havings alike.havings),
    outline_segment (isEmpty_eq_of_map_eq alike.orders) (outline_orders alike.orders)]

theorem outline_unions : (s.unions c).outline = (t.unions d).outline := by
  have branches : c.unions.map (fun x => (t.dialect.branch x).outline) =
      d.unions.map fun x => (t.dialect.branch x).outline := by
    apply map_eq_map_of_map_eq _ alike.unions
    intro x y both
    rcases Prod.mk.inj both with ⟨all, rows⟩
    simp [Dialect.branch, all, Dialect.outline_unionBody t.dialect rows]
  unfold Setting.unions
  apply outline_joined
  simp only [List.map_append, List.map_map, Function.comp_def, dialect, branches, alike.unionLimit,
    alike.unionOffset,
    outline_segment (isEmpty_eq_of_map_eq alike.unionOrders) (outline_orders alike.unionOrders)]

theorem outline_select : (s.select c).outline = (t.select d).outline := by
  have body := outline_body dialect alike
  have unions := outline_unions dialect alike
  have first := Dialect.outline_unionBody t.dialect body
  have united : (s.united c).outline = (t.united d).outline := by
    unfold Setting.united
    rw [isEmpty_eq_of_map_eq alike.unions, dialect]
    split
    · exact body
    · simp [first, unions]
  simpa [Setting.select, alike.aggregate.1, alike.aggregate.2] using united

end Clauses

end Setting

end SqlComposer
