import SqlComposer.Proofs.Query.SubQueries
import SqlComposer.Proofs.Statement.Request

/-!
The text of a statement does not depend on the values it binds. Replacing every bound value, in
the clauses, in their sub-selects and in the records, replaces the values of the statement in
their places and changes nothing else (`Request.statement_mapValues`).
-/

namespace SqlComposer

open Fragment

/-! ## Replacing the values of a statement -/

section Replacement

variable {A B Q : Type} (f : Value → Value)

def RawSql.mapValues (r : RawSql) : RawSql := { r with bindings := r.bindings.map f }

def Source.mapValues : Source Q → Source Q
  | .raw sql => .raw (sql.mapValues f)
  | other => other

def Selection.mapValues : Selection Q → Selection Q
  | .raw sql => .raw (sql.mapValues f)
  | other => other

mutual

def Condition.mapValues : Condition Q → Condition Q
  | .compare column operator operand => .compare column operator (operand.mapValue f)
  | .nested conditions => .nested (Condition.mapAllValues conditions)
  | .raw sql => .raw (sql.mapValues f)
  | .between column low high negated =>
    .between column (low.mapValue f) (high.mapValue f) negated
  | .inList column operands negated => .inList column (operands.map (·.mapValue f)) negated
  | .compareDate part column operator operand =>
    .compareDate part column operator (operand.mapValue f)
  | .compareSub column operator query => .compareSub column operator query
  | .inSub column query negated => .inSub column query negated
  | .isNull column negated => .isNull column negated
  | .compareColumns first operator second => .compareColumns first operator second
  | .holdsRow query negated => .holdsRow query negated

def Condition.mapAllValues : Conditions Q → Conditions Q
  | [] => []
  | (connector, condition) :: rest =>
    (connector, condition.mapValues) :: Condition.mapAllValues rest

end

def Join.mapValues (j : Join Q) : Join Q :=
  { j with conditions := Condition.mapAllValues f j.conditions }

def Group.mapValues : Group → Group
  | .raw sql => .raw (sql.mapValues f)
  | other => other

def Having.mapValues : Having → Having
  | .compare column operator operand => .compare column operator (operand.mapValue f)
  | .raw sql => .raw (sql.mapValues f)
  | .between column low high negated =>
    .between column (low.mapValue f) (high.mapValue f) negated
  | .isNull column negated => .isNull column negated

def Order.mapValues : Order Q → Order Q
  | .raw sql => .raw (sql.mapValues f)
  | other => other

/-- The clauses with every value replaced, save those of sub-selects. -/
def Clauses.mapValues (c : Clauses Q) : Clauses Q :=
  { c with
    source := c.source.map (Source.mapValues f)
    columns := c.columns.map (Selection.mapValues f)
    joins := c.joins.map (Join.mapValues f)
    conditions := Condition.mapAllValues f c.conditions
    groups := c.groups.map (Group.mapValues f)
    havings := c.havings.map fun (connector, having) => (connector, having.mapValues f)
    orders := c.orders.map (Order.mapValues f)
    unionOrders := c.unionOrders.map (Order.mapValues f) }

def Query.mapValues (q : Query) : Query := q.fold fun c => .mk (c.mapValues f)

def Request.mapValues : Request → Request
  | .insert records => .insert (records.map (·.mapValues f))
  | .insertOrIgnore records => .insertOrIgnore (records.map (·.mapValues f))
  | .insertGetId record key => .insertGetId (record.mapValues f) key
  | .insertUsing columns rows => .insertUsing columns (rows.mapValues f)
  | .upsert records uniqueBy updated =>
    .upsert (records.map (·.mapValues f)) uniqueBy updated
  | .update record => .update (record.mapValues f)
  | .select => .select
  | .holdsRow => .holdsRow
  | .delete => .delete
  | .truncate => .truncate

def Clauses.mapAllValues (c : Clauses Query) : Clauses Query :=
  (c.map (Query.mapValues f)).mapValues f

mutual

theorem Condition.map_mapValues (g : A → B) :
    ∀ c : Condition A, (c.mapValues f).map g = (c.map g).mapValues f
  | .nested list => by
    simp only [Condition.mapValues, Condition.map]
    rw [Condition.mapList_mapAllValues g list]
  | .compare .. | .compareSub .. | .raw .. | .between .. | .inList .. | .inSub .. | .isNull ..
  | .compareColumns .. | .holdsRow .. | .compareDate .. => rfl

theorem Condition.mapList_mapAllValues (g : A → B) :
    ∀ l : Conditions A, Condition.mapList g (Condition.mapAllValues f l) =
      Condition.mapAllValues f (Condition.mapList g l)
  | [] => rfl
  | (_, condition) :: rest => by
    simp only [Condition.mapAllValues, Condition.mapList]
    rw [Condition.map_mapValues g condition, Condition.mapList_mapAllValues g rest]

end

theorem Clauses.map_mapValues (g : A → B) (c : Clauses A) :
    (c.mapValues f).map g = (c.map g).mapValues f := by
  have source (s : Source A) : (s.mapValues f).map g = (s.map g).mapValues f := by
    cases s <;> rfl
  have selection (s : Selection A) : (s.mapValues f).map g = (s.map g).mapValues f := by
    cases s <;> rfl
  have join (j : Join A) : (j.mapValues f).map g = (j.map g).mapValues f := by
    simp [Join.map, Join.mapValues, Condition.mapList_mapAllValues]
  have order (o : Order A) : (o.mapValues f).map g = (o.map g).mapValues f := by
    cases o <;> rfl
  simp [Clauses.map, Clauses.mapValues, Function.comp_def, source, selection, join, order,
    Condition.mapList_mapAllValues]

theorem Query.mapValues_mk (c : Clauses Query) :
    (Query.mk c).mapValues f = .mk (c.mapAllValues f) :=
  Query.fold_mk _ c

end Replacement

/-! ## Fragments -/

namespace Fragment

variable (f : Value → Value)

theorem mapValues_of_bindings_eq_nil {fragment : Fragment} (none : fragment.bindings = []) :
    fragment.mapValues f = fragment := by
  rcases fragment with ⟨pieces, bindings⟩
  simp only at none
  simp [mapValues, none]

@[simp] theorem mapValues_empty : ({} : Fragment).mapValues f = {} := rfl

@[simp] theorem mapValues_ofText (text : String) : (ofText text).mapValues f = ofText text := rfl

@[simp] theorem mapValues_ident (name : String) : (ident name).mapValues f = ident name := rfl

@[simp] theorem mapValues_raw (r : RawSql) : (raw r).mapValues f = raw (r.mapValues f) := rfl

@[simp] theorem mapValues_operand (o : Operand) :
    (operand o).mapValues f = operand (o.mapValue f) := by
  cases o <;> rfl

@[simp] theorem mapValues_cat (fragments : List Fragment) :
    (cat fragments).mapValues f = cat (fragments.map (mapValues f)) := by
  simp [cat, mapValues, List.flatMap_map, List.map_flatMap]

@[simp] theorem mapValues_separated (separator : String) (fragments : List Fragment) :
    (separated separator fragments).mapValues f =
      separated separator (fragments.map (mapValues f)) := by
  simp only [separated, mapValues_cat]
  congr 1
  induction fragments with
  | nil => rfl
  | cons first rest ih =>
    cases rest with
    | nil => rfl
    | cons second rest => simpa using ih

@[simp] theorem mapValues_commas (fragments : List Fragment) :
    (commas fragments).mapValues f = commas (fragments.map (mapValues f)) := by
  simp [commas]

@[simp] theorem mapValues_operands (list : List Operand) :
    (operands list).mapValues f = operands (list.map (·.mapValue f)) := by
  simp [operands, Function.comp_def]

/-- Which segments are left out is a matter of their text alone. -/
@[simp] theorem mapValues_joined (segments : List Fragment) :
    (joined segments).mapValues f = joined (segments.map (mapValues f)) := by
  have kept : (segments.map (mapValues f)).filter (!·.isBlank) =
      (segments.filter (!·.isBlank)).map (mapValues f) := by
    rw [List.filter_map]
    rfl
  have pieces : (separated " " ((segments.filter (!·.isBlank)).map (mapValues f))).pieces =
      (separated " " (segments.filter (!·.isBlank))).pieces := by
    rw [← mapValues_separated]
    rfl
  simp only [joined, kept, pieces]
  simp [mapValues, List.flatMap_map, List.map_flatMap]

end Fragment

@[simp] theorem Dialect.mapValues_unionBody (f : Value → Value) (d : Dialect)
    (fragment : Fragment) :
    (d.unionBody fragment).mapValues f = d.unionBody (fragment.mapValues f) := by
  cases d <;> simp [Dialect.unionBody]

@[simp] theorem Dialect.mapValues_branch (f : Value → Value) (d : Dialect)
    (b : Branch Fragment) :
    (d.branch b).mapValues f = d.branch (b.map (Fragment.mapValues f)) := by
  rcases b with ⟨all, query⟩
  cases all <;> simp [Dialect.branch, Branch.map]

/-! ## Select statements

In clauses of fragments the values stand in the fragments and beside them. -/

namespace Setting

variable (s : Setting) (f : Value → Value)

@[simp] theorem mapValues_column (text : String) :
    (s.column text).mapValues f = s.column text :=
  mapValues_of_bindings_eq_nil f (by simp [Setting.column])

@[simp] theorem mapValues_columns (list : List String) :
    (s.columns list).mapValues f = s.columns list :=
  mapValues_of_bindings_eq_nil f (by simp [Setting.columns])

@[simp] theorem mapValues_table (name : Name) : (s.table name).mapValues f = s.table name :=
  mapValues_of_bindings_eq_nil f (by simp [Setting.table])

@[simp] theorem mapValues_tableText (text : String) :
    (s.tableText text).mapValues f = s.tableText text :=
  mapValues_of_bindings_eq_nil f (by simp [Setting.tableText])

@[simp] theorem mapValues_distinct (mode : Distinct) :
    (s.distinct mode).mapValues f = s.distinct mode := by
  unfold Setting.distinct
  split <;> simp

@[simp] theorem mapValues_aggregate (mode : Distinct) (a : Aggregate) :
    (s.aggregate mode a).mapValues f = s.aggregate mode a := by
  apply mapValues_of_bindings_eq_nil
  simp only [Setting.aggregate, bindings_cat, List.flatMap_cons, bindings_ofText]
  split <;> simp [Setting.columns]

@[simp] theorem mapValues_compare (name operator : String) (o : Operand) :
    (s.compare name operator o).mapValues f = s.compare name operator (o.mapValue f) := by
  simp [Setting.compare]

@[simp] theorem mapValues_between (name : String) (low high : Operand) (negated : Bool) :
    (s.between name low high negated).mapValues f =
      s.between name (low.mapValue f) (high.mapValue f) negated := by
  simp [Setting.between]

@[simp] theorem mapValues_isNull (name : String) (negated : Bool) :
    (s.isNull name negated).mapValues f = s.isNull name negated := by
  simp [Setting.isNull]

/-- Whether the operand of a date is converted hangs on its being a value, not on the value. -/
@[simp] theorem mapValues_compareDate (part : DatePart) (name operator : String) (o : Operand) :
    (s.compareDate part name operator o).mapValues f =
      s.compareDate part name operator (o.mapValue f) := by
  unfold Setting.compareDate
  cases s.dialect <;> cases part <;> cases o <;> simp [Operand.mapValue]

theorem mapValues_selection (selection : Selection Fragment) :
    (s.selection selection).mapValues f =
      s.selection ((selection.map (Fragment.mapValues f)).mapValues f) := by
  cases selection <;> simp [Setting.selection, Selection.map, Selection.mapValues]

theorem mapValues_source (source : Source Fragment) :
    (s.source source).mapValues f =
      s.source ((source.map (Fragment.mapValues f)).mapValues f) := by
  cases source <;> simp [Setting.source, Source.map, Source.mapValues]

mutual

theorem mapValues_condition :
    ∀ c : Condition Fragment, (s.condition c).mapValues f =
      s.condition ((c.map (Fragment.mapValues f)).mapValues f)
  | .nested list => by
    simp [Setting.condition, Condition.map, Condition.mapValues, mapValues_conditions list]
  | .inList name list negated => by
    simp only [Setting.condition, Condition.map, Condition.mapValues, List.isEmpty_map]
    split
    · split <;> rfl
    · simp
  | .compare .. | .compareSub .. | .raw .. | .between .. | .inSub .. | .isNull ..
  | .compareColumns .. | .holdsRow .. | .compareDate .. => by
    simp [Setting.condition, Condition.map, Condition.mapValues]

theorem mapValues_conditions :
    ∀ l : Conditions Fragment, (s.conditions l).mapValues f =
      s.conditions (Condition.mapAllValues f (Condition.mapList (Fragment.mapValues f) l))
  | [] => rfl
  | (_, first) :: rest => by
    simp [Setting.conditions, Condition.mapList, Condition.mapAllValues,
      mapValues_condition first, mapValues_furtherConditions rest]

theorem mapValues_furtherConditions :
    ∀ l : Conditions Fragment, (s.furtherConditions l).mapValues f =
      s.furtherConditions (Condition.mapAllValues f (Condition.mapList (Fragment.mapValues f) l))
  | [] => rfl
  | (_, next) :: rest => by
    simp [Setting.furtherConditions, Condition.mapList, Condition.mapAllValues,
      mapValues_condition next, mapValues_furtherConditions rest]

end

theorem mapValues_join (j : Join Fragment) :
    (s.join j).mapValues f = s.join ((j.map (Fragment.mapValues f)).mapValues f) := by
  rcases j with ⟨kind, target, conditions⟩
  have targetBlind : (s.joinTarget target).mapValues f =
      s.joinTarget (target.map (Fragment.mapValues f)) := by
    cases target <;> simp [Setting.joinTarget, JoinTarget.map]
  cases conditions with
  | nil => simp [Setting.join, Join.map, Join.mapValues, Condition.mapList,
      Condition.mapAllValues, targetBlind]
  | cons entry rest =>
    simp only [Setting.join, Join.map, Join.mapValues, List.isEmpty_cons, Bool.false_eq_true,
      if_false]
    simp [targetBlind, mapValues_conditions, Condition.mapList, Condition.mapAllValues]

theorem mapValues_group (g : Group) : (s.group g).mapValues f = s.group (g.mapValues f) := by
  cases g <;> simp [Setting.group, Group.mapValues]

theorem mapValues_having (h : Having) : (s.having h).mapValues f = s.having (h.mapValues f) := by
  cases h <;> simp [Setting.having, Having.mapValues]

theorem mapValues_order (o : Order Fragment) :
    (s.order o).mapValues f = s.order ((o.map (Fragment.mapValues f)).mapValues f) := by
  cases o <;> simp [Setting.order, Order.map, Order.mapValues]

theorem mapValues_havings (list : List (Connector × Having)) :
    (s.havings list).mapValues f =
      s.havings (list.map fun (connector, having) => (connector, having.mapValues f)) := by
  cases list with
  | nil => rfl
  | cons entry rest =>
    rcases entry with ⟨connector, first⟩
    simp [Setting.havings, mapValues_having, Function.comp_def]

theorem mapValues_orders (list : List (Order Fragment)) :
    (s.orders list).mapValues f =
      s.orders (list.map fun o => (o.map (Fragment.mapValues f)).mapValues f) := by
  simp [Setting.orders, mapValues_order, Function.comp_def]

theorem mapValues_segment {A B : Type} {entries : List A} {images : List B}
    {fragment image : Fragment} (same : images.isEmpty = entries.isEmpty)
    (blind : fragment.mapValues f = image) :
    (segment entries fragment).map (Fragment.mapValues f) = segment images image := by
  unfold segment
  rw [same, ← blind]
  split <;> rfl

def replaced (c : Clauses Fragment) : Clauses Fragment :=
  (c.map (Fragment.mapValues f)).mapValues f

theorem mapValues_projection (c : Clauses Fragment) :
    (s.projection c).mapValues f = s.projection (replaced f c) := by
  simp only [Setting.projection, replaced, Clauses.mapValues, Clauses.map, List.isEmpty_map]
  split
  · simp
  · simp [mapValues_selection, Function.comp_def]

theorem mapValues_joins (list : List (Join Fragment)) :
    (s.joins list).mapValues f =
      s.joins (list.map fun j => (j.map (Fragment.mapValues f)).mapValues f) := by
  simp [Setting.joins, mapValues_join, Function.comp_def]

theorem mapValues_groups (list : List Group) :
    (s.groups list).mapValues f = s.groups (list.map (Group.mapValues f)) := by
  simp [Setting.groups, mapValues_group, Function.comp_def]

section Segments

variable (c : Clauses Fragment)

theorem mapValues_sourceSegment :
    (c.source.map s.source).toList.map (Fragment.mapValues f) =
      ((replaced f c).source.map s.source).toList := by
  cases h : c.source <;> simp [replaced, Clauses.map, Clauses.mapValues, h, mapValues_source]

theorem mapValues_joinSegment :
    (segment c.joins (s.joins c.joins)).map (Fragment.mapValues f) =
      segment (replaced f c).joins (s.joins (replaced f c).joins) := by
  apply mapValues_segment
  · simp [replaced, Clauses.map, Clauses.mapValues]
  · simp [replaced, Clauses.map, Clauses.mapValues, mapValues_joins, Function.comp_def]

theorem mapValues_conditionSegment :
    (s.conditionSegment c).map (Fragment.mapValues f) = s.conditionSegment (replaced f c) := by
  apply mapValues_segment
  · simp only [replaced, Clauses.map, Clauses.mapValues]
    cases c.conditions <;> rfl
  · simp [Setting.whereClause, replaced, Clauses.map, Clauses.mapValues, mapValues_conditions]

theorem mapValues_groupSegment :
    (segment c.groups (s.groups c.groups)).map (Fragment.mapValues f) =
      segment (replaced f c).groups (s.groups (replaced f c).groups) := by
  apply mapValues_segment
  · simp [replaced, Clauses.map, Clauses.mapValues]
  · exact s.mapValues_groups f c.groups

theorem mapValues_havingSegment :
    (segment c.havings (s.havings c.havings)).map (Fragment.mapValues f) =
      segment (replaced f c).havings (s.havings (replaced f c).havings) := by
  apply mapValues_segment
  · simp [replaced, Clauses.map, Clauses.mapValues]
  · exact s.mapValues_havings f c.havings

theorem mapValues_orderSegment :
    (s.orderSegment c).map (Fragment.mapValues f) = s.orderSegment (replaced f c) := by
  apply mapValues_segment
  · simp [replaced, Clauses.map, Clauses.mapValues]
  · simp [replaced, Clauses.map, Clauses.mapValues, mapValues_orders, Function.comp_def]

theorem mapValues_unionOrderSegment :
    (segment c.unionOrders (s.orders c.unionOrders)).map (Fragment.mapValues f) =
      segment (replaced f c).unionOrders (s.orders (replaced f c).unionOrders) := by
  apply mapValues_segment
  · simp [replaced, Clauses.map, Clauses.mapValues]
  · simp [replaced, Clauses.map, Clauses.mapValues, mapValues_orders, Function.comp_def]

theorem mapValues_body : (s.body c).mapValues f = s.body (replaced f c) := by
  have lock : (c.lock.map fun lock => ofText (s.dialect.lock lock)).toList.map
      (Fragment.mapValues f) = (c.lock.map fun lock => ofText (s.dialect.lock lock)).toList := by
    cases c.lock <;> rfl
  have conditions := s.mapValues_conditionSegment f c
  have orders := s.mapValues_orderSegment f c
  rw [Setting.conditionSegment, Setting.conditionSegment] at conditions
  rw [Setting.orderSegment, Setting.orderSegment] at orders
  rw [Setting.body, Setting.body, mapValues_joined]
  simp only [List.map_append, List.map_cons, List.map_nil, lock, conditions, orders,
    s.mapValues_sourceSegment f c, s.mapValues_joinSegment f c, s.mapValues_groupSegment f c,
    s.mapValues_havingSegment f c]
  rw [show (replaced f c).aggregate = c.aggregate from rfl]
  cases c.aggregate with
  | none =>
    rw [s.mapValues_projection f c]
    rfl
  | some a =>
    rw [s.mapValues_aggregate f c.distinct a]
    rfl

theorem mapValues_unions : (s.unions c).mapValues f = s.unions (replaced f c) := by
  have branches : (c.unions.map s.dialect.branch).map (Fragment.mapValues f) =
      (replaced f c).unions.map s.dialect.branch := by
    simp [replaced, Clauses.map, Clauses.mapValues, Function.comp_def]
  rw [Setting.unions, Setting.unions, mapValues_joined]
  simp only [List.map_append, branches, s.mapValues_unionOrderSegment f c]
  rfl

theorem mapValues_united : (s.united c).mapValues f = s.united (replaced f c) := by
  have same : (replaced f c).unions.isEmpty = c.unions.isEmpty := by
    simp [replaced, Clauses.map, Clauses.mapValues]
  unfold Setting.united
  rw [same]
  split
  · exact s.mapValues_body f c
  · simp [s.mapValues_body f c, s.mapValues_unions f c]

/-- Compiling clauses with their values replaced replaces the values of the statement. -/
theorem mapValues_select : (s.select c).mapValues f = s.select (replaced f c) := by
  have same : (replaced f c).unions.isEmpty = c.unions.isEmpty := by
    simp [replaced, Clauses.map, Clauses.mapValues]
  have whole := s.mapValues_united f c
  have rows := s.mapValues_united f { c with aggregate := none }
  have aggregate : (s.unionAggregate c).mapValues f = s.unionAggregate (replaced f c) := by
    unfold Setting.unionAggregate
    rw [show (replaced f c).aggregate = c.aggregate from rfl]
    cases c.aggregate with
    | none => exact whole
    | some a =>
      simp [rows]
      rfl
  unfold Setting.select
  rw [same, show (replaced f c).aggregate = c.aggregate from rfl]
  split
  · exact aggregate
  · exact whole

end Segments

theorem compiled_mapAllValues_of_subs {c : Clauses Query}
    (inner : ∀ q ∈ c.subs, s.query (q.mapValues f) = (s.query q).mapValues f) :
    s.compiled (c.mapAllValues f) = replaced f (s.compiled c) := by
  simp only [replaced, Setting.compiled, Clauses.mapAllValues, Clauses.map_mapValues,
    Clauses.map_map]
  exact congrArg (Clauses.mapValues f) (Clauses.map_congr inner)

/-- A statement with its values replaced at any depth compiles to the same pieces. -/
theorem query_mapValues (q : Query) : s.query (q.mapValues f) = (s.query q).mapValues f := by
  induction q using Query.induction with
  | step c inner =>
    rw [Query.mapValues_mk, query_mk, query_mk, mapValues_select,
      s.compiled_mapAllValues_of_subs f inner]

theorem compiled_mapAllValues (c : Clauses Query) :
    s.compiled (c.mapAllValues f) = replaced f (s.compiled c) :=
  s.compiled_mapAllValues_of_subs f fun q _ => s.query_mapValues f q

end Setting

/-! ## Records and changes

A change fails on the columns of its records and on its target, never on a value. -/

theorem bind_map_except {E A B C D : Type} {x : Except E A} {h : A → B} {k : C → D}
    {g : A → Except E C} {g' : B → Except E D} (same : ∀ a, g' (h a) = (g a).map k) :
    (x.map h >>= g') = (x >>= g).map k := by
  cases x with
  | error e => rfl
  | ok a => exact same a

theorem mapM_map_except {E A B C : Type} (g : A → Except E B) (h : B → C) (list : List A) :
    (list.mapM fun a => (g a).map h) = (list.mapM g).map (List.map h) := by
  induction list with
  | nil => rfl
  | cons a rest ih =>
    rw [List.mapM_cons, List.mapM_cons, ih]
    cases g a with
    | error e => rfl
    | ok b =>
      cases rest.mapM g <;> rfl

namespace Setting

variable (s : Setting) (f : Value → Value)

theorem rowOperands_mapValues (columns : List String) (r : Record) :
    rowOperands columns (r.mapValues f) =
      (rowOperands columns r).map (List.map (·.mapValue f)) := by
  have size : (r.mapValues f).size = r.size := by
    simp [Record.size, Record.mapValues]
  have found (column : String) :
      (r.mapValues f).get? column = (r.get? column).map (·.mapValue f) := by
    simp [Record.get?, Record.mapValues, List.find?_map, Function.comp_def]
  unfold rowOperands
  rw [size]
  split
  · rw [← mapM_map_except]
    congr 1
    funext column
    rw [found]
    cases r.get? column <;> rfl
  · rfl

theorem insertRow_mapValues (columns : List String) (r : Record) :
    insertRow columns (r.mapValues f) =
      (insertRow columns r).map (Fragment.mapValues f) := by
  unfold insertRow
  rw [rowOperands_mapValues]
  apply bind_map_except
  intro list
  exact congrArg Except.ok (by simp)

theorem written_replaced (c : Clauses Fragment) :
    s.written (replaced f c) = (s.written c).map (Fragment.mapValues f) := by
  rcases source : c.source with _ | ⟨_ | _ | _⟩ <;>
    simp [Setting.written, replaced, Clauses.map, Clauses.mapValues, source, Source.map,
      Source.mapValues, Except.map]

theorem insertRows_mapValues (columns : List String) (records : List Record) :
    (records.map (·.mapValues f)).mapM (insertRow columns) =
      (records.mapM (insertRow columns)).map (List.map (Fragment.mapValues f)) := by
  rw [← mapM_map_except, List.mapM_map]
  congr 1
  funext r
  exact insertRow_mapValues f columns r

theorem insertAs_mapValues (verb : String) (c : Clauses Fragment) (records : List Record) :
    s.insertAs verb (replaced f c) (records.map (·.mapValues f)) =
      (s.insertAs verb c records).map (Fragment.mapValues f) := by
  have first : (records.map (·.mapValues f)).head?.filter (!·.isEmpty) =
      (records.head?.filter (!·.isEmpty)).map (·.mapValues f) := by
    cases records with
    | nil => rfl
    | cons r rest => simp [Option.filter_some, Record.isEmpty, Record.mapValues]; split <;> rfl
  have columns (r : Record) : (r.mapValues f).columns = r.columns := by
    simp [Record.columns, Record.mapValues, Function.comp_def]
  unfold insertAs
  rw [written_replaced, first]
  apply bind_map_except
  intro target
  cases records.head?.filter (!·.isEmpty) with
  | none => exact congrArg Except.ok (by simp)
  | some r =>
    simp only [Option.map_some, columns, insertRows_mapValues]
    apply bind_map_except
    intro rows
    exact congrArg Except.ok (by simp)

theorem insert_mapValues (c : Clauses Fragment) (records : List Record) :
    s.insert (replaced f c) (records.map (·.mapValues f)) =
      (s.insert c records).map (Fragment.mapValues f) :=
  s.insertAs_mapValues f "insert" c records

theorem insertOrIgnore_mapValues (c : Clauses Fragment) (records : List Record) :
    s.insertOrIgnore (replaced f c) (records.map (·.mapValues f)) =
      (s.insertOrIgnore c records).map (Fragment.mapValues f) := by
  unfold insertOrIgnore
  cases s.dialect with
  | generic => rfl
  | mysql => exact s.insertAs_mapValues f "insert ignore" c records
  | sqlite => exact s.insertAs_mapValues f "insert or ignore" c records
  | postgres =>
    simp only [insert_mapValues]
    apply bind_map_except
    intro inserted
    exact congrArg Except.ok (by simp)

theorem insertGetId_mapValues (c : Clauses Fragment) (r : Record) (key : String) :
    s.insertGetId (replaced f c) (r.mapValues f) key =
      (s.insertGetId c r key).map (Fragment.mapValues f) := by
  have inserted := s.insert_mapValues f c [r]
  rw [List.map_singleton] at inserted
  unfold insertGetId
  rw [inserted]
  apply bind_map_except
  intro inserted
  cases s.dialect.returnsInsertedId with
  | false => rfl
  | true => exact congrArg Except.ok (by simp)

theorem insertUsing_mapValues (c : Clauses Fragment) (columns : List String) (rows : Fragment) :
    s.insertUsing (replaced f c) columns (rows.mapValues f) =
      (s.insertUsing c columns rows).map (Fragment.mapValues f) := by
  unfold insertUsing
  rw [written_replaced]
  apply bind_map_except
  intro target
  cases columns.isEmpty with
  | false => exact congrArg Except.ok (by simp)
  | true => exact congrArg Except.ok (by simp)

theorem mapValues_idents (names : List String) : (idents names).mapValues f = idents names :=
  mapValues_of_bindings_eq_nil f (bindings_idents names)

theorem upsert_mapValues (c : Clauses Fragment) (records : List Record)
    (uniqueBy updated : List String) :
    s.upsert (replaced f c) (records.map (·.mapValues f)) uniqueBy updated =
      (s.upsert c records uniqueBy updated).map (Fragment.mapValues f) := by
  unfold upsert
  cases s.dialect with
  | generic => rfl
  | mysql =>
    simp only
    split
    · exact s.insertOrIgnore_mapValues f c records
    · rw [insert_mapValues]
      apply bind_map_except
      intro inserted
      exact congrArg Except.ok (by simp [Function.comp_def])
  | postgres | sqlite =>
    simp only [insert_mapValues]
    apply bind_map_except
    intro inserted
    cases updated.isEmpty with
    | false => exact congrArg Except.ok (by simp [mapValues_idents, Function.comp_def])
    | true => exact congrArg Except.ok (by simp [mapValues_idents])

@[simp] theorem mapValues_assignment (target : Fragment) (o : Operand) :
    (assignment target o).mapValues f = assignment (target.mapValues f) (o.mapValue f) := by
  simp [assignment]

theorem mapValues_assignments (r : Record) :
    (s.assignments r).mapValues f = s.assignments (r.mapValues f) := by
  simp [assignments, Record.mapValues, Function.comp_def]

theorem mapValues_plainAssignments (r : Record) :
    (plainAssignments r).mapValues f = plainAssignments (r.mapValues f) := by
  simp [plainAssignments, Record.mapValues, Function.comp_def]

theorem map_mapValues_limitSegment (c : Clauses Fragment) :
    (limitSegment c).map (Fragment.mapValues f) = limitSegment c := by
  unfold limitSegment
  cases c.limit <;> rfl

theorem table?_replaced (c : Clauses Fragment) : (replaced f c).table? = c.table? := by
  rcases source : c.source with _ | ⟨_ | _ | _⟩ <;>
    simp [Clauses.table?, replaced, Clauses.map, Clauses.mapValues, source, Source.map,
      Source.mapValues]

theorem selectingKey_replaced (c : Clauses Fragment) (key : String) :
    (replaced f c).selectingKey key = replaced f (c.selectingKey key) := by
  unfold Clauses.selectingKey
  rw [table?_replaced]
  rfl

theorem isEmpty_joins_replaced (c : Clauses Fragment) :
    (replaced f c).joins.isEmpty = c.joins.isEmpty := by
  simp [replaced, Clauses.map, Clauses.mapValues]

theorem mapValues_keyedWrite (head : Fragment) (key : String) (c : Clauses Fragment) :
    (s.keyedWrite head key c).mapValues f =
      s.keyedWrite (head.mapValues f) key (replaced f c) := by
  unfold keyedWrite
  rw [isEmpty_joins_replaced, selectingKey_replaced, show (replaced f c).limit = c.limit from rfl,
    ← mapValues_conditionSegment]
  split
  · simp
  · simp [mapValues_select]

theorem update_mapValues (c : Clauses Fragment) (r : Record) :
    s.update (replaced f c) (r.mapValues f) =
      (s.update c r).map (Fragment.mapValues f) := by
  unfold update
  rw [written_replaced]
  apply bind_map_except
  intro target
  cases s.dialect.rowKey with
  | some key =>
    have head : (cat ["update ", target, " set ", plainAssignments r]).mapValues f =
        cat ["update ", target.mapValues f, " set ", plainAssignments (r.mapValues f)] := by
      simp [mapValues_plainAssignments]
    apply congrArg Except.ok
    rw [mapValues_keyedWrite, head]
  | none =>
    have ordered : (if c.joins.isEmpty then s.orderSegment c ++ limitSegment c else []).map
        (Fragment.mapValues f) =
        if (replaced f c).joins.isEmpty
          then s.orderSegment (replaced f c) ++ limitSegment (replaced f c) else [] := by
      rw [isEmpty_joins_replaced]
      split
      · rw [List.map_append, mapValues_orderSegment, map_mapValues_limitSegment]
        rfl
      · rfl
    apply congrArg Except.ok
    simp only [mapValues_joined, List.map_append, List.map_cons, List.map_nil, mapValues_cat,
      mapValues_ofText, mapValues_assignments, mapValues_joinSegment,
      mapValues_conditionSegment, ordered]

@[simp] theorem mapValues_deletedName (c : Clauses Fragment) :
    (s.deletedName c).mapValues f = s.deletedName c := by
  apply mapValues_of_bindings_eq_nil
  unfold deletedName
  split <;> simp

theorem delete_mapValues (c : Clauses Fragment) :
    s.delete (replaced f c) = (s.delete c).map (Fragment.mapValues f) := by
  unfold delete
  rw [written_replaced]
  apply bind_map_except
  intro target
  have head : (cat ["delete from ", target]).mapValues f =
      cat ["delete from ", target.mapValues f] := by
    simp
  cases s.dialect.rowKey with
  | some key =>
    apply congrArg Except.ok
    rw [mapValues_keyedWrite, head]
  | none =>
    have name : s.deletedName (replaced f c) = s.deletedName c := by
      unfold deletedName
      rw [table?_replaced]
    have joins : s.joins (replaced f c).joins = (s.joins c.joins).mapValues f := by
      simp [replaced, Clauses.map, Clauses.mapValues, mapValues_joins, Function.comp_def]
    have limits : limitSegment (replaced f c) = (limitSegment c).map (Fragment.mapValues f) :=
      (map_mapValues_limitSegment f c).symm
    simp only [isEmpty_joins_replaced, name, joins, limits, ← mapValues_conditionSegment,
      ← mapValues_orderSegment]
    cases c.joins.isEmpty with
    | true => exact congrArg Except.ok (by simp)
    | false => exact congrArg Except.ok (by simp)

theorem truncate_mapValues (c : Clauses Fragment) :
    s.truncate (replaced f c) = (s.truncate c).map (Fragment.mapValues f) := by
  unfold truncate
  rw [written_replaced]
  apply bind_map_except
  intro target
  cases s.dialect with
  | postgres => exact congrArg Except.ok (by simp)
  | sqlite => exact congrArg Except.ok (by simp)
  | generic | mysql => exact congrArg Except.ok (by simp)

end Setting

/-! ## Requests -/

namespace Request

variable (f : Value → Value) (s : Setting)

theorem compile_mapValues (c : Clauses Fragment) (r : Request) :
    (r.mapValues f).compile s (Setting.replaced f c) =
      (r.compile s c).map (Fragment.mapValues f) := by
  cases r with
  | select => exact congrArg Except.ok (s.mapValues_select f c).symm
  | holdsRow =>
    apply congrArg Except.ok
    simp [Setting.holdsRow, s.mapValues_select f c]
  | insert records => exact s.insert_mapValues f c records
  | insertOrIgnore records => exact s.insertOrIgnore_mapValues f c records
  | insertGetId record key => exact s.insertGetId_mapValues f c record key
  | insertUsing columns rows =>
    simp only [mapValues, compile]
    rw [s.query_mapValues f rows]
    exact s.insertUsing_mapValues f c columns (s.query rows)
  | upsert records uniqueBy updated => exact s.upsert_mapValues f c records uniqueBy updated
  | update record => exact s.update_mapValues f c record
  | delete => exact s.delete_mapValues f c
  | truncate => exact s.truncate_mapValues f c

/-- Whatever is asked and whatever values it is asked with, the text of the answer and the misuse
that prevents it stay the same; the values follow in their places. -/
theorem statement_mapValues (c : Clauses Query) (r : Request) :
    (r.mapValues f).statement s (c.mapAllValues f) =
      (r.statement s c).map fun answer => ⟨answer.sql, answer.bindings.map f⟩ := by
  unfold statement
  rw [s.compiled_mapAllValues f c, compile_mapValues]
  cases r.compile s (s.compiled c) <;> rfl

end Request

end SqlComposer
