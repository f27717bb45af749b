import SqlComposer.Proofs.Statement.Values

/-!
Statements that all dialects write alike. A dialect has its own way with aggregates, parts of
dates, unions, locks, offsets without a limit and rows told apart by columns; a statement without
any of these at any depth is compiled to one fragment by all dialects (`Setting.query_eq`). What a
statement binds is the same in all dialects whatever stands in it (`Setting.bindings_query`).
-/

namespace SqlComposer

variable {A B Q : Type}

/-! ## Clauses without anything of a dialect's own -/

def Condition.comparesDate : Condition Q → Bool
  | .compareDate .. => true
  | _ => false

def Conditions.Undated (l : Conditions Q) : Prop :=
  ∀ leaf ∈ Condition.allLeaves l, leaf.comparesDate = false

structure Clauses.Common (c : Clauses Q) : Prop where
  aggregate : c.aggregate = none
  unions : c.unions = []
  lock : c.lock = none
  limited : c.offset ≠ none → c.limit ≠ none
  distinct : ∀ columns, c.distinct ≠ .on columns
  conditions : Conditions.Undated c.conditions
  joins : ∀ j ∈ c.joins, Conditions.Undated j.conditions

def Query.Portable (q : Query) : Prop := q.fold fun c => c.Common ∧ ∀ sub ∈ c.subs, sub

theorem Condition.comparesDate_map (f : A → B) (c : Condition A) :
    (c.map f).comparesDate = c.comparesDate := by
  cases c <;> simp only [Condition.map, Condition.comparesDate]

theorem Conditions.undated_mapList {f : A → B} {l : Conditions A} :
    Conditions.Undated (Condition.mapList f l) ↔ Conditions.Undated l := by
  simp only [Conditions.Undated, Condition.allLeaves_map, List.forall_mem_map,
    Condition.comparesDate_map]

theorem Clauses.common_map {f : A → B} {c : Clauses A} : (c.map f).Common ↔ c.Common := by
  have joins : (∀ j ∈ (c.map f).joins, Conditions.Undated j.conditions) ↔
      ∀ j ∈ c.joins, Conditions.Undated j.conditions := by
    simp only [Clauses.map, Join.map, List.forall_mem_map, Conditions.undated_mapList]
  constructor
  · intro common
    exact
      { aggregate := common.aggregate
        unions := List.map_eq_nil_iff.mp common.unions
        lock := common.lock
        limited := common.limited
        distinct := common.distinct
        conditions := Conditions.undated_mapList.mp common.conditions
        joins := joins.mp common.joins }
  · intro common
    exact
      { aggregate := common.aggregate
        unions := List.map_eq_nil_iff.mpr common.unions
        lock := common.lock
        limited := common.limited
        distinct := common.distinct
        conditions := Conditions.undated_mapList.mpr common.conditions
        joins := joins.mpr common.joins }

theorem Query.portable_mk {c : Clauses Query} :
    (Query.mk c).Portable ↔ c.Common ∧ ∀ q ∈ c.subs, q.Portable := by
  rw [Query.Portable, Query.fold_mk, Clauses.common_map, Clauses.subs_map, List.forall_mem_map]
  rfl

/-! ## One fragment for all dialects -/

namespace Setting

variable (d e : Dialect) (p : String)

mutual

theorem condition_eq :
    ∀ c : Condition Fragment, (∀ leaf ∈ c.leaves, leaf.comparesDate = false) →
      (⟨d, p⟩ : Setting).condition c = (⟨e, p⟩ : Setting).condition c
  | .nested list, undated => by
    simp only [Setting.condition]
    rw [conditions_eq list undated]
  | .compareDate part name operator o, undated => by
    have := undated (.compareDate part name operator o) (by simp [Condition.leaves])
    simp [Condition.comparesDate] at this
  | .compare .., _ | .compareSub .., _ | .raw .., _ | .between .., _ | .inList .., _
  | .inSub .., _ | .isNull .., _ | .compareColumns .., _ | .holdsRow .., _ => rfl

theorem conditions_eq :
    ∀ l : Conditions Fragment, Conditions.Undated l →
      (⟨d, p⟩ : Setting).conditions l = (⟨e, p⟩ : Setting).conditions l
  | [], _ => rfl
  | (_, first) :: rest, undated => by
    have both := List.forall_mem_append.mp undated
    simp only [Setting.conditions]
    rw [condition_eq first both.1, furtherConditions_eq rest both.2]

theorem furtherConditions_eq :
    ∀ l : Conditions Fragment, Conditions.Undated l →
      (⟨d, p⟩ : Setting).furtherConditions l = (⟨e, p⟩ : Setting).furtherConditions l
  | [], _ => rfl
  | (_, next) :: rest, undated => by
    have both := List.forall_mem_append.mp undated
    simp only [Setting.furtherConditions]
    rw [condition_eq next both.1, furtherConditions_eq rest both.2]

end

theorem join_eq {j : Join Fragment} (undated : Conditions.Undated j.conditions) :
    (⟨d, p⟩ : Setting).join j = (⟨e, p⟩ : Setting).join j := by
  simp only [Setting.join]
  rw [conditions_eq d e p j.conditions undated]
  rfl

theorem distinct_eq {mode : Distinct} (whole : ∀ columns, mode ≠ .on columns) :
    (⟨d, p⟩ : Setting).distinct mode = (⟨e, p⟩ : Setting).distinct mode := by
  cases mode with
  | off => rfl
  | rows => rfl
  | on columns => exact absurd rfl (whole columns)

theorem limitOffset_eq {limit offset : Option UInt64} (limited : offset ≠ none → limit ≠ none) :
    d.limitOffset limit offset = e.limitOffset limit offset := by
  cases limit with
  | some n => cases offset <;> rfl
  | none =>
    cases offset with
    | none => rfl
    | some n => exact absurd rfl (limited (Option.some_ne_none n))

theorem select_eq {c : Clauses Fragment} (common : c.Common) :
    (⟨d, p⟩ : Setting).select c = (⟨e, p⟩ : Setting).select c := by
  have projection : (⟨d, p⟩ : Setting).projection c = (⟨e, p⟩ : Setting).projection c := by
    simp only [Setting.projection]
    rw [distinct_eq d e p common.distinct]
    rfl
  have joins : (⟨d, p⟩ : Setting).joins c.joins = (⟨e, p⟩ : Setting).joins c.joins := by
    simp only [Setting.joins]
    rw [List.map_congr_left fun j member => join_eq d e p (common.joins j member)]
  have conditions : (⟨d, p⟩ : Setting).whereClause c.conditions =
      (⟨e, p⟩ : Setting).whereClause c.conditions := by
    simp only [Setting.whereClause]
    rw [conditions_eq d e p c.conditions common.conditions]
  have limits := limitOffset_eq d e common.limited
  have bodies : (⟨d, p⟩ : Setting).body c = (⟨e, p⟩ : Setting).body c := by
    simp only [Setting.body, common.aggregate, common.lock]
    rw [projection, joins, conditions, limits]
    rfl
  simpa [Setting.select, Setting.united, common.aggregate, common.unions] using bodies

/-- A portable statement is compiled to the same fragment in all dialects. -/
theorem query_eq {q : Query} (portable : q.Portable) :
    (⟨d, p⟩ : Setting).query q = (⟨e, p⟩ : Setting).query q := by
  induction q using Query.induction with
  | step c ih =>
    obtain ⟨common, subs⟩ := Query.portable_mk.mp portable
    have compiled : (⟨d, p⟩ : Setting).compiled c = (⟨e, p⟩ : Setting).compiled c :=
      Clauses.map_congr fun q member => ih q member (subs q member)
    rw [Setting.query_mk, Setting.query_mk, compiled]
    exact select_eq d e p (Clauses.common_map.mpr common)

end Setting

/-! ## One list of values for all dialects -/

def Fragment.bound (f : Fragment) : Fragment := ⟨[], f.bindings⟩

theorem Clauses.values_map_bound (c : Clauses Fragment) :
    (c.map Fragment.bound).values = c.values := by
  have leaf (leaf : Condition Fragment) :
      (leaf.map Fragment.bound).leafValues = leaf.leafValues := by
    cases leaf <;> simp only [Condition.map, Condition.leafValues, Fragment.bound]
  have conditions (l : Conditions Fragment) :
      Conditions.values (Condition.mapList Fragment.bound l) = Conditions.values l := by
    simp only [Conditions.values, Condition.allLeaves_map, List.flatMap_map, leaf]
  have selection (s : Selection Fragment) : (s.map Fragment.bound).values = s.values := by
    cases s <;> rfl
  have source (s : Source Fragment) : (s.map Fragment.bound).values = s.values := by
    cases s <;> rfl
  have target (t : JoinTarget Fragment) : (t.map Fragment.bound).values = t.values := by
    cases t <;> rfl
  have join (j : Join Fragment) : (j.map Fragment.bound).values = j.values := by
    simp only [Join.map, Join.values, target, conditions]
  have order (o : Order Fragment) : (o.map Fragment.bound).values = o.values := by
    cases o <;> rfl
  funext k
  cases k with
  | source => cases h : c.source <;> simp [Clauses.map, Clauses.values, h, source]
  | select => simp [Clauses.map, Clauses.values, List.flatMap_map, selection]
  | join => simp [Clauses.map, Clauses.values, List.flatMap_map, join]
  | conditions => exact conditions c.conditions
  | groupBy | having => rfl
  | order | unionOrder => simp [Clauses.map, Clauses.values, List.flatMap_map, order]
  | union => simp [Clauses.map, Clauses.values, List.flatMap_map, Branch.map, Fragment.bound]

theorem Clauses.values_map_congr {f g : A → Fragment} {c : Clauses A}
    (same : ∀ q ∈ c.subs, (f q).bindings = (g q).bindings) :
    (c.map f).values = (c.map g).values := by
  rw [← values_map_bound (c.map f), ← values_map_bound (c.map g), Clauses.map_map,
    Clauses.map_map]
  congr 1
  apply Clauses.map_congr
  intro q member
  simp [Fragment.bound, same q member]

/-- What a statement binds depends neither on the dialect nor on the prefix. -/
theorem Setting.bindings_query (s r : Setting) (q : Query) :
    (s.query q).bindings = (r.query q).bindings := by
  induction q using Query.induction with
  | step c ih =>
    have values : (s.compiled c).values = (r.compiled c).values := Clauses.values_map_congr ih
    have classes : (s.compiled c).writtenClasses = (r.compiled c).writtenClasses := by
      simp [Clauses.writtenClasses, Clauses.bodyClasses, Setting.compiled, Clauses.map]
    rw [Setting.query_mk, Setting.query_mk, Setting.bindings_select_eq,
      Setting.bindings_select_eq, values, classes]

/-! ## Statements -/

def Query.statement (s : Setting) (q : Query) : Statement :=
  (s.query q).statement s.dialect.style

/-- A portable statement is one fragment, which every dialect writes with its own quote and its own
marks, and any statement binds the same values in all dialects. -/
theorem Query.statement_alike (tablePrefix : String) (q : Query) :
    (q.Portable → ∃ f : Fragment, ∀ d : Dialect,
      q.statement ⟨d, tablePrefix⟩ =
        ⟨Piece.render ⟨d.quote, d.placeholder⟩ 1 f.pieces, f.bindings⟩) ∧
    (q.Portable →
      q.statement ⟨.mysql, tablePrefix⟩ = q.statement ⟨.generic, tablePrefix⟩ ∧
      q.statement ⟨.sqlite, tablePrefix⟩ = q.statement ⟨.generic, tablePrefix⟩) ∧
    ∀ d e : Dialect,
      (q.statement ⟨d, tablePrefix⟩).bindings = (q.statement ⟨e, tablePrefix⟩).bindings := by
  have written {d : Dialect} (portable : q.Portable) : q.statement ⟨d, tablePrefix⟩ =
      ((⟨.generic, tablePrefix⟩ : Setting).query q).statement d.style := by
    rw [Query.statement, Setting.query_eq d .generic tablePrefix portable]
  refine ⟨?_, ?_, ?_⟩
  · intro portable
    exact ⟨(⟨.generic, tablePrefix⟩ : Setting).query q, fun d => written portable⟩
  · intro portable
    -- The three dialects have the quote and the mark in common.
    exact ⟨written portable, written portable⟩
  · intro d e
    exact Setting.bindings_query ⟨d, tablePrefix⟩ ⟨e, tablePrefix⟩ q

theorem Query.statement_alike_of_nested_subselects :
    let views : Query := .mk
      { source := some (.table (.parse "views"))
        columns := [.column "post_id"]
        conditions := [(.and, .compare "seen" ">" (.value (.int 7)))]
        distinct := .rows }
    let posts : Query := .mk
      { source := some (.table (.parse "posts as p"))
        columns := [.column "p.id", .raw ⟨"coalesce(title, ?) as title", [.text "none"]⟩,
          .sub views "seen"]
        joins := [⟨.left, .sub views "v", [(.and, .compareColumns "v.post_id" "=" "p.id")]⟩]
        conditions := [(.and, .between "p.rank" (.value (.int 1)) (.expression "now()") true),
          (.or, .nested [(.and, .inSub "p.id" views false), (.or, .isNull "p.draft" true)])]
        orders := [.column "p.id" .desc]
        limit := some 5
        offset := some 10 }
    posts.Portable ∧
      posts.statement ⟨.sqlite, "app_"⟩ = posts.statement ⟨.generic, "app_"⟩ ∧
      posts.statement ⟨.generic, "app_"⟩ =
        ⟨"select `app_p`.`id`, coalesce(title, ?) as title, (select distinct `post_id` from " ++
          "`app_views` where `seen` > ?) as `seen` from `app_posts` as `app_p` left join (select " ++
          "distinct `post_id` from `app_views` where `seen` > ?) as `app_v` on `app_v`.`post_id` " ++
          "= `app_p`.`id` where `app_p`.`rank` not between ? and now() or (`app_p`.`id` in " ++
          "(select distinct `post_id` from `app_views` where `seen` > ?) or `app_p`.`draft` is " ++
          "not null) order by `app_p`.`id` desc limit 5 offset 10",
          [.text "none", .int 7, .int 7, .int 1, .int 7]⟩ ∧
      (posts.statement ⟨.postgres, "app_"⟩).sql =
        "select \"app_p\".\"id\", coalesce(title, $1) as title, (select distinct \"post_id\" from " ++
          "\"app_views\" where \"seen\" > $2) as \"seen\" from \"app_posts\" as \"app_p\" left join " ++
          "(select distinct \"post_id\" from \"app_views\" where \"seen\" > $3) as \"app_v\" on " ++
          "\"app_v\".\"post_id\" = \"app_p\".\"id\" where \"app_p\".\"rank\" not between $4 and " ++
          "now() or (\"app_p\".\"id\" in (select distinct \"post_id\" from \"app_views\" where " ++
          "\"seen\" > $5) or \"app_p\".\"draft\" is not null) order by \"app_p\".\"id\" desc limit 5 " ++
          "offset 10" := by
  intro views posts
  have inner : views.Portable := by
    refine Query.portable_mk.mpr ⟨⟨rfl, rfl, rfl, by simp, by simp, ?_, by simp⟩, ?_⟩
    · simp [Conditions.Undated, Condition.allLeaves, Condition.leaves, Condition.comparesDate]
    · exact List.forall_mem_nil _
  have portable : posts.Portable := by
    refine Query.portable_mk.mpr ⟨⟨rfl, rfl, rfl, by simp, by simp, ?_, ?_⟩, ?_⟩
    · simp [Conditions.Undated, Condition.allLeaves, Condition.leaves, Condition.comparesDate]
    · simp [Conditions.Undated, Condition.allLeaves, Condition.leaves, Condition.comparesDate]
    · intro q member
      have listed : q ∈ [views, views, views] := member
      have same : q = views := by simpa using listed
      rw [same]
      exact inner
  obtain ⟨-, same, -⟩ := Query.statement_alike "app_" posts
  exact ⟨portable, (same portable).2, by decide +kernel, by decide +kernel⟩

end SqlComposer
