import SqlComposer.Proofs.Statement.Grammar.Select

/-!
Changes are phrases as well, so whatever is asked of clauses whose texts come from a lexicon, the
answer is put together from fixed wordings, quoted names, slots and texts of that lexicon
(`Request.phrase_of_compile`).
-/

namespace SqlComposer

open Fragment

namespace Setting

variable {L : Lexicon} {s : Setting}

/-! ## Inserts, updates and deletes -/

theorem phrase_insertRow {columns : List String} {r : Record} {f : Fragment}
    (record : r.Within L) (made : insertRow columns r = .ok f) :
    Phrase L .room .item f := by
  rcases Misuse.ok_of_bind made with ⟨list, found, rest⟩
  cases rest
  have within : ∀ o ∈ list, o.Within L := by
    intro o mem
    unfold rowOperands at found
    split at found
    · rcases Misuse.mem_of_mapM found mem with ⟨column, _, got⟩
      split at got
      · next operand same =>
        cases got
        rcases Option.map_eq_some_iff.mp same with ⟨entry, listed, rfl⟩
        exact (record entry (List.mem_of_find?_eq_some listed)).2
      · cases got
    · cases found
  exact .cat_cons (.opening (by simp)) <| .cat_cons (.operands within) <|
    .cat_singleton (.closing (by simp))

section Changes

variable {c : Clauses Fragment} {f : Fragment} (prefixName : L.Name s.tablePrefix)

include prefixName

theorem phrase_assignments {r : Record} (record : r.Within L) :
    Phrase L .room .item (s.assignments r) := by
  apply Phrase.commas
  intro f mem
  rcases List.mem_map.mp mem with ⟨entry, listed, rfl⟩
  rcases record entry listed with ⟨name, operand⟩
  exact .cat_cons (.column prefixName name) <| .cat_cons (.separator (by simp)) <|
    .cat_singleton (.operand operand)

omit prefixName in
theorem phrase_plainAssignments {r : Record} (record : r.Within L) :
    Phrase L .room .item (plainAssignments r) := by
  apply Phrase.commas
  intro f mem
  rcases List.mem_map.mp mem with ⟨entry, listed, rfl⟩
  rcases record entry listed with ⟨name, operand⟩
  exact .cat_cons (.ident (Lexicon.name_unqualified name)) <| .cat_cons (.separator (by simp)) <|
    .cat_singleton (.operand operand)

variable (within : c.Within L (Phrase L .room .item))

include within

theorem phrase_written (written : s.written c = .ok f) : Phrase L .room .item f := by
  have source := within.source
  unfold Setting.written at written
  split at written
  · next name found =>
    cases written
    exact .table prefixName (source _ found)
  · next sql found =>
    cases written
    exact .raw (source _ found)
  · cases written

theorem phrase_insertAs {verb : String} (known : Wording L .room .item verb)
    {records : List Record} (all : ∀ r ∈ records, r.Within L)
    (made : s.insertAs verb c records = .ok f) : Phrase L .room .item f := by
  rcases Misuse.ok_of_bind made with ⟨target, written, rest⟩
  have named := phrase_written prefixName within written
  have head : Wording L .room .room (verb ++ " into ") := .append known (.separator (by simp))
  split at rest
  · cases rest
    exact .cat_cons (.text head) <| .cat_cons named <| .cat_singleton (.closing (by simp))
  · next first found =>
    rcases Misuse.ok_of_bind rest with ⟨rows, listed, last⟩
    cases last
    have mem : first ∈ records := by
      cases records with
      | nil => cases found
      | cons r more =>
        have same := (Option.filter_eq_some_iff.mp found).1
        cases same
        exact List.mem_cons_self
    have columns : ∀ column ∈ first.columns, L.Name column := by
      intro column inside
      rcases List.mem_map.mp inside with ⟨entry, entered, rfl⟩
      exact (all first mem entry entered).1
    have filled : ∀ row ∈ rows, Phrase L .room .item row := by
      intro row inside
      rcases Misuse.mem_of_mapM listed inside with ⟨r, present, built⟩
      exact phrase_insertRow (all r present) built
    exact .cat_cons (.text head) <| .cat_cons named <| .cat_cons (.separator (by simp)) <|
      .cat_cons (.columns prefixName columns) <| .cat_cons (.separator (by simp)) <|
      .cat_singleton (.commas filled)

theorem phrase_insert {records : List Record} (all : ∀ r ∈ records, r.Within L)
    (made : s.insert c records = .ok f) : Phrase L .room .item f :=
  phrase_insertAs prefixName within (.entry (by simp)) all made

theorem phrase_insertOrIgnore {records : List Record} (all : ∀ r ∈ records, r.Within L)
    (made : s.insertOrIgnore c records = .ok f) : Phrase L .room .item f := by
  unfold Setting.insertOrIgnore at made
  split at made
  · cases made
  · exact phrase_insertAs prefixName within (.entry (by simp)) all made
  · exact phrase_insertAs prefixName within (.entry (by simp)) all made
  · rcases Misuse.ok_of_bind made with ⟨inserted, first, rest⟩
    cases rest
    exact .cat_cons (phrase_insert prefixName within all first) <|
      .cat_singleton (.closing (by simp))

theorem phrase_insertGetId {r : Record} (record : r.Within L) {key : String} (name : L.Name key)
    (made : s.insertGetId c r key = .ok f) : Phrase L .room .item f := by
  rcases Misuse.ok_of_bind made with ⟨inserted, first, rest⟩
  have phrase := phrase_insert prefixName within
    (fun other mem => List.mem_singleton.mp mem ▸ record) first
  cases rest
  cases s.dialect.returnsInsertedId with
  | false => exact phrase
  | true =>
    exact .cat_cons phrase <| .cat_cons (.separator (by simp)) <| .cat_singleton (.ident name)

theorem phrase_insertUsing {columns : List String} (names : ∀ column ∈ columns, L.Name column)
    {rows : Fragment} (selected : Phrase L .room .item rows)
    (made : s.insertUsing c columns rows = .ok f) : Phrase L .room .item f := by
  rcases Misuse.ok_of_bind made with ⟨target, written, rest⟩
  have named := phrase_written prefixName within written
  cases rest
  cases columns.isEmpty with
  | true =>
    exact .cat_cons (.opening (by simp)) <| .cat_cons named <| .cat_cons (.separator (by simp)) <|
      .cat_singleton selected
  | false =>
    exact .cat_cons (.opening (by simp)) <| .cat_cons named <| .cat_cons (.separator (by simp)) <|
      .cat_cons (.columns prefixName names) <| .cat_cons (.separator (by simp)) <|
      .cat_singleton selected

theorem phrase_upsert {records : List Record} (all : ∀ r ∈ records, r.Within L)
    {uniqueBy updated : List String} (keys : ∀ column ∈ uniqueBy, L.Name column)
    (names : ∀ column ∈ updated, L.Name column)
    (made : s.upsert c records uniqueBy updated = .ok f) : Phrase L .room .item f := by
  have excluded : L.Name "excluded" := Lexicon.name_of_plain (by decide)
  have replaced : ∀ assigned ∈ updated.map fun column =>
      cat [ident column, " = values(", ident column, ")"], Phrase L .room .item assigned := by
    intro assigned mem
    rcases List.mem_map.mp mem with ⟨column, listed, rfl⟩
    have name : Phrase L .room .item (ident column) := .ident (names column listed)
    exact .cat_cons name <| .cat_cons (.separator (by simp)) <| .cat_cons name <|
      .cat_singleton (.closing (by simp))
  have proposed : ∀ assigned ∈ updated.map fun column =>
      cat [ident column, " = ", ident "excluded", ".", ident column],
      Phrase L .room .item assigned := by
    intro assigned mem
    rcases List.mem_map.mp mem with ⟨column, listed, rfl⟩
    have name : Phrase L .room .item (ident column) := .ident (names column listed)
    exact .cat_cons name <| .cat_cons (.separator (by simp)) <| .cat_cons (.ident excluded) <|
      .cat_cons (.separator (by simp)) <| .cat_singleton name
  unfold Setting.upsert at made
  split at made
  · cases made
  · split at made
    · exact phrase_insertOrIgnore prefixName within all made
    · rcases Misuse.ok_of_bind made with ⟨inserted, first, rest⟩
      cases rest
      exact .cat_cons (phrase_insert prefixName within all first) <|
        .cat_cons (.separator (by simp)) <| .cat_singleton (.commas replaced)
  · rcases Misuse.ok_of_bind made with ⟨inserted, first, rest⟩
    have conflict : Phrase L .room .room
        (cat [inserted, " on conflict (", idents uniqueBy, ") do "]) :=
      .cat_cons (phrase_insert prefixName within all first) <|
        .cat_cons (.separator (by simp)) <| .cat_cons (.idents keys) <|
        .cat_singleton (.separator (by simp))
    cases rest
    cases updated.isEmpty with
    | true => exact .cat_cons conflict (.cat_singleton (.entry (by simp)))
    | false =>
      exact .cat_cons conflict <| .cat_cons (.opening (by simp)) <|
        .cat_singleton (.commas proposed)

theorem phrase_keyedWrite {head : Fragment} (phrase : Phrase L .room .item head) {key : String}
    (name : L.Name key) : Phrase L .room .item (s.keyedWrite head key c) := by
  unfold Setting.keyedWrite
  split
  · apply Phrase.joined
    intro g mem
    rcases List.mem_cons.mp mem with rfl | mem
    · exact phrase
    · exact phrase_conditionSegment prefixName within g mem
  · have point : L.Name "." := Lexicon.name_of_plain (by decide)
    have keyed : (c.selectingKey key).Within L (Phrase L .room .item) :=
      { within with
        columns := by
          intro selection mem
          rw [List.mem_singleton.mp mem]
          change L.Name _
          split
          · next found =>
            have known := within.table?_within found
            exact Lexicon.name_append (Lexicon.name_append known.reference point) name
          · exact name
        unions := fun _ mem => (by cases mem)
        aggregate := fun _ mem => (by cases mem)
        distinct := trivial }
    exact .cat_cons phrase <| .cat_cons (.separator (by simp)) <| .cat_cons (.ident name) <|
      .cat_cons (.separator (by simp)) <| .cat_cons (phrase_select prefixName keyed) <|
      .cat_singleton (.closing (by simp))

omit prefixName within in
theorem name_rowKey {d : Dialect} {key : String} (found : d.rowKey = some key) : L.Name key := by
  cases d <;> cases found <;> exact Lexicon.name_of_plain (by decide)

omit prefixName within in
theorem phrase_limitSegment : ∀ g ∈ limitSegment c, Phrase L .room .item g := by
  intro g mem
  rcases Option.map_eq_some_iff.mp (Option.mem_toList.mp mem) with ⟨limit, _, rfl⟩
  exact .text (.append (.opening (by simp)) (.number limit.toNat))

theorem phrase_update {r : Record} (record : r.Within L) (made : s.update c r = .ok f) :
    Phrase L .room .item f := by
  rcases Misuse.ok_of_bind made with ⟨target, written, rest⟩
  have named := phrase_written prefixName within written
  split at rest
  · next key found =>
    cases rest
    refine phrase_keyedWrite prefixName within ?_ (name_rowKey found)
    exact .cat_cons (.opening (by simp)) <| .cat_cons named <| .cat_cons (.separator (by simp)) <|
      .cat_singleton (phrase_plainAssignments record)
  · cases rest
    apply Phrase.joined
    intro g mem
    simp only [List.mem_append, or_assoc] at mem
    rcases mem with mem | mem | mem | mem | mem
    · rw [List.mem_singleton.mp mem]
      exact .cat_cons (.opening (by simp)) (.cat_singleton named)
    · exact phrase_joinSegment prefixName within g mem
    · rw [List.mem_singleton.mp mem]
      exact .cat_cons (.opening (by simp)) (.cat_singleton (phrase_assignments prefixName record))
    · exact phrase_conditionSegment prefixName within g mem
    · split at mem
      · rcases List.mem_append.mp mem with mem | mem
        · exact phrase_orderSegment prefixName within g mem
        · exact phrase_limitSegment g mem
      · cases mem

theorem phrase_deletedName : Phrase L .room .item (s.deletedName c) := by
  unfold Setting.deletedName
  split
  · next name found =>
    have known := within.table?_within found
    refine .prefixed ?_ known.reference
    cases pinned : name.pinned with
    | none => exact prefixName
    | some own => exact known.1 own pinned
  · exact .skip

theorem phrase_delete (made : s.delete c = .ok f) : Phrase L .room .item f := by
  rcases Misuse.ok_of_bind made with ⟨target, written, rest⟩
  have named := phrase_written prefixName within written
  have head : Phrase L .room .item (cat ["delete from ", target]) :=
    .cat_cons (.opening (by simp)) (.cat_singleton named)
  split at rest
  · next key found =>
    cases rest
    exact phrase_keyedWrite prefixName within head (name_rowKey found)
  · split at rest
    · cases rest
      apply Phrase.joined
      intro g mem
      simp only [List.mem_append, or_assoc] at mem
      rcases mem with mem | mem | mem | mem
      · rw [List.mem_singleton.mp mem]
        exact head
      · exact phrase_conditionSegment prefixName within g mem
      · exact phrase_orderSegment prefixName within g mem
      · exact phrase_limitSegment g mem
    · cases rest
      apply Phrase.joined
      intro g mem
      simp only [List.mem_append, List.mem_cons, List.not_mem_nil, or_false, or_assoc] at mem
      rcases mem with rfl | rfl | mem
      · exact .cat_cons (.opening (by simp)) <|
          .cat_cons (phrase_deletedName prefixName within) <|
          .cat_cons (.separator (by simp)) <| .cat_singleton named
      · exact phrase_joins prefixName within.joins
      · exact phrase_conditionSegment prefixName within g mem

theorem phrase_truncate (made : s.truncate c = .ok f) : Phrase L .room .item f := by
  rcases Misuse.ok_of_bind made with ⟨target, written, rest⟩
  have named := phrase_written prefixName within written
  cases rest
  cases s.dialect with
  | postgres =>
    exact .cat_cons (.opening (by simp)) <| .cat_cons named <| .cat_singleton (.closing (by simp))
  | sqlite => exact .cat_cons (.opening (by simp)) (.cat_singleton named)
  | generic | mysql => exact .cat_cons (.opening (by simp)) (.cat_singleton named)

end Changes

end Setting

/-! ## Requests -/

/-- Whatever is asked in the terms of a lexicon, the fragment that answers is a phrase. -/
theorem Request.phrase_of_compile {L : Lexicon} {s : Setting} {c : Clauses Query} {r : Request}
    {f : Fragment} (prefixName : L.Name s.tablePrefix) (clauses : c.Within L (Query.Within L))
    (request : r.Within L) (made : r.compile s (s.compiled c) = .ok f) :
    Phrase L .room .item f := by
  have within := Setting.within_compiled prefixName clauses
  cases r with
  | select =>
    cases made
    exact Setting.phrase_select prefixName within
  | holdsRow =>
    cases made
    exact Setting.phrase_holdsRow prefixName within
  | insert records => exact Setting.phrase_insert prefixName within request made
  | insertOrIgnore records => exact Setting.phrase_insertOrIgnore prefixName within request made
  | insertGetId record key =>
    exact Setting.phrase_insertGetId prefixName within request.1 request.2 made
  | insertUsing columns rows =>
    exact Setting.phrase_insertUsing prefixName within request.1
      (Setting.phrase_query prefixName request.2) made
  | upsert records uniqueBy updated =>
    exact Setting.phrase_upsert prefixName within request.1 request.2.1 request.2.2 made
  | update record => exact Setting.phrase_update prefixName within request made
  | delete => exact Setting.phrase_delete prefixName within made
  | truncate => exact Setting.phrase_truncate prefixName within made

end SqlComposer
