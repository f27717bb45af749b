import SqlComposer.Proofs.Statement.Within

/-!
Names and operands are phrases. A name is cut into parts before it is quoted, and the parts of a
name of a lexicon are names of it.
-/

namespace SqlComposer

open Fragment

/-! ## Parts of names -/

namespace Text

theorem mem_of_mem_trim {s : String} {c : Char} (mem : c ∈ (trim s).toList) : c ∈ s.toList := by
  rw [toList_trim, dropEndBlanks, List.mem_reverse] at mem
  have inside := (List.dropWhile_suffix _).subset mem
  rw [List.mem_reverse] at inside
  exact (List.dropWhile_suffix _).subset inside

theorem mem_of_afterAs {cs rest : List Char} (cut : afterAs cs = some rest) {c : Char}
    (mem : c ∈ rest) : c ∈ cs := by
  unfold afterAs at cut
  split at cut
  · split at cut
    · cases cut
      simp [mem]
    · cases cut
  · cases cut

theorem mem_of_cutLastAs {cs before after : List Char}
    (cut : cutLastAs cs = some (before, after)) {c : Char} (mem : c ∈ before ∨ c ∈ after) :
    c ∈ cs := by
  induction cs generalizing before with
  | nil => cases cut
  | cons d rest ih =>
    rw [cutLastAs] at cut
    split at cut
    · next found =>
      cases cut
      rcases mem with mem | mem
      · rcases List.mem_cons.mp mem with rfl | mem
        · exact List.mem_cons_self
        · exact List.mem_cons_of_mem d (ih found (.inl mem))
      · exact List.mem_cons_of_mem d (ih found (.inr mem))
    · rcases Option.map_eq_some_iff.mp cut with ⟨last, found, same⟩
      cases same
      rcases mem with mem | mem
      · cases mem
      · exact mem_of_afterAs found mem

end Text

namespace Lexicon

variable {L : Lexicon} {s : String}

theorem name_trim (name : L.Name s) : L.Name (Text.trim s) :=
  fun c mem => name c (Text.mem_of_mem_trim mem)

theorem name_splitLabel (name : L.Name s) :
    L.Name (splitLabel s).1 ∧ ∀ label ∈ (splitLabel s).2, L.Name label := by
  unfold splitLabel
  split
  · next before after cut =>
    have first : L.Name (String.ofList before) :=
      name_ofList fun c mem => name c (Text.mem_of_cutLastAs cut (.inl mem))
    have second : L.Name (String.ofList after) :=
      name_ofList fun c mem => name c (Text.mem_of_cutLastAs cut (.inr mem))
    refine ⟨name_trim first, ?_⟩
    intro label mem
    cases mem
    exact name_trim second
  · exact ⟨name_trim name, fun label mem => by cases mem⟩

theorem name_cutLastDot (name : L.Name s) {before after : String}
    (cut : Text.cutLastDot s = some (before, after)) : L.Name before ∧ L.Name after := by
  rcases Option.map_eq_some_iff.mp cut with ⟨⟨first, second⟩, found, same⟩
  cases same
  have whole := (Text.eq_append_of_cutLast found).1
  constructor
  · exact name_ofList fun c mem => name c (by rw [whole]; exact List.mem_append_left _ mem)
  · exact name_ofList fun c mem =>
      name c (by rw [whole]; exact List.mem_append_right _ (List.mem_cons_of_mem _ mem))

theorem name_unqualified (name : L.Name s) : L.Name (unqualified s) := by
  unfold unqualified
  split
  · next cut => exact (name_cutLastDot name cut).2
  · exact name

end Lexicon

theorem Name.within_parse {L : Lexicon} {s : String} (name : L.Name s) : (Name.parse s).Within L :=
  ⟨fun own mem => (by cases mem), Lexicon.name_splitLabel name⟩

theorem Name.Within.reference {L : Lexicon} {n : Name} (within : n.Within L) :
    L.Name n.reference := by
  unfold Name.reference
  cases label : n.label with
  | none => exact within.2.1
  | some text => exact within.2.2 text label

/-! ## Names and operands -/

namespace Phrase

variable {L : Lexicon} {own : String}

theorem prefixed (prefixName : L.Name own) {text : String} (name : L.Name text) :
    Phrase L .room .item (Fragment.prefixed own text) := by
  unfold Fragment.prefixed
  split
  · next cut =>
    rcases Lexicon.name_cutLastDot name cut with ⟨schema, table⟩
    exact .cat_cons (.ident schema) <| .cat_cons (.separator (by simp)) <|
      .cat_singleton (.ident (Lexicon.name_append prefixName table))
  · exact .ident (Lexicon.name_append prefixName name)

theorem labelled {f : Fragment} (phrase : Phrase L .room .item f) {label : Option String}
    (name : ∀ text ∈ label, L.Name text) : Phrase L .room .item (Fragment.labelled f label) := by
  cases label with
  | none => exact phrase
  | some text =>
    exact .cat_cons phrase <| .cat_cons (.separator (by simp)) <|
      .cat_singleton (.ident (name text rfl))

theorem column (prefixName : L.Name own) {text : String} (name : L.Name text) :
    Phrase L .room .item (Fragment.column own text) := by
  rcases Lexicon.name_splitLabel name with ⟨reference, label⟩
  refine .labelled ?_ label
  split
  · next cut =>
    rcases Lexicon.name_cutLastDot reference cut with ⟨table, column⟩
    exact .cat_cons (.prefixed prefixName table) <|
      .cat_cons (.separator (by simp)) <| .cat_singleton (.ident column)
  · exact .ident reference

theorem columns (prefixName : L.Name own) {list : List String}
    (names : ∀ text ∈ list, L.Name text) : Phrase L .room .item (Fragment.columns own list) := by
  apply Phrase.commas
  intro f mem
  rcases List.mem_map.mp mem with ⟨text, listed, rfl⟩
  exact .column prefixName (names text listed)

theorem table (prefixName : L.Name own) {n : Name} (within : n.Within L) :
    Phrase L .room .item (Fragment.table own n) := by
  have pinned : L.Name (n.pinned.getD own) := by
    cases pinned : n.pinned with
    | none => exact prefixName
    | some text => exact within.1 text pinned
  refine .labelled (.prefixed pinned within.2.1) ?_
  intro text mem
  rcases Option.map_eq_some_iff.mp mem with ⟨label, found, rfl⟩
  exact Lexicon.name_append pinned (within.2.2 label found)

theorem tableText (prefixName : L.Name own) {text : String} (name : L.Name text) :
    Phrase L .room .item (Fragment.tableText own text) :=
  .table prefixName (Name.within_parse name)

theorem idents {names : List String} (within : ∀ name ∈ names, L.Name name) :
    Phrase L .room .item (Fragment.idents names) := by
  apply Phrase.commas
  intro f mem
  rcases List.mem_map.mp mem with ⟨name, listed, rfl⟩
  exact .ident (within name listed)

theorem operand {o : Operand} (within : o.Within L) :
    Phrase L .room .item (Fragment.operand o) := by
  cases o with
  | value v => exact .bind v
  | expression sql => exact .expression within

theorem operands {list : List Operand} (within : ∀ o ∈ list, o.Within L) :
    Phrase L .room .item (Fragment.operands list) := by
  apply Phrase.commas
  intro f mem
  rcases List.mem_map.mp mem with ⟨o, listed, rfl⟩
  exact .operand (within o listed)

end Phrase

end SqlComposer
