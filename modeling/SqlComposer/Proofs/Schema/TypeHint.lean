import SqlComposer.Proofs.Schema.TypeReading
import SqlComposer.Schema.Comment

/-!
Types that are recovered from comments. A dialect stores a hint in front of the user's comment
where the native type is read as another one, and both are read back from the stored comment. A
comment stored without a hint is read back unless it begins like one, since nothing tells the two
apart (`Dialect.recovers_iff`).
-/

namespace SqlComposer

open Text

def LooksHinted (text : String) : Prop :=
  ∃ hint comment : List Char, text.toList = 'T' :: ':' :: hint ++ '|' :: comment

/-! ## Stored comments -/

/-- The parts of a hinted comment stand around its first bar. -/
theorem hintedParts_of_bar {hint : List Char} (bare : '|' ∉ hint) (comment : List Char) :
    hintedParts ('T' :: ':' :: hint ++ '|' :: comment) = some (hint, comment) := by
  have kept : ∀ c ∈ hint, decide (c ≠ '|') = true :=
    fun c mem => decide_eq_true (ne_of_mem_of_not_mem mem bare)
  have taken : (hint ++ '|' :: comment).takeWhile (· ≠ '|') = hint := by
    rw [List.takeWhile_append_of_pos kept, List.takeWhile_cons_of_neg (by decide),
      List.append_nil]
  rw [List.cons_append, List.cons_append, hintedParts, dropWhile_ne_append bare,
    List.dropWhile_cons_of_neg (by decide), taken]

theorem hintedParts_of_not_looksHinted {text : String} (plain : ¬ LooksHinted text) :
    hintedParts text.toList = none := by
  unfold hintedParts
  split
  · next rest written =>
    have absent : '|' ∉ rest := by
      intro bar
      obtain ⟨hint, comment, parts, -⟩ := List.eq_append_cons_of_mem bar
      exact plain ⟨hint, comment, by rw [written, parts]; rfl⟩
    rw [dropWhile_ne_of_not_mem absent]
  · rfl

theorem decodeComment_of_parts {text : String} {hint comment : List Char}
    (parts : hintedParts text.toList = some (hint, comment)) :
    decodeComment (some text) =
      ((ColumnType.parse (String.ofList hint)).toOption, nonempty (String.ofList comment)) := by
  have shown : text ≠ "" := by
    rintro rfl
    cases parts
  simp only [decodeComment, Option.bind_some, nonempty, if_neg shown, parts]

theorem decodeComment_of_plain {text : String} (shown : text ≠ "")
    (plain : ¬ LooksHinted text) : decodeComment (some text) = (none, some text) := by
  simp only [decodeComment, Option.bind_some, nonempty, if_neg shown,
    hintedParts_of_not_looksHinted plain]

/-- A text that reads as a hint and a comment is longer than the comment. -/
theorem decodeComment_ne_of_looksHinted {text : String} (looks : LooksHinted text) :
    (decodeComment (some text)).2 ≠ some text := by
  obtain ⟨before, after, written⟩ := looks
  have bar : '|' ∈ before ++ '|' :: after := List.mem_append_right _ List.mem_cons_self
  obtain ⟨hint, comment, split, bare⟩ := List.eq_append_cons_of_mem bar
  have whole : text.toList = 'T' :: ':' :: hint ++ '|' :: comment := by
    rw [written, List.cons_append, List.cons_append, split]
    rfl
  rw [decodeComment_of_parts (whole ▸ hintedParts_of_bar bare comment)]
  intro same
  have kept : String.ofList comment = text := by
    unfold nonempty at same
    split at same
    · cases same
    · exact Option.some.inj same
  rw [← kept, String.toList_ofList] at whole
  have sized := congrArg List.length whole
  simp only [List.length_append, List.length_cons] at sized
  omega

theorem bar_not_mem_name (type : ColumnType) : '|' ∉ type.name.toList := by
  cases type <;> decide

theorem nonempty_getD {comment : Option String} (stated : comment ≠ some "") :
    nonempty (comment.getD "") = comment := by
  cases comment with
  | none => rfl
  | some text => exact if_neg fun empty => stated (congrArg some empty)

/-! ## Columns -/

section Columns

variable {d : Dialect} {c : Column}

theorem decodeComment_encodeComment (stated : c.comment ≠ some "") :
    decodeComment (encodeComment c true) = (some c.type, c.comment) := by
  have written : ("T:" ++ c.type.name ++ "|" ++ c.comment.getD "").toList =
      'T' :: ':' :: c.type.name.toList ++ '|' :: (c.comment.getD "").toList := by
    simp
  have parts := hintedParts_of_bar (bar_not_mem_name c.type) (c.comment.getD "").toList
  rw [encodeComment, if_pos rfl, decodeComment_of_parts (written ▸ parts), String.ofList_toList,
    String.ofList_toList, ColumnType.parse_name, nonempty_getD stated]
  rfl

structure Dialect.Recovers (d : Dialect) (c : Column) : Prop where
  type : (decodeComment (encodeComment c (d.needsTypeHint c))).1.or (d.readType (d.typeName c)) =
    some c.type
  comment : (decodeComment (encodeComment c (d.needsTypeHint c))).2 = c.comment

structure Dialect.RecoversFrom (d : Dialect) (stored : Option String) (c : Column) : Prop where
  type : (decodeComment stored).1.or (d.readType (d.typeName c)) = some c.type
  comment : (decodeComment stored).2 = c.comment

theorem Dialect.recovers_iff_recoversFrom :
    d.Recovers c ↔ d.RecoversFrom (encodeComment c (d.needsTypeHint c)) c :=
  ⟨fun ⟨type, comment⟩ => ⟨type, comment⟩, fun ⟨type, comment⟩ => ⟨type, comment⟩⟩

theorem Dialect.recoversFrom_of_hint (stated : c.comment ≠ some "") :
    d.RecoversFrom (encodeComment c true) c := by
  have read := decodeComment_encodeComment stated
  exact ⟨by rw [read]; rfl, by rw [read]⟩

theorem Dialect.recoversFrom_of_comment (native : d.readType (d.typeName c) = some c.type)
    {text : String} (written : c.comment = some text) (shown : text ≠ "")
    (plain : ¬ LooksHinted text) : d.RecoversFrom (some text) c := by
  have read := decodeComment_of_plain shown plain
  exact ⟨by rw [read]; exact native, by rw [read, written]⟩

theorem Dialect.needsTypeHint_iff (hints : d = .mysql ∨ d = .postgres) (plain : c.isEnum = false) :
    d.needsTypeHint c = true ↔ d.storedType c.type ≠ c.type := by
  simp [needsTypeHint, plain, readType_typeName hints plain]

theorem Dialect.recovers_of_hint (stated : c.comment ≠ some "")
    (hinted : d.needsTypeHint c = true) : d.Recovers c := by
  rw [recovers_iff_recoversFrom, hinted]
  exact recoversFrom_of_hint stated

theorem Dialect.recovers_iff_of_native (native : d.readType (d.typeName c) = some c.type)
    (stated : c.comment ≠ some "") :
    d.Recovers c ↔ ∀ text, c.comment = some text → ¬ LooksHinted text := by
  have stored : encodeComment c (d.needsTypeHint c) = c.comment := by
    simp [needsTypeHint, native, encodeComment]
  rw [recovers_iff_recoversFrom, stored]
  constructor
  · intro recovered text written looks
    have kept := recovered.comment
    rw [written] at kept
    exact decodeComment_ne_of_looksHinted looks kept
  · intro plain
    cases written : c.comment with
    | none => exact ⟨native, written.symm⟩
    | some text =>
      have shown : text ≠ "" := fun empty => stated (by rw [written, empty])
      exact recoversFrom_of_comment native written shown (plain text written)

/-- The type and the comment are recovered exactly if the native type is read as another one, so
that a hint is stored, or the comment does not look hinted. -/
theorem Dialect.recovers_iff (hints : d = .mysql ∨ d = .postgres) (plain : c.isEnum = false)
    (stated : c.comment ≠ some "") :
    d.Recovers c ↔
      d.storedType c.type ≠ c.type ∨ ∀ text, c.comment = some text → ¬ LooksHinted text := by
  by_cases shared : d.storedType c.type = c.type
  · have native : d.readType (d.typeName c) = some c.type := by
      rw [← shared]
      exact readType_typeName hints plain
    rw [recovers_iff_of_native native stated]
    exact ⟨.inr, fun either => either.resolve_left (not_not_intro shared)⟩
  · have hinted := (needsTypeHint_iff hints plain).mpr shared
    exact iff_of_true (recovers_of_hint stated hinted) (.inl shared)

/-- A type with a hint beside a comment that looks like another, and a comment with a bar beside a
type without a hint. -/
theorem Dialect.recovers_of_misleading_comments :
    let uuid : Column := { name := "id", type := .uuid, comment := some "T:json|key" }
    let price : Column :=
      { name := "price", type := .decimal, precision := some 10, comment := some "net|gross" }
    uuid.isEnum = false ∧ uuid.comment ≠ some "" ∧ mysql.Recovers uuid ∧
      price.isEnum = false ∧ price.comment ≠ some "" ∧ postgres.Recovers price ∧
      encodeComment uuid (mysql.needsTypeHint uuid) = some "T:uuid|T:json|key" := by
  intro uuid price
  have apart : ∀ text, price.comment = some text → ¬ LooksHinted text := by
    intro text kept ⟨hint, comment, written⟩
    cases kept
    cases written
  exact ⟨rfl, by decide, (recovers_iff (.inl rfl) rfl (by decide)).mpr (.inl (by decide)),
    rfl, by decide, (recovers_iff (.inr rfl) rfl (by decide)).mpr (.inr apart), by decide +kernel⟩

theorem Dialect.not_recovers_of_comment_like_hint :
    ¬ mysql.Recovers { name := "n", type := .integer, comment := some "T:uuid|x" } := by
  intro recovered
  exact absurd recovered.comment (by decide +kernel)

end Columns

end SqlComposer
