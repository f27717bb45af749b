import SqlComposer.Proofs.Statement.Identifier
import SqlComposer.Proofs.Statement.KeyedWrite

/-!
The qualifier of the row key in the select that keys a write. The source shows the table under its
own prefix, the key is read as a column under the prefix of the connection. The two agree exactly
where the table pins no other prefix (`Setting.qualifiesKey_iff`); names that were not parsed may
also begin with a blank or hold a label, which a column would lose.
-/

namespace SqlComposer

open Fragment

/-! ## Tables and columns as dotted names -/

theorem splitLabel_eq_none_iff {text : String} :
    (splitLabel text).2 = none ↔ Text.cutLastAs text.toList = none := by
  unfold splitLabel
  cases Text.cutLastAs text.toList <;> simp

theorem Dialect.quotes_apart (d : Dialect) :
    d.style.quote ≠ '*' ∧ d.style.quote ≠ '.' ∧ d.style.quote ≠ ' ' := by
  cases d <;> decide

namespace Fragment

def columnSegments (tablePrefix name : String) : List String :=
  match Text.cutLastDot name with
  | some (table, column) => segments tablePrefix table ++ [column]
  | none => [name]

theorem column_eq_labelled (tablePrefix text : String) :
    column tablePrefix text =
      labelled (dotted (columnSegments tablePrefix (splitLabel text).1)) (splitLabel text).2 := by
  unfold column
  generalize splitLabel text = named
  unfold columnSegments
  cases cut : Text.cutLastDot named.1 with
  | none =>
    simp only [cut]
    rfl
  | some parts =>
    simp only [cut]
    unfold prefixed segments
    cases Text.cutLastDot parts.1 <;> rfl

theorem segments_ne_nil (tablePrefix table : String) : segments tablePrefix table ≠ [] := by
  unfold segments
  split <;> exact List.cons_ne_nil _ _

theorem columnSegments_ne_nil (tablePrefix name : String) :
    columnSegments tablePrefix name ≠ [] := by
  unfold columnSegments
  split <;> simp

theorem columnSegments_append (tablePrefix table : String) {column : String}
    (free : '.' ∉ column.toList) :
    columnSegments tablePrefix (table ++ "." ++ column) =
      segments tablePrefix table ++ [column] := by
  rw [columnSegments, Text.cutLastDot_append table free]

def labelText (style : Style) (label : Option String) : String :=
  label.elim "" fun own => " as " ++ quoteIdentifier style.quote own

theorem render_labelled_dotted (style : Style) (next : Nat) (names : List String)
    (label : Option String) :
    Piece.render style next (labelled (dotted names) label).pieces =
      style.dotted names ++ labelText style label := by
  cases label with
  | none => simp [labelled, labelText, Style.render_dotted]
  | some own =>
    simp [labelled, labelText, Piece.render_append, Style.render_dotted, Piece.render, ident]

theorem eq_of_dotted_from {style : Style}
    (apart : style.quote ≠ '*' ∧ style.quote ≠ '.' ∧ style.quote ≠ ' ')
    {names other : List String} (given : names ≠ []) (present : other ≠ []) {label : Option String}
    {r t : String}
    (same : style.dotted names ++ labelText style label ++ " from " ++ r =
      style.dotted other ++ " from " ++ t) : names = other ∧ label = none := by
  obtain ⟨star, point, space⟩ := apart
  have spaced : ∀ rest : List Char, (' ' :: rest).head? ≠ some style.quote ∧
      (' ' :: rest).head? ≠ some '.' :=
    fun rest => ⟨fun begins => space (Option.some.inj begins).symm, by simp⟩
  have source : " from ".toList = ' ' :: "from ".toList := by decide
  have lists := congrArg String.toList same
  cases label with
  | none =>
    have split : (style.dotted names).toList ++ ' ' :: ("from ".toList ++ r.toList) =
        (style.dotted other).toList ++ ' ' :: ("from ".toList ++ t.toList) := by
      simpa [labelText, source] using lists
    exact ⟨(Style.dotted_append_inj star point given present (spaced _) (spaced _) split).1, rfl⟩
  | some own =>
    have split : (style.dotted names).toList ++ ' ' :: 'a' :: ("s ".toList ++
            (quoteIdentifier style.quote own ++ " from " ++ r).toList) =
        (style.dotted other).toList ++ ' ' :: 'f' :: ("rom ".toList ++ t.toList) := by
      simpa [labelText] using lists
    have later := (Style.dotted_append_inj star point given present (spaced _) (spaced _) split).2
    exact absurd later (by simp)

/-- Nothing or a space is left at the start of what follows a segment. -/
theorem begins_render_trimEndPieces (style : Style) (next : Nat) (rest : List Piece) :
    ∀ c ∈ (Piece.render style next (trimEndPieces (.text " " :: rest))).toList.head?, c = ' ' := by
  have blank : Text.trimEnd " " = "" := by decide
  intro c begins
  cases kept : trimEndPieces rest with
  | nil => simp [trimEndPieces, kept, blank, Piece.render] at begins
  | cons piece rest =>
    simp only [trimEndPieces, kept, Piece.render, String.toList_append] at begins
    exact (Option.some.inj begins).symm

theorem pieces_separated_cons_cons (separator : String) (f g : Fragment) (rest : List Fragment) :
    (separated separator (f :: g :: rest)).pieces =
      f.pieces ++ .text separator :: (separated separator (g :: rest)).pieces := by
  simp [separated]

/-- The text of a first segment and of one that ends in a name, and how it goes on. -/
theorem exists_tail_joined (style : Style) {f g : Fragment} (visible : f.isBlank = false)
    (named : g.EndsInName) (rest : List Fragment) (next : Nat) :
    ∃ tail, (∀ c ∈ tail.toList.head?, c = ' ') ∧
      Piece.render style next (joined (f :: g :: rest)).pieces =
        Piece.render style next f.pieces ++ " " ++
          Piece.render style (next + Piece.slots f.pieces) g.pieces ++ tail := by
  obtain ⟨front, name, own⟩ := named
  have shown : g.isBlank = false := by simp [isBlank, own]
  have kept : (f :: g :: rest).filter (!·.isBlank) = f :: g :: rest.filter (!·.isBlank) := by
    simp [visible, shown]
  have ends : ∃ more, (more = [] ∨ ∃ others, more = .text " " :: others) ∧
      (separated " " (g :: rest.filter (!·.isBlank))).pieces = g.pieces ++ more := by
    cases rest.filter (!·.isBlank) with
    | nil => exact ⟨[], .inl rfl, by simp [separated]⟩
    | cons h others => exact ⟨_, .inr ⟨_, rfl⟩, pieces_separated_cons_cons " " g h others⟩
  obtain ⟨more, start, whole⟩ := ends
  -- Blanks are dropped behind the name only.
  have pieces : (joined (f :: g :: rest)).pieces =
      f.pieces ++ .text " " :: (g.pieces ++ trimEndPieces more) := by
    have split : (separated " " (f :: g :: rest.filter (!·.isBlank))).pieces =
        (f.pieces ++ .text " " :: front) ++ .ident name :: more := by
      rw [pieces_separated_cons_cons, whole, own]
      simp
    rw [joined, kept, split, trimEndPieces_append_ident, own]
    simp
  have text : Piece.render style next (joined (f :: g :: rest)).pieces =
      Piece.render style next f.pieces ++ " " ++
        Piece.render style (next + Piece.slots f.pieces) g.pieces ++
        Piece.render style (next + Piece.slots f.pieces + Piece.slots g.pieces)
          (trimEndPieces more) := by
    rw [pieces, Piece.render_append, Piece.render, Piece.render_append]
    simp only [String.append_assoc]
  refine ⟨_, ?_, text⟩
  rcases start with rfl | ⟨others, rfl⟩
  · simp [trimEndPieces, Piece.render]
  · exact begins_render_trimEndPieces style _ others

end Fragment

/-! ## The qualifier of the key -/

namespace Name

/-- The reference holds no label mark and no blank in front, so that a column keeps it whole. -/
def Plain (n : Name) : Prop :=
  Text.trimStart n.reference = n.reference ∧ Text.cutLastAs n.reference.toList = none

theorem plain_parse (text : String) (pinned : Option String) :
    Plain { Name.parse text with pinned } := by
  have trimmed : ∀ s : String, Text.cutLastAs s.toList = none →
      Text.trimStart (Text.trim s) = Text.trim s ∧ Text.cutLastAs (Text.trim s).toList = none :=
    fun s unmarked =>
      ⟨Text.trimStart_trim s, Text.cutLastAs_eq_none_of_infix (Text.trim_infix s) unmarked⟩
  cases cut : Text.cutLastAs text.toList with
  | none =>
    have whole : Name.parse text = { table := Text.trim text } := by
      simp [Name.parse, splitLabel, cut]
    rw [whole]
    exact trimmed text cut
  | some parts =>
    have whole : Name.parse text =
        { table := Text.trim (String.ofList parts.1)
          label := some (Text.trim (String.ofList parts.2)) } := by
      simp [Name.parse, splitLabel, cut]
    rw [whole]
    exact trimmed (String.ofList parts.2) (by
      rw [String.toList_ofList]
      exact Text.cutLastAs_after cut)

end Name

namespace Setting

variable (s : Setting)

/-- The identifier that a table has behind `from`, in its segments. -/
def exposedAs (name : Name) : List String :=
  let own := name.pinned.getD s.tablePrefix
  match name.label with
  | some label => [own ++ label]
  | none => segments own name.table

def relabelled (name : Name) : String :=
  match name.label with
  | some _ =>
    s.dialect.style.dotted (segments (name.pinned.getD s.tablePrefix) name.table) ++ " as "
  | none => ""

/-- The select that keys a write qualifies the key with the identifier that its source shows,
whatever slots stand before it. -/
def QualifiesKey (c : Clauses Query) (name : Name) (key : String) : Prop :=
  let exposed := s.dialect.style.dotted (s.exposedAs name)
  ∀ next, ∃ tail, (∀ ch ∈ tail.toList.head?, ch = ' ') ∧
    Piece.render s.dialect.style next (s.query (.mk (c.selectingKey key))).pieces =
      "select " ++ exposed ++ "." ++ s.dialect.quoteIdentifier key ++
        " from " ++ s.relabelled name ++ exposed ++ tail

theorem exposedAs_ne_nil (name : Name) : s.exposedAs name ≠ [] := by
  unfold exposedAs
  split
  · exact List.cons_ne_nil _ _
  · exact segments_ne_nil _ _

theorem render_table (name : Name) (next : Nat) :
    Piece.render s.dialect.style next (s.table name).pieces =
      s.relabelled name ++ s.dialect.style.dotted (s.exposedAs name) := by
  unfold table Fragment.table relabelled exposedAs
  simp only [prefixed_eq_dotted]
  cases name.label with
  | none =>
    change Piece.render s.dialect.style next (dotted _).pieces = "" ++ _
    rw [Style.render_dotted, String.empty_append]
  | some label =>
    change Piece.render s.dialect.style next (cat [dotted _, " as ", ident _]).pieces = _
    simp [Piece.render_append, Style.render_dotted, Piece.render, Style.dotted, ident,
      String.append_assoc]

variable {s} {c : Clauses Query} {name : Name} {key : String}

theorem exists_tail_selectingKey (onTable : c.source = some (.table name)) (key : String)
    (next : Nat) :
    ∃ tail, (∀ ch ∈ tail.toList.head?, ch = ' ') ∧
      Piece.render s.dialect.style next (s.query (.mk (c.selectingKey key))).pieces =
        "select " ++
          Piece.render s.dialect.style next (s.column (name.reference ++ "." ++ key)).pieces ++
          " from " ++ s.relabelled name ++ s.dialect.style.dotted (s.exposedAs name) ++ tail := by
  have named := table?_of_source onTable
  have plain : s.query (.mk (c.selectingKey key)) = s.body (s.compiled (c.selectingKey key)) := by
    rw [query_mk]
    rfl
  have whole : ∃ rest, s.body (s.compiled (c.selectingKey key)) =
      joined (cat ["select", " ", commas [s.column (name.reference ++ "." ++ key)]] ::
        cat ["from ", s.table name] :: rest) := by
    rw [selectingKey_of_table? named]
    simp only [body, compiled, Clauses.map, onTable]
    exact ⟨_, rfl⟩
  obtain ⟨rest, made⟩ := whole
  have ends : (cat ["from ", s.table name]).EndsInName := by
    obtain ⟨front, last, own⟩ := s.table_endsInName name
    exact ⟨.text "from " :: front, last, by simp [own]⟩
  have visible : (cat ["select", " ", commas [s.column (name.reference ++ "." ++ key)]]).isBlank =
      false := by simp [isBlank]
  obtain ⟨tail, starts, text⟩ := exists_tail_joined s.dialect.style visible ends rest next
  refine ⟨tail, starts, ?_⟩
  have head : ∀ f : Fragment,
      Piece.render s.dialect.style next (cat ["select", " ", commas [f]]).pieces =
        "select " ++ Piece.render s.dialect.style next f.pieces := by
    intro f
    have wording : "select" ++ " " = "select " := by decide
    rw [← wording, String.append_assoc]
    simp [commas, separated, Piece.render]
  have source : ∀ next, Piece.render s.dialect.style next (cat ["from ", s.table name]).pieces =
      "from " ++ (s.relabelled name ++ s.dialect.style.dotted (s.exposedAs name)) := by
    intro next
    rw [← s.render_table name next]
    simp [Piece.render]
  have wording : " " ++ "from " = " from " := by decide
  rw [plain, made, text, head, source, ← wording]
  simp only [String.append_assoc]

theorem visible_of_rowKey {d : Dialect} (keyed : d.rowKey = some key) :
    '.' ∉ key.toList ∧ ∀ ch ∈ key.toList, Text.isBlank ch = false := by
  have free : '.' ∉ key.toList := by cases d <;> cases keyed <;> decide
  have visible : key.toList.any Text.isBlank = false := by cases d <;> cases keyed <;> decide
  exact ⟨free, fun ch member => by simpa using List.any_eq_false.mp visible ch member⟩

theorem cutLastAs_append_key_iff (keyed : s.dialect.rowKey = some key) (reference : String) :
    Text.cutLastAs (reference ++ "." ++ key).toList = none ↔
      Text.cutLastAs reference.toList = none := by
  obtain ⟨-, visible⟩ := visible_of_rowKey keyed
  have unspaced : ' ' ∉ '.' :: key.toList := by
    intro member
    rcases List.mem_cons.mp member with point | later
    · exact absurd point (by decide)
    · exact absurd (visible _ later) (by decide)
  have whole : (reference ++ "." ++ key).toList = reference.toList ++ '.' :: key.toList := by
    simp
  rw [whole, Text.cutLastAs_append_eq_none_iff unspaced]

theorem splitLabel_append_key (keyed : s.dialect.rowKey = some key) {reference : String}
    (unmarked : Text.cutLastAs reference.toList = none) :
    splitLabel (reference ++ "." ++ key) = (Text.trimStart reference ++ "." ++ key, none) := by
  obtain ⟨-, visible⟩ := visible_of_rowKey keyed
  rw [splitLabel, (cutLastAs_append_key_iff keyed reference).mpr unmarked]
  rw [Text.trim_append_point reference visible]

theorem qualifiesKey_iff_segments (keyed : s.dialect.rowKey = some key)
    (onTable : c.source = some (.table name)) :
    s.QualifiesKey c name key ↔ Text.cutLastAs name.reference.toList = none ∧
      segments s.tablePrefix (Text.trimStart name.reference) = s.exposedAs name := by
  obtain ⟨free, -⟩ := visible_of_rowKey keyed
  have behind := s.dialect.style.dotted_append_singleton (s.exposedAs_ne_nil name) key
  constructor
  · intro qualifies
    obtain ⟨tail, -, shown⟩ := qualifies 1
    obtain ⟨rest, -, text⟩ := exists_tail_selectingKey (s := s) onTable key 1
    rw [text, Setting.column, column_eq_labelled, render_labelled_dotted] at shown
    generalize found : splitLabel (name.reference ++ "." ++ key) = parts at shown
    have exposed : s.exposedAs name ++ [key] ≠ [] := by simp
    have told : columnSegments s.tablePrefix parts.1 = s.exposedAs name ++ [key] ∧ parts.2 = none :=
      eq_of_dotted_from s.dialect.quotes_apart (columnSegments_ne_nil _ _) exposed (by
        simp only [String.append_assoc, String.append_right_inj] at shown
        rw [behind]
        simp only [String.append_assoc]
        exact shown)
    obtain ⟨segmented, unlabelled⟩ := told
    rw [← found] at segmented unlabelled
    have unmarked : Text.cutLastAs name.reference.toList = none := by
      rw [← cutLastAs_append_key_iff keyed, ← splitLabel_eq_none_iff]
      exact unlabelled
    rw [splitLabel_append_key keyed unmarked, columnSegments_append _ _ free] at segmented
    exact ⟨unmarked, List.append_cancel_right segmented⟩
  · rintro ⟨unmarked, same⟩ next
    obtain ⟨tail, starts, text⟩ := exists_tail_selectingKey (s := s) onTable key next
    refine ⟨tail, starts, ?_⟩
    have column : s.column (name.reference ++ "." ++ key) = dotted (s.exposedAs name ++ [key]) := by
      rw [Setting.column, column_eq_labelled, splitLabel_append_key keyed unmarked,
        columnSegments_append _ _ free, same]
      rfl
    rw [text, column, Style.render_dotted, behind]
    simp only [String.append_assoc]
    rfl

/-- Plain names are qualified under the prefix of the connection. -/
theorem segments_reference_eq_exposedAs_iff (unpointed : ∀ l ∈ name.label, '.' ∉ l.toList) :
    segments s.tablePrefix name.reference = s.exposedAs name ↔
      name.pinned.getD s.tablePrefix = s.tablePrefix := by
  have cancel : ∀ a b t : String, a ++ t = b ++ t ↔ b = a := by
    intro a b t
    constructor
    · intro same
      have lists := congrArg String.toList same
      rw [String.toList_append, String.toList_append] at lists
      exact String.toList_injective (List.append_cancel_right lists).symm
    · rintro rfl
      rfl
  unfold exposedAs Name.reference
  cases label : name.label with
  | some own =>
    have uncut := Text.cutLastDot_eq_none (unpointed own label)
    simp [segments, uncut, cancel]
  | none =>
    rw [Option.getD_none]
    unfold segments
    split <;> simp [cancel]

end Setting

/-- A joined or limited write selects its key, and qualifies it with the identifier that the source
of the select shows exactly if the reference reads back as the segments of that identifier: for
plain references, and so for all that were parsed, exactly if the table pins no other prefix than
the connection's. -/
theorem Setting.qualifiesKey_iff {s : Setting} {key : String} (keyed : s.dialect.rowKey = some key)
    {c : Clauses Query} {name : Name} (onTable : c.source = some (.table name))
    (narrowed : c.joins ≠ [] ∨ c.limit ≠ none) (unpointed : ∀ l ∈ name.label, '.' ∉ l.toList) :
    s.WritesConfined c name (.keyed key (c.selectingKey key)) ∧
      (s.QualifiesKey c name key ↔ Text.cutLastAs name.reference.toList = none ∧
        segments s.tablePrefix (Text.trimStart name.reference) = s.exposedAs name) ∧
      (name.Plain →
        (s.QualifiesKey c name key ↔ name.pinned.getD s.tablePrefix = s.tablePrefix)) := by
  have named := table?_of_source onTable
  have writes := writesConfined_confinement keyed named
  rw [Clauses.confinement_of_narrowed (by tauto)] at writes
  have told := qualifiesKey_iff_segments keyed onTable
  refine ⟨writes, told, ?_⟩
  rintro ⟨trimmed, unmarked⟩
  rw [told, trimmed, segments_reference_eq_exposedAs_iff unpointed]
  exact and_iff_right unmarked

/-- The key of a table in a schema that pins the prefix of the connection. -/
theorem Setting.qualifiesKey_of_pinned_in_schema :
    let name : Name := { Name.parse "crm.users" with pinned := some "app_" }
    let c : Clauses Query := { source := some (.table name), limit := some 2 }
    Dialect.postgres.rowKey = some "ctid" ∧ (c.joins ≠ [] ∨ c.limit ≠ none) ∧
      (∀ l ∈ name.label, '.' ∉ l.toList) ∧ name.Plain ∧
      (Setting.mk .postgres "app_").QualifiesKey c name "ctid" ∧
      (Request.delete.statement ⟨.postgres, "app_"⟩ c).toOption =
        some ⟨"delete from \"crm\".\"app_users\" where \"ctid\" in (select " ++
          "\"crm\".\"app_users\".\"ctid\" from \"crm\".\"app_users\" limit 2)", []⟩ := by
  intro name c
  have limited : c.joins ≠ [] ∨ c.limit ≠ none := .inr nofun
  have plain : name.Plain := Name.plain_parse _ _
  have unlabelled : name.label = none := by decide +kernel
  have unpointed : ∀ l ∈ name.label, '.' ∉ l.toList := by simp [unlabelled]
  obtain ⟨-, -, told⟩ :=
    Setting.qualifiesKey_iff (s := ⟨.postgres, "app_"⟩) (c := c) rfl rfl limited unpointed
  exact ⟨rfl, limited, unpointed, plain, (told plain).mpr rfl, by decide +kernel⟩

/-- The key of a table with a prefix of its own is looked for in a table that the select lacks. -/
theorem Setting.not_qualifiesKey_of_own_prefix :
    let name : Name := { Name.parse "t" with pinned := some "own_" }
    let c : Clauses Query := { source := some (.table name), limit := some 1 }
    (Request.delete.statement ⟨.sqlite, "app_"⟩ c).toOption =
        some ⟨"delete from `own_t` where `rowid` in (select `app_t`.`rowid` from `own_t` limit 1)",
          []⟩ ∧
      ¬(Setting.mk .sqlite "app_").QualifiesKey c name "rowid" := by
  intro name c
  refine ⟨by decide +kernel, fun qualifies => ?_⟩
  obtain ⟨-, same⟩ := (qualifiesKey_iff_segments (s := ⟨.sqlite, "app_"⟩) rfl rfl).mp qualifies
  exact absurd same (by decide +kernel)

end SqlComposer
