import SqlComposer.Statement.Update

/-!
The grammar of compiled SQL. A phrase is a fragment made of fixed wordings, quoted names, bound
values and what a lexicon lets callers put in as text. The edges of a phrase say what may stand
next to it: room is left where a wording opens or separates, and an item ends where the next text
has to begin with a break.
-/

namespace SqlComposer

open Fragment

/-- What callers may put into a statement besides values. -/
structure Lexicon where
  letter : Char → Prop
  operator : String → Prop
  function : String → Prop
  expression : String → Prop
  raw : RawSql → Prop
  /-- The letters of the names that statements bring along. -/
  plain : ∀ c : Char, c.isAlpha ∨ c = '_' ∨ c = '.' → letter c
  slots_raw : ∀ r, raw r → Piece.slots (Fragment.raw r).pieces = r.bindings.length

namespace Lexicon

variable (L : Lexicon)

def Name (s : String) : Prop := ∀ c ∈ s.toList, L.letter c

variable {L}

theorem name_append {first second : String} (one : L.Name first) (two : L.Name second) :
    L.Name (first ++ second) := by
  intro c mem
  rw [String.toList_append, List.mem_append] at mem
  rcases mem with mem | mem
  · exact one c mem
  · exact two c mem

theorem name_of_plain {s : String}
    (plain : s.toList.all fun c => c.isAlpha || c == '_' || c == '.') : L.Name s := by
  intro c mem
  have this := List.all_eq_true.mp plain c mem
  simp only [Bool.or_eq_true, beq_iff_eq, or_assoc] at this
  exact L.plain c this

theorem name_ofList {cs : List Char} (letters : ∀ c ∈ cs, L.letter c) :
    L.Name (String.ofList cs) := by
  intro c mem
  rw [String.toList_ofList] at mem
  exact letters c mem

end Lexicon

/-- What a text leaves at its end, or asks for at its beginning. -/
inductive Edge where
  | room
  | item
  deriving DecidableEq, Repr

/-- Fixed texts that need room and leave an item. -/
@[simp] def entries : List String :=
  ["select", "select distinct", "1 = 1", "0 = 1", "null", "date", "time", "day", "month", "year",
    "inner", "left", "right", "cross", "asc", "desc", "and", "or", "for update", "for share",
    "lock in share mode", "insert", "insert ignore", "insert or ignore", "nothing"]

/-- Fixed texts that need room and leave room. -/
@[simp] def openings : List String :=
  ["(", "select ", "distinct ", "select distinct on (", "from ", "from (", "extract(", "cast(",
    "strftime('%Y-%m-%d', ", "strftime('%H:%M:%S', ", "strftime('%d', ", "strftime('%m', ",
    "strftime('%Y', ", "not ", "between ", "in (", "exists (", "where ", "group by ", "having ",
    "order by ", "limit ", "offset ", "limit -1 offset ", "limit 18446744073709551615 offset ",
    "select * from (", "union ", "union all ", "select exists(", "insert into ", "update set ",
    "update ", "set ", "delete from ", "delete ", "truncate ", "truncate table "]

/-- Fixed texts that may follow an item and leave room. -/
@[simp] def separators : List String :=
  [" ", ".", ", ", "(", " as ", ") as ", ") ", " (", " from (", "::date ", "::time ", " from ",
    " and ", " is ", " join ", " on ", " offset ", " into ", ") values ", ") values (",
    " returning ", " = values(", " = ", " on duplicate key update ", " on conflict (", ") do ",
    " set ", " where ", " in ("]

/-- Fixed texts that may follow an item and leave one. -/
@[simp] def closings : List String :=
  [")", " *", "::date", "::time", "::int", "::float8", " as aggregate", " as text)",
    " default values", " on conflict do nothing", " restart identity cascade"]

inductive Wording (L : Lexicon) : Edge → Edge → String → Prop where
  | entry {text : String} : text ∈ entries → Wording L .room .item text
  | opening {text : String} : text ∈ openings → Wording L .room .room text
  | separator {text : String} : text ∈ separators → Wording L .item .room text
  | closing {text : String} : text ∈ closings → Wording L .item .item text
  | operator {text : String} : L.operator text → Wording L .room .item text
  | function {text : String} : L.function text → Wording L .room .item text
  | number (n : Nat) : Wording L .room .item (toString n)
  | nil (a : Edge) : Wording L a a ""
  | append {a b c : Edge} {first second : String} :
    Wording L a b first → Wording L b c second → Wording L a c (first ++ second)

/-- Fragments put together from text, names, slots and what the lexicon admits. A phrase that has
room before it may begin with an item, and blanks at the end of an item may be dropped. -/
inductive Phrase (L : Lexicon) : Edge → Edge → Fragment → Prop where
  | text {a b : Edge} {text : String} : Wording L a b text → Phrase L a b (ofText text)
  | ident {name : String} : L.Name name → Phrase L .room .item (ident name)
  | bind (v : Value) : Phrase L .room .item (bind v)
  | expression {sql : String} : L.expression sql → Phrase L .room .item (ofText sql)
  | raw {r : RawSql} : L.raw r → Phrase L .room .item (raw r)
  | nil (a : Edge) : Phrase L a a {}
  | skip : Phrase L .room .item {}
  | append {a b c : Edge} {first second : Fragment} :
    Phrase L a b first → Phrase L b c second →
    Phrase L a c ⟨first.pieces ++ second.pieces, first.bindings ++ second.bindings⟩
  | trim {a : Edge} {fragment : Fragment} : Phrase L a .item fragment →
    Phrase L a .item ⟨trimEndPieces fragment.pieces, fragment.bindings⟩

/-! ## Slots

A phrase has a slot for each value it binds. -/

namespace Piece

theorem slots_append (first second : List Piece) :
    slots (first ++ second) = slots first + slots second :=
  List.count_append

theorem slots_trimEndPieces (pieces : List Piece) :
    slots (trimEndPieces pieces) = slots pieces := by
  induction pieces with
  | nil => rfl
  | cons piece rest ih =>
    unfold trimEndPieces
    cases kept : trimEndPieces rest with
    | nil =>
      have none : slots rest = 0 := by
        rw [← ih, kept]
        rfl
      cases piece with
      | text s =>
        simp only
        split <;> simp_all [slots]
      | ident name => simp_all [slots]
      | slot => simp_all [slots]
    | cons next more =>
      rw [kept] at ih
      simp only [slots, List.count_cons] at ih ⊢
      rw [ih]

end Piece

namespace Phrase

variable {L : Lexicon} {a b c : Edge}

theorem slots_eq {fragment : Fragment} (phrase : Phrase L a b fragment) :
    Piece.slots fragment.pieces = fragment.bindings.length := by
  induction phrase with
  | text => rfl
  | ident => rfl
  | bind v => rfl
  | expression => rfl
  | raw admitted => exact L.slots_raw _ admitted
  | nil => rfl
  | skip => rfl
  | append _ _ one two =>
    simp only [Piece.slots_append, List.length_append, one, two]
  | trim _ ih =>
    simp only [Piece.slots_trimEndPieces, ih]

theorem bindings_eq_nil {fragment : Fragment} (phrase : Phrase L a b fragment)
    (blank : fragment.isBlank = true) : fragment.bindings = [] := by
  have none : Piece.slots fragment.pieces = 0 := by
    apply List.count_eq_zero.mpr
    intro mem
    have text := List.all_eq_true.mp blank _ mem
    simp at text
  rw [phrase.slots_eq] at none
  exact List.length_eq_zero_iff.mp none

/-! ## Putting phrases together -/

theorem entry {text : String} (known : text ∈ entries) : Phrase L .room .item (ofText text) :=
  .text (.entry known)

theorem opening {text : String} (known : text ∈ openings) : Phrase L .room .room (ofText text) :=
  .text (.opening known)

theorem separator {text : String} (known : text ∈ separators) :
    Phrase L .item .room (ofText text) :=
  .text (.separator known)

theorem closing {text : String} (known : text ∈ closings) : Phrase L .item .item (ofText text) :=
  .text (.closing known)

theorem cat_nil (a : Edge) : Phrase L a a (cat []) := .nil a

theorem cat_cons {fragment : Fragment} {rest : List Fragment} (first : Phrase L a b fragment)
    (further : Phrase L b c (cat rest)) : Phrase L a c (cat (fragment :: rest)) :=
  .append first further

theorem cat_singleton {fragment : Fragment} (phrase : Phrase L a b fragment) :
    Phrase L a b (cat [fragment]) :=
  .cat_cons phrase (.cat_nil b)

theorem to_item {fragment : Fragment} (phrase : Phrase L a .room fragment) :
    Phrase L a .item fragment := by
  have whole : Phrase L a .item
      ⟨fragment.pieces ++ [], fragment.bindings ++ []⟩ := .append phrase .skip
  rwa [List.append_nil, List.append_nil] at whole

theorem separated {separator : String} {list : List Fragment}
    (between : Wording L .item .room separator) (all : ∀ f ∈ list, Phrase L .room .item f) :
    Phrase L .room .item (Fragment.separated separator list) := by
  induction list with
  | nil => exact .skip
  | cons first rest ih =>
    have head := all first List.mem_cons_self
    have tail := ih fun f mem => all f (List.mem_cons_of_mem first mem)
    cases rest with
    | nil => exact .cat_singleton head
    | cons second rest => exact .cat_cons head (.cat_cons (.text between) tail)

theorem commas {list : List Fragment} (all : ∀ f ∈ list, Phrase L .room .item f) :
    Phrase L .room .item (Fragment.commas list) :=
  .separated (.separator (by simp)) all

/-- Blank segments bind nothing, so leaving them out loses no value. -/
theorem joined {segments : List Fragment} (all : ∀ f ∈ segments, Phrase L .room .item f) :
    Phrase L .room .item (Fragment.joined segments) := by
  have kept : (segments.filter (!·.isBlank)).flatMap (·.bindings) =
      segments.flatMap (·.bindings) := by
    induction segments with
    | nil => rfl
    | cons f rest ih =>
      have tail := ih fun g mem => all g (List.mem_cons_of_mem f mem)
      cases blank : f.isBlank with
      | false => simp [blank, tail]
      | true =>
        have none := (all f List.mem_cons_self).bindings_eq_nil blank
        simp [blank, none, tail]
  have spaced : Phrase L .room .item
      (Fragment.separated " " (segments.filter (!·.isBlank))) := by
    apply Phrase.separated (.separator (by simp))
    intro f mem
    exact all f (List.mem_filter.mp mem).1
  have whole := Phrase.trim spaced
  rw [bindings_separated, kept] at whole
  exact whole

end Phrase

end SqlComposer
