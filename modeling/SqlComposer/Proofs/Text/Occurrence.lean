import SqlComposer.Proofs.Text.Literals
import SqlComposer.Schema.Introspection

/-!
Where a word can stand in a text. It does not reach across a character that it does not hold, so
it stands in a list of literals exactly if it stands in one of their texts
(`Text.infix_intercalate_literals_iff`).
-/

namespace SqlComposer

theorem mentions_iff {s word : String} :
    mentions s word = true ↔ word.toList <:+: s.toList.map Char.toLower := by
  change occursIn word.toList (String.map Char.toLower s).toList = true ↔ _
  rw [occursIn_iff, String.toList_map]

namespace Text

variable {word : List Char} {mark : Char}

theorem prefix_append_cons_iff (absent : mark ∉ word) (front back : List Char) :
    word <+: front ++ mark :: back ↔ word <+: front := by
  induction front generalizing word with
  | nil =>
    cases word with
    | nil => simp
    | cons c word =>
      rw [List.mem_cons, not_or] at absent
      simp [List.cons_prefix_cons, Ne.symm absent.1]
  | cons c front ih =>
    cases word with
    | nil => simp
    | cons d word =>
      rw [List.mem_cons, not_or] at absent
      rw [List.cons_append, List.cons_prefix_cons, List.cons_prefix_cons, ih absent.2]

theorem infix_append_cons_iff (absent : mark ∉ word) (front back : List Char) :
    word <:+: front ++ mark :: back ↔ word <:+: front ∨ word <:+: back := by
  induction front with
  | nil =>
    have first := prefix_append_cons_iff absent [] back
    rw [List.nil_append] at first ⊢
    rw [List.infix_cons_iff, first, List.prefix_nil, List.infix_nil]
  | cons c front ih =>
    rw [List.cons_append, List.infix_cons_iff, List.infix_cons_iff, ih, ← List.cons_append,
      prefix_append_cons_iff absent, or_assoc]

section Given

variable (given : word ≠ [])
include given

theorem infix_cons_iff_of_not_mem (absent : mark ∉ word) (back : List Char) :
    word <:+: mark :: back ↔ word <:+: back := by
  have split := infix_append_cons_iff absent [] back
  rw [List.nil_append, List.infix_nil] at split
  rw [split, or_iff_right given]

theorem infix_append_iff_of_absent {front : List Char} (absent : ∀ c ∈ front, c ∉ word)
    (back : List Char) : word <:+: front ++ back ↔ word <:+: back := by
  induction front with
  | nil => rfl
  | cons c front ih =>
    rw [List.cons_append, infix_cons_iff_of_not_mem given (absent c List.mem_cons_self),
      ih fun d mem => absent d (List.mem_cons_of_mem c mem)]

theorem infix_append_doubled_iff (absent : mark ∉ word) (front cs : List Char) :
    word <:+: front ++ doubled mark cs ↔ word <:+: front ++ cs := by
  induction cs generalizing front with
  | nil => rfl
  | cons c cs ih =>
    by_cases quote : c = mark
    · have rest := ih []
      rw [List.nil_append, List.nil_append] at rest
      rw [quote, doubled, if_pos rfl, infix_append_cons_iff absent, infix_append_cons_iff absent,
        infix_cons_iff_of_not_mem given absent, rest]
    · have longer := ih (front ++ [c])
      rw [List.append_assoc, List.append_assoc] at longer
      rwa [doubled, if_neg quote]

end Given

theorem toLower_eq_quote_iff {c : Char} : c.toLower = '\'' ↔ c = '\'' := by
  constructor
  · intro same
    unfold Char.toLower at same
    split at same
    · next capital =>
      have low : 65 ≤ c.val.toNat := capital.1
      have high : c.val.toNat ≤ 90 := capital.2
      have gap : ('a'.val - 'A'.val).toNat = 32 := by decide
      have value : (c.val + ('a'.val - 'A'.val)).toNat = 39 := congrArg Char.toNat same
      rw [UInt32.toNat_add] at value
      omega
    · exact same
  · rintro rfl
    decide

/-! ## Lists of literals, in small letters or as they are -/

section Literals

variable {fold : Char → Char} (keeps : ∀ c, fold c = '\'' ↔ c = '\'')
include keeps

theorem map_doubled (cs : List Char) :
    (doubled '\'' cs).map fold = doubled '\'' (cs.map fold) := by
  induction cs with
  | nil => rfl
  | cons c cs ih =>
    by_cases quote : c = '\''
    · simp [doubled, quote, (keeps '\'').mpr rfl, ih]
    · simp [doubled, quote, mt (keeps c).mp quote, ih]

variable (given : word ≠ []) (bare : '\'' ∉ word)
include given bare

theorem infix_literal_append_iff (text : String) (rest : List Char) :
    word <:+: ((literal text).toList ++ rest).map fold ↔
      word <:+: text.toList.map fold ∨ word <:+: rest.map fold := by
  have parts : ((literal text).toList ++ rest).map fold =
      '\'' :: (doubled '\'' (text.toList.map fold) ++ '\'' :: rest.map fold) := by
    rw [toList_literal, ← map_doubled keeps]
    simp [(keeps '\'').mpr rfl]
  have undoubled := infix_append_doubled_iff given bare [] (text.toList.map fold)
  rw [parts, infix_cons_iff_of_not_mem given bare, infix_append_cons_iff bare]
  exact or_congr_left undoubled

variable {separator : String} (apart : ∀ c ∈ separator.toList.map fold, c ∉ word)
include apart

theorem infix_literalsBehind_iff (texts : List String) :
    word <:+: (literalsBehind separator texts).map fold ↔
      ∃ text ∈ texts, word <:+: text.toList.map fold := by
  induction texts with
  | nil => simpa [literalsBehind] using given
  | cons text rest ih =>
    have next : literalsBehind separator (text :: rest) =
        separator.toList ++ ((literal text).toList ++ literalsBehind separator rest) := by
      simp [literalsBehind]
    rw [next, List.map_append, infix_append_iff_of_absent given apart,
      infix_literal_append_iff keeps given bare, ih]
    simp

theorem infix_intercalate_literals_iff (texts : List String) :
    word <:+: (separator.intercalate (texts.map literal)).toList.map fold ↔
      ∃ text ∈ texts, word <:+: text.toList.map fold := by
  cases texts with
  | nil => simpa using given
  | cons first rest =>
    rw [toList_intercalate_literals, infix_literal_append_iff keeps given bare,
      infix_literalsBehind_iff keeps given bare apart]
    simp

end Literals

end Text

end SqlComposer
