import SqlComposer.Schema.NativeType
import SqlComposer.Text.Quoted

/-!
Lists of literals. Literals are told apart by their closing quotes alone, so the texts of a list
are read back whatever they hold (`Text.literals_quotedOptions`).
-/

namespace SqlComposer

theorem toList_intercalate_cons (separator first : String) (rest : List String) :
    (separator.intercalate (first :: rest)).toList =
      first.toList ++ rest.flatMap fun entry => separator.toList ++ entry.toList := by
  induction rest generalizing first with
  | nil => simp
  | cons second rest ih =>
    rw [String.intercalate_cons_cons, String.toList_append, String.toList_append, ih,
      List.flatMap_cons, List.append_assoc, List.append_assoc]

theorem toList_intercalate_append (separator entry : String) (before after : List String) :
    (separator.intercalate (before ++ entry :: after)).toList =
      before.flatMap (fun entry => entry.toList ++ separator.toList) ++
        (entry.toList ++ after.flatMap fun entry => separator.toList ++ entry.toList) := by
  induction before with
  | nil => exact toList_intercalate_cons separator entry after
  | cons first before ih =>
    have more : before ++ entry :: after ≠ [] := List.append_ne_nil_of_right_ne_nil before (by simp)
    rw [List.cons_append, String.intercalate_cons_of_ne_nil more, String.toList_append,
      String.toList_append, ih, List.flatMap_cons, List.append_assoc, List.append_assoc,
      List.append_assoc]

namespace Text

theorem toList_literal (s : String) :
    (literal s).toList = '\'' :: (doubled '\'' s.toList ++ ['\'']) := by
  simp [literal, enclosed]

theorem count_doubled (cs : List Char) :
    (doubled '\'' cs).count '\'' % 2 = 0 := by
  induction cs with
  | nil => rfl
  | cons c rest ih =>
    rw [doubled]
    split
    · next literal =>
      subst literal
      rw [List.count_cons_self, List.count_cons_self]
      omega
    · next other => rwa [List.count_cons_of_ne other]

theorem literals_cons_of_ne {c : Char} (other : c ≠ '\'') (cs : List Char) :
    literals (c :: cs) = literals cs := by
  rw [literals, if_neg other]

theorem literals_quote_of_some {cs text rest : List Char}
    (closed : closeQuoted '\'' cs = some (text, rest)) :
    literals ('\'' :: cs) = text :: literals rest := by
  rw [literals, if_pos rfl]
  split
  · next inner tail found =>
    cases found.symm.trans closed
    rfl
  · next absent => cases absent.symm.trans closed

theorem literals_quote_of_none {cs : List Char} (missing : closeQuoted '\'' cs = none) :
    literals ('\'' :: cs) = literals cs := by
  rw [literals, if_pos rfl]
  split
  · next inner tail found => cases found.symm.trans missing
  · rfl

theorem literals_cons_literal (text : String) {rest : List Char}
    (ends : rest.head? ≠ some '\'') :
    literals ((literal text).toList ++ rest) = text.toList :: literals rest := by
  rw [toList_literal, List.cons_append, List.append_assoc, List.singleton_append]
  exact literals_quote_of_some (closeQuoted_doubled '\'' text.toList rest ends)

theorem literals_append_of_bare {cs : List Char} (bare : '\'' ∉ cs) (rest : List Char) :
    literals (cs ++ rest) = literals rest := by
  induction cs with
  | nil => rfl
  | cons c cs ih =>
    rw [List.mem_cons, not_or] at bare
    rw [List.cons_append, literals_cons_of_ne (Ne.symm bare.1), ih bare.2]

/-! ## Literals behind separators -/

def literalsBehind (separator : String) (texts : List String) : List Char :=
  texts.flatMap fun text => separator.toList ++ (literal text).toList

theorem toList_intercalate_literals (separator first : String) (rest : List String) :
    (separator.intercalate ((first :: rest).map literal)).toList =
      (literal first).toList ++ literalsBehind separator rest := by
  rw [List.map_cons, toList_intercalate_cons, List.flatMap_map, literalsBehind]

section Separators

variable {separator : String} (shown : separator ≠ "") (bare : '\'' ∉ separator.toList)
include shown bare

theorem head?_literalsBehind (texts : List String) :
    (literalsBehind separator texts).head? ≠ some '\'' := by
  obtain ⟨c, cs, begins⟩ := List.exists_cons_of_ne_nil (mt String.toList_eq_nil_iff.mp shown)
  rw [begins, List.mem_cons, not_or] at bare
  cases texts with
  | nil => simp [literalsBehind]
  | cons text rest => simpa [literalsBehind, begins] using Ne.symm bare.1

theorem literals_literalsBehind (texts : List String) :
    literals (literalsBehind separator texts) = texts.map (·.toList) := by
  induction texts with
  | nil => simp [literalsBehind, literals]
  | cons text rest ih =>
    have next : literalsBehind separator (text :: rest) =
        separator.toList ++ ((literal text).toList ++ literalsBehind separator rest) := by
      simp [literalsBehind]
    rw [next, literals_append_of_bare bare,
      literals_cons_literal text (head?_literalsBehind shown bare rest), ih, List.map_cons]

theorem literals_intercalate (texts : List String) :
    literals (separator.intercalate (texts.map literal)).toList = texts.map (·.toList) := by
  cases texts with
  | nil => simp [literals]
  | cons first rest =>
    rw [toList_intercalate_literals,
      literals_cons_literal first (head?_literalsBehind shown bare rest),
      literals_literalsBehind shown bare, List.map_cons]

end Separators

def furtherLiterals (texts : List String) : List Char :=
  texts.flatMap fun text => ", ".toList ++ (literal text).toList

theorem toList_quotedOptions_cons (first : String) (rest : List String) :
    (quotedOptions (first :: rest)).toList = (literal first).toList ++ furtherLiterals rest :=
  toList_intercalate_literals ", " first rest

theorem literals_quotedOptions (texts : List String) :
    literals (quotedOptions texts).toList = texts.map (·.toList) :=
  literals_intercalate (by decide) (by decide) texts

end Text

end SqlComposer
