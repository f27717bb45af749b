import Mathlib.Data.List.Infix
import SqlComposer.Proofs.Text.Literals

/-!
How MySQL reads a literal unless its mode says otherwise: a doubled quote stands for one, and a
backslash escapes the character after it. A text in which only the quotes are doubled ends where it
should and is read as itself exactly if each of its backslashes stands before a wildcard of
patterns, where a backslash stays (`Mysql.literal?_literal_iff`).
-/

namespace SqlComposer.Text.Mysql

/-- What a backslash and the character after it stand for. -/
def escaped : Char → List Char
  | '0' => ['\x00']
  | 'b' => ['\x08']
  | 'n' => ['\n']
  | 'r' => ['\r']
  | 't' => ['\t']
  | 'Z' => ['\x1a']
  | '%' => ['\\', '%']
  | '_' => ['\\', '_']
  | c => [c]

def closeLiteral : List Char → Option (List Char × List Char)
  | [] => none
  | '\\' :: c :: cs => (closeLiteral cs).map (Prod.map (escaped c ++ ·) id)
  | '\'' :: '\'' :: cs => (closeLiteral cs).map (Prod.map ('\'' :: ·) id)
  | '\'' :: cs => some ([], cs)
  | c :: cs => (closeLiteral cs).map (Prod.map (c :: ·) id)

def literal? : List Char → Option (List Char × List Char)
  | '\'' :: cs => closeLiteral cs
  | _ => none

/-- What the literal of a text is read as, if it ends at its own closing quote. So no backslash may
take a quote that belongs to a pair or closes the literal. -/
def value? : List Char → Option (List Char)
  | [] => some []
  | ['\\'] => none
  | '\\' :: '\'' :: _ => none
  | '\\' :: c :: cs => (value? cs).map (escaped c ++ ·)
  | c :: cs => (value? cs).map (c :: ·)

def BackslashesStay (cs : List Char) : Prop :=
  ∀ tail ∈ cs.tails, tail.head? = some '\\' → tail[1]? = some '%' ∨ tail[1]? = some '_'

instance (cs : List Char) : Decidable (BackslashesStay cs) :=
  inferInstanceAs (Decidable (∀ _ ∈ _, _))

/-! ## One character -/

theorem escaped_of_wildcard {c : Char} (wildcard : c = '%' ∨ c = '_') :
    escaped c = ['\\', c] := by
  rcases wildcard with rfl | rfl <;> rfl

theorem length_escaped {c : Char} (other : ¬(c = '%' ∨ c = '_')) : (escaped c).length = 1 := by
  unfold escaped
  split <;> simp_all

theorem map_fst_eq_some_iff {f : List Char → List Char}
    {read : Option (List Char × List Char)} {value rest : List Char} :
    read.map (Prod.map f id) = some (value, rest) ↔
      ∃ text, read = some (text, rest) ∧ f text = value := by
  cases read with
  | none => simp
  | some pair => simp [Prod.ext_iff, and_comm]

theorem closeLiteral_quote {cs : List Char} (apart : cs.head? ≠ some '\'') :
    closeLiteral ('\'' :: cs) = some ([], cs) := by
  apply closeLiteral.eq_4
  rintro rest rfl
  exact apart rfl

theorem closeLiteral_cons {c : Char} (bare : c ≠ '\\') (other : c ≠ '\'') (cs : List Char) :
    closeLiteral (c :: cs) = (closeLiteral cs).map (Prod.map (c :: ·) id) := by
  apply closeLiteral.eq_5
  · exact fun d rest same => absurd same bare
  · exact fun rest same => absurd same other
  · exact other

/-- A character that is read by itself is none that something else is read behind. -/
theorem ne_of_unmatched {c mark : Char} {cs : List Char} (last : c = mark → cs = [] → False)
    (more : ∀ d rest, c = mark → cs = d :: rest → False) : c ≠ mark := by
  intro same
  cases cs with
  | nil => exact last same rfl
  | cons d rest => exact more d rest same rfl

theorem backslashesStay_cons {c : Char} {cs : List Char} :
    BackslashesStay (c :: cs) ↔
      (c = '\\' → cs.head? = some '%' ∨ cs.head? = some '_') ∧ BackslashesStay cs := by
  simp [BackslashesStay, List.head?_eq_getElem?]

theorem backslashesStay_append_of_bare {front : List Char} (bare : '\\' ∉ front)
    (cs : List Char) : BackslashesStay (front ++ cs) ↔ BackslashesStay cs := by
  induction front with
  | nil => rfl
  | cons c front ih =>
    rw [List.mem_cons, not_or] at bare
    rw [List.cons_append, backslashesStay_cons, ih bare.2, and_iff_right]
    exact fun same => absurd same.symm bare.1

/-! ## Where a literal ends -/

theorem length_lt_of_closeLiteral {cs value rest : List Char}
    (closed : closeLiteral cs = some (value, rest)) : rest.length < cs.length := by
  fun_induction closeLiteral cs generalizing value with
  | case1 => cases closed
  | case2 c cs ih =>
    rcases map_fst_eq_some_iff.mp closed with ⟨text, found, -⟩
    have shorter := ih found
    simp only [List.length_cons]
    omega
  | case3 cs ih =>
    rcases map_fst_eq_some_iff.mp closed with ⟨text, found, -⟩
    have shorter := ih found
    simp only [List.length_cons]
    omega
  | case4 =>
    cases closed
    simp
  | case5 c cs _ _ _ ih =>
    rcases map_fst_eq_some_iff.mp closed with ⟨text, found, -⟩
    have shorter := ih found
    simp only [List.length_cons]
    omega

/-- Where one of two quotes is taken, those that follow pair off differently: the literal ends
within the text or goes on behind its closing quote. -/
theorem closeLiteral_half_ne (cs value rest : List Char) :
    closeLiteral ('\'' :: (doubled '\'' cs ++ '\'' :: rest)) ≠ some (value, rest) := by
  intro closed
  induction cs generalizing value with
  | nil =>
    rcases map_fst_eq_some_iff.mp closed with ⟨text, found, -⟩
    exact absurd (length_lt_of_closeLiteral found) (lt_irrefl _)
  | cons c cs ih =>
    by_cases quote : c = '\''
    · rw [quote, doubled, if_pos rfl] at closed
      rcases map_fst_eq_some_iff.mp closed with ⟨text, found, -⟩
      exact ih text found
    · rw [doubled, if_neg quote, List.cons_append, closeLiteral_quote (by simpa using quote)]
        at closed
      have lengths := congrArg List.length (congrArg Prod.snd (Option.some.inj closed))
      simp only [List.length_cons, List.length_append] at lengths
      omega

/-- A doubled text that is closed is read as the value of the text. -/
theorem closeLiteral_doubled_iff {rest : List Char} (apart : rest.head? ≠ some '\'')
    (cs value : List Char) :
    closeLiteral (doubled '\'' cs ++ '\'' :: rest) = some (value, rest) ↔
      value? cs = some value := by
  fun_induction value? cs generalizing value with
  | case1 =>
    have closed : closeLiteral (doubled '\'' [] ++ '\'' :: rest) = some ([], rest) :=
      closeLiteral_quote apart
    rw [closed]
    simp
  | case2 =>
    refine iff_of_false (fun closed => ?_) nofun
    rcases map_fst_eq_some_iff.mp closed with ⟨text, found, -⟩
    exact absurd (length_lt_of_closeLiteral found) (lt_irrefl _)
  | case3 cs =>
    refine iff_of_false (fun closed => ?_) nofun
    rcases map_fst_eq_some_iff.mp closed with ⟨text, found, -⟩
    exact closeLiteral_half_ne cs text rest found
  | case4 c cs quote ih =>
    rw [doubled, if_neg (by decide), doubled, if_neg quote, List.cons_append, List.cons_append,
      closeLiteral, map_fst_eq_some_iff, Option.map_eq_some_iff]
    simp only [ih]
  | case5 c cs last taken escape ih =>
    have bare : c ≠ '\\' := ne_of_unmatched last escape
    have step : closeLiteral (doubled '\'' (c :: cs) ++ '\'' :: rest) =
        (closeLiteral (doubled '\'' cs ++ '\'' :: rest)).map (Prod.map (c :: ·) id) := by
      by_cases quote : c = '\''
      · rw [quote, doubled, if_pos rfl]
        rfl
      · rw [doubled, if_neg quote]
        exact closeLiteral_cons bare quote _
    rw [step, map_fst_eq_some_iff, Option.map_eq_some_iff]
    simp only [ih]

/-! ## What a literal is read as -/

theorem length_le_of_value? {cs value : List Char} (read : value? cs = some value) :
    value.length ≤ cs.length := by
  fun_induction value? cs generalizing value with
  | case1 =>
    cases read
    rfl
  | case2 => cases read
  | case3 => cases read
  | case4 c cs _ ih =>
    rcases Option.map_eq_some_iff.mp read with ⟨text, found, rfl⟩
    have shorter := ih found
    have char : (escaped c).length ≤ 2 := by
      by_cases wildcard : c = '%' ∨ c = '_'
      · rw [escaped_of_wildcard wildcard]
        rfl
      · rw [length_escaped wildcard]
        omega
    simp only [List.length_append, List.length_cons]
    omega
  | case5 c cs _ _ _ ih =>
    rcases Option.map_eq_some_iff.mp read with ⟨text, found, rfl⟩
    exact Nat.succ_le_succ (ih found)

theorem value?_eq_self_iff (cs : List Char) : value? cs = some cs ↔ BackslashesStay cs := by
  fun_induction value? cs with
  | case1 => exact iff_of_true rfl (by decide)
  | case2 => exact iff_of_false nofun (by decide)
  | case3 cs => exact iff_of_false nofun (by simp [backslashesStay_cons])
  | case4 c cs quote ih =>
    rw [backslashesStay_cons, backslashesStay_cons, Option.map_eq_some_iff]
    by_cases wildcard : c = '%' ∨ c = '_'
    · have bare : c ≠ '\\' := by rcases wildcard with rfl | rfl <;> decide
      simp [escaped_of_wildcard wildcard, wildcard, bare, ih]
    · -- A backslash that is left out makes the value shorter than the text.
      refine iff_of_false ?_ fun stay => wildcard (by simpa using stay.1 rfl)
      rintro ⟨text, found, same⟩
      have shorter := length_le_of_value? found
      have lengths := congrArg List.length same
      simp only [List.length_append, length_escaped wildcard, List.length_cons] at lengths
      omega
  | case5 c cs last taken escape ih =>
    have bare : c ≠ '\\' := ne_of_unmatched last escape
    simp [backslashesStay_cons, bare, ih]

theorem literal?_literal_iff (s : String) (value : List Char) {rest : List Char}
    (apart : rest.head? ≠ some '\'') :
    literal? ((literal s).toList ++ rest) = some (value, rest) ↔
      value? s.toList = some value := by
  rw [toList_literal, List.cons_append, List.append_assoc, List.singleton_append]
  exact closeLiteral_doubled_iff apart s.toList value

end SqlComposer.Text.Mysql
