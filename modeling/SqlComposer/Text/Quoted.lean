/-!
Quoting by doubling: between two quote characters every quote character of the text stands
twice and all else once.
-/

namespace SqlComposer.Text

def doubled (quote : Char) : List Char → List Char
  | [] => []
  | c :: cs => if c = quote then c :: c :: doubled quote cs else c :: doubled quote cs

def enclosed (quote : Char) (s : String) : String :=
  String.ofList (quote :: doubled quote s.toList ++ [quote])

def literal (s : String) : String := enclosed '\'' s

/-- The text up to the closing quote of a literal whose opening quote has been read, and the
rest after it. A doubled quote stands for one wherever a closing quote can still follow; where
none can, its first half closes the literal. -/
def closeQuoted (quote : Char) : List Char → Option (List Char × List Char)
  | [] => none
  | [c] => if c = quote then some ([], []) else none
  | c :: d :: cs =>
    if c = quote then
      if d = quote then
        match closeQuoted quote cs with
        | some (text, rest) => some (quote :: text, rest)
        | none => some ([], d :: cs)
      else some ([], d :: cs)
    else (closeQuoted quote (d :: cs)).map fun (text, rest) => (c :: text, rest)

theorem length_lt_of_closeQuoted {quote : Char} {cs text rest : List Char}
    (closed : closeQuoted quote cs = some (text, rest)) : rest.length < cs.length := by
  fun_induction closeQuoted quote cs generalizing text with
  | case1 => simp at closed
  | case2 => simp_all
  | case3 => simp at closed
  | case4 cs _ _ found ih =>
    simp only [Option.some.injEq, Prod.mk.injEq] at closed
    have := ih (closed.2 ▸ found)
    simp
    omega
  | case5 => simp_all
  | case6 => simp_all
  | case7 c d cs _ ih =>
    obtain ⟨⟨inner, tail⟩, found, split⟩ := Option.map_eq_some_iff.mp closed
    simp only [Prod.mk.injEq] at split
    have := ih (split.2 ▸ found)
    simp at this ⊢
    omega

def literals : List Char → List (List Char)
  | [] => []
  | c :: cs =>
    if c = '\'' then
      match h : closeQuoted '\'' cs with
      | some (text, rest) =>
        have := length_lt_of_closeQuoted h
        text :: literals rest
      | none => literals cs
    else literals cs
termination_by cs => cs.length

theorem doubled_append (quote : Char) (a b : List Char) :
    doubled quote (a ++ b) = doubled quote a ++ doubled quote b := by
  induction a with
  | nil => rfl
  | cons c cs ih => by_cases h : c = quote <;> simp [doubled, h, ih]

theorem doubled_of_not_mem {quote : Char} {cs : List Char} (absent : quote ∉ cs) :
    doubled quote cs = cs := by
  induction cs with
  | nil => rfl
  | cons c cs ih =>
    simp only [List.mem_cons, not_or] at absent
    simp [doubled, Ne.symm absent.1, ih absent.2]

theorem mem_doubled {quote c : Char} {cs : List Char} (mem : c ∈ doubled quote cs) : c ∈ cs := by
  induction cs with
  | nil => cases mem
  | cons d rest ih =>
    unfold doubled at mem
    split at mem
    · rcases List.mem_cons.mp mem with rfl | mem
      · exact List.mem_cons_self
      · rcases List.mem_cons.mp mem with rfl | mem
        · exact List.mem_cons_self
        · exact List.mem_cons_of_mem d (ih mem)
    · rcases List.mem_cons.mp mem with rfl | mem
      · exact List.mem_cons_self
      · exact List.mem_cons_of_mem d (ih mem)

theorem closeQuoted_doubled (quote : Char) (cs rest : List Char)
    (ends : rest.head? ≠ some quote) :
    closeQuoted quote (doubled quote cs ++ quote :: rest) = some (cs, rest) := by
  induction cs with
  | nil =>
    cases rest with
    | nil => simp [doubled, closeQuoted]
    | cons d rest =>
      have : d ≠ quote := by simpa using ends
      simp [doubled, closeQuoted, this]
  | cons c cs ih =>
    by_cases h : c = quote
    · simp [doubled, h, closeQuoted, ih]
    · simp only [doubled, h, if_false, List.cons_append]
      cases hd : doubled quote cs ++ quote :: rest with
      | nil => simp at hd
      | cons d tail => simp [closeQuoted, h, ← hd, ih]

end SqlComposer.Text
