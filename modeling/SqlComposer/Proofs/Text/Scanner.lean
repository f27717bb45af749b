import SqlComposer.Text.Blank

/-!
Reading text one character at a time. A scanner gives out tokens as they are completed and may
hold one that is not, so what a text reads as hangs on where the reading stands before it.
`Reads` says it of a text on its own, and readings of adjacent texts compose.
-/

namespace SqlComposer

structure Scanner (S T : Type) where
  start : S
  step : S → Char → List T × S
  /-- What the text gives where it may end, the token held so far included. -/
  close : S → Option (List T)

namespace Scanner

variable {S T : Type} (m : Scanner S T)

def run : S → List Char → List T × S
  | st, [] => ([], st)
  | st, c :: cs =>
    ((m.step st c).1 ++ (run (m.step st c).2 cs).1, (run (m.step st c).2 cs).2)

def scan (cs : List Char) : Option (List T) :=
  (m.close (m.run m.start cs).2).map ((m.run m.start cs).1 ++ ·)

variable {m}

theorem run_append (st : S) (first second : List Char) :
    m.run st (first ++ second) =
      ((m.run st first).1 ++ (m.run (m.run st first).2 second).1,
        (m.run (m.run st first).2 second).2) := by
  induction first generalizing st with
  | nil => rfl
  | cons c rest ih =>
    rw [List.cons_append, run, ih, run]
    simp only [List.append_assoc]

variable (m) in
/-- Between two places where the text may end, `cs` reads as `tokens`: they follow what the first
place would give and make up what the second one does. -/
def Reads (st : S) (cs : List Char) (tokens : List T) (after : S) : Prop :=
  (m.run st cs).2 = after ∧
    ∃ before held, m.close st = some before ∧ m.close after = some held ∧
      (m.run st cs).1 ++ held = before ++ tokens

theorem reads_nil {st : S} {held : List T} (settled : m.close st = some held) :
    m.Reads st [] [] st := by
  refine ⟨rfl, held, held, settled, settled, ?_⟩
  simp [run]

theorem Reads.append {st middle after : S} {first second : List Char} {ts us : List T}
    (one : m.Reads st first ts middle) (two : m.Reads middle second us after) :
    m.Reads st (first ++ second) (ts ++ us) after := by
  rcases one with ⟨rfl, before, between, opened, shared, same⟩
  rcases two with ⟨rfl, between', held, shared', closed, same'⟩
  have equal : between' = between := by
    rw [shared] at shared'
    exact (Option.some.inj shared').symm
  subst equal
  rw [Reads, run_append]
  refine ⟨rfl, before, held, opened, closed, ?_⟩
  calc
    (m.run st first).1 ++ (m.run (m.run st first).2 second).1 ++ held
      = (m.run st first).1 ++ ((m.run (m.run st first).2 second).1 ++ held) := by
        rw [List.append_assoc]
    _ = (m.run st first).1 ++ (between' ++ us) := by rw [same']
    _ = ((m.run st first).1 ++ between') ++ us := by rw [List.append_assoc]
    _ = (before ++ ts) ++ us := by rw [same]
    _ = before ++ (ts ++ us) := by rw [List.append_assoc]

theorem scan_of_reads {cs : List Char} {tokens : List T} {after : S}
    (fresh : m.close m.start = some []) (reads : m.Reads m.start cs tokens after) :
    m.scan cs = some tokens := by
  rcases reads with ⟨rfl, before, held, opened, closed, same⟩
  have empty : before = [] := by
    rw [fresh] at opened
    exact (Option.some.inj opened).symm
  rw [scan, closed, Option.map_some, same, empty, List.nil_append]

theorem reads_of_scan {cs : List Char} {tokens : List T} (fresh : m.close m.start = some [])
    (scanned : m.scan cs = some tokens) : m.Reads m.start cs tokens (m.run m.start cs).2 := by
  rcases Option.map_eq_some_iff.mp scanned with ⟨held, closed, same⟩
  exact ⟨rfl, [], held, fresh, closed, same⟩

variable (m) in
/-- The character completes whatever is held and is then read as at the start. -/
def Breaks (c : Char) : Prop :=
  ∀ st held, m.close st = some held →
    m.step st c = (held ++ (m.step m.start c).1, (m.step m.start c).2)

theorem Reads.of_breaks {st after : S} {c : Char} {cs : List Char} {tokens held : List T}
    (fresh : m.close m.start = some []) (settled : m.close st = some held)
    (breaks : m.Breaks c) (reads : m.Reads m.start (c :: cs) tokens after) :
    m.Reads st (c :: cs) tokens after := by
  rcases reads with ⟨rfl, before, last, opened, closed, same⟩
  have empty : before = [] := by
    rw [fresh] at opened
    exact (Option.some.inj opened).symm
  have step := breaks st held settled
  have state : (m.run st (c :: cs)).2 = (m.run m.start (c :: cs)).2 := by
    simp only [run, step]
  refine ⟨state, held, last, settled, closed, ?_⟩
  have output : (m.run st (c :: cs)).1 = held ++ (m.run m.start (c :: cs)).1 := by
    simp only [run, step, List.append_assoc]
  calc
    (m.run st (c :: cs)).1 ++ last
      = held ++ ((m.run m.start (c :: cs)).1 ++ last) := by rw [output, List.append_assoc]
    _ = held ++ (before ++ tokens) := by rw [same]
    _ = held ++ tokens := by rw [empty, List.nil_append]

/-- A break parts what stands before it from what follows. -/
theorem Reads.append_of_breaks {st middle after : S} {first cs : List Char} {c : Char}
    {ts us : List T} (fresh : m.close m.start = some []) (one : m.Reads st first ts middle)
    (begins : cs.head? = some c) (breaks : m.Breaks c) (two : m.Reads m.start cs us after) :
    m.Reads st (first ++ cs) (ts ++ us) after := by
  obtain ⟨rest, rfl⟩ := List.head?_eq_some_iff.mp begins
  obtain ⟨held, settled⟩ : ∃ held, m.close middle = some held := by
    obtain ⟨-, -, held, -, settled, -⟩ := one
    exact ⟨held, settled⟩
  exact one.append (two.of_breaks fresh settled breaks)

variable (m) in
/-- Blanks break, are dropped, and do not end what encloses them. -/
structure SkipsBlanks : Prop where
  fresh : m.close m.start = some []
  breaks : ∀ c, Text.isBlank c = true → m.Breaks c
  dropped : ∀ c, Text.isBlank c = true → m.step m.start c = ([], m.start)
  enclosed : ∀ c, Text.isBlank c = true → ∀ st, m.close st = none →
    m.close (m.step st c).2 = none

namespace SkipsBlanks

variable (skips : m.SkipsBlanks)

include skips

theorem step_settled {st : S} {held : List T} {c : Char} (blank : Text.isBlank c = true)
    (settled : m.close st = some held) : m.step st c = (held, m.start) := by
  rw [skips.breaks c blank st held settled, skips.dropped c blank, List.append_nil]

theorem run_start {blanks : List Char} (blank : ∀ c ∈ blanks, Text.isBlank c = true) :
    m.run m.start blanks = ([], m.start) := by
  induction blanks with
  | nil => rfl
  | cons c rest ih =>
    rw [run, skips.dropped c (blank c List.mem_cons_self)]
    rw [ih fun d mem => blank d (List.mem_cons_of_mem c mem)]
    rfl

theorem run_enclosed {blanks : List Char} (blank : ∀ c ∈ blanks, Text.isBlank c = true)
    (st : S) (inside : m.close st = none) : m.close (m.run st blanks).2 = none := by
  induction blanks generalizing st with
  | nil => exact inside
  | cons c rest ih =>
    rw [run]
    apply ih fun d mem => blank d (List.mem_cons_of_mem c mem)
    exact skips.enclosed c (blank c List.mem_cons_self) st inside

theorem reads_trimmed {st after : S} {cs blanks : List Char} {tokens : List T}
    (blank : ∀ c ∈ blanks, Text.isBlank c = true) (reads : m.Reads st (cs ++ blanks) tokens after) :
    m.Reads st cs tokens (m.run st cs).2 := by
  rcases reads with ⟨rfl, before, held, opened, closed, same⟩
  rw [run_append] at closed same
  refine ⟨rfl, before, ?_⟩
  cases last : m.close (m.run st cs).2 with
  | none =>
    have inside := skips.run_enclosed blank _ last
    rw [inside] at closed
    exact absurd closed (by simp)
  | some pending =>
    refine ⟨pending, opened, rfl, ?_⟩
    rw [← same]
    cases blanks with
    | nil =>
      simp only [run, last, Option.some.injEq] at closed
      simp [run, closed]
    | cons c rest =>
      have rested := skips.run_start fun d mem => blank d (List.mem_cons_of_mem c mem)
      have first := skips.step_settled (blank c List.mem_cons_self) last
      simp only [run, first, rested, skips.fresh, Option.some.injEq] at closed ⊢
      simp [← closed]

end SkipsBlanks

end Scanner

end SqlComposer
