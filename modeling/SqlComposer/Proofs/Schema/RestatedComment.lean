import SqlComposer.Proofs.Schema.TypeHint
import SqlComposer.Schema.Alteration

/-!
What is stored for a column once its definition has been changed in place. The comment is stated
with the new definition only if that has a comment or needs a hint, and else the one of the old
definition stays behind, with its hint. So the new definition is read back exactly if it states a
comment of its own or if nothing misleading was stored before (`Dialect.recoversChanged_iff`).
-/

namespace SqlComposer

/-! ## Stored comments -/

/-- A stored comment that tells nothing but perhaps a type. -/
def TellsAtMost (stored : Option String) (type : ColumnType) : Prop :=
  decodeComment stored = (none, none) ∨ decodeComment stored = (some type, none)

namespace Ddl

variable (t : TableName) (column : String)

/-- The comment that a column has after a statement. One that is stated takes the place of the one
before, and nothing else changes it. -/
def recomment (stored : Option String) : Ddl → Option String
  | commentColumn table name text => if table = t ∧ name = column then some text else stored
  | _ => stored

def recommentAll (stored : Option String) (list : List Ddl) : Option String :=
  list.foldl (recomment t column) stored

variable {t column}

theorem recommentAll_append (stored : Option String) (first second : List Ddl) :
    recommentAll t column stored (first ++ second) =
      recommentAll t column (recommentAll t column stored first) second :=
  List.foldl_append

end Ddl

namespace Dialect

variable {t : Table} {c : Column}

theorem recommentAll_prerequisites (d : Dialect) (table : TableName) (column : String)
    (stored : Option String) :
    Ddl.recommentAll table column stored (d.prerequisites c) = stored := by
  unfold prerequisites
  split <;> rfl

/-- What completes a column states its comment, if there is one to be stored. -/
theorem recommentAll_followUps (c : Column) (table : TableName) (stored : Option String) :
    Ddl.recommentAll table c.name stored (postgres.followUps table c) =
      (encodeComment c (postgres.needsTypeHint c)).or stored := by
  rw [followUps]
  cases encodeComment c (postgres.needsTypeHint c) with
  | none => rfl
  | some text => exact if_pos ⟨rfl, rfl⟩

theorem encodeComment_unnumbered (hinted : Bool) :
    encodeComment { c with autoIncrement := false } hinted = encodeComment c hinted := rfl

/-- A column that numbers the rows has a native type of its own, but it is read as the same type. -/
theorem needsTypeHint_unnumbered (plain : c.isEnum = false) :
    postgres.needsTypeHint { c with autoIncrement := false } = postgres.needsTypeHint c := by
  have unnumbered := needsTypeHint_iff (c := { c with autoIncrement := false }) (.inr rfl) plain
  rw [Bool.eq_iff_iff, unnumbered, needsTypeHint_iff (.inr rfl) plain]

theorem recommentAll_changeColumn (plain : c.isEnum = false) (stored : Option String) :
    Ddl.recommentAll t.tableName c.name stored (postgres.statements t (.changeColumn c)) =
      (encodeComment c (postgres.needsTypeHint c)).or stored := by
  let unnumbered : Column := { c with autoIncrement := false }
  have made : postgres.statements t (.changeColumn c) =
      postgres.prerequisites unnumbered ++
        [.changeColumn t.tableName (postgres.define unnumbered)] ++
        postgres.followUps t.tableName unnumbered := rfl
  have completed : Ddl.recommentAll t.tableName c.name stored
      (postgres.followUps t.tableName unnumbered) =
      (encodeComment unnumbered (postgres.needsTypeHint unnumbered)).or stored :=
    recommentAll_followUps unnumbered t.tableName stored
  rw [needsTypeHint_unnumbered plain, encodeComment_unnumbered] at completed
  rw [made, Ddl.recommentAll_append, Ddl.recommentAll_append, recommentAll_prerequisites]
  exact completed

/-! ## Reading back -/

theorem recoversFrom_iff_tellsAtMost {d : Dialect} {stored : Option String}
    (native : d.readType (d.typeName c) = some c.type)
    (uncommented : c.comment = none) : d.RecoversFrom stored c ↔ TellsAtMost stored c.type := by
  unfold TellsAtMost
  rcases read : decodeComment stored with ⟨hint, comment⟩
  constructor
  · intro recovered
    obtain ⟨type, own⟩ := recovered
    rw [read] at type own
    rw [uncommented] at own
    subst own
    cases hint with
    | none => exact .inl rfl
    | some hinted => exact .inr (by rw [Option.some.inj type])
  · rintro (nothing | hinted)
    · rw [nothing] at read
      exact ⟨by rw [read]; exact native, by rw [read, uncommented]⟩
    · rw [hinted] at read
      exact ⟨by rw [read]; rfl, by rw [read, uncommented]⟩

end Dialect

theorem not_looksHinted_of_bare {text : String} (apart : ¬"T:".toList <+: text.toList) :
    ¬LooksHinted text := by
  rintro ⟨hint, comment, written⟩
  rw [written] at apart
  exact apart ⟨hint ++ '|' :: comment, by simp⟩

/-- Whatever was stored for a column, once it has been changed in place its new type and comment
are read back exactly if the new definition has a comment or a type that needs a hint, or if what
was stored for the old one tells neither a comment nor another type. -/
theorem Dialect.recoversChanged_iff (t : Table) {old new : Column} (named : new.name = old.name)
    (plain : new.isEnum = false)
    (apart : ∀ text, new.comment = some text → text ≠ "" ∧ ¬"T:".toList <+: text.toList) :
    let stored := encodeComment old (postgres.needsTypeHint old)
    postgres.RecoversFrom (Ddl.recommentAll t.tableName old.name stored
        (postgres.statements t (.changeColumn new))) new ↔
      new.comment ≠ none ∨ postgres.storedType new.type ≠ new.type ∨
        TellsAtMost stored new.type := by
  intro stored
  rw [← named, recommentAll_changeColumn plain]
  have stated : new.comment ≠ some "" := fun empty => (apart "" empty).1 rfl
  by_cases shared : postgres.storedType new.type = new.type
  · have native : postgres.readType (postgres.typeName new) = some new.type :=
      (readType_postgres plain).trans (congrArg some shared)
    have unhinted : postgres.needsTypeHint new = false :=
      Bool.eq_false_iff.mpr fun hinted => (needsTypeHint_iff (.inr rfl) plain).mp hinted shared
    rw [unhinted]
    cases written : new.comment with
    | none =>
      have unstated : encodeComment new false = none := written
      rw [unstated, Option.none_or, recoversFrom_iff_tellsAtMost native written]
      simp [shared]
    | some text =>
      obtain ⟨shown, bare⟩ := apart text written
      have kept : encodeComment new false = some text := written
      rw [kept, Option.some_or]
      exact iff_of_true
        (recoversFrom_of_comment native written shown (not_looksHinted_of_bare bare))
        (.inl nofun)
  · rw [(needsTypeHint_iff (.inr rfl) plain).mpr shared]
    exact iff_of_true (recoversFrom_of_hint stated) (.inr (.inl shared))

/-- A comment of its own takes the place of the hint that was stored before. -/
theorem Dialect.recoversChanged_of_restated_comment :
    let t : Table := { name := "people" }
    let old : Column := { name := "bio", type := .longText }
    let new : Column :=
      { name := "bio", type := .jsonb, nullable := true, comment := some "T-shirt" }
    let stored := encodeComment old (postgres.needsTypeHint old)
    new.name = old.name ∧ new.isEnum = false ∧
      (∀ text, new.comment = some text → text ≠ "" ∧ ¬"T:".toList <+: text.toList) ∧
      stored = some "T:longText|" ∧
      (postgres.statements t (.changeColumn new)).map (·.sql postgres) =
        ["ALTER TABLE \"people\" ALTER COLUMN \"bio\" TYPE JSONB USING \"bio\"::JSONB, " ++
          "ALTER COLUMN \"bio\" DROP NOT NULL, ALTER COLUMN \"bio\" DROP DEFAULT",
          "COMMENT ON COLUMN \"people\".\"bio\" IS 'T-shirt'"] ∧
      postgres.RecoversFrom (Ddl.recommentAll t.tableName old.name stored
        (postgres.statements t (.changeColumn new))) new := by
  intro t old new stored
  have apart : ∀ text, new.comment = some text → text ≠ "" ∧ ¬"T:".toList <+: text.toList := by
    rintro text kept
    cases kept
    decide
  have named : new.name = old.name := rfl
  have plain : new.isEnum = false := rfl
  have recovers := Dialect.recoversChanged_iff t named plain apart
  exact ⟨named, plain, apart, by decide +kernel, by decide +kernel, recovers.mpr (.inl nofun)⟩

/-- A hint and a comment that are not stated anew stay behind. -/
theorem Dialect.not_recoversChanged_of_hint_left_behind :
    let t : Table := { name := "t" }
    let old : Column := { name := "bio", type := .longText }
    let new : Column := { name := "bio", type := .integer }
    let stored := encodeComment old (postgres.needsTypeHint old)
    (postgres.statements t (.changeColumn new)).map (·.sql postgres) =
        ["ALTER TABLE \"t\" ALTER COLUMN \"bio\" TYPE INTEGER USING \"bio\"::INTEGER, " ++
          "ALTER COLUMN \"bio\" SET NOT NULL, ALTER COLUMN \"bio\" DROP DEFAULT"] ∧
      Ddl.recommentAll t.tableName "bio" stored (postgres.statements t (.changeColumn new)) =
        some "T:longText|" ∧
      decodeComment (some "T:longText|") = (some .longText, none) ∧
      ¬postgres.RecoversFrom (Ddl.recommentAll t.tableName "bio" stored
        (postgres.statements t (.changeColumn new))) new := by
  intro t old new stored
  have left : Ddl.recommentAll t.tableName "bio" stored
      (postgres.statements t (.changeColumn new)) = some "T:longText|" := by decide +kernel
  refine ⟨by decide +kernel, left, by decide +kernel, fun recovered => ?_⟩
  rw [left] at recovered
  exact absurd recovered.type (by decide +kernel)

end SqlComposer
