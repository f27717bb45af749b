import SqlComposer.Connection.Script
import SqlComposer.Proofs.Connection.Given
import SqlComposer.Schema.Basic

/-!
What becomes of the commands of a blueprint on any connection, whichever statements it refuses.
Commands are carried out one after the other, each by the statements that the model asks for once
the commands before it have been applied, and a refused statement ends it all.
-/

namespace SqlComposer

variable {σ : Type} [Connection (StateM σ)]

open Connection Run

namespace Schema

def textsOf (s : Schema) (t : Table) (c : Command) : List Statement :=
  (s.dialect.statements t c).map fun ddl => ⟨ddl.sql s.dialect, []⟩

def texts (s : Schema) : Table → List Command → List Statement
  | _, [] => []
  | t, c :: rest => s.textsOf t c ++ s.texts (t.apply c) rest

/-- How commands on a table end: the statements that the connection has been given, the model and
the outcomes that come back, and the failures to report. Either all commands are applied, or those
before one of whose statements the connection refuses, and no statement follows that one. -/
inductive Ends (s : Schema) (t : Table) (start finish : σ) :
    List Command → List Statement → Table × List (Command × CommandOutcome) →
      List CommandFailure → Prop
  | applied {commands : List Command} (given : Given start (s.texts t commands) none finish) :
    Ends s t start finish commands (s.texts t commands)
      (t.applyAll commands, commands.map fun c => (c, .applied)) []
  | refused {done rest : List Command} {c : Command} {accepted later : List Statement}
    {statement : Statement} {e : QueryError}
    (texts : s.textsOf (t.applyAll done) c = accepted ++ statement :: later)
    (given : Given start (s.texts t done ++ accepted ++ [statement]) (some e) finish) :
    Ends s t start finish (done ++ c :: rest) (s.texts t done ++ accepted ++ [statement])
      (t.applyAll done,
        done.map (fun c => (c, .applied)) ++
          (c, .failed e.message) :: rest.map fun c => (c, .skipped))
      (⟨c.description, e.message⟩ :: rest.map fun c => ⟨c.description, "skipped"⟩)

variable {s : Schema} {t : Table} {start middle finish : σ}

theorem runStatements_runFrom (d : Dialect) (list : List Ddl) (start : σ) :
    (∃ finish, Given start (list.map fun ddl => ⟨ddl.sql d, []⟩) none finish ∧
      (runStatements d list).runFrom start = (.ok (), finish)) ∨
    ∃ accepted statement later e finish,
      (list.map fun ddl => (⟨ddl.sql d, []⟩ : Statement)) = accepted ++ statement :: later ∧
        Given start (accepted ++ [statement]) (some e) finish ∧
        (runStatements d list).runFrom start = (.error (.error e), finish) := by
  induction list generalizing start with
  | nil => exact .inl ⟨start, .none start, rfl⟩
  | cons ddl rest ih =>
    rcases asked : answer (⟨ddl.sql d, []⟩ : Statement) start with ⟨_ | outcome, middle⟩
    · next e =>
      have refused : (runStatements d (ddl :: rest)).runFrom start =
          (.error (.error e), middle) := runFrom_bind_of_error (runFrom_execute asked)
      exact .inr ⟨[], _, _, e, middle, rfl, .refused asked, refused⟩
    · have accepted : (runStatements d (ddl :: rest)).runFrom start =
          (runStatements d rest).runFrom middle := runFrom_bind_of_ok (runFrom_execute asked)
      rcases ih middle with ⟨finish, given, done⟩ | ⟨first, statement, later, e, finish, parts,
        given, failed⟩
      · exact .inl ⟨finish, .accepted asked given, accepted.trans done⟩
      · refine .inr ⟨_ :: first, statement, later, e, finish, ?_, .accepted asked given,
          accepted.trans failed⟩
        rw [List.map_cons, parts]
        rfl

theorem Ends.cons {c : Command} {commands : List Command} {ran : List Statement}
    {result : Table × List (Command × CommandOutcome)} {failures : List CommandFailure}
    (given : Given start (s.textsOf t c) none middle)
    (ends : Ends s (t.apply c) middle finish commands ran result failures) :
    Ends s t start finish (c :: commands) (s.textsOf t c ++ ran)
      (result.1, (c, .applied) :: result.2) failures := by
  cases ends with
  | applied later => exact .applied (given.append later)
  | @refused done rest stopped accepted later statement e texts after =>
    have whole :
        Given start (s.texts t (c :: done) ++ accepted ++ [statement]) (some e) finish := by
      simpa [Schema.texts] using given.append after
    have ending : Ends s t start finish (c :: done ++ stopped :: rest) _ _ _ :=
      .refused texts whole
    simpa [Schema.texts] using ending

theorem applyCommands_ends (s : Schema) (t : Table) (commands : List Command) (start : σ) :
    ∃ ran result failures finish, Ends s t start finish commands ran result failures ∧
      (s.applyCommands t commands).runFrom start = (.ok result, finish) := by
  induction commands generalizing t start with
  | nil => exact ⟨[], _, [], start, .applied (.none start), rfl⟩
  | cons c rest ih =>
    unfold applyCommands
    rcases runStatements_runFrom s.dialect (s.dialect.statements t c) start with
      ⟨middle, given, done⟩ | ⟨accepted, statement, later, e, finish, parts, given, failed⟩
    -- The model moves on with the connection: the rest runs on both as the command left them.
    · obtain ⟨ran, result, failures, finish, ends, run⟩ := ih (t.apply c) middle
      refine ⟨_, _, failures, finish, ends.cons given, ?_⟩
      rw [runFrom_bind_of_ok (runFrom_attempt_of_ok done)]
      simp only
      rw [runFrom_bind_of_ok run]
      rfl
    · have ends : Ends s t start finish ([] ++ c :: rest) _ _ _ := .refused parts given
      refine ⟨_, _, _, finish, ends, ?_⟩
      rw [runFrom_bind_of_ok (runFrom_attempt_of_error failed)]
      rfl

section Ends

variable {commands : List Command} {ran : List Statement}
  {result : Table × List (Command × CommandOutcome)} {failures : List CommandFailure}
  (ends : Ends s t start finish commands ran result failures)
include ends

theorem Ends.given : ∃ refusal, Given start ran refusal finish := by
  cases ends with
  | applied given => exact ⟨_, given⟩
  | refused texts given => exact ⟨_, given⟩

theorem Ends.table_eq (none : failures = []) : result.1 = t.applyAll commands := by
  cases ends with
  | applied given => rfl
  | refused texts given => cases none

theorem Ends.failures_eq :
    result.2.filterMap (fun (c, outcome) => outcome.failure? c) = failures := by
  have applied : ∀ done : List Command,
      (done.map fun c => (c, CommandOutcome.applied)).filterMap
        (fun (c, outcome) => outcome.failure? c) = [] := by
    intro done
    simp [CommandOutcome.failure?]
  cases ends with
  | applied given => exact applied _
  | refused texts given =>
    rw [List.filterMap_append, applied, List.nil_append, List.filterMap_cons, List.filterMap_map]
    simp [CommandOutcome.failure?, Function.comp_def]

end Ends

theorem alterTable_runFrom {name : String} {define : Blueprint → Blueprint} {before : σ}
    (read : (s.table name).runFrom before = (.ok t, start)) {ran : List Statement}
    {result : Table × List (Command × CommandOutcome)} {failures : List CommandFailure}
    (ends : Ends s (define ⟨t, []⟩).finish.table start finish (define ⟨t, []⟩).finish.commands ran
      result failures)
    (run : (s.applyCommands (define ⟨t, []⟩).finish.table
      (define ⟨t, []⟩).finish.commands).runFrom start = (.ok result, finish)) :
    (s.alterTable name define).runFrom before =
      (if failures = [] then .ok result.1 else .error (.error (.alter name failures)), finish) := by
  unfold alterTable
  rw [runFrom_bind_of_ok read]
  simp only
  rw [runFrom_bind_of_ok run]
  simp only [ends.failures_eq]
  cases failures with
  | nil => rfl
  | cons first rest => rfl

/-- The commands of a blueprint are applied in order until the connection refuses a statement. The
connection is given no other statements than those that `Ends` tells, and an alteration by the same
commands succeeds exactly if none is left. -/
theorem commands_end (s : Schema) (b : Blueprint) (start : σ) :
    ∃ ran result failures finish, Ends s b.table start finish b.commands ran result failures ∧
      (s.applyCommands b.table b.commands).runFrom start = (.ok result, finish) ∧
      (failures = [] → result.1 = b.preview) ∧
      (∀ log : σ → List Statement, Logs log → log finish = log start ++ ran) ∧
      ∀ name define before t, (s.table name).runFrom before = (.ok t, start) →
        (define ⟨t, []⟩).finish = b →
          (s.alterTable name define).runFrom before =
            (if failures = [] then .ok result.1 else .error (.error (.alter name failures)),
              finish) := by
  obtain ⟨ran, result, failures, finish, ends, run⟩ :=
    applyCommands_ends s b.table b.commands start
  refine ⟨ran, result, failures, finish, ends, run, ends.table_eq, ?_, ?_⟩
  · intro log logs
    obtain ⟨refusal, given⟩ := ends.given
    exact given.log_eq logs
  · rintro name define before t read rfl
    exact alterTable_runFrom read ends run

/-- An alteration whose third command is refused half-way: the index over the column has gone by
then, and the column stays. -/
theorem commands_end_of_refused_script :
    let s : Schema := { dialect := .mysql }
    let before : Script :=
      { answers := [[⟨[("aggregate", .int 1)]⟩]], refused := [6] }
    let define : Blueprint → Blueprint := fun b =>
      b.draw [.declare { name := "a", type := .text }, .index false (some "by_a") ["a"],
        .dropColumn "a", .dropPrimary]
    ∃ finish ran, (s.alterTable "t" define).runFrom before =
        (.error (.error (.alter "t"
          [⟨"drop column a", "Database error: statement 6 rejected"⟩,
            ⟨"drop primary key", "skipped"⟩])), finish) ∧
      finish.calls.map (·.2) =
        [s.dialect.tableCount "t", s.dialect.columnListing "t", s.dialect.indexListing "t"] ++ ran ∧
      ran.map (·.sql) =
        ["ALTER TABLE `t` ADD COLUMN `a` TEXT NOT NULL", "CREATE INDEX `by_a` ON `t` (`a`)",
          "DROP INDEX `by_a` ON `t`", "ALTER TABLE `t` DROP COLUMN `a`"] := by
  intro s before define
  let t : Table := { name := "t" }
  let asked : List Statement :=
    [s.dialect.tableCount "t", s.dialect.columnListing "t", s.dialect.indexListing "t"]
  let start : Script := { refused := [6], calls := asked.map fun query => (.fetchAll, query) }
  have logs : Logs fun script : Script => script.calls.map (·.2) := by
    intro statement script
    by_cases refused : script.calls.length ∈ script.refused
    · simp [answer, Connection.execute, StateT.run, Script.execute, Script.record, refused]
    · simp [answer, Connection.execute, StateT.run, Script.execute, Script.record, refused]
  have read : (s.table "t").runFrom before = (.ok t, start) := rfl
  obtain ⟨ran, result, failures, finish, ends, run, -, logged, altered⟩ :=
    commands_end s (define ⟨t, []⟩).finish start
  have outcomes : ((s.applyCommands (define ⟨t, []⟩).finish.table
      (define ⟨t, []⟩).finish.commands).runFrom start).1.toOption.map (·.2) =
      some [(.addColumn { name := "a", type := .text }, .applied),
        (.createIndex ⟨"by_a", ["a"], false⟩, .applied),
        (.dropColumn "a", .failed "Database error: statement 6 rejected"),
        (.dropPrimary, .skipped)] := by
    decide +kernel
  have texts : (((s.applyCommands (define ⟨t, []⟩).finish.table
      (define ⟨t, []⟩).finish.commands).runFrom start).2.calls.map (·.2.sql)).drop 3 =
      ["ALTER TABLE `t` ADD COLUMN `a` TEXT NOT NULL", "CREATE INDEX `by_a` ON `t` (`a`)",
        "DROP INDEX `by_a` ON `t`", "ALTER TABLE `t` DROP COLUMN `a`"] := by
    decide +kernel
  rw [run] at outcomes texts
  have failed : failures = [⟨"drop column a", "Database error: statement 6 rejected"⟩,
      ⟨"drop primary key", "skipped"⟩] := by
    have told : result.2 = _ := Option.some.inj outcomes
    rw [← ends.failures_eq, told]
    decide +kernel
  have given := logged _ logs
  refine ⟨finish, ran, ?_, given, ?_⟩
  · rw [altered "t" define before t read rfl, failed]
    rfl
  · have later : ran = (finish.calls.map (·.2)).drop 3 := by
      rw [given]
      rfl
    rw [later, ← texts, List.map_drop, List.map_map]
    rfl

end Schema

end SqlComposer
