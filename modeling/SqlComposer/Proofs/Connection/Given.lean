import SqlComposer.Connection.Basic

/-!
Runs on connections that keep a state, such as what they have been asked and what they will refuse
next. A list of statements is given to a connection in order, up to the first one that it refuses.
-/

namespace SqlComposer

variable {σ : Type}

namespace Run

variable {A B : Type}

def runFrom (action : Run (StateM σ) A) (start : σ) : Except Failure A × σ :=
  StateT.run (m := Id) (ExceptT.run action) start

theorem runFrom_bind_of_ok {action : Run (StateM σ) A} {next : A → Run (StateM σ) B} {a : A}
    {start middle : σ} (done : action.runFrom start = (.ok a, middle)) :
    (action >>= next).runFrom start = (next a).runFrom middle := by
  unfold runFrom at done ⊢
  rw [ExceptT.run_bind, StateT.run_bind, done]
  rfl

theorem runFrom_bind_of_error {action : Run (StateM σ) A} {next : A → Run (StateM σ) B}
    {failure : Failure} {start middle : σ}
    (failed : action.runFrom start = (.error failure, middle)) :
    (action >>= next).runFrom start = (.error failure, middle) := by
  unfold runFrom at failed ⊢
  rw [ExceptT.run_bind, StateT.run_bind, failed]
  rfl

theorem runFrom_tryCatch_of_ok {action : Run (StateM σ) A} {handler : Failure → Run (StateM σ) A}
    {a : A} {start middle : σ} (done : action.runFrom start = (.ok a, middle)) :
    (tryCatch action handler).runFrom start = (.ok a, middle) := by
  unfold runFrom at done ⊢
  rw [ExceptT.run_tryCatch, StateT.run_bind, done]
  rfl

theorem runFrom_tryCatch_of_error {action : Run (StateM σ) A}
    {handler : Failure → Run (StateM σ) A} {failure : Failure} {start middle : σ}
    (failed : action.runFrom start = (.error failure, middle)) :
    (tryCatch action handler).runFrom start = (handler failure).runFrom middle := by
  unfold runFrom at failed ⊢
  rw [ExceptT.run_tryCatch, StateT.run_bind, failed]
  rfl

theorem runFrom_attempt_of_ok {action : Run (StateM σ) A} {a : A} {start middle : σ}
    (done : action.runFrom start = (.ok a, middle)) :
    (attempt action).runFrom start = (.ok (.ok a), middle) := by
  apply runFrom_tryCatch_of_ok
  rw [runFrom_bind_of_ok done]
  rfl

theorem runFrom_attempt_of_error {action : Run (StateM σ) A} {e : QueryError} {start middle : σ}
    (failed : action.runFrom start = (.error (.error e), middle)) :
    (attempt action).runFrom start = (.ok (.error e), middle) := by
  unfold attempt
  rw [runFrom_tryCatch_of_error (runFrom_bind_of_error failed)]
  rfl

end Run

namespace Connection

variable [Connection (StateM σ)]

def answer (statement : Statement) (state : σ) : Except QueryError Outcome × σ :=
  (execute statement : StateM σ (Except QueryError Outcome)).run state

/-- A connection whose state tells which statements it has been given. -/
def Logs (log : σ → List Statement) : Prop :=
  ∀ statement state, log (answer statement state).2 = log state ++ [statement]

/-- Statements given to a connection one after the other: it accepts all of them, or refuses the
last one. -/
inductive Given : σ → List Statement → Option QueryError → σ → Prop
  | none (state : σ) : Given state [] .none state
  | accepted {start middle finish : σ} {statement : Statement} {rest : List Statement}
    {outcome : Outcome} {refusal : Option QueryError} :
    answer statement start = (.ok outcome, middle) → Given middle rest refusal finish →
      Given start (statement :: rest) refusal finish
  | refused {start finish : σ} {statement : Statement} {e : QueryError} :
    answer statement start = (.error e, finish) → Given start [statement] (some e) finish

namespace Given

variable {start middle finish : σ} {statements : List Statement} {refusal : Option QueryError}

theorem append {first : List Statement} (before : Given start first .none middle)
    (after : Given middle statements refusal finish) :
    Given start (first ++ statements) refusal finish := by
  generalize none : (Option.none : Option QueryError) = accepted at before
  induction before with
  | none => exact after
  | accepted answered _ ih => exact .accepted answered (ih after none)
  | refused => cases none

/-- No statement is given twice or left out. -/
theorem log_eq {log : σ → List Statement} (logs : Logs log)
    (given : Given start statements refusal finish) : log finish = log start ++ statements := by
  induction given with
  | none => simp
  | @accepted start middle _ statement rest _ _ answered _ ih =>
    have kept := logs statement start
    rw [answered] at kept
    rw [ih, kept, List.append_assoc]
    rfl
  | @refused start _ statement _ answered =>
    have kept := logs statement start
    rwa [answered] at kept

end Given

end Connection

open Connection

namespace Run

variable [Connection (StateM σ)]

theorem runFrom_execute {statement : Statement} {result : Except QueryError Outcome}
    {start finish : σ} (answered : answer statement start = (result, finish)) :
    (execute statement).runFrom start = (result.mapError .error, finish) := by
  have asked : runFrom (ExceptT.lift (Connection.execute statement) :
      Run (StateM σ) (Except QueryError Outcome)) start = (.ok result, finish) := by
    unfold answer at answered
    unfold runFrom
    rw [ExceptT.run_lift, StateT.run_map, answered]
    rfl
  unfold execute
  rw [runFrom_bind_of_ok asked]
  rfl

end Run

end SqlComposer
