import Mathlib.Logic.Function.Basic
import SomethingsWrong.Detector.WrongnessDetector

/-! Rounds of `CheckAll` in surroundings given by tables: what each monitor answers in
each round, which calls of `Start` throw, and how the alerts react. What one round does
is computed, function by function. -/
namespace SomethingsWrong.Rounds
open Program Detector

/-- A call that an alert receives. -/
inductive Call (A : Type) where
  | start (alert : A) (action : MonitorAction)
  | stop (alert : A)
  deriving DecidableEq

/-- The surroundings, round by round. `throws r m j` is what the `j`-th call of `Start(m)`
in round `r` throws; otherwise the alerts are any machine with states `ω`, which may also
change between two calls. -/
structure Script (A ω : Type) where
  outcome : Nat → MonitorAction → Except Exn Bool
  details : Nat → MonitorAction → Except Exn String
  throws : Nat → MonitorAction → Nat → Option Exn
  started : Nat → A → MonitorAction → ω → ω
  isRunning : Nat → A → ω → Bool × ω
  stopped : Nat → A → ω → Except Exn Unit × ω

/-- `position` counts the calls of `Start` since the last `GetStatus`; `checks` are the
monitors whose `GetStatus` was evaluated and `calls` what the alerts received, oldest first. -/
structure State (A ω : Type) where
  marks : MonitorAction → Bool
  alerts : ω
  position : Nat
  checks : List MonitorAction
  calls : List (Call A)

variable {A ω : Type}

def State.check (m : MonitorAction) (s : State A ω) : State A ω :=
  { s with checks := s.checks ++ [m], position := 0 }

def State.mark (m : MonitorAction) (value : Bool) (s : State A ω) : State A ω :=
  { s with marks := Function.update s.marks m value }

/-- `Start(m)` has been called on the alerts `as`, in this order. -/
def State.startOn (script : Script A ω) (r : Nat) (m : MonitorAction) (as : List A)
    (s : State A ω) : State A ω :=
  { s with
    alerts := as.foldl (fun w a => script.started r a m w) s.alerts
    position := s.position + as.length
    calls := s.calls ++ as.map (.start · m) }

def handle (script : Script A ω) (r : Nat) (s : State A ω) : (op : Op A) → op.Answer × State A ω
  | .getStatus m => (script.outcome r m, s.check m)
  | .getActionDetails m => (script.details r m, s)
  | .markedAsFailing m => (s.marks m, s)
  | .setMarkedAsFailing m value => ((), s.mark m value)
  | .start a m =>
    (match script.throws r m s.position with
      | some e => .error e
      | none => .ok (), s.startOn script r m [a])
  | .isRunning a =>
    ((script.isRunning r a s.alerts).1, { s with alerts := (script.isRunning r a s.alerts).2 })
  | .stop a =>
    ((script.stopped r a s.alerts).1,
      { s with alerts := (script.stopped r a s.alerts).2, calls := s.calls ++ [.stop a] })
  | .log _ => ((), s)

section Execution
variable (script : Script A ω) (r : Nat) (s : State A ω) (alertActions : List A)
  (m : MonitorAction)

@[simp] theorem exec_getStatus :
    Prog.exec (handle script r) (getStatus m) s = (script.outcome r m, s.check m) := by
  simp [getStatus, Prog.exec_bind, handle]

@[simp] theorem exec_getActionDetails :
    Prog.exec (handle script r) (getActionDetails m) s = (script.details r m, s) := by
  simp [getActionDetails, Prog.exec_bind, handle]

@[simp] theorem exec_markedAsFailing :
    Prog.exec (handle script r) (markedAsFailing m) s = (.ok (s.marks m), s) := rfl

@[simp] theorem exec_setMarkedAsFailing (value : Bool) :
    Prog.exec (handle script r) (setMarkedAsFailing m value) s = (.ok (), s.mark m value) := rfl

@[simp] theorem exec_log (level : LogLevel) (text : String) :
    Prog.exec (handle script r) (log level text) s = (.ok (), s) := rfl

theorem exec_isRunning (a : A) : Prog.exec (handle script r) (isRunning a) s =
    (.ok (script.isRunning r a s.alerts).1,
      { s with alerts := (script.isRunning r a s.alerts).2 }) := rfl

theorem exec_stop (a : A) : Prog.exec (handle script r) (stop a) s =
    ((script.stopped r a s.alerts).1,
      { s with alerts := (script.stopped r a s.alerts).2, calls := s.calls ++ [.stop a] }) := by
  simp [stop, Prog.exec_bind, handle]

/-- Does `PerformMonitorAction` take the monitor for passing? An exception means that
`GetActionDetails` threw outside the `try` statement. -/
def verdict : Except Exn Bool :=
  match script.outcome r m with
  | .ok true => .ok true
  | .ok false =>
    match script.details r m with
    | .error (.webException e) =>
      if m.failAtNetworkException then .error (.webException e) else .ok true
    | details => details.map fun _ => false
  | .error (.webException _) =>
    if m.failAtNetworkException then (script.details r m).map fun _ => false else .ok true
  | .error (.exception _) => (script.details r m).map fun _ => false

theorem exec_evaluate : ∃ message, Prog.exec (handle script r) (evaluate m) s =
    ((verdict script r m).map fun passed => (passed, message), s.check m) := by
  unfold evaluate verdict
  rw [Prog.exec_tryCatch, Prog.exec_bind, exec_getStatus]
  cases script.outcome r m with
  | ok b =>
    cases b with
    | true => exact ⟨_, rfl⟩
    | false =>
      simp only [Bool.not_false, ↓reduceIte, Prog.exec_bind, exec_getActionDetails]
      cases hd : script.details r m with
      | ok text => exact ⟨_, rfl⟩
      | error e =>
        cases e with
        | webException e =>
          cases hf : m.failAtNetworkException with
          | true => simp [hd, Except.map]
          | false => simp [Except.map]
        | exception e => simp [hd, Except.map]
  | error e =>
    cases e with
    | webException e =>
      cases hf : m.failAtNetworkException with
      | true =>
        simp only [Bool.not_true, Bool.false_eq_true, ↓reduceIte, Prog.exec_bind,
          exec_getActionDetails]
        cases script.details r m with
        | ok text => exact ⟨_, rfl⟩
        | error e => simp [Except.map]
      | false => simp [Except.map]
    | exception e =>
      simp only [Prog.exec_bind, exec_getActionDetails]
      cases script.details r m with
      | ok text => exact ⟨_, rfl⟩
      | error e => simp [Except.map]

/-- The result of `StartAlerts`, from the `j`-th call on, and the alerts it reached. -/
def invoked (j : Nat) : List A → Except Exn Unit × List A
  | [] => (.ok (), [])
  | a :: as =>
    match script.throws r m j with
    | some e => (.error e, [a])
    | none => ((invoked (j + 1) as).1, a :: (invoked (j + 1) as).2)

theorem startOn_startOn (as bs : List A) :
    (s.startOn script r m as).startOn script r m bs = s.startOn script r m (as ++ bs) := by
  simp [State.startOn, Nat.add_assoc]

theorem exec_startAlerts : Prog.exec (handle script r) (startAlerts alertActions m) s =
    ((invoked script r m s.position alertActions).1,
      s.startOn script r m (invoked script r m s.position alertActions).2) := by
  have hstart (a : A) (s : State A ω) : Prog.exec (handle script r) (start a m) s =
      (match script.throws r m s.position with
        | some e => .error e
        | none => .ok (), s.startOn script r m [a]) := by
    simp [start, Prog.exec_bind, handle]
  have hloop (as : List A) (s : State A ω) : Prog.exec (handle script r)
      (forIn as PUnit.unit fun a _ => do start a m; pure (ForInStep.yield PUnit.unit)) s =
      ((invoked script r m s.position as).1,
        s.startOn script r m (invoked script r m s.position as).2) := by
    induction as generalizing s with
    | nil => simp [invoked, State.startOn]
    | cons a as ih =>
      rw [List.forIn_cons, Prog.exec_bind, Prog.exec_bind, hstart]
      cases ht : script.throws r m s.position with
      | some e => simp [invoked, ht]
      | none =>
        simp only [Prog.exec_pure, ih, invoked, ht, startOn_startOn]
        rfl
  unfold startAlerts
  rw [Prog.exec_bind, hloop]
  cases (invoked script r m s.position alertActions).1 <;> rfl

/-- One monitor of a round: the result of `PerformMonitorAction`, and the state after it. -/
def visit : Except Exn Bool × State A ω :=
  let s := s.check m
  let continued := (script.details r m).map fun _ => false
  match verdict script r m with
  | .error e => (.error e, s)
  | .ok true => (.ok true, s.mark m false)
  | .ok false =>
    if s.marks m then (continued, s)
    else
      let s := (s.mark m true).startOn script r m (invoked script r m 0 alertActions).2
      match (invoked script r m 0 alertActions).1 with
      | .error e => (.error e, s)
      | .ok () => (continued, s)

theorem exec_performMonitorAction :
    Prog.exec (handle script r) (performMonitorAction alertActions m) s =
      visit script r s alertActions m := by
  obtain ⟨message, he⟩ := exec_evaluate script r s m
  have hmark : (s.check m).mark m (s.marks m) = s.check m := by simp [State.mark, State.check]
  unfold performMonitorAction visit
  rw [Prog.exec_bind, he]
  cases verdict script r m with
  | error e => rfl
  | ok passed =>
    cases passed with
    | true =>
      cases hm : s.marks m with
      | true => simp [Except.map, Prog.exec_bind, State.check, hm]
      | false =>
        rw [hm] at hmark
        simp [Except.map, Prog.exec_bind, hmark]
        simp [State.check, hm]
    | false =>
      cases hm : s.marks m with
      | true => cases hd : script.details r m <;> simp [Except.map, Prog.exec_bind, State.check, hm, hd]
      | false =>
        have hpos : ((s.check m).mark m true).position = 0 := rfl
        have hfirst : (s.check m).marks m = false := hm
        simp only [Except.map, Bool.not_false, ↓reduceIte, Prog.exec_bind, exec_markedAsFailing,
          hfirst, exec_log, exec_setMarkedAsFailing, exec_startAlerts, hpos, Bool.false_eq_true]
        cases (invoked script r m 0 alertActions).1 with
        | error e => rfl
        | ok u => cases hd : script.details r m <;> simp [hd]

/-- The loop of `CheckAll`, which the first exception ends. -/
def visitAll : List MonitorAction → Bool → State A ω → Except Exn Bool × State A ω
  | [], all, s => (.ok all, s)
  | m :: ms, all, s =>
    match visit script r s alertActions m with
    | (.ok passed, s) => visitAll ms (if passed then all else false) s
    | (.error e, s) => (.error e, s)

/-- `StopRunningAlerts` -/
def stopAll : List A → State A ω → Except Exn Unit × State A ω
  | [], s => (.ok (), s)
  | a :: as, s =>
    let (running, w) := script.isRunning r a s.alerts
    if running then
      let (result, w) := script.stopped r a w
      let s := { s with alerts := w, calls := s.calls ++ [.stop a] }
      match result with
      | .ok () => stopAll as s
      | .error e => (.error e, s)
    else stopAll as { s with alerts := w }

theorem exec_stopRunningAlerts :
    Prog.exec (handle script r) (stopRunningAlerts alertActions) s =
      stopAll script r alertActions s := by
  have hloop (as : List A) (s : State A ω) : Prog.exec (handle script r)
      (forIn as PUnit.unit fun a _ => do
        if ← isRunning a then
          stop a
          pure (ForInStep.yield PUnit.unit)
        else
          pure (ForInStep.yield PUnit.unit)) s = stopAll script r as s := by
    induction as generalizing s with
    | nil => rfl
    | cons a as ih =>
      rw [List.forIn_cons, Prog.exec_bind, Prog.exec_bind, exec_isRunning]
      simp only [stopAll]
      cases (script.isRunning r a s.alerts).1 with
      | false => exact ih _
      | true =>
        simp only [↓reduceIte, Prog.exec_bind, exec_stop]
        cases (script.stopped r a (script.isRunning r a s.alerts).2).1 with
        | error e => rfl
        | ok u => exact ih _
  unfold stopRunningAlerts
  rw [Prog.exec_bind, hloop]
  cases stopAll script r alertActions s with
  | mk result s' => cases result <;> rfl

variable (monitorActions : List MonitorAction)

/-- One round of the loop in `Program.Main`. -/
def round : State A ω :=
  (Prog.exec (handle script r) (checkAllGuarded monitorActions alertActions) s).2

theorem exec_loop (all : Bool) : Prog.exec (handle script r)
    (forIn monitorActions all fun m (all : Bool) => do
      let result ← performMonitorAction alertActions m
      if (!result) = true then pure (ForInStep.yield false) else pure (ForInStep.yield all)) s =
    visitAll script r alertActions monitorActions all s := by
  induction monitorActions generalizing all s with
  | nil => rfl
  | cons m ms ih =>
    rw [List.forIn_cons, Prog.exec_bind, Prog.exec_bind, exec_performMonitorAction]
    simp only [visitAll]
    cases visit script r s alertActions m with
    | mk result s' =>
      cases result with
      | error e => rfl
      | ok passed =>
        cases passed with
        | true => exact ih s' all
        | false => exact ih s' false

theorem round_eq : round script r s alertActions monitorActions =
    match visitAll script r alertActions monitorActions true s with
    | (.ok true, s) => (stopAll script r alertActions s).2
    | (_, s) => s := by
  have hguard (p : DetectorM A Unit) : (Prog.exec (handle script r)
      (try p catch ex => log .error ex.message) s).2 = (Prog.exec (handle script r) p s).2 := by
    rw [Prog.exec_tryCatch]
    cases Prog.exec (handle script r) p s with
    | mk result s' => cases result <;> rfl
  unfold round checkAllGuarded
  rw [hguard]
  unfold checkAll
  rw [Prog.exec_bind, exec_loop]
  cases visitAll script r alertActions monitorActions true s with
  | mk result s' =>
    cases result with
    | error e => rfl
    | ok all =>
      cases all with
      | false => rfl
      | true => simp [Prog.exec_bind, exec_stopRunningAlerts]

/-- The state after the first `n` rounds. -/
def after : Nat → State A ω
  | 0 => s
  | n + 1 => round script n (after n) alertActions monitorActions

end Execution
end SomethingsWrong.Rounds
