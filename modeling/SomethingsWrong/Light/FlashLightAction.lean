import SomethingsWrong.Basic
import SomethingsWrong.Base.LabelledRun

/-! `FlashLightAction` with the static state it shares with every other alert:
the flag `_isRunning`, the reference `_alarmThread`, and the timer threads that
`Start` creates. A body under `lock(StatusLockingObj)` is one atomic step. -/
namespace SomethingsWrong.FlashLight

/-- The argument of the controller program. -/
inductive Command where
  | on | off
  deriving DecidableEq

def Command.param : Command → String
  | .on => "on"
  | .off => "off"

/-- What `Exec` sees of the process it runs: `proc.Start()` threw, the process ended
within the 60 s of `WaitForExit`, or it is still alive then and `ExitCode` throws. -/
inductive ProcessResult where
  | notStarted (details : String)
  | exited (code : Int)
  | stillRunning (details : String)
  deriving DecidableEq

/-- A process that ended with code zero has set the lamp. -/
def ProcessResult.succeeded : ProcessResult → Bool
  | .exited code => code == 0
  | _ => false

def ProcessResult.isAlive : ProcessResult → Bool
  | .stillRunning _ => true
  | _ => false

/-- What `Exec` logs, and all it does with the outcome. -/
def ProcessResult.log : ProcessResult → List LogLine
  | .notStarted details => [⟨.error, "Failed to execute controller process, details: " ++ details⟩]
  | .exited code =>
    ⟨.info, "Controller process exited with code: " ++ toString code⟩ ::
      if code ≠ 0 then [⟨.error, "Controller process exited with non zero code!"⟩] else []
  | .stillRunning details => [⟨.error, "Failed to execute controller process, details: " ++ details⟩]

/-- Where a thread stands in `StopAlarmAtGivenTime`: in the polling loop, past the
clock test and on its way through the lock, returned, or aborted by `Stop`. -/
inductive Phase where
  | testing | expiring | finished | aborted
  deriving DecidableEq

structure TimerThread where
  light : FileInfo
  stopTime : Int
  phase : Phase
  deriving DecidableEq

/-- `Thread.IsAlive` -/
def TimerThread.isAlive (t : TimerThread) : Bool :=
  t.phase == .testing || t.phase == .expiring

/-- One call of `Exec`: by the detector thread (`none`) or by a timer thread. -/
structure Issued where
  light : FileInfo
  command : Command
  caller : Option Nat
  time : Int
  result : ProcessResult
  deriving DecidableEq

/-- `threads` holds every timer thread ever created, so `_alarmThread` is a position
in it, and `commands` every call of `Exec`, oldest first. `outstanding` are the calls
whose process outlived its wait, `effects` those whose process set a lamp, in that order. -/
structure State where
  now : Int
  isRunning : Bool
  alarmThread : Option Nat
  threads : List TimerThread
  commands : List Issued
  outstanding : List Nat
  effects : List Nat
  lamp : FileInfo → Bool
  log : List LogLine

def State.initial (now : Int) : State :=
  { now := now, isRunning := false, alarmThread := none, threads := [], commands := [],
    outstanding := [], effects := [], lamp := fun _ => false, log := [] }

def setLamp (light : FileInfo) (param : Command) (k : Nat) (s : State) : State :=
  { s with lamp := fun f => if f = light then param == .on else s.lamp f, effects := s.effects ++ [k] }

/-- `FlashLightAction.Exec`: whatever becomes of the process, it returns. -/
def exec (light : FileInfo) (param : Command) (caller : Option Nat) (r : ProcessResult)
    (s : State) : State :=
  let k := s.commands.length
  let s := { s with
    commands := s.commands ++ [⟨light, param, caller, s.now, r⟩]
    outstanding := if r.isAlive then s.outstanding ++ [k] else s.outstanding
    log := s.log ++ r.log }
  if r.succeeded then setLamp light param k s else s

def logInfo (text : String) (s : State) : State :=
  { s with log := s.log ++ [⟨.info, text⟩] }

def setPhase (i : Nat) (p : Phase) (s : State) : State :=
  { s with threads := s.threads.modify i fun t => { t with phase := p } }

section Frame
variable (light : FileInfo) (param : Command) (caller : Option Nat) (r : ProcessResult) (s : State)
variable (text : String) (i : Nat) (p : Phase)

theorem exec_eq : exec light param caller r s = { s with
    commands := s.commands ++ [⟨light, param, caller, s.now, r⟩]
    outstanding := if r.isAlive then s.outstanding ++ [s.commands.length] else s.outstanding
    log := s.log ++ r.log
    lamp := if r.succeeded then fun f => if f = light then param == .on else s.lamp f else s.lamp
    effects := if r.succeeded then s.effects ++ [s.commands.length] else s.effects } := by
  cases hr : r.succeeded <;> simp [exec, setLamp, hr]

@[simp] theorem exec_now : (exec light param caller r s).now = s.now := by rw [exec_eq]
@[simp] theorem exec_isRunning : (exec light param caller r s).isRunning = s.isRunning := by
  rw [exec_eq]
@[simp] theorem exec_alarmThread : (exec light param caller r s).alarmThread = s.alarmThread := by
  rw [exec_eq]
@[simp] theorem exec_threads : (exec light param caller r s).threads = s.threads := by rw [exec_eq]
@[simp] theorem exec_commands : (exec light param caller r s).commands =
    s.commands ++ [⟨light, param, caller, s.now, r⟩] := by rw [exec_eq]

@[simp] theorem logInfo_now : (logInfo text s).now = s.now := rfl
@[simp] theorem logInfo_isRunning : (logInfo text s).isRunning = s.isRunning := rfl
@[simp] theorem logInfo_alarmThread : (logInfo text s).alarmThread = s.alarmThread := rfl
@[simp] theorem logInfo_threads : (logInfo text s).threads = s.threads := rfl
@[simp] theorem logInfo_commands : (logInfo text s).commands = s.commands := rfl

@[simp] theorem setLamp_commands (k : Nat) : (setLamp light param k s).commands = s.commands := rfl

@[simp] theorem setPhase_now : (setPhase i p s).now = s.now := rfl
@[simp] theorem setPhase_isRunning : (setPhase i p s).isRunning = s.isRunning := rfl
@[simp] theorem setPhase_alarmThread : (setPhase i p s).alarmThread = s.alarmThread := rfl
@[simp] theorem setPhase_commands : (setPhase i p s).commands = s.commands := rfl

theorem setPhase_getElem? (j : Nat) : (setPhase i p s).threads[j]? =
    (s.threads[j]?).map fun t => if i = j then { t with phase := p } else t := by
  simp only [setPhase, List.getElem?_modify]
  split <;> simp_all

end Frame

/-- `FlashLightAction.Start` -/
def start (light : FileInfo) (monitorAction : MonitorAction) (r : ProcessResult)
    (s : State) : State :=
  let s := logInfo "ENABLING light alarm" s
  if !s.isRunning then
    let stopTime := s.now + timeSpan 0 0 monitorAction.lightAlarmDurationInSeconds
    let s := { s with
      alarmThread := some s.threads.length
      threads := s.threads ++ [⟨light, stopTime, .testing⟩]
      isRunning := true }
    exec light .on none r s
  else s

/-- `_alarmThread != null && _alarmThread.IsAlive` guards the abort in `Stop`. -/
def abortAlarmThread (s : State) : State :=
  match s.alarmThread with
  | none => s
  | some i =>
    match s.threads[i]? with
    | none => s
    | some t => if t.isAlive then setPhase i .aborted s else s

/-- `FlashLightAction.Stop` -/
def stop (light : FileInfo) (r : ProcessResult) (s : State) : State :=
  let s := logInfo "Disabling light alarm (requested)" s
  if s.isRunning then
    let s := { s with isRunning := false }
    let s := abortAlarmThread s
    let s := { s with alarmThread := none }
    exec light .off none r s
  else s

/-- The test of `StopAlarmAtGivenTime`, made outside the lock. A failed test sleeps
for a second and comes back to it. -/
def test (i : Nat) (s : State) : Option State :=
  match s.threads[i]? with
  | some t =>
    if t.phase = .testing then
      if t.stopTime ≤ s.now then some (setPhase i .expiring s) else some s
    else none
  | none => none

/-- The locked body of `StopAlarmAtGivenTime`, after which the thread returns. -/
def expire (i : Nat) (r : ProcessResult) (s : State) : Option State :=
  match s.threads[i]? with
  | some t =>
    if t.phase = .expiring then
      let s := logInfo "Disabling light alarm (timeout)" s
      let s := exec t.light .off (some i) r s
      let s := { s with isRunning := false }
      some (setPhase i .finished s)
    else none
  | none => none

/-- A process that outlived its wait ends, and may set the lamp only now. -/
def processEnds (k : Nat) (succeeded : Bool) (s : State) : Option State :=
  match s.commands[k]? with
  | some c =>
    if k ∈ s.outstanding then
      let s := { s with outstanding := s.outstanding.erase k }
      some (if succeeded then setLamp c.light c.command k s else s)
    else none
  | none => none

section Operations
variable {light : FileInfo} {monitorAction : MonitorAction} {r : ProcessResult} {s s' : State}

theorem start_running (h : s.isRunning = true) :
    start light monitorAction r s = logInfo "ENABLING light alarm" s := by
  simp [start, h]

theorem start_idle (h : s.isRunning = false) :
    start light monitorAction r s =
      exec light .on none r { logInfo "ENABLING light alarm" s with
        alarmThread := some s.threads.length
        threads := s.threads ++
          [⟨light, s.now + timeSpan 0 0 monitorAction.lightAlarmDurationInSeconds, .testing⟩]
        isRunning := true } := by
  simp [start, h]

theorem abortAlarmThread_cases (s : State) :
    abortAlarmThread s = s ∨ ∃ i, abortAlarmThread s = setPhase i .aborted s := by
  cases hi : s.alarmThread with
  | none => exact .inl (by simp [abortAlarmThread, hi])
  | some i =>
    cases ht : s.threads[i]? with
    | none => exact .inl (by simp [abortAlarmThread, hi, ht])
    | some t =>
      cases halive : t.isAlive with
      | true => exact .inr ⟨i, by simp [abortAlarmThread, hi, ht, halive]⟩
      | false => exact .inl (by simp [abortAlarmThread, hi, ht, halive])

/-- Aborting a thread touches nothing but its phase. -/
theorem abortAlarmThread_frame (s : State) : (abortAlarmThread s).now = s.now ∧
    (abortAlarmThread s).isRunning = s.isRunning ∧
    (abortAlarmThread s).commands = s.commands ∧
    (abortAlarmThread s).threads.length = s.threads.length := by
  obtain heq | ⟨i, heq⟩ := abortAlarmThread_cases s
  · simp [heq]
  · simp [heq, setPhase]

theorem stop_idle (h : s.isRunning = false) :
    stop light r s = logInfo "Disabling light alarm (requested)" s := by
  simp [stop, h]

/-- A thread passes the test only from its stop time on; a failed test changes nothing. -/
theorem test_eq_some {i : Nat} (h : test i s = some s') :
    ∃ t, s.threads[i]? = some t ∧ t.phase = .testing ∧
      (s' = s ∨ t.stopTime ≤ s.now ∧ s' = setPhase i .expiring s) := by
  unfold test at h
  split at h
  · rename_i t ht
    split at h
    · rename_i hp
      split at h
      · rename_i hle
        exact ⟨t, ht, hp, .inr ⟨hle, (Option.some.inj h).symm⟩⟩
      · exact ⟨t, ht, hp, .inl (Option.some.inj h).symm⟩
    · cases h
  · cases h

theorem expire_eq_some {i : Nat} (h : expire i r s = some s') :
    ∃ t, s.threads[i]? = some t ∧ t.phase = .expiring ∧
      s' = setPhase i .finished
        { exec t.light .off (some i) r (logInfo "Disabling light alarm (timeout)" s) with
          isRunning := false } := by
  unfold expire at h
  split at h
  · rename_i t ht
    split at h
    · rename_i hp
      exact ⟨t, ht, hp, (Option.some.inj h).symm⟩
    · cases h
  · cases h

theorem processEnds_eq_some {k : Nat} {succeeded : Bool}
    (h : processEnds k succeeded s = some s') :
    ∃ c, s.commands[k]? = some c ∧ k ∈ s.outstanding ∧
      s' = (if succeeded then setLamp c.light c.command k else id)
        { s with outstanding := s.outstanding.erase k } := by
  unfold processEnds at h
  split at h
  · rename_i c hc
    split at h
    · rename_i hk
      refine ⟨c, hc, hk, (Option.some.inj h).symm.trans ?_⟩
      cases succeeded <;> rfl
    · cases h
  · cases h

end Operations

/-- What goes on beside the detector thread: the clock, the timer threads, and the
controller processes nobody waits for any more. -/
inductive Background where
  | tick (d : Nat)
  | test (i : Nat)
  | expire (i : Nat) (r : ProcessResult)
  | processEnds (k : Nat) (succeeded : Bool)

def background (s : State) : Background → Option State
  | .tick d => some { s with now := s.now + d }
  | .test i => test i s
  | .expire i r => expire i r s
  | .processEnds k succeeded => processEnds k succeeded s

/-- Nothing but `Start` sets the flag. -/
theorem background_isRunning {s s' : State} {b : Background} (h : background s b = some s')
    (hrun : s.isRunning = false) : s'.isRunning = false := by
  cases b with
  | tick d =>
    cases h
    exact hrun
  | test i =>
    obtain ⟨t, -, -, rfl | ⟨-, rfl⟩⟩ := test_eq_some h <;> exact hrun
  | expire i r =>
    obtain ⟨t, -, -, rfl⟩ := expire_eq_some h
    rfl
  | processEnds k succeeded =>
    obtain ⟨c, -, -, rfl⟩ := processEnds_eq_some h
    cases succeeded <;> exact hrun

theorem stop_isRunning (light : FileInfo) (r : ProcessResult) (s : State) :
    (stop light r s).isRunning = false := by
  cases hrun : s.isRunning with
  | false => simp [stop_idle hrun, hrun]
  | true =>
    simp only [stop, logInfo_isRunning, hrun, ↓reduceIte, exec_isRunning]
    exact (abortAlarmThread_frame _).2.1

inductive Act where
  | start (light : FileInfo) (monitorAction : MonitorAction) (r : ProcessResult)
  | stop (light : FileInfo) (r : ProcessResult)
  | background (b : Background)

def step (s : State) : Act → Option State
  | .start light monitorAction r => some (start light monitorAction r s)
  | .stop light r => some (stop light r s)
  | .background b => background s b

/-- The acts of a program with one `FlashLightAction`. -/
def Act.Of (light : FileInfo) : Act → Prop
  | .start l _ _ | .stop l _ => l = light
  | .background _ => True

/-- `Program.SwControllerFilename` below the library directory. -/
def controllerFile : FileInfo :=
  ⟨"somethingswrong_controller.exe", "Lib\\somethingswrong_controller.exe"⟩

/-- The states of one `FlashLightAction`, under every interleaving. -/
def Reachable (light : FileInfo) (s : State) : Prop :=
  ∃ now, LabelledRun.Leads step (Act.Of light) (State.initial now) s

end SomethingsWrong.FlashLight
