import SomethingsWrong.Basic
import SomethingsWrong.Base.Program

/-! `WrongnessDetector` and the part of `Program.Main`'s loop that calls it, as programs
over the objects they talk to. `A` is the type of references to alert actions. -/
namespace SomethingsWrong.Detector
open Program

/-- One atomic step of the detector thread. -/
inductive Op (A : Type) where
  | getStatus (action : MonitorAction)
  | getActionDetails (action : MonitorAction)
  | markedAsFailing (action : MonitorAction)
  | setMarkedAsFailing (action : MonitorAction) (value : Bool)
  | start (alert : A) (action : MonitorAction)
  | isRunning (alert : A)
  | stop (alert : A)
  | log (line : LogLine)

abbrev Op.Answer {A : Type} : Op A → Type
  | .getStatus _ => Except Exn Bool
  | .getActionDetails _ => Except Exn String
  | .markedAsFailing _ => Bool
  | .setMarkedAsFailing _ _ => Unit
  | .start _ _ => Except Exn Unit
  | .isRunning _ => Bool
  | .stop _ => Except Exn Unit
  | .log _ => Unit

abbrev DetectorM (A : Type) := @Prog (Op A) Op.Answer Exn

variable {A : Type}

def getStatus (action : MonitorAction) : DetectorM A Bool :=
  Prog.perform (.getStatus action) >>= Prog.ofExcept

def getActionDetails (action : MonitorAction) : DetectorM A String :=
  Prog.perform (.getActionDetails action) >>= Prog.ofExcept

def markedAsFailing (action : MonitorAction) : DetectorM A Bool :=
  Prog.perform (Op.markedAsFailing action)

def setMarkedAsFailing (action : MonitorAction) (value : Bool) : DetectorM A Unit :=
  Prog.perform (Op.setMarkedAsFailing action value)

def start (alert : A) (action : MonitorAction) : DetectorM A Unit :=
  Prog.perform (.start alert action) >>= Prog.ofExcept

def isRunning (alert : A) : DetectorM A Bool := Prog.perform (Op.isRunning alert)

def stop (alert : A) : DetectorM A Unit := Prog.perform (.stop alert) >>= Prog.ofExcept

def log (level : LogLevel) (text : String) : DetectorM A Unit := Prog.perform (Op.log ⟨level, text⟩)

/-- `WrongnessDetector.StartAlerts` -/
def startAlerts (alertActions : List A) (monitorAction : MonitorAction) : DetectorM A Unit := do
  for action in alertActions do
    start action monitorAction

/-- `WrongnessDetector.StopRunningAlerts` -/
def stopRunningAlerts (alertActions : List A) : DetectorM A Unit := do
  for action in alertActions do
    if ← isRunning action then
      stop action

/-- The verdict of the `try` statement in `PerformMonitorAction`: `passed` with
`wrongnessMessage`. A tolerated `WebException` counts as passed. -/
def evaluate (action : MonitorAction) : DetectorM A (Bool × String) :=
  try
    let result ← getStatus action
    if !result then
      let details ← getActionDetails action
      pure (false, "Somethings Wrong! " ++ action.name ++ " IS FAILING\n" ++
        "Found problem when: " ++ details ++ "\n")
    else
      pure (true, "")
  catch
    | .webException message =>
      if !action.failAtNetworkException then
        log .debug ("skipping WebException for " ++ action.name)
        pure (true, "")
      else
        let details ← getActionDetails action
        pure (false, "Something's Wrong! " ++ action.name ++ " IS FAILING\n" ++
          "Found problem when: " ++ details ++ "\n" ++ "details: " ++ message)
    | .exception message =>
      let details ← getActionDetails action
      pure (false, "Something's Wrong! " ++ action.name ++ " IS FAILING\n" ++
        "Found problem when: " ++ details ++ "\n" ++ "details: " ++ message)

/-- `WrongnessDetector.PerformMonitorAction` -/
def performMonitorAction (alertActions : List A) (action : MonitorAction) : DetectorM A Bool := do
  let (passed, wrongnessMessage) ← evaluate action
  if !passed then
    if !(← markedAsFailing action) then -- first fail
      log .info (action.name ++ " started to fail")
      setMarkedAsFailing action true
      log .info wrongnessMessage
      startAlerts alertActions action
    log .info ((← getActionDetails action) ++ " continue failing")
    return false
  if ← markedAsFailing action then
    log .info (action.name ++ " stopped failing")
    setMarkedAsFailing action false
  return true

/-- `WrongnessDetector.CheckAll` -/
def checkAll (monitorActions : List MonitorAction) (alertActions : List A) : DetectorM A Unit := do
  let mut allActionsPassed := true
  for action in monitorActions do
    let result ← performMonitorAction alertActions action
    if !result then
      allActionsPassed := false
  if allActionsPassed then
    log .debug "Everything's OK"
    stopRunningAlerts alertActions

/-- What `Program.Main`'s loop does with one round: it logs an exception and goes on. -/
def checkAllGuarded (monitorActions : List MonitorAction) (alertActions : List A) :
    DetectorM A Unit := do
  try
    checkAll monitorActions alertActions
  catch ex =>
    log .error ex.message

end SomethingsWrong.Detector
