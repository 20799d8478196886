import SomethingsWrong.Base.Interleaving
import SomethingsWrong.Detector.SoundAction
import SomethingsWrong.Detector.WrongnessDetector
import SomethingsWrong.Light.FlashLightAction

/-! The whole program: the detector thread runs `CheckAll` round after round over real
alert actions, beside the clock, the timer threads and the controller processes. -/
namespace SomethingsWrong.System
open Program Interleaving Detector

/-- The alert actions of an alert list; `other` stands for any further class that leaves
the flag `_isRunning` alone. -/
inductive AlertAction where
  | flashLight (controllerFile : FileInfo)
  | sound
  | other (ref : Nat)
  deriving DecidableEq

/-- A call of the detector thread, with its answer where that decides what follows. -/
inductive Event where
  | checked (action : MonitorAction) (r : Except Exn Bool)
  | described (action : MonitorAction) (r : Except Exn String)
  | started (alert : AlertAction) (action : MonitorAction)
  | stopped (alert : AlertAction)
  deriving DecidableEq

/-- `marks` holds the `MarkedAsFailing` of every monitor object, `light` the statics of
`AlertAction` and `FlashLightAction`, `history` the calls made so far, oldest first. -/
structure State where
  marks : MonitorAction → Bool
  light : FlashLight.State
  history : List Event
  log : List LogLine

/-- What the outside contributes to one operation of the detector thread: the answers
of the monitor, what a sound player or another alert does, and the fate of a process. -/
structure Choice where
  status : Except Exn Bool := .ok true
  details : Except Exn String := .ok ""
  random : Nat := 0
  play : FileInfo → Except Exn Unit := fun _ => .ok ()
  startResult : Except Exn Unit := .ok ()
  stopResult : Except Exn Unit := .ok ()
  process : FlashLight.ProcessResult := .exited 0

def record (e : Event) (s : State) : State := { s with history := s.history ++ [e] }

def handle (s : State) : (op : Op AlertAction) → Choice → op.Answer × State
  | .getStatus action, x => (x.status, record (.checked action x.status) s)
  | .getActionDetails action, x => (x.details, record (.described action x.details) s)
  | .markedAsFailing action, _ => (s.marks action, s)
  | .setMarkedAsFailing action value, _ =>
    ((), { s with marks := fun m => if m = action then value else s.marks m })
  | .start (.flashLight file) action, x =>
    (.ok (), record (.started (.flashLight file) action)
      { s with light := FlashLight.start file action x.process s.light })
  | .start .sound action, x =>
    let (r, lines) := SoundAction.start action x.random x.play
    (r, record (.started .sound action) { s with log := s.log ++ lines })
  | .start (.other ref) action, x => (x.startResult, record (.started (.other ref) action) s)
  | .isRunning _, _ => (s.light.isRunning, s)
  | .stop (.flashLight file), x =>
    (.ok (), record (.stopped (.flashLight file))
      { s with light := FlashLight.stop file x.process s.light })
  | .stop .sound, _ => (.ok (), record (.stopped .sound) s)
  | .stop (.other ref), x => (x.stopResult, record (.stopped (.other ref)) s)
  | .log line, _ => ((), { s with log := s.log ++ [line] })

abbrev world : @World (Op AlertAction) Op.Answer where
  State := State
  Choice := Choice
  handle := handle
  Env := FlashLight.Background
  interfere s b := (FlashLight.background s.light b).map fun light => { s with light := light }

/-- Nothing marked, nothing running, the detector between two rounds. -/
def initial (now : Int) : Config world Exn where
  prog := none
  state := { marks := fun _ => false, light := .initial now, history := [], log := [] }

end SomethingsWrong.System
