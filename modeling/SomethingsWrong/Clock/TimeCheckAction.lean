import SomethingsWrong.Clock.Calendar

/-! `TimeCheckAction`: a monitor that fails within 30 s of its time of day, and then not
again for an hour. -/
namespace SomethingsWrong.TimeCheckAction
open Calendar

/-- The field `_nextAlarmNoEarlierThan`. -/
abbrev NextAlarm := Option Int

/-- The three times `GetStatus` may read the clock, in the order of the readings. -/
structure Readings where
  passed : Int
  compared : Int
  stored : Int

def Readings.at (now : Int) : Readings := ⟨now, now, now⟩

/-- `TimeCheckAction.PassedNextAlarmTime` -/
def passedNextAlarmTime (now : Int) (nextAlarmNoEarlierThan : NextAlarm) : Bool :=
  match nextAlarmNoEarlierThan with
  | none => true
  | some next => decide (next ≤ now)

/-- `-30 < diffInSec && diffInSec < 30`, in ticks. -/
def insideWindow (time now : Int) : Bool :=
  let diff := timeOfDay now - time
  decide (timeSpan 0 0 (-30) < diff) && decide (diff < timeSpan 0 0 30)

/-- `TimeCheckAction.GetStatus`; the answer `false` means: run the alarm. -/
def getStatus (time : Int) (r : Readings) (nextAlarmNoEarlierThan : NextAlarm) : Bool × NextAlarm :=
  if !passedNextAlarmTime r.passed nextAlarmNoEarlierThan then (true, nextAlarmNoEarlierThan)
  else if insideWindow time r.compared then (false, some (r.stored + timeSpan 1 0 0))
  else (true, nextAlarmNoEarlierThan)

/-- The alarm is run exactly inside the window and not before the stored time; nothing
else changes the stored time. -/
theorem getStatus_eq_false {time : Int} {r : Readings} {next : NextAlarm} :
    (getStatus time r next).1 = false ↔
      passedNextAlarmTime r.passed next = true ∧ insideWindow time r.compared = true := by
  unfold getStatus
  cases passedNextAlarmTime r.passed next with
  | false => simp
  | true => cases insideWindow time r.compared <;> simp

theorem getStatus_next (time : Int) (r : Readings) (next : NextAlarm) :
    (getStatus time r next).2 =
      if (getStatus time r next).1 then next else some (r.stored + timeSpan 1 0 0) := by
  unfold getStatus
  cases passedNextAlarmTime r.passed next with
  | false => simp
  | true => cases insideWindow time r.compared <;> simp

theorem insideWindow_iff {time now : Int} : insideWindow time now = true ↔
    time - timeSpan 0 0 30 < timeOfDay now ∧ timeOfDay now < time + timeSpan 0 0 30 := by
  have hhalf : timeSpan 0 0 (-30) = -timeSpan 0 0 30 := by decide
  simp only [insideWindow, hhalf, Bool.and_eq_true, decide_eq_true_eq]
  omega

end SomethingsWrong.TimeCheckAction
