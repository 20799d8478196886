import Mathlib.Data.Nat.Find
import SomethingsWrong.Clock.TimeCheckAction

/-! One `TimeCheckAction` over its whole life, under any polling: its alarms keep an hour
apart even if the clock is set back, and a clock that only moves forward loses none of them. -/
namespace SomethingsWrong.TimeCheckAction
open Calendar

variable {time : Int} {calls : Nat → Readings}

/-- The field of a fresh object after `k` calls. -/
def nextAlarm (time : Int) (calls : Nat → Readings) : Nat → NextAlarm
  | 0 => none
  | k + 1 => (getStatus time (calls k) (nextAlarm time calls k)).2

/-- Call `k` runs the alarm. -/
def Rings (time : Int) (calls : Nat → Readings) (k : Nat) : Prop :=
  (getStatus time (calls k) (nextAlarm time calls k)).1 = false

/-- The clock as one call sees it. A reading that the call does not get to may be any that
fits. -/
structure Readings.Steady (r : Readings) : Prop where
  compared : r.passed ≤ r.compared
  stored : r.compared ≤ r.stored
  short : r.stored - r.passed < timeSpan 0 0 60

/-- From one call to the next the clock is not set back. -/
def Forward (calls : Nat → Readings) : Prop := ∀ k, (calls k).stored ≤ (calls (k + 1)).passed

/-- From call `a` to call `b` the comparisons pass over the window of that day, in steps of
less than a minute. -/
structure Sweeps (time day : Int) (calls : Nat → Readings) (a b : Nat) : Prop where
  before : a < b
  opening : (calls a).compared ≤ day + time - timeSpan 0 0 30
  closing : day + time + timeSpan 0 0 30 ≤ (calls b).compared
  dense : ∀ k, a ≤ k → k < b → (calls (k + 1)).compared - (calls k).compared < timeSpan 0 0 60

/-- The open window lies inside one day. -/
def WindowInDay (time : Int) : Prop :=
  timeSpan 0 0 30 ≤ time ∧ time + timeSpan 0 0 30 ≤ ticksPerDay

theorem nextAlarm_of_rings {k : Nat} (h : Rings time calls k) :
    nextAlarm time calls (k + 1) = some ((calls k).stored + timeSpan 1 0 0) := by
  rw [nextAlarm, getStatus_next, if_neg (by rw [h]; decide)]

theorem nextAlarm_of_not_rings {k : Nat} (h : ¬ Rings time calls k) :
    nextAlarm time calls (k + 1) = nextAlarm time calls k := by
  rw [nextAlarm, getStatus_next, if_pos (by simpa [Rings] using h)]

/-- The stored time is that of the last alarm. -/
theorem nextAlarm_eq_some {k : Nat} {next : Int} (h : nextAlarm time calls k = some next) :
    ∃ i, i < k ∧ Rings time calls i ∧ next = (calls i).stored + timeSpan 1 0 0 := by
  induction k with
  | zero => cases h
  | succ k ih =>
    by_cases hk : Rings time calls k
    · rw [nextAlarm_of_rings hk, Option.some.injEq] at h
      exact ⟨k, Nat.lt_succ_self k, hk, h.symm⟩
    · rw [nextAlarm_of_not_rings hk] at h
      obtain ⟨i, hi, hring, heq⟩ := ih h
      exact ⟨i, Nat.lt_succ_of_lt hi, hring, heq⟩

theorem rings_iff {k : Nat} : Rings time calls k ↔
    (∀ next, nextAlarm time calls k = some next → next ≤ (calls k).passed) ∧
      time - timeSpan 0 0 30 < timeOfDay (calls k).compared ∧
      timeOfDay (calls k).compared < time + timeSpan 0 0 30 := by
  rw [Rings, getStatus_eq_false, insideWindow_iff]
  cases nextAlarm time calls k <;> simp [passedNextAlarmTime]

/-- Whatever the clock does between two calls, after an alarm the stored time is an hour
ahead of it for good. -/
theorem Rings.holds_off (hsteady : ∀ k, (calls k).Steady) {i j : Nat} (hi : Rings time calls i)
    (hij : i < j) : ∃ next, nextAlarm time calls j = some next ∧
      (calls i).compared + timeSpan 1 0 0 ≤ next := by
  induction j, hij using Nat.le_induction with
  | base =>
    have hstored := (hsteady i).stored
    exact ⟨_, nextAlarm_of_rings hi, by omega⟩
  | succ j hij ih =>
    obtain ⟨next, hnext, hle⟩ := ih
    by_cases hj : Rings time calls j
    · have hpassed := (rings_iff.mp hj).1 next hnext
      have hcompared := (hsteady j).compared
      have hstored := (hsteady j).stored
      refine ⟨_, nextAlarm_of_rings hj, ?_⟩
      simp only [timeSpan, ticksPerSecond] at *
      omega
    · exact ⟨next, (nextAlarm_of_not_rings hj).trans hnext, hle⟩

/-- Two alarms are at least one hour apart, in the order of the calls. -/
theorem Rings.apart (hsteady : ∀ k, (calls k).Steady) {i j : Nat} (hi : Rings time calls i)
    (hj : Rings time calls j) (hij : i < j) :
    (calls i).compared + timeSpan 1 0 0 ≤ (calls j).compared := by
  obtain ⟨next, hnext, hle⟩ := hi.holds_off hsteady hij
  have hpassed := (rings_iff.mp hj).1 next hnext
  have hcompared := (hsteady j).compared
  omega

/-- The window is shorter than an hour, so one date has room for one alarm. -/
theorem Rings.unique (hsteady : ∀ k, (calls k).Steady) {i j : Nat} (hi : Rings time calls i)
    (hj : Rings time calls j) (hdate : date (calls i).compared = date (calls j).compared) :
    i = j := by
  have hwindow {i j : Nat} (hi : Rings time calls i) (hj : Rings time calls j)
      (hdate : date (calls i).compared = date (calls j).compared) : ¬ i < j := by
    intro hij
    have hapart := hi.apart hsteady hj hij
    have hinside := (rings_iff.mp hi).2
    have hinside' := (rings_iff.mp hj).2
    simp only [date, timeSpan, ticksPerSecond] at *
    omega
  have hle := hwindow hi hj hdate
  have hge := hwindow hj hi hdate.symm
  omega

/-- Later calls compare later. -/
theorem Forward.compared_le (hforward : Forward calls) (hsteady : ∀ k, (calls k).Steady)
    {i j : Nat} (hij : i ≤ j) : (calls i).compared ≤ (calls j).compared := by
  induction j, hij using Nat.le_induction with
  | base => exact Int.le_refl _
  | succ j hij ih =>
    have hstored := (hsteady j).stored
    have hnext := hforward j
    have hcompared := (hsteady (j + 1)).compared
    omega

/-- The first comparison after the opening of the window falls into it. -/
theorem Sweeps.first {day : Int} {a b : Nat} (h : Sweeps time day calls a b) :
    ∃ k, a < k ∧ day + time - timeSpan 0 0 30 < (calls k).compared ∧
      (calls k).compared < day + time + timeSpan 0 0 30 ∧
      ∀ j, a ≤ j → j < k → (calls j).compared ≤ day + time - timeSpan 0 0 30 := by
  have hbefore := h.before
  have hopening := h.opening
  have hclosing := h.closing
  have hb : a ≤ b ∧ day + time - timeSpan 0 0 30 < (calls b).compared := by
    refine ⟨Nat.le_of_lt hbefore, ?_⟩
    simp only [timeSpan, ticksPerSecond] at *
    omega
  have hex : ∃ k, a ≤ k ∧ day + time - timeSpan 0 0 30 < (calls k).compared := ⟨b, hb⟩
  obtain ⟨k, ⟨hak, hafter⟩, hleast⟩ : ∃ k, (a ≤ k ∧ day + time - timeSpan 0 0 30 <
      (calls k).compared) ∧ ∀ j, j < k → ¬ (a ≤ j ∧
        day + time - timeSpan 0 0 30 < (calls j).compared) :=
    ⟨Nat.find hex, Nat.find_spec hex, fun _ => Nat.find_min hex⟩
  have hfirst (j : Nat) (haj : a ≤ j) (hjk : j < k) :
      (calls j).compared ≤ day + time - timeSpan 0 0 30 :=
    Int.not_lt.mp fun hlt => hleast j hjk ⟨haj, hlt⟩
  have hkb : k ≤ b := by
    by_contra hlt
    exact hleast b (by omega) hb
  have hne : a ≠ k := by
    intro heq
    rw [← heq] at hafter
    omega
  obtain ⟨q, rfl⟩ : ∃ q, k = q + 1 := ⟨k - 1, by omega⟩
  have hlast := hfirst q (by omega) (Nat.lt_succ_self q)
  have hstep := h.dense q (by omega) (by omega)
  refine ⟨q + 1, by omega, hafter, ?_, hfirst⟩
  simp only [timeSpan, ticksPerSecond] at *
  omega

/-- It is not suppressed: the alarm of an earlier day is more than an hour ago. -/
theorem Sweeps.rings (hwindow : WindowInDay time) (hsteady : ∀ k, (calls k).Steady)
    (hforward : Forward calls) {day : Int} (hday : timeOfDay day = 0) {a b : Nat}
    (h : Sweeps time day calls a b) : ∃ k, Rings time calls k ∧ date (calls k).compared = day := by
  obtain ⟨k, hak, hafter, hbefore, hfirst⟩ := h.first
  obtain ⟨hopens, hcloses⟩ := hwindow
  obtain ⟨htime, hdate⟩ := timeOfDay_of_day (t := (calls k).compared) hday (by omega) (by omega)
  refine ⟨k, rings_iff.mpr ⟨?_, by omega, by omega⟩, hdate⟩
  intro next hnext
  obtain ⟨i, hik, hring, rfl⟩ := nextAlarm_eq_some hnext
  have hold : (calls i).compared ≤ day + time - timeSpan 0 0 30 := by
    by_cases hai : a ≤ i
    · exact hfirst i hai hik
    · exact Int.le_trans (hforward.compared_le hsteady (by omega)) h.opening
  have hinside := (rings_iff.mp hring).2
  have hshort := (hsteady i).short
  have hcompared := (hsteady i).compared
  have hshort' := (hsteady k).short
  have hstored' := (hsteady k).stored
  simp only [timeOfDay, timeSpan, ticksPerSecond, ticksPerDay] at *
  omega

/-- One alarm for each occurrence of the time, whatever is polled: never two within an hour,
and none lost while the clock moves forward and is read often enough. -/
theorem rings_once_per_occurrence (hwindow : WindowInDay time)
    (hsteady : ∀ k, (calls k).Steady) :
    ((∀ i j, i < j → Rings time calls i → Rings time calls j →
        (calls i).compared + timeSpan 1 0 0 ≤ (calls j).compared) ∧
      ∀ i j, Rings time calls i → Rings time calls j →
        date (calls i).compared = date (calls j).compared → i = j) ∧
    (Forward calls → ∀ day a b, timeOfDay day = 0 → Sweeps time day calls a b →
      ∃! k, Rings time calls k ∧ date (calls k).compared = day) := by
  refine ⟨⟨?_, ?_⟩, ?_⟩
  · intro i j hij hi hj
    exact hi.apart hsteady hj hij
  · intro i j hi hj hdate
    exact hi.unique hsteady hj hdate
  · intro hforward day a b hday hsweeps
    obtain ⟨k, hk, hdate⟩ := hsweeps.rings hwindow hsteady hforward hday
    refine ⟨k, ⟨hk, hdate⟩, ?_⟩
    intro j hj
    exact hj.1.unique hsteady hk (hj.2.trans hdate.symm)

/-- One call every 30 s, from 8:49:30 on. -/
def everyHalfMinute (k : Nat) : Readings :=
  .at (dateTime 2014 1 10 + timeSpan 8 49 30 + timeSpan 0 0 30 * k)

theorem rings_once_per_occurrence_halfMinute :
    ∃! k, Rings (timeSpan 8 50 0) everyHalfMinute k ∧
      date (everyHalfMinute k).compared = dateTime 2014 1 10 := by
  have hsteady (k : Nat) : (everyHalfMinute k).Steady :=
    ⟨Int.le_refl _, Int.le_refl _, by rw [everyHalfMinute, Readings.at, Int.sub_self]; decide⟩
  have hstep (k : Nat) : (everyHalfMinute (k + 1)).compared =
      (everyHalfMinute k).compared + timeSpan 0 0 30 := by
    simp only [everyHalfMinute, Readings.at, timeSpan, ticksPerSecond]
    omega
  apply (rings_once_per_occurrence ⟨by decide, by decide⟩ hsteady).2 ?_ _ 0 2 (by decide)
  · refine ⟨by decide, by decide, by decide, ?_⟩
    intro k _ _
    rw [hstep]
    simp only [timeSpan, ticksPerSecond]
    omega
  · intro k
    have hle := hstep k
    simp only [everyHalfMinute, Readings.at, timeSpan, ticksPerSecond] at *
    omega

end SomethingsWrong.TimeCheckAction
