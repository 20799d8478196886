import Mathlib.Data.Nat.Find
import SomethingsWrong.Clock.TimeCheckAction

/-! `Program.Main`'s loop over the clock, with the standup check: how often it looks at the
time, and on which days it rings. -/
namespace SomethingsWrong.Standup
open Calendar TimeCheckAction

/-- How long `CheckAll` takes, and how long after its beginning `GetStatus` reads the clock. -/
structure Pass where
  duration : Int
  offset : Int

/-- The clock at the top of the loop, and the standup check. -/
structure State where
  now : Int
  nextAlarm : NextAlarm

section Loop
variable (interval time start : Int) (passes : Nat → Pass)

/-- One iteration: the state at the top of the next one, and what the standup check
answered at what time, if it was asked. -/
def iteration (p : Pass) (s : State) : State × Option (Int × Bool) :=
  if isHoliday s.now then ({ s with now := s.now + timeSpan 0 0 600 }, none)
  else if !timeIsInsideWorkingHours s.now then ({ s with now := s.now + timeSpan 0 0 600 }, none)
  else
    let evaluated := s.now + p.offset
    let (status, nextAlarm) := getStatus time (.at evaluated) s.nextAlarm
    ({ now := s.now + p.duration + interval, nextAlarm := nextAlarm }, some (evaluated, status))

def state : Nat → State
  | 0 => ⟨start, none⟩
  | k + 1 => (iteration interval time (passes k) (state k)).1

/-- The evaluation of the standup check in iteration `k`. -/
def evaluation (k : Nat) : Option (Int × Bool) :=
  (iteration interval time (passes k) (state interval time start passes k)).2

/-- The check returns `false` in iteration `k`, on the date `day`. -/
def RingsOn (day : Int) (k : Nat) : Prop :=
  ∃ e, evaluation interval time start passes k = some (e, false) ∧ date e = day

/-- The check reads the clock while `CheckAll` runs, an iteration takes less than a minute,
and the clock keeps running. -/
structure Timely : Prop where
  nonneg : 0 ≤ interval
  within : ∀ k, 0 ≤ (passes k).offset ∧ (passes k).offset ≤ (passes k).duration
  short : ∀ k, (passes k).duration + interval < timeSpan 0 0 60
  unbounded : ∀ t, ∃ k, t ≤ (state interval time start passes k).now

/-- Two evaluations in a row are less than a minute apart. -/
def Dense : Prop :=
  ∀ k, (passes k).duration - (passes k).offset + interval + (passes (k + 1)).offset < timeSpan 0 0 60

/-- On every working day after the start, exactly one evaluation returns `false`. -/
def RingsOnceDaily : Prop :=
  ∀ day, timeOfDay day = 0 → isHoliday day = false → start < day →
    ∃! k, RingsOn interval time start passes day k

end Loop

section Run
variable {interval time start : Int} {passes : Nat → Pass}

/-- The loop asks the check at the top of this iteration. -/
def isOpen (t : Int) : Bool := !isHoliday t && timeIsInsideWorkingHours t

theorem iteration_open {p : Pass} {s : State} (h : isOpen s.now = true) :
    iteration interval time p s =
      ({ now := s.now + p.duration + interval,
         nextAlarm := (getStatus time (.at (s.now + p.offset)) s.nextAlarm).2 },
        some (s.now + p.offset, (getStatus time (.at (s.now + p.offset)) s.nextAlarm).1)) := by
  simp only [isOpen, Bool.and_eq_true, Bool.not_eq_eq_eq_not, Bool.not_true] at h
  simp [iteration, h.1, h.2]

theorem iteration_closed {p : Pass} {s : State} (h : isOpen s.now = false) :
    iteration interval time p s = ({ s with now := s.now + timeSpan 0 0 600 }, none) := by
  unfold iteration
  cases hh : isHoliday s.now with
  | true => rfl
  | false =>
    simp only [isOpen, hh, Bool.not_false, Bool.true_and] at h
    simp [h]

theorem isOpen_iff {day t : Int} (hday : timeOfDay day = 0) (hwork : isHoliday day = false)
    (h1 : day ≤ t) (h2 : t < day + ticksPerDay) :
    isOpen t = true ↔ day + officeHoursStart ≤ t ∧ t ≤ day + officeHoursEnd := by
  have hdate : date t = date day ∧ timeOfDay t = t - day := by
    simp only [date, timeOfDay, ticksPerDay] at *
    omega
  rw [isOpen, isHoliday_congr hdate.1, hwork, timeIsInsideWorkingHours, hdate.2]
  simp only [Bool.not_false, Bool.true_and, Bool.and_eq_true, decide_eq_true_eq]
  omega

theorem now_succ_open {k : Nat} (h : isOpen (state interval time start passes k).now = true) :
    (state interval time start passes (k + 1)).now =
      (state interval time start passes k).now + (passes k).duration + interval := by
  rw [state, iteration_open h]

theorem now_succ_closed {k : Nat} (h : isOpen (state interval time start passes k).now = false) :
    (state interval time start passes (k + 1)).now =
      (state interval time start passes k).now + timeSpan 0 0 600 := by
  rw [state, iteration_closed h]

/-- When iteration `k` reads the clock for the check, if it does. -/
def reading (interval time start : Int) (passes : Nat → Pass) (k : Nat) : Int :=
  (state interval time start passes k).now + (passes k).offset

theorem evaluation_eq_some {k : Nat} {e : Int} {b : Bool}
    (h : evaluation interval time start passes k = some (e, b)) :
    isOpen (state interval time start passes k).now = true ∧
      e = reading interval time start passes k ∧
      b = (getStatus time (.at e) (state interval time start passes k).nextAlarm).1 := by
  unfold evaluation at h
  cases hopen : isOpen (state interval time start passes k).now with
  | false =>
    rw [iteration_closed hopen] at h
    cases h
  | true =>
    rw [iteration_open hopen] at h
    obtain ⟨rfl, rfl⟩ := Prod.mk.inj (Option.some.inj h)
    exact ⟨rfl, rfl, rfl⟩

/-- An evaluation that returns `false` is inside the window, and not before the stored time. -/
theorem evaluation_false {k : Nat} {e : Int}
    (h : evaluation interval time start passes k = some (e, false)) :
    insideWindow time e = true ∧
      ∀ next, (state interval time start passes k).nextAlarm = some next → next ≤ e := by
  obtain ⟨-, -, hb⟩ := evaluation_eq_some h
  obtain ⟨hpassed, hinside⟩ := getStatus_eq_false.mp hb.symm
  refine ⟨hinside, fun next hnext => ?_⟩
  rw [hnext] at hpassed
  exact of_decide_eq_true hpassed

theorem Timely.now_le_succ (h : Timely interval time start passes) (k : Nat) :
    (state interval time start passes k).now ≤ (state interval time start passes (k + 1)).now := by
  cases hopen : isOpen (state interval time start passes k).now with
  | false =>
    rw [now_succ_closed hopen]
    simp only [timeSpan, ticksPerSecond]
    omega
  | true =>
    rw [now_succ_open hopen]
    have hwithin := h.within k
    have hnonneg := h.nonneg
    omega

theorem Timely.now_mono (h : Timely interval time start passes) {j k : Nat} (hjk : j ≤ k) :
    (state interval time start passes j).now ≤ (state interval time start passes k).now := by
  induction hjk with
  | refl => exact Int.le_refl _
  | step _ ih => exact Int.le_trans ih (h.now_le_succ _)

theorem Timely.reading_le (h : Timely interval time start passes) {j k : Nat} (hjk : j < k)
    (hopen : isOpen (state interval time start passes j).now = true) :
    reading interval time start passes j ≤ (state interval time start passes k).now := by
  have hnext := h.now_mono (show j + 1 ≤ k by omega)
  rw [now_succ_open hopen] at hnext
  have hwithin := h.within j
  have hnonneg := h.nonneg
  unfold reading
  omega

/-- The stored time is an hour after some earlier evaluation that returned `false`. -/
theorem nextAlarm_eq_some {k : Nat} {next : Int}
    (hnext : (state interval time start passes k).nextAlarm = some next) :
    ∃ j, j < k ∧ ∃ e, evaluation interval time start passes j = some (e, false) ∧
      next = e + timeSpan 1 0 0 := by
  induction k with
  | zero => cases hnext
  | succ k ih =>
    have hold (hsame : (state interval time start passes k).nextAlarm = some next) :
        ∃ j, j < k + 1 ∧ ∃ e, evaluation interval time start passes j = some (e, false) ∧
          next = e + timeSpan 1 0 0 := by
      obtain ⟨j, hj, he⟩ := ih hsame
      exact ⟨j, Nat.lt_succ_of_lt hj, he⟩
    rw [state] at hnext
    cases hopen : isOpen (state interval time start passes k).now with
    | false =>
      rw [iteration_closed hopen] at hnext
      exact hold hnext
    | true =>
      have hevaluation : evaluation interval time start passes k = some (_, _) :=
        congrArg Prod.snd (iteration_open hopen)
      rw [iteration_open hopen] at hnext
      simp only [getStatus_next] at hnext
      split at hnext
      · exact hold hnext
      · rename_i hb
        rw [Bool.not_eq_true] at hb
        rw [hb] at hevaluation
        exact ⟨k, Nat.lt_succ_self k, _, hevaluation, (Option.some.inj hnext).symm⟩

/-- Two evaluations that return `false` are at least an hour apart. -/
theorem Timely.hour_apart (h : Timely interval time start passes) {j k : Nat} (hjk : j < k)
    {e e' : Int} (he : evaluation interval time start passes j = some (e, false))
    (he' : evaluation interval time start passes k = some (e', false)) :
    e + timeSpan 1 0 0 ≤ e' := by
  have hstored (i : Nat) (hi : j < i) : ∃ next,
      (state interval time start passes i).nextAlarm = some next ∧ e + timeSpan 1 0 0 ≤ next := by
    obtain ⟨hopen, hread, hb⟩ := evaluation_eq_some he
    induction hi with
    | refl =>
      refine ⟨_, ?_, Int.le_refl _⟩
      unfold reading at hread
      rw [state, iteration_open hopen, ← hread, getStatus_next, ← hb]
      rfl
    | @step i hi ih =>
      obtain ⟨next, hnext, hle⟩ := ih
      cases hopen' : isOpen (state interval time start passes i).now with
      | false =>
        rw [state, iteration_closed hopen']
        exact ⟨next, hnext, hle⟩
      | true =>
        rw [state, iteration_open hopen', getStatus_next]
        split
        · exact ⟨next, hnext, hle⟩
        · refine ⟨_, rfl, ?_⟩
          have hlater := h.reading_le (Nat.lt_of_succ_le hi) hopen
          have hwithin := h.within i
          rw [hread]
          simp only [Readings.at]
          omega
  obtain ⟨next, hnext, hle⟩ := hstored k hjk
  exact Int.le_trans hle ((evaluation_false he').2 next hnext)

theorem Timely.ringsOn_unique (h : Timely interval time start passes) {day : Int} {j k : Nat}
    (hj : RingsOn interval time start passes day j)
    (hk : RingsOn interval time start passes day k) : j = k := by
  have happart {j k : Nat} (hjk : j < k) (hj : RingsOn interval time start passes day j)
      (hk : RingsOn interval time start passes day k) : False := by
    obtain ⟨e, he, hdate⟩ := hj
    obtain ⟨e', he', hdate'⟩ := hk
    have hhour := h.hour_apart hjk he he'
    have hwindow := insideWindow_iff.mp (evaluation_false he).1
    have hwindow' := insideWindow_iff.mp (evaluation_false he').1
    simp only [date, timeSpan, ticksPerSecond] at *
    omega
  rcases Nat.lt_trichotomy j k with hlt | heq | hgt
  · exact (happart hlt hj hk).elim
  · exact heq
  · exact (happart hgt hk hj).elim

/-- The first iteration of a working day after the opening of the gate comes before 8:30. -/
theorem Timely.first_open (h : Timely interval time start passes) {day : Int}
    (hday : timeOfDay day = 0) (hwork : isHoliday day = false) (hstart : start < day) :
    ∃ k, day + officeHoursStart ≤ (state interval time start passes k).now ∧
      (state interval time start passes k).now < day + timeSpan 8 30 0 ∧
      ∀ j, j < k → (state interval time start passes j).now < day + officeHoursStart := by
  have hex := h.unbounded (day + officeHoursStart)
  have hbefore (j : Nat) (hj : j < Nat.find hex) :
      (state interval time start passes j).now < day + officeHoursStart :=
    Int.not_le.mp (Nat.find_min hex hj)
  refine ⟨Nat.find hex, Nat.find_spec hex, ?_, hbefore⟩
  have hspec := Nat.find_spec hex
  cases hk : Nat.find hex with
  | zero =>
    rw [hk] at hspec
    simp only [state, officeHoursStart, timeSpan, ticksPerSecond] at hspec
    omega
  | succ p =>
    rw [hk] at hspec
    have hp := hbefore p (by omega)
    -- an open iteration is too short to lead from before 8:20 across the gate
    cases hopen : isOpen (state interval time start passes p).now with
    | false =>
      rw [now_succ_closed hopen]
      simp only [officeHoursStart, timeSpan, ticksPerSecond] at *
      omega
    | true =>
      rw [now_succ_open hopen] at hspec
      have hshort := h.short p
      have hin : day ≤ (state interval time start passes p).now := by
        simp only [officeHoursStart, timeSpan, ticksPerSecond] at *
        omega
      have hinside := (isOpen_iff hday hwork hin (by
        simp only [officeHoursStart, timeSpan, ticksPerSecond, ticksPerDay] at *
        omega)).mp hopen
      exact absurd hinside.1 (Int.not_le.mpr hp)

end Run
end SomethingsWrong.Standup
