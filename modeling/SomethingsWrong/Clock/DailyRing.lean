import SomethingsWrong.Clock.Standup

/-! The standup alarm rings exactly once every working day, as long as its window opens
after the latest first poll of the day and no two polls leave a minute between them. -/
namespace SomethingsWrong.Standup
open Calendar TimeCheckAction

variable {interval time start : Int} {passes : Nat → Pass}

/-- Once past the opening of the gate, the loop finds it open until the end of the day's
office hours. -/
theorem Timely.isOpen_of_le (h : Timely interval time start passes) {day : Int}
    (hday : timeOfDay day = 0) (hwork : isHoliday day = false) {k₀ k : Nat} (hk : k₀ ≤ k)
    (hgate : day + officeHoursStart ≤ (state interval time start passes k₀).now)
    (hle : (state interval time start passes k).now ≤ day + officeHoursEnd) :
    isOpen (state interval time start passes k).now = true := by
  have hmono := h.now_mono hk
  apply (isOpen_iff hday hwork ?_ ?_).mpr ⟨Int.le_trans hgate hmono, hle⟩
  all_goals
    simp only [officeHoursStart, officeHoursEnd, timeSpan, ticksPerSecond, ticksPerDay] at *
    omega

theorem Timely.reading_bounds (h : Timely interval time start passes) (k : Nat) :
    (state interval time start passes k).now ≤ reading interval time start passes k ∧
      reading interval time start passes k <
        (state interval time start passes k).now + timeSpan 0 1 0 := by
  have hwithin := h.within k
  have hshort := h.short k
  have hnonneg := h.nonneg
  simp only [reading, timeSpan, ticksPerSecond] at *
  omega

/-- From an iteration that begins in time on, some poll is the first one after an instant. -/
theorem Timely.first_reading_after (h : Timely interval time start passes) {x : Int} {k₀ : Nat}
    (hbegins : (state interval time start passes k₀).now ≤ x) :
    ∃ k, k₀ ≤ k ∧ x < reading interval time start passes k ∧
      ∀ j, k₀ ≤ j → j < k → reading interval time start passes j ≤ x := by
  have hex : ∃ k, k₀ ≤ k ∧ x < reading interval time start passes k := by
    obtain ⟨k, hk⟩ := h.unbounded (x + 1)
    have hreading := (h.reading_bounds k).1
    refine ⟨k, ?_, by omega⟩
    by_contra hlt
    have hmono := h.now_mono (show k ≤ k₀ by omega)
    omega
  refine ⟨Nat.find hex, (Nat.find_spec hex).1, (Nat.find_spec hex).2, fun j hj₀ hj => ?_⟩
  exact Int.not_lt.mp fun hlt => Nat.find_min hex hj ⟨hj₀, hlt⟩

/-- The first poll after the opening of the window comes before the window closes. -/
theorem Timely.poll_in_window (h : Timely interval time start passes)
    (hdense : Dense interval passes) (hopens : timeSpan 8 30 0 ≤ time - timeSpan 0 0 30)
    (hcloses : time + timeSpan 0 0 30 ≤ officeHoursEnd) {day : Int} (hday : timeOfDay day = 0)
    (hwork : isHoliday day = false) (hstart : start < day) :
    ∃ k, isOpen (state interval time start passes k).now = true ∧
      day + time - timeSpan 0 0 30 < reading interval time start passes k ∧
      reading interval time start passes k < day + time + timeSpan 0 0 30 ∧
      ∀ j, j < k → isOpen (state interval time start passes j).now = true →
        reading interval time start passes j ≤ day + time - timeSpan 0 0 30 := by
  obtain ⟨k₀, hgate, hearly, hbefore⟩ := h.first_open hday hwork hstart
  have hbegins : (state interval time start passes k₀).now ≤ day + time - timeSpan 0 0 30 := by omega
  obtain ⟨k, hk₀, hafter, hmin⟩ := h.first_reading_after hbegins
  have hinside {k : Nat} (hk : k₀ ≤ k)
      (hle : (state interval time start passes k).now ≤ day + time + timeSpan 0 0 30) :
      isOpen (state interval time start passes k).now = true :=
    h.isOpen_of_le hday hwork hk hgate (by omega)
  have hwindow : reading interval time start passes k < day + time + timeSpan 0 0 30 := by
    cases Nat.eq_or_lt_of_le hk₀ with
    | inl heq =>
      subst heq
      have hbounds := (h.reading_bounds k₀).2
      simp only [timeSpan, ticksPerSecond] at *
      omega
    | inr hlt =>
      -- the poll before is not after the opening, and the next one follows within a minute
      obtain ⟨q, rfl⟩ : ∃ q, k = q + 1 := ⟨k - 1, by omega⟩
      have hlast := hmin q (by omega) (by omega)
      have hnow := (h.reading_bounds q).1
      have hopen : isOpen (state interval time start passes q).now = true := by
        apply hinside (by omega)
        simp only [timeSpan, ticksPerSecond] at *
        omega
      have hnext := hdense q
      simp only [reading, now_succ_open hopen, timeSpan, ticksPerSecond] at *
      omega
  refine ⟨k, hinside hk₀ ?_, hafter, hwindow, fun j hj hopen => ?_⟩
  · exact Int.le_of_lt (Int.lt_of_le_of_lt (h.reading_bounds k).1 hwindow)
  · cases Nat.lt_or_ge j k₀ with
    | inl hlt =>
      have hnow := hbefore j hlt
      have hbounds := (h.reading_bounds j).2
      simp only [officeHoursStart, timeSpan, ticksPerSecond] at *
      omega
    | inr hge => exact hmin j hge hj

/-- That poll is not suppressed: the alarm of an earlier day is more than an hour ago. -/
theorem ringsOn_of_first (hopens : timeSpan 8 30 0 ≤ time - timeSpan 0 0 30)
    (hcloses : time + timeSpan 0 0 30 ≤ officeHoursEnd) {day : Int} (hday : timeOfDay day = 0)
    {k : Nat} (hopen : isOpen (state interval time start passes k).now = true)
    (hafter : day + time - timeSpan 0 0 30 < reading interval time start passes k)
    (hwindow : reading interval time start passes k < day + time + timeSpan 0 0 30)
    (hfirst : ∀ j, j < k → isOpen (state interval time start passes j).now = true →
      reading interval time start passes j ≤ day + time - timeSpan 0 0 30) :
    RingsOn interval time start passes day k := by
  obtain ⟨htime, hdate⟩ := timeOfDay_of_day (t := reading interval time start passes k) hday
    (by simp only [timeSpan, ticksPerSecond] at *; omega)
    (by simp only [officeHoursEnd, timeSpan, ticksPerSecond, ticksPerDay] at *; omega)
  have hevaluation : evaluation interval time start passes k =
      some (reading interval time start passes k, _) := congrArg Prod.snd (iteration_open hopen)
  have hfalse : (getStatus time (.at (reading interval time start passes k))
      (state interval time start passes k).nextAlarm).1 = false := by
    refine getStatus_eq_false.mpr ⟨?_, insideWindow_iff.mpr ?_⟩
    · cases hnext : (state interval time start passes k).nextAlarm with
      | none => rfl
      | some next =>
        obtain ⟨j, hj, e, he, rfl⟩ := nextAlarm_eq_some hnext
        obtain ⟨hopenj, hread, -⟩ := evaluation_eq_some he
        have hold := hfirst j hj hopenj
        have hinside := insideWindow_iff.mp (evaluation_false he).1
        refine decide_eq_true (?_ : _ ≤ reading interval time start passes k)
        rw [← hread] at hold
        simp only [officeHoursEnd, timeOfDay, timeSpan, ticksPerSecond, ticksPerDay] at *
        omega
    · simp only [Readings.at, htime]
      omega
  exact ⟨_, hevaluation.trans (by rw [← hfalse]; rfl), hdate⟩

/-- On every working day after the start exactly one evaluation rings, provided that the
window lies between 8:30 and 17:00 and the evaluations are dense. -/
theorem rings_once_daily (h : Timely interval time start passes) (hdense : Dense interval passes)
    (hopens : timeSpan 8 30 0 ≤ time - timeSpan 0 0 30)
    (hcloses : time + timeSpan 0 0 30 ≤ officeHoursEnd) :
    RingsOnceDaily interval time start passes := by
  intro day hday hwork hstart
  obtain ⟨k, hopen, hafter, hwindow, hfirst⟩ :=
    h.poll_in_window hdense hopens hcloses hday hwork hstart
  have hk := ringsOn_of_first hopens hcloses hday hopen hafter hwindow hfirst
  exact ⟨k, hk, fun j hj => h.ringsOn_unique hj hk⟩

/-- A loop that sleeps at all keeps running past every time. -/
theorem timely_of_pos (hpos : 0 < interval)
    (hwithin : ∀ k, 0 ≤ (passes k).offset ∧ (passes k).offset ≤ (passes k).duration)
    (hshort : ∀ k, (passes k).duration + interval < timeSpan 0 0 60) :
    Timely interval time start passes := by
  refine ⟨Int.le_of_lt hpos, hwithin, hshort, fun t => ?_⟩
  have hgrows (k : Nat) : start + k ≤ (state interval time start passes k).now := by
    induction k with
    | zero => simp [state]
    | succ k ih =>
      have hw := hwithin k
      cases hopen : isOpen (state interval time start passes k).now with
      | false =>
        rw [now_succ_closed hopen]
        simp only [timeSpan, ticksPerSecond]
        omega
      | true =>
        rw [now_succ_open hopen]
        omega
  exact ⟨(t - start).toNat, by have := hgrows (t - start).toNat; omega⟩

/-- Polls as fast as possible. -/
def quickPass (_ : Nat) : Pass := ⟨0, 0⟩

theorem timely_quickPass (time start : Int) : Timely (timeSpan 0 0 15) time start quickPass :=
  timely_of_pos (by decide) (fun _ => ⟨Int.le_refl 0, Int.le_refl 0⟩) fun _ =>
    (by decide : 0 + timeSpan 0 0 15 < timeSpan 0 0 60)

theorem dense_quickPass : Dense (timeSpan 0 0 15) quickPass :=
  fun _ => (by decide : 0 - 0 + timeSpan 0 0 15 + 0 < timeSpan 0 0 60)

/-- The interval and the standup time of `App.config`. -/
theorem rings_once_daily_configured :
    RingsOnceDaily (timeSpan 0 0 15) (timeSpan 8 50 0) (dateTime 2014 1 10) quickPass :=
  rings_once_daily (timely_quickPass _ _) dense_quickPass (by decide) (by decide)

/-- While every iteration finds the gate closed, the loop sleeps in steps of ten minutes. -/
theorem now_of_closed {n : Nat} (h : ∀ j : Nat, j < n → isOpen (start + timeSpan 0 0 600 * j) = false) :
    (state interval time start passes n).now = start + timeSpan 0 0 600 * n := by
  induction n with
  | zero => simp [state]
  | succ n ih =>
    have hn := ih fun j hj => h j (Nat.lt_succ_of_lt hj)
    have hclosed := h n (Nat.lt_succ_self n)
    rw [← hn] at hclosed
    rw [now_succ_closed hclosed, hn]
    push_cast
    simp only [timeSpan, ticksPerSecond]
    omega

theorem le_of_ringsOn {n k : Nat} {day : Int}
    (h : ∀ j : Nat, j < n → isOpen (start + timeSpan 0 0 600 * j) = false)
    (hk : RingsOn interval time start passes day k) : n ≤ k := by
  obtain ⟨e, he, -⟩ := hk
  by_contra hlt
  have hnow : (state interval time start passes k).now = start + timeSpan 0 0 600 * k :=
    now_of_closed fun j hj => h j (by omega)
  have hopen := (evaluation_eq_some he).1
  rw [hnow, h k (by omega)] at hopen
  cases hopen

/-- A Monday. -/
def monday : Int := dateTime 2014 1 13

/-- The loop wakes at 8:19:59 and next at 8:29:59, past the window of 8:21. -/
theorem late_gate (k : Nat) : ¬ RingsOn (timeSpan 0 0 15) (timeSpan 8 21 0)
    (monday - timeSpan 0 0 1) quickPass monday k := by
  intro hk
  have hclosed : ∀ j : Nat, j < 51 →
      isOpen (monday - timeSpan 0 0 1 + timeSpan 0 0 600 * j) = false := by decide
  have hle := le_of_ringsOn hclosed hk
  obtain ⟨e, he, hdate⟩ := hk
  have hmono := (timely_quickPass (timeSpan 8 21 0) (monday - timeSpan 0 0 1)).now_mono hle
  rw [now_of_closed hclosed] at hmono
  have hread := (evaluation_eq_some he).2.1
  have hwindow := insideWindow_iff.mp (evaluation_false he).1
  simp only [reading, quickPass, date, timeSpan, ticksPerSecond] at *
  omega

/-- The check reads the clock at the end of `CheckAll`, except in one iteration. -/
def slowPass (k : Nat) : Pass := ⟨timeSpan 0 0 44, if k = 51 then 0 else timeSpan 0 0 44⟩

theorem slowPass_within (k : Nat) :
    0 ≤ (slowPass k).offset ∧ (slowPass k).offset ≤ (slowPass k).duration := by
  unfold slowPass
  split <;> decide

theorem timely_slowPass : Timely (timeSpan 0 0 15) (timeSpan 8 31 0) (monday - timeSpan 0 0 10)
    slowPass := timely_of_pos (by decide) slowPass_within fun _ =>
  (by decide : timeSpan 0 0 44 + timeSpan 0 0 15 < timeSpan 0 0 60)

/-- The check is evaluated at 8:29:50 and next at 8:31:33, past the window of 8:31. -/
theorem sparse_polls (k : Nat) : ¬ RingsOn (timeSpan 0 0 15) (timeSpan 8 31 0)
    (monday - timeSpan 0 0 10) slowPass monday k := by
  intro hk
  have hclosed : ∀ j : Nat, j < 51 →
      isOpen (monday - timeSpan 0 0 10 + timeSpan 0 0 600 * j) = false := by decide
  have hle := le_of_ringsOn hclosed hk
  obtain ⟨e, he, hdate⟩ := hk
  have hread := (evaluation_eq_some he).2.1
  have hwindow := insideWindow_iff.mp (evaluation_false he).1
  have h51 : (state (timeSpan 0 0 15) (timeSpan 8 31 0) (monday - timeSpan 0 0 10) slowPass 51).now =
      monday + timeSpan 8 29 50 := (now_of_closed hclosed).trans (by decide)
  have h52 : (state (timeSpan 0 0 15) (timeSpan 8 31 0) (monday - timeSpan 0 0 10) slowPass 52).now =
      monday + timeSpan 8 30 49 := by
    rw [now_succ_open (by rw [h51]; decide), h51]
    decide
  have h53 : (state (timeSpan 0 0 15) (timeSpan 8 31 0) (monday - timeSpan 0 0 10) slowPass 53).now =
      monday + timeSpan 8 31 48 := by
    rw [now_succ_open (by rw [h52]; decide), h52]
    decide
  have hwithin := slowPass_within k
  rcases (by omega : k = 51 ∨ k = 52 ∨ 53 ≤ k) with rfl | rfl | hlate
  · rw [reading, h51] at hread
    simp only [slowPass, ↓reduceIte, date, timeSpan, ticksPerSecond] at hread hwindow hdate
    omega
  · rw [reading, h52] at hread
    simp only [slowPass, Nat.reduceEqDiff, ↓reduceIte, date, timeSpan, ticksPerSecond]
      at hread hwindow hdate
    omega
  · have hmono := timely_slowPass.now_mono hlate
    rw [h53] at hmono
    simp only [reading, date, timeSpan, ticksPerSecond] at hread hwindow hdate hmono
    omega

/-- A window that opens after 8:20 can lie before the first poll of the day, and a window
after 8:30 between two polls; then the alarm does not ring at all. -/
theorem standup_missed :
    (¬ ∀ interval time start passes, Timely interval time start passes → Dense interval passes →
      officeHoursStart ≤ time - timeSpan 0 0 30 → time + timeSpan 0 0 30 ≤ officeHoursEnd →
      RingsOnceDaily interval time start passes) ∧
    ¬ ∀ interval time start passes, Timely interval time start passes →
      timeSpan 8 30 0 ≤ time - timeSpan 0 0 30 → time + timeSpan 0 0 30 ≤ officeHoursEnd →
      RingsOnceDaily interval time start passes := by
  constructor
  · intro halways
    obtain ⟨k, hk, -⟩ := halways _ (timeSpan 8 21 0) (monday - timeSpan 0 0 1) _
      (timely_quickPass _ _) dense_quickPass (by decide) (by decide) monday (by decide) (by decide)
      (by decide)
    exact late_gate k hk
  · intro halways
    obtain ⟨k, hk, -⟩ := halways _ _ _ _ timely_slowPass (by decide) (by decide) monday
      (by decide) (by decide) (by decide)
    exact sparse_polls k hk

end SomethingsWrong.Standup
