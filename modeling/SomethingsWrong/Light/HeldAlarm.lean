import SomethingsWrong.Light.LampRecord

/-! A running alarm lasts until the stop time of its own timer: nothing but that timer
and `Stop` ends it, and `Start` does not prolong it. -/
namespace SomethingsWrong.FlashLight

/-- The stop time of the stored timer thread. -/
def State.deadline (s : State) : Option Int :=
  s.alarmThread.bind fun i => (s.threads[i]?).map (·.stopTime)

/-- An alarm that runs until `stopTime`, after the commands `cs`. -/
structure Held (stopTime : Int) (cs : List Issued) (s : State) : Prop where
  running : s.isRunning = true
  deadline : s.deadline = some stopTime
  commands : s.commands = cs

variable {stopTime : Int} {cs : List Issued} {s s' : State}

theorem Handoff.held (h : Handoff s) (hrun : s.isRunning = true) :
    ∃ stopTime, Held stopTime s.commands s := by
  obtain ⟨i, hi, t, ht, -⟩ := h.stored hrun
  exact ⟨t.stopTime, hrun, by simp [State.deadline, hi, ht], rfl⟩

theorem setPhase_deadline (i : Nat) (p : Phase) : (setPhase i p s).deadline = s.deadline := by
  unfold State.deadline
  rw [setPhase_alarmThread]
  congr 1
  funext j
  rw [setPhase_getElem?, Option.map_map]
  congr 1
  funext t
  dsimp only [Function.comp]
  split <;> rfl

theorem start_deadline_idle (light : FileInfo) (m : MonitorAction) (r : ProcessResult)
    (hrun : s.isRunning = false) :
    (start light m r s).deadline = some (s.now + timeSpan 0 0 m.lightAlarmDurationInSeconds) := by
  simp [start_idle hrun, State.deadline]

theorem start_deadline_running (light : FileInfo) (m : MonitorAction) (r : ProcessResult)
    (hrun : s.isRunning = true) : (start light m r s).deadline = s.deadline := by
  rw [start_running hrun]
  rfl

theorem start_sets (light : FileInfo) (m : MonitorAction) (r : ProcessResult) (s : State) :
    (start light m r s).isRunning = true := by
  cases hrun : s.isRunning with
  | true => simp [start_running hrun, hrun]
  | false => simp [start_idle hrun]

/-- No step turns the clock back, or takes a call of `Exec` back. -/
theorem step_grows {a : Act} (hs : step s a = some s') :
    s.now ≤ s'.now ∧ s.commands <+: s'.commands := by
  cases a with
  | start light m r =>
    cases hs
    cases hrun : s.isRunning with
    | true => simp [start_running hrun]
    | false => simp [start_idle hrun]
  | stop light r =>
    cases hs
    cases hrun : s.isRunning with
    | true => simp [stop, hrun, abortAlarmThread_frame]
    | false => simp [stop_idle hrun]
  | background b =>
    cases b with
    | tick d =>
      cases hs
      exact ⟨Int.le_add_of_nonneg_right (Int.natCast_nonneg d), List.prefix_rfl⟩
    | test i =>
      obtain ⟨t, -, -, rfl | ⟨-, rfl⟩⟩ := test_eq_some hs <;> exact ⟨Int.le_refl _, List.prefix_rfl⟩
    | expire i r =>
      obtain ⟨t, -, -, rfl⟩ := expire_eq_some hs
      simp
    | processEnds k succeeded =>
      obtain ⟨c, -, -, rfl⟩ := processEnds_eq_some hs
      cases succeeded <;> exact ⟨Int.le_refl _, List.prefix_rfl⟩

/-- Before its stop time an alarm survives every step but a `Stop`. -/
theorem Held.step {a : Act} (h : Held stopTime cs s) (hh : Handoff s)
    (hs : FlashLight.step s a = some s') (hstop : ∀ light r, a ≠ .stop light r)
    (hnow : s'.now < stopTime) : Held stopTime cs s' := by
  cases a with
  | start light m r =>
    cases hs
    rw [start_running h.running]
    exact ⟨h.running, h.deadline, h.commands⟩
  | stop light r => exact absurd rfl (hstop light r)
  | background b =>
    cases b with
    | tick d =>
      cases hs
      exact ⟨h.running, h.deadline, h.commands⟩
    | test i =>
      obtain ⟨t, -, -, rfl | ⟨-, rfl⟩⟩ := test_eq_some hs
      · exact h
      · exact ⟨h.running, (setPhase_deadline i _).trans h.deadline, h.commands⟩
    | expire i r =>
      -- the expiring thread is the stored one, and it waited for its stop time
      obtain ⟨t, ht, hp, rfl⟩ := expire_eq_some hs
      have hstored := (hh.only i ⟨t, ht, by simp [TimerThread.isAlive, hp]⟩).2
      have hstop : t.stopTime = stopTime := by
        simpa [State.deadline, hstored, ht] using h.deadline
      have hdue := hh.due i t ht hp
      simp only [setPhase_now, exec_now, logInfo_now] at hnow
      omega
    | processEnds k succeeded =>
      obtain ⟨c, -, -, rfl⟩ := processEnds_eq_some hs
      cases succeeded <;> exact ⟨h.running, h.deadline, h.commands⟩

end SomethingsWrong.FlashLight
