import SomethingsWrong.Base.Alternating
import SomethingsWrong.Light.FlashLightAction

/-! The hand-off between `Start`, `Stop` and the timer threads: at any moment at most
one thread can switch the light off by timeout, and it is the stored one. -/
namespace SomethingsWrong.FlashLight
open LabelledRun Alternating

/-- The thread has neither returned nor been aborted. -/
def Live (s : State) (i : Nat) : Prop :=
  ∃ t, s.threads[i]? = some t ∧ t.isAlive = true

/-- The commands passed to `Exec`, oldest first. -/
def State.issued (s : State) : List Command := s.commands.map (·.command)

/-- What relates the flag, the stored thread, all threads and the command log. -/
structure Handoff (s : State) : Prop where
  alternates : Alternates .on .off s.issued
  last : s.isRunning = true ↔ s.issued.getLast? = some .on
  stored : s.isRunning = true → ∃ i, s.alarmThread = some i ∧ Live s i
  only : ∀ i, Live s i → s.isRunning = true ∧ s.alarmThread = some i
  due : ∀ (i : Nat) (t : TimerThread), s.threads[i]? = some t → t.phase = .expiring →
    t.stopTime ≤ s.now
  timed : ∀ c ∈ s.commands, ∀ i, c.caller = some i →
    c.command = .off ∧ ∃ t, s.threads[i]? = some t ∧ t.stopTime ≤ c.time

theorem handoff_initial (now : Int) : Handoff (State.initial now) where
  alternates := trivial
  last := by simp [State.initial, State.issued]
  stored := by simp [State.initial]
  only := by simp [State.initial, Live]
  due := by simp [State.initial]
  timed := by simp [State.initial]

theorem live_setPhase {s : State} {i j : Nat} {p : Phase} {t : TimerThread}
    (ht : s.threads[i]? = some t) :
    Live (setPhase i p s) j ↔ if i = j then p = .testing ∨ p = .expiring else Live s j := by
  unfold Live
  rw [setPhase_getElem?]
  by_cases h : i = j
  · subst h
    simp [ht, TimerThread.isAlive]
  · simp [h]

/-- A step that leaves the flag, the stored thread and the log alone, and lets time pass,
keeps the hand-off as long as it revives no thread and only due threads pass the test. -/
theorem Handoff.quiet {s s' : State} (h : Handoff s)
    (hrun : s'.isRunning = s.isRunning) (hstored : s'.alarmThread = s.alarmThread)
    (hcommands : s'.commands = s.commands) (hlive : ∀ i, Live s' i ↔ Live s i)
    (hdue : ∀ (i : Nat) (t : TimerThread), s'.threads[i]? = some t → t.phase = .expiring →
      t.stopTime ≤ s'.now)
    (hstop : ∀ (i : Nat) (t : TimerThread), s.threads[i]? = some t →
      ∃ t', s'.threads[i]? = some t' ∧ t'.stopTime = t.stopTime) : Handoff s' where
  alternates := by simpa [State.issued, hcommands] using h.alternates
  last := by simpa [State.issued, hcommands, hrun] using h.last
  stored := by simpa [hrun, hstored, hlive] using h.stored
  only := by simpa [hrun, hstored, hlive] using h.only
  due := hdue
  timed := by
    intro c hc i hi
    obtain ⟨hoff, t, ht, hle⟩ := h.timed c (hcommands ▸ hc) i hi
    obtain ⟨t', ht', heq⟩ := hstop i t ht
    exact ⟨hoff, t', ht', heq ▸ hle⟩

/-- The same list of threads, a later clock, and any log: nothing the hand-off reads. -/
theorem Handoff.same {s s' : State} (h : Handoff s)
    (hrun : s'.isRunning = s.isRunning) (hstored : s'.alarmThread = s.alarmThread)
    (hcommands : s'.commands = s.commands) (hthreads : s'.threads = s.threads)
    (hnow : s.now ≤ s'.now) : Handoff s' := by
  apply h.quiet hrun hstored hcommands
  · intro i
    simp [Live, hthreads]
  · intro i t ht hp
    exact Int.le_trans (h.due i t (hthreads ▸ ht) hp) hnow
  · intro i t ht
    exact ⟨t, hthreads ▸ ht, rfl⟩

theorem handoff_test {s s' : State} {i : Nat} (h : Handoff s) (hs : test i s = some s') :
    Handoff s' := by
  obtain ⟨t, ht, hp, rfl | ⟨hle, rfl⟩⟩ := test_eq_some hs
  · exact h
  · refine h.quiet rfl rfl rfl ?_ ?_ ?_
    · intro j
      rw [live_setPhase ht]
      by_cases hij : i = j
      · subst hij
        simp [Live, ht, TimerThread.isAlive, hp]
      · simp [hij]
    · intro j u hu hup
      rw [setPhase_getElem?] at hu
      by_cases hij : i = j
      · subst hij
        simp only [ht, Option.map_some, ↓reduceIte, Option.some.injEq] at hu
        exact hu ▸ hle
      · simp only [hij, ↓reduceIte, Option.map_id'] at hu
        exact h.due j u hu hup
    · intro j u hu
      rw [setPhase_getElem?, hu]
      exact ⟨_, rfl, by split <;> rfl⟩

theorem handoff_processEnds {s s' : State} {k : Nat} {succeeded : Bool} (h : Handoff s)
    (hs : processEnds k succeeded s = some s') : Handoff s' := by
  obtain ⟨c, -, -, rfl⟩ := processEnds_eq_some hs
  cases succeeded <;> exact h.same rfl rfl rfl rfl (Int.le_refl _)

/-- `Start` on an idle light creates the only live thread and stores it. -/
theorem handoff_start {s : State} (light : FileInfo) (m : MonitorAction) (r : ProcessResult)
    (h : Handoff s) : Handoff (start light m r s) := by
  cases hrun : s.isRunning with
  | true =>
    rw [start_running hrun]
    exact h.same rfl rfl rfl rfl (Int.le_refl _)
  | false =>
    have hdead (i : Nat) : ¬ Live s i := fun hl => by simpa [hrun] using (h.only i hl).1
    have hlast : s.issued.getLast? ≠ some .on := by
      intro hl
      simpa [hrun] using h.last.mpr hl
    have hthreads : (start light m r s).threads = s.threads ++
        [⟨light, s.now + timeSpan 0 0 m.lightAlarmDurationInSeconds, .testing⟩] := by
      simp [start, hrun]
    have hcommands : (start light m r s).commands = s.commands ++
        [⟨light, .on, none, s.now, r⟩] := by
      simp [start, hrun]
    have hstored : (start light m r s).alarmThread = some s.threads.length := by
      simp [start, hrun]
    have hlive (i : Nat) : Live (start light m r s) i ↔ i = s.threads.length := by
      rw [Live, hthreads]
      rcases Nat.lt_trichotomy i s.threads.length with hi | hi | hi
      · have : ¬ Live s i := hdead i
        simpa [List.getElem?_append_left hi, Nat.ne_of_lt hi, Live] using this
      · subst hi
        simp [TimerThread.isAlive]
      · rw [List.getElem?_eq_none (by simp; omega)]
        simp [Nat.ne_of_gt hi]
    constructor
    · simpa [State.issued, hcommands] using (alternates_snoc (by decide) h.alternates).2 hlast
    · simp [start, hrun, State.issued]
    · intro _
      exact ⟨_, hstored, (hlive _).mpr rfl⟩
    · intro i hi
      rw [(hlive i).mp hi]
      exact ⟨by simp [start, hrun], hstored⟩
    · intro i t ht hp
      have hi : Live (start light m r s) i := ⟨t, ht, by simp [TimerThread.isAlive, hp]⟩
      rw [(hlive i).mp hi, hthreads] at ht
      simp only [List.getElem?_concat_length, Option.some.injEq] at ht
      simp [← ht] at hp
    · intro c hc i hi
      rw [hcommands, List.mem_append, List.mem_singleton] at hc
      cases hc with
      | inl hc =>
        obtain ⟨hoff, t, ht, hle⟩ := h.timed c hc i hi
        refine ⟨hoff, t, ?_, hle⟩
        rw [hthreads, List.getElem?_append_left (List.getElem?_eq_some_iff.mp ht).1, ht]
      | inr heq =>
        subst heq
        cases hi

theorem setPhase_stopTime {s : State} {i : Nat} {p : Phase} (j : Nat) (t : TimerThread)
    (ht : s.threads[j]? = some t) :
    ∃ t', (setPhase i p s).threads[j]? = some t' ∧ t'.stopTime = t.stopTime := by
  rw [setPhase_getElem?, ht]
  exact ⟨_, rfl, by split <;> rfl⟩

/-- No thread is live any more once the one that was is over. -/
theorem Handoff.noneLive {s : State} (h : Handoff s) {i : Nat} (hl : Live s i) {p : Phase}
    (hp : p ≠ .testing ∧ p ≠ .expiring) (j : Nat) : ¬ Live (setPhase i p s) j := by
  intro hj
  obtain ⟨t, ht, -⟩ := id hl
  rw [live_setPhase ht] at hj
  by_cases hij : i = j
  · simp [hij, hp.1, hp.2] at hj
  · have hstored := (h.only j (by simpa [hij] using hj)).2
    rw [(h.only i hl).2] at hstored
    exact hij (Option.some.inj hstored)

/-- Switching off ends the only live thread, whether `Stop` aborts it or it runs out. -/
theorem Handoff.switchedOff {s s' : State} {c : Issued} (h : Handoff s) {i : Nat} (hl : Live s i)
    {p : Phase} (hp : p ≠ .testing ∧ p ≠ .expiring) (hthreads : s'.threads = (setPhase i p s).threads)
    (hoff : s'.isRunning = false) (hcommands : s'.commands = s.commands ++ [c])
    (hc : c.command = .off)
    (hcaller : ∀ i, c.caller = some i → ∃ t, s.threads[i]? = some t ∧ t.stopTime ≤ c.time) :
    Handoff s' := by
  have hlive (j : Nat) : ¬ Live s' j := by
    rw [Live, hthreads]
    exact h.noneLive hl hp j
  constructor
  · have hsnoc := (alternates_snoc (by decide) h.alternates).1 (h.last.mp (h.only i hl).1)
    simpa [State.issued, hcommands, hc] using hsnoc
  · simp [hoff, State.issued, hcommands, hc]
  · simp [hoff]
  · intro j hj
    exact absurd hj (hlive j)
  · intro j t ht hphase
    exact absurd ⟨t, ht, by simp [TimerThread.isAlive, hphase]⟩ (hlive j)
  · intro d hd j hj
    rw [hcommands, List.mem_append, List.mem_singleton] at hd
    have hold : d.command = .off ∧ ∃ t, s.threads[j]? = some t ∧ t.stopTime ≤ d.time := by
      cases hd with
      | inl hd => exact h.timed d hd j hj
      | inr heq =>
        subst heq
        exact ⟨hc, hcaller j hj⟩
    obtain ⟨hdoff, t, ht, hle⟩ := hold
    obtain ⟨t', ht', heq⟩ := setPhase_stopTime (i := i) (p := p) j t ht
    exact ⟨hdoff, t', hthreads ▸ ht', heq ▸ hle⟩

/-- Under the hand-off, `Stop` on a running light aborts the stored thread. -/
theorem stop_running {s : State} {i : Nat} (light : FileInfo) (r : ProcessResult)
    (hrun : s.isRunning = true) (hi : s.alarmThread = some i) (hl : Live s i) :
    stop light r s = exec light .off none r { setPhase i .aborted
      (logInfo "Disabling light alarm (requested)" s) with
        isRunning := false, alarmThread := none } := by
  obtain ⟨t, ht, halive⟩ := hl
  simp [stop, hrun, abortAlarmThread, hi, ht, halive, setPhase]

theorem handoff_stop {s : State} (light : FileInfo) (r : ProcessResult) (h : Handoff s) :
    Handoff (stop light r s) := by
  cases hrun : s.isRunning with
  | false =>
    rw [stop_idle hrun]
    exact h.same rfl rfl rfl rfl (Int.le_refl _)
  | true =>
    obtain ⟨i, hi, hl⟩ := h.stored hrun
    rw [stop_running light r hrun hi hl]
    apply h.switchedOff (c := ⟨light, .off, none, s.now, r⟩) hl (p := .aborted) (by decide)
    · simp [setPhase]
    · simp
    · simp
    · rfl
    · simp

theorem handoff_expire {s s' : State} {i : Nat} {r : ProcessResult} (h : Handoff s)
    (hs : expire i r s = some s') : Handoff s' := by
  obtain ⟨t, ht, hp, rfl⟩ := expire_eq_some hs
  have hl : Live s i := ⟨t, ht, by simp [TimerThread.isAlive, hp]⟩
  apply h.switchedOff (c := ⟨t.light, .off, some i, s.now, r⟩) hl (p := .finished) (by decide)
  · simp [setPhase]
  · simp
  · simp
  · rfl
  · intro j hj
    cases hj
    exact ⟨t, ht, h.due i t ht hp⟩

theorem handoff_background {s s' : State} {b : Background} (h : Handoff s)
    (hs : background s b = some s') : Handoff s' := by
  cases b with
  | tick d =>
    cases hs
    exact h.same rfl rfl rfl rfl (by dsimp only; omega)
  | test i => exact handoff_test h hs
  | expire i r => exact handoff_expire h hs
  | processEnds k succeeded => exact handoff_processEnds h hs

theorem handoff_step {s s' : State} {a : Act} (h : Handoff s) (hs : step s a = some s') :
    Handoff s' := by
  cases a with
  | start light m r => exact Option.some.inj hs ▸ handoff_start light m r h
  | stop light r => exact Option.some.inj hs ▸ handoff_stop light r h
  | background b => exact handoff_background h hs

theorem Reachable.handoff {light : FileInfo} {s : State} (h : Reachable light s) : Handoff s := by
  obtain ⟨now, hl⟩ := h
  exact hl.invariant (handoff_initial now) fun _ _ _ ht _ hs => handoff_step ht hs

/-- Some continuation makes the existing timer thread `i` issue another `off`. -/
def CanIssueOff (light : FileInfo) (s : State) (i : Nat) : Prop :=
  i < s.threads.length ∧ ∃ s', Leads step (Act.Of light) s s' ∧
    ∃ c ∈ s'.commands.drop s.commands.length, c.caller = some i ∧ c.command = .off

theorem expire_issues {s : State} {i : Nat} {t : TimerThread} (r : ProcessResult)
    (ht : s.threads[i]? = some t) (hp : t.phase = .expiring) :
    ∃ s', expire i r s = some s' ∧
      s'.commands = s.commands ++ [⟨t.light, .off, some i, s.now, r⟩] := by
  unfold expire
  rw [ht]
  simp only [hp, ↓reduceIte]
  exact ⟨_, rfl, by simp⟩

/-- A live thread only needs the clock to reach its stop time and the lock to be free. -/
theorem Live.canIssueOff {s : State} {i : Nat} (light : FileInfo) (h : Live s i) :
    CanIssueOff light s i := by
  obtain ⟨t, ht, halive⟩ := h
  have hexpire (u : State) (t : TimerThread) (hu : u.threads[i]? = some t)
      (hp : t.phase = .expiring) (hc : u.commands = s.commands) :
      ∃ u', Leads step (Act.Of light) u u' ∧
        ∃ c ∈ u'.commands.drop s.commands.length, c.caller = some i ∧ c.command = .off := by
    obtain ⟨u', hu', hcommands⟩ := expire_issues (.exited 0) hu hp
    have hl : Leads step (Act.Of light) u u' :=
      .single (l := .background (.expire i (.exited 0))) trivial hu'
    exact ⟨u', hl, by simp [hcommands, hc]⟩
  refine ⟨(List.getElem?_eq_some_iff.mp ht).1, ?_⟩
  cases hp : t.phase with
  | testing =>
    let later : State := { s with now := s.now + (t.stopTime - s.now).toNat }
    have hdue : t.stopTime ≤ later.now := by simp only [later]; omega
    have hpass : test i later = some (setPhase i .expiring later) := by
      simp only [test, later, ht, hp, ↓reduceIte]
      rw [if_pos hdue]
    have hnew : (setPhase i .expiring later).threads[i]? = some { t with phase := .expiring } := by
      simp [setPhase_getElem?, later, ht]
    obtain ⟨s', hl, hoff⟩ := hexpire _ _ hnew rfl rfl
    have htick : Leads step (Act.Of light) s later :=
      .single (l := .background (.tick (t.stopTime - s.now).toNat)) trivial rfl
    have htest : Leads step (Act.Of light) later (setPhase i .expiring later) :=
      .single (l := .background (.test i)) trivial hpass
    exact ⟨s', (htick.trans htest).trans hl, hoff⟩
  | expiring => exact hexpire s t ht hp rfl
  | finished => simp [TimerThread.isAlive, hp] at halive
  | aborted => simp [TimerThread.isAlive, hp] at halive

theorem not_live_setPhase {s : State} {i j : Nat} {p : Phase} (h : ¬ Live s i)
    (hp : p ≠ .testing ∧ p ≠ .expiring) : ¬ Live (setPhase j p s) i := by
  intro hl
  obtain ⟨t, ht, halive⟩ := hl
  rw [setPhase_getElem?] at ht
  obtain ⟨u, hu, rfl⟩ := Option.map_eq_some_iff.mp ht
  by_cases hij : j = i
  · simp [hij, TimerThread.isAlive, hp.1, hp.2] at halive
  · exact h ⟨u, hu, by simpa [hij] using halive⟩

theorem not_live_abortAlarmThread {s : State} {i : Nat} (h : ¬ Live s i) :
    ¬ Live (abortAlarmThread s) i := by
  obtain heq | ⟨j, heq⟩ := abortAlarmThread_cases s
  · rwa [heq]
  · rw [heq]
    exact not_live_setPhase h (by decide)

/-- A thread that is over stays over, and no later command comes from it. -/
theorem step_over {s s' : State} {a : Act} {i : Nat} (h : ¬ Live s i) (hi : i < s.threads.length)
    (hs : step s a = some s') :
    ¬ Live s' i ∧ i < s'.threads.length ∧
      ∃ cs, s'.commands = s.commands ++ cs ∧ ∀ c ∈ cs, c.caller ≠ some i := by
  cases a with
  | start light m r =>
    cases hs
    cases hrun : s.isRunning with
    | true =>
      rw [start_running hrun]
      exact ⟨h, hi, [], by simp⟩
    | false =>
      rw [start_idle hrun]
      refine ⟨?_, by simp; omega, [_], by simp; rfl, by simp⟩
      intro hl
      obtain ⟨t, ht, halive⟩ := hl
      simp only [exec_threads] at ht
      rw [List.getElem?_append_left hi] at ht
      exact h ⟨t, ht, halive⟩
  | stop light r =>
    cases hs
    cases hrun : s.isRunning with
    | false =>
      rw [stop_idle hrun]
      exact ⟨h, hi, [], by simp⟩
    | true =>
      refine ⟨?_, by simpa [stop, hrun, abortAlarmThread_frame] using hi, [_],
        by simp [stop, hrun, abortAlarmThread_frame]; rfl, by simp⟩
      have hdead : ¬ Live (abortAlarmThread { logInfo "Disabling light alarm (requested)" s with
          isRunning := false }) i := not_live_abortAlarmThread h
      simpa [stop, hrun, Live] using hdead
  | background b =>
    cases b with
    | tick d =>
      cases hs
      exact ⟨h, hi, [], by simp⟩
    | test j =>
      obtain ⟨t, ht, hp, rfl | ⟨-, rfl⟩⟩ := test_eq_some hs
      · exact ⟨h, hi, [], by simp⟩
      · have hji : j ≠ i := by
          intro heq
          exact h (heq ▸ ⟨t, ht, by simp [TimerThread.isAlive, hp]⟩)
        exact ⟨by rw [live_setPhase ht, if_neg hji]; exact h, by simpa [setPhase] using hi, [], by simp⟩
    | expire j r =>
      obtain ⟨t, ht, hp, rfl⟩ := expire_eq_some hs
      have hji : j ≠ i := by
        intro heq
        exact h (heq ▸ ⟨t, ht, by simp [TimerThread.isAlive, hp]⟩)
      refine ⟨?_, by simpa [setPhase] using hi, [_], by simp; rfl, by simp [hji]⟩
      have hdead := not_live_setPhase (j := j) (p := .finished) h (by decide)
      simpa [Live, setPhase] using hdead
    | processEnds k succeeded =>
      obtain ⟨c, -, -, rfl⟩ := processEnds_eq_some hs
      cases succeeded <;> exact ⟨h, hi, [], by simp [setLamp]⟩

theorem CanIssueOff.live {light : FileInfo} {s : State} {i : Nat} (h : CanIssueOff light s i) :
    Live s i := by
  by_contra hdead
  obtain ⟨hi, s', hl, c, hc, hcaller, -⟩ := h
  -- once over, a thread has no part in what the log gains
  have hinv := hl.invariant (I := fun u => ¬ Live u i ∧ i < u.threads.length ∧
    ∃ cs, u.commands = s.commands ++ cs ∧ ∀ c ∈ cs, c.caller ≠ some i) ⟨hdead, hi, [], by simp⟩ (by
      intro u a u' hinv _ hs
      obtain ⟨hu, hlt, cs, hcs, hno⟩ := hinv
      obtain ⟨hu', hlt', ds, hds, hno'⟩ := step_over hu hlt hs
      refine ⟨hu', hlt', cs ++ ds, by rw [hds, hcs, List.append_assoc], ?_⟩
      intro c hc
      exact (List.mem_append.mp hc).elim (hno c) (hno' c))
  obtain ⟨-, -, cs, hcs, hno⟩ := hinv
  rw [hcs, List.drop_left] at hc
  exact hno c hc hcaller

theorem canIssueOff_iff {light : FileInfo} {s : State} {i : Nat} :
    CanIssueOff light s i ↔ Live s i :=
  ⟨CanIssueOff.live, Live.canIssueOff light⟩

theorem threads_setPhase {s : State} {i j : Nat} {p : Phase} {t' : TimerThread}
    (ht : (setPhase i p s).threads[j]? = some t') :
    ∃ t, s.threads[j]? = some t ∧ t.stopTime = t'.stopTime := by
  rw [setPhase_getElem?] at ht
  obtain ⟨t, hold, rfl⟩ := Option.map_eq_some_iff.mp ht
  exact ⟨t, hold, by split <;> rfl⟩

/-- No step moves a stop time: a thread is an old one, or the step is the `Start` that creates
it. -/
theorem step_threads {s s' : State} {a : Act} (hs : step s a = some s') {i : Nat}
    {t' : TimerThread} (ht : s'.threads[i]? = some t') :
    (∃ t, s.threads[i]? = some t ∧ t.stopTime = t'.stopTime) ∨
    ∃ light m r, a = .start light m r ∧ s.isRunning = false ∧ s.threads.length = i ∧
      t'.stopTime = s.now + timeSpan 0 0 m.lightAlarmDurationInSeconds := by
  cases a with
  | start light m r =>
    cases hs
    cases hrun : s.isRunning with
    | true =>
      rw [start_running hrun] at ht
      exact .inl ⟨t', ht, rfl⟩
    | false =>
      rw [start_idle hrun, exec_threads, List.getElem?_append] at ht
      split at ht
      · exact .inl ⟨t', ht, rfl⟩
      · rw [List.getElem?_singleton, Option.ite_none_right_eq_some] at ht
        obtain ⟨hzero, hnew⟩ := ht
        cases hnew
        exact .inr ⟨light, m, r, rfl, rfl, by omega, rfl⟩
  | stop light r =>
    cases hs
    left
    cases hrun : s.isRunning with
    | false =>
      rw [stop_idle hrun] at ht
      exact ⟨t', ht, rfl⟩
    | true =>
      simp only [stop, logInfo_isRunning, hrun, ↓reduceIte, exec_threads] at ht
      obtain heq | ⟨j, heq⟩ :=
        abortAlarmThread_cases { logInfo "Disabling light alarm (requested)" s with
          isRunning := false }
      · rw [heq] at ht
        exact ⟨t', ht, rfl⟩
      · rw [heq] at ht
        exact threads_setPhase ht
  | background b =>
    left
    cases b with
    | tick d =>
      cases hs
      exact ⟨t', ht, rfl⟩
    | test j =>
      obtain ⟨t, -, -, rfl | ⟨-, rfl⟩⟩ := test_eq_some hs
      · exact ⟨t', ht, rfl⟩
      · exact threads_setPhase ht
    | expire j r =>
      obtain ⟨t, -, -, rfl⟩ := expire_eq_some hs
      obtain ⟨u, hu, hstop⟩ := threads_setPhase ht
      exact ⟨u, by simpa using hu, hstop⟩
    | processEnds k succeeded =>
      obtain ⟨c, -, -, rfl⟩ := processEnds_eq_some hs
      cases succeeded <;> exact ⟨t', ht, rfl⟩

/-- A stop time stems from the `Start` that found the light idle and created the thread. -/
def Started (light : FileInfo) (s : State) (i : Nat) (stopTime : Int) : Prop :=
  ∃ (u : State) (m : MonitorAction) (r : ProcessResult), Reachable light u ∧
    u.isRunning = false ∧ u.threads.length = i ∧
    stopTime = u.now + timeSpan 0 0 m.lightAlarmDurationInSeconds ∧
    Leads step (Act.Of light) (start light m r u) s

theorem Started.tail {light : FileInfo} {s s' : State} {a : Act} {i : Nat} {stopTime : Int}
    (h : Started light s i stopTime) (ha : a.Of light) (hs : step s a = some s') :
    Started light s' i stopTime := by
  obtain ⟨u, m, r, hu, hidle, hi, hstop, hl⟩ := h
  exact ⟨u, m, r, hu, hidle, hi, hstop, hl.tail ha hs⟩

theorem Reachable.tail {light : FileInfo} {s s' : State} {a : Act} (h : Reachable light s)
    (ha : a.Of light) (hs : step s a = some s') : Reachable light s' := by
  obtain ⟨now, hl⟩ := h
  exact ⟨now, hl.tail ha hs⟩

/-- Every timer thread has been started so, by induction on the run. -/
theorem Reachable.started {light : FileInfo} {s : State} (h : Reachable light s) {i : Nat}
    {t : TimerThread} (ht : s.threads[i]? = some t) : Started light s i t.stopTime := by
  obtain ⟨now, hl⟩ := h
  have hinv := hl.invariant (I := fun s => Reachable light s ∧
    ∀ i t, s.threads[i]? = some t → Started light s i t.stopTime)
    ⟨⟨now, .refl _⟩, by simp [State.initial]⟩ (by
      intro s a s' hinv ha hs
      obtain ⟨hreach, hstarted⟩ := hinv
      refine ⟨hreach.tail ha hs, fun i t' ht' => ?_⟩
      obtain ⟨t, ht, heq⟩ | ⟨light', m, r, rfl, hidle, hi, hstop⟩ := step_threads hs ht'
      · exact heq ▸ (hstarted i t ht).tail ha hs
      · obtain rfl : light' = light := ha
        cases hs
        exact ⟨s, m, r, hreach, hidle, hi, hstop, .refl _⟩)
  exact hinv.2 i t ht

/-- A timer thread switches off no earlier than the alarm's duration after the `Start` that created
it. -/
theorem Reachable.timeout_after_duration {light : FileInfo} {s : State} (h : Reachable light s)
    {c : Issued} (hc : c ∈ s.commands) {i : Nat} (hi : c.caller = some i) :
    ∃ stopTime, Started light s i stopTime ∧ stopTime ≤ c.time := by
  obtain ⟨-, t, ht, hdue⟩ := h.handoff.timed c hc i hi
  exact ⟨t.stopTime, h.started ht, hdue⟩

/-- The hand-off in every reachable state: the commands alternate and the flag is the last
of them; while it is set exactly the stored thread can still time out, and otherwise none;
and no timer thread switches off before its own stop time. -/
theorem timer_handoff {light : FileInfo} {s : State} (h : Reachable light s) :
    (Alternates .on .off s.issued ∧ (s.issued.getLast? = some .on ↔ s.isRunning = true)) ∧
    (s.isRunning = true → ∃ i, s.alarmThread = some i ∧ ∀ j, CanIssueOff light s j ↔ j = i) ∧
    (s.isRunning = false → ∀ j, ¬ CanIssueOff light s j) ∧
    (∀ c ∈ s.commands, ∀ i, c.caller = some i →
      c.command = .off ∧ ∃ t, s.threads[i]? = some t ∧ t.stopTime ≤ c.time) := by
  have hh := h.handoff
  refine ⟨⟨hh.alternates, hh.last.symm⟩, ?_, ?_, hh.timed⟩
  · intro hrun
    obtain ⟨i, hi, hl⟩ := hh.stored hrun
    refine ⟨i, hi, fun j => canIssueOff_iff.trans ⟨fun hj => ?_, fun hj => hj ▸ hl⟩⟩
    exact Option.some.inj ((hh.only j hj).2.symm.trans hi)
  · intro hrun j hj
    have := (hh.only j hj.live).1
    simp [hrun] at this

/-- The stop of one alarm finds its timer past the clock test, and the next alarm starts
before that thread gets the lock. -/
def restart : List Act :=
  [.start controllerFile ⟨0, "build", 20, [], false⟩ (.exited 0),
    .background (.tick 200000000), .background (.test 0), .stop controllerFile (.exited 0),
    .start controllerFile ⟨0, "build", 20, [], false⟩ (.exited 0)]

theorem timer_handoff_restart : ∃ s, run step (State.initial 0) restart = some s ∧
    s.isRunning = true ∧ s.alarmThread = some 1 ∧ ¬ CanIssueOff controllerFile s 0 := by
  refine ⟨_, rfl, rfl, rfl, ?_⟩
  have hof : ∀ a ∈ restart, Act.Of controllerFile a := by simp [restart, Act.Of]
  obtain ⟨i, hi, hall⟩ := (timer_handoff ⟨0, restart, hof, rfl⟩).2.1 rfl
  have hi' : some 1 = some i := hi
  intro hcan
  rw [← (hall 0).mp hcan] at hi'
  cases hi'

end SomethingsWrong.FlashLight
