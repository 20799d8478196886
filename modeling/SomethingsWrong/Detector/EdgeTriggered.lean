import SomethingsWrong.Detector.Visits

/-! Whole runs in which no alert throws: `Start` is called on the edge from passing to
failing, `Stop` at the end of a round in which every monitor passed. -/
namespace SomethingsWrong.Rounds
open Program Detector

variable {A ω : Type}

/-- Neither the alerts nor `GetActionDetails` throw. -/
structure Steady (script : Script A ω) : Prop where
  throws : ∀ r m j, script.throws r m j = none
  stopped : ∀ r a w, (script.stopped r a w).1 = .ok ()
  details : ∀ r m, ∃ text, script.details r m = .ok text

/-- The monitor answers with a network error that it tolerates. -/
def tolerated (script : Script A ω) (r : Nat) (m : MonitorAction) : Bool :=
  match script.outcome r m with
  | .error (.webException _) => !m.failAtNetworkException
  | _ => false

section Reference
variable (script : Script A ω) (alertActions : List A) (monitorActions : List MonitorAction)
  (marks : MonitorAction → Bool)

/-- Bad is any answer but `true`. -/
def isBad (r : Nat) (m : MonitorAction) : Bool :=
  match script.outcome r m with
  | .ok true => false
  | _ => true

/-- In the first round the initial mark counts as the answer before. -/
def wasBad : Nat → MonitorAction → Bool
  | 0, m => marks m
  | r + 1, m => isBad script r m

/-- One `Start` for each alert and each monitor that has just become bad. -/
def startCalls (r : Nat) : List (Call A) :=
  monitorActions.flatMap fun m =>
    if isBad script r m && !wasBad script marks r m then alertActions.map (.start · m) else []

/-- One `Stop` for each alert that is running when its turn comes. -/
def stopCalls (r : Nat) : List A → ω → List (Call A) × ω
  | [], w => ([], w)
  | a :: as, w =>
    let (running, w) := script.isRunning r a w
    if running then
      let (calls, w) := stopCalls r as (script.stopped r a w).2
      (.stop a :: calls, w)
    else stopCalls r as w

/-- The calls of the first `n` rounds, and what they make of the alerts. -/
def reference (w : ω) : Nat → List (Call A) × ω
  | 0 => ([], w)
  | r + 1 =>
    let (calls, w) := reference w r
    let starts := startCalls script alertActions monitorActions marks r
    let w := starts.foldl (receive script r) w
    if monitorActions.all fun m => !isBad script r m then
      let (stops, w) := stopCalls script r alertActions w
      (calls ++ starts ++ stops, w)
    else (calls ++ starts, w)

end Reference

section Rounds
variable {script : Script A ω} {alertActions : List A} {monitorActions : List MonitorAction}
  {r : Nat}

theorem verdict_eq_not_isBad {m : MonitorAction} (h : Steady script)
    (ht : tolerated script r m = false) : verdict script r m = .ok (!isBad script r m) := by
  obtain ⟨text, hd⟩ := h.details r m
  unfold verdict isBad
  unfold tolerated at ht
  cases ho : script.outcome r m with
  | ok b => cases b <;> simp [hd, Except.map]
  | error e =>
    cases e with
    | webException e =>
      simp only [ho, Bool.not_eq_eq_eq_not, Bool.not_false] at ht
      simp [ht, hd, Except.map]
    | exception e => simp [hd, Except.map]

/-- Found failing, and marked afterwards, are the bad ones. -/
theorem found_eq_isBad {m : MonitorAction} (h : Steady script) (ht : tolerated script r m = false)
    (marks : MonitorAction → Bool) :
    reports script r m = isBad script r m ∧ marking script r marks m = isBad script r m := by
  unfold reports marking
  rw [verdict_eq_not_isBad h ht]
  simp

theorem invoked_steady (h : Steady script) (m : MonitorAction) (j : Nat) (as : List A) :
    invoked script r m j as = (.ok (), as) := by
  induction as generalizing j with
  | nil => rfl
  | cons a as ih => simp [invoked, h.throws, ih]

theorem visitAll_steady (h : Steady script) (ht : ∀ m ∈ monitorActions, tolerated script r m = false)
    (all : Bool) (s : State A ω) : visitAll script r alertActions monitorActions all s =
      (.ok (all && monitorActions.all fun m => !isBad script r m),
        monitorActions.foldl (visited script alertActions r) s) := by
  induction monitorActions generalizing all s with
  | nil => simp [visitAll]
  | cons m ms ih =>
    have hrest := ih fun x hx => ht x (List.mem_cons_of_mem _ hx)
    have hvisit : visit script r s alertActions m = _ := visit_eq alertActions s
    rw [verdict_eq_not_isBad h (ht m (List.mem_cons_self ..)), invoked_steady h] at hvisit
    simp only [visitAll, hvisit, List.foldl_cons, List.all_cons]
    cases hb : isBad script r m with
    | false => simp [hrest]
    | true => cases s.marks m <;> simp [hrest, Except.map]

theorem stopAll_steady (h : Steady script) (as : List A) (s : State A ω) :
    stopAll script r as s = (.ok (), { s with
      alerts := (stopCalls script r as s.alerts).2
      calls := s.calls ++ (stopCalls script r as s.alerts).1 }) := by
  induction as generalizing s with
  | nil => simp [stopAll, stopCalls]
  | cons a as ih =>
    simp only [stopAll, stopCalls, h.stopped, ih]
    cases (script.isRunning r a s.alerts).1 with
    | false => rfl
    | true => simp

/-- The complete trace of `Start` and `Stop` calls is the reference trace. -/
theorem calls_eq_reference (hnodup : monitorActions.Nodup) (h : Steady script)
    (ht : ∀ r, ∀ m ∈ monitorActions, tolerated script r m = false) (s : State A ω) (n : Nat) :
    (after script s alertActions monitorActions n).calls =
      s.calls ++ (reference script alertActions monitorActions s.marks s.alerts n).1 := by
  suffices hall : let s' := after script s alertActions monitorActions n
      let w := reference script alertActions monitorActions s.marks s.alerts n
      s'.calls = s.calls ++ w.1 ∧ s'.alerts = w.2 ∧
        ∀ m ∈ monitorActions, s'.marks m = wasBad script s.marks n m from hall.1
  induction n with
  | zero => simp [after, reference, wasBad]
  | succ n ih =>
    obtain ⟨hcalls, halerts, hmarks⟩ := ih
    set t := after script s alertActions monitorActions n with ht'
    obtain ⟨hcalls', halerts', -, hmarks'⟩ :=
      foldl_visited script alertActions n hnodup t
    have hstarts : startsFrom script alertActions n t.marks monitorActions =
        startCalls script alertActions monitorActions s.marks n := by
      apply List.flatMap_congr
      intro m hm
      rw [hmarks m hm, invoked_steady h, (found_eq_isBad h (ht n m hm) t.marks).1]
    have hmarking : ∀ m ∈ monitorActions, marking script n t.marks m = isBad script n m :=
      fun m hm => (found_eq_isBad h (ht n m hm) t.marks).2
    rw [hstarts] at hcalls' halerts'
    have hnext := round_eq script n t alertActions monitorActions
    rw [visitAll_steady h (ht n)] at hnext
    rw [hcalls] at hcalls'
    rw [halerts] at halerts'
    simp only [reference, wasBad, after, ← ht']
    rw [hnext, Bool.true_and]
    cases monitorActions.all fun m => !isBad script n m with
    | false => exact ⟨by simpa using hcalls', halerts', fun m hm => by simp [hmarks', hm, hmarking]⟩
    | true =>
      simp only [stopAll_steady h, ↓reduceIte, hcalls', halerts']
      exact ⟨by simp, trivial, fun m hm => by simp [hmarks', hm, hmarking]⟩

end Rounds

/-- Alerts that run from `Start` to `Stop`, and monitors that answer as `outcome` says. -/
def plainScript (outcome : Nat → MonitorAction → Except Exn Bool) : Script A Bool where
  outcome := outcome
  details := fun _ _ => .ok ""
  throws := fun _ _ _ => none
  started := fun _ _ _ _ => true
  isRunning := fun _ _ w => (w, w)
  stopped := fun _ _ _ => (.ok (), false)

theorem steady_plainScript (outcome : Nat → MonitorAction → Except Exn Bool) :
    Steady (plainScript outcome : Script A Bool) :=
  ⟨fun _ _ _ => rfl, fun _ _ _ => rfl, fun _ _ => ⟨"", rfl⟩⟩

/-- Nothing is marked or running. -/
def idle : State A Bool := ⟨fun _ => false, false, 0, [], []⟩

def monitor (ref : Nat) : MonitorAction := ⟨ref, "build", 20, [], false⟩

/-- Both monitors fail in the first two rounds, and recover one after the other. -/
def recovery (r : Nat) (m : MonitorAction) : Except Exn Bool := .ok (decide (m.ref + 2 ≤ r))

theorem calls_eq_reference_recovery :
    (after (plainScript recovery) idle [()] [monitor 0, monitor 1] 5).calls =
      [.start () (monitor 0), .start () (monitor 1), .stop ()] :=
  (calls_eq_reference (by decide) (steady_plainScript recovery) (fun _ _ _ => rfl) idle 5).trans
    (by decide)

end SomethingsWrong.Rounds
