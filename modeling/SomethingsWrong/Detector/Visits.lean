import SomethingsWrong.Detector.Script

/-! What a round does to the marks, the calls and the list of checked monitors: it visits
the monitors one after the other, up to the first one that throws, by itself or by its alerts. -/
namespace SomethingsWrong.Rounds
open Program Detector

variable {A ω : Type} (script : Script A ω) (alertActions : List A) (r : Nat)

/-- What a call makes of the alerts. -/
def receive : ω → Call A → ω
  | w, .start a m => script.started r a m w
  | w, .stop a => (script.stopped r a w).2

/-- The monitor fails in round `r`, by its answers there. A tolerated `WebException` out of the
`try` statement is no failure, whether `GetStatus` or `GetActionDetails` threw it. -/
def failing (m : MonitorAction) : Bool :=
  match script.outcome r m, script.details r m with
  | .ok true, _ => false
  | .ok false, .error (.webException _) => m.failAtNetworkException
  | .error (.webException _), _ => m.failAtNetworkException
  | _, _ => true

/-- `GetActionDetails` returns. -/
def Described (m : MonitorAction) : Prop := ∃ text, script.details r m = .ok text

/-- The monitor is found failing, so that its alerts are started if it is not marked. -/
def reports (m : MonitorAction) : Bool :=
  match verdict script r m with
  | .ok passed => !passed
  | .error _ => false

/-- The mark of `m` after its visit. An exception out of `GetActionDetails` leaves it alone. -/
def marking (marks : MonitorAction → Bool) (m : MonitorAction) : Bool :=
  match verdict script r m with
  | .ok passed => !passed
  | .error _ => marks m

/-- The state after one monitor, whether or not something throws. -/
def visited (s : State A ω) (m : MonitorAction) : State A ω :=
  match verdict script r m with
  | .error _ => s.check m
  | .ok true => (s.check m).mark m false
  | .ok false =>
    if s.marks m then s.check m
    else ((s.check m).mark m true).startOn script r m (invoked script r m 0 alertActions).2

/-- The calls of `Start` for the monitors `ms`: for those found failing and not marked. -/
def startsFrom (marks : MonitorAction → Bool) (ms : List MonitorAction) : List (Call A) :=
  ms.flatMap fun m =>
    if reports script r m && !marks m then (invoked script r m 0 alertActions).2.map (.start · m)
    else []

section Visit
variable {script r} {m : MonitorAction}

theorem verdict_eq : verdict script r m =
    if failing script r m then (script.details r m).map fun _ => false else .ok true := by
  unfold verdict failing
  cases script.outcome r m with
  | ok b =>
    cases b with
    | true => rfl
    | false =>
      cases script.details r m with
      | ok text => rfl
      | error e =>
        cases e with
        | webException e => cases m.failAtNetworkException <;> rfl
        | exception e => rfl
  | error e =>
    cases e with
    | webException e => cases script.details r m <;> cases m.failAtNetworkException <;> rfl
    | exception e => cases script.details r m <;> rfl

theorem verdict_false_iff :
    verdict script r m = .ok false ↔ failing script r m = true ∧ Described script r m := by
  rw [verdict_eq]
  unfold Described
  cases failing script r m <;> cases script.details r m <;> simp [Except.map]

theorem verdict_error_iff : (∃ e, verdict script r m = .error e) ↔
    failing script r m = true ∧ ¬ Described script r m := by
  rw [verdict_eq]
  unfold Described
  cases failing script r m <;> cases script.details r m <;> simp [Except.map]

theorem visit_eq (s : State A ω) : visit script r s alertActions m =
    (match verdict script r m with
      | .ok false =>
        if s.marks m then .ok false
        else (invoked script r m 0 alertActions).1.map fun _ => false
      | result => result, visited script alertActions r s m) := by
  unfold visit visited
  cases hv : verdict script r m with
  | error e => rfl
  | ok passed =>
    cases passed with
    | true => rfl
    | false =>
      obtain ⟨-, text, hd⟩ := verdict_false_iff.mp hv
      have hcheck : (s.check m).marks m = s.marks m := rfl
      simp only [hcheck, hd]
      cases s.marks m with
      | true => rfl
      | false => cases (invoked script r m 0 alertActions).1 <;> rfl

variable {alertActions}

theorem visited_marks_self (s : State A ω) :
    (visited script alertActions r s m).marks m = marking script r s.marks m := by
  unfold visited marking
  cases verdict script r m with
  | error e => rfl
  | ok passed =>
    cases passed with
    | true => simp [State.mark]
    | false => cases h : s.marks m <;> simp [State.mark, State.check, State.startOn, h]

theorem visited_marks_other {x : MonitorAction} (hx : x ≠ m) (s : State A ω) :
    (visited script alertActions r s m).marks x = s.marks x := by
  unfold visited
  cases verdict script r m with
  | error e => rfl
  | ok passed =>
    cases passed with
    | true => simp [State.mark, State.check, hx]
    | false => cases h : s.marks m <;> simp [State.mark, State.check, State.startOn, hx]

theorem visited_checks (s : State A ω) :
    (visited script alertActions r s m).checks = s.checks ++ [m] := by
  unfold visited
  cases verdict script r m with
  | error e => rfl
  | ok passed =>
    cases passed with
    | true => rfl
    | false => cases s.marks m <;> rfl

theorem startsFrom_singleton (marks : MonitorAction → Bool) :
    startsFrom script alertActions r marks [m] = if reports script r m && !marks m then
      (invoked script r m 0 alertActions).2.map (.start · m) else [] := by
  simp [startsFrom]

theorem visited_calls (s : State A ω) : (visited script alertActions r s m).calls =
    s.calls ++ startsFrom script alertActions r s.marks [m] := by
  rw [startsFrom_singleton]
  unfold visited reports
  cases verdict script r m with
  | error e => simp [State.check]
  | ok passed =>
    cases passed with
    | true => simp [State.mark, State.check]
    | false => cases h : s.marks m <;> simp [State.mark, State.check, State.startOn]

theorem visited_alerts (s : State A ω) : (visited script alertActions r s m).alerts =
    (startsFrom script alertActions r s.marks [m]).foldl (receive script r) s.alerts := by
  rw [startsFrom_singleton]
  unfold visited reports
  cases verdict script r m with
  | error e => simp [State.check]
  | ok passed =>
    cases passed with
    | true => simp [State.mark, State.check]
    | false =>
      cases h : s.marks m <;>
        simp [State.mark, State.check, State.startOn, receive, List.foldl_map]

end Visit

theorem startsFrom_congr {marks marks' : MonitorAction → Bool} {ms : List MonitorAction}
    (h : ∀ m ∈ ms, marks m = marks' m) : startsFrom script alertActions r marks ms =
      startsFrom script alertActions r marks' ms :=
  List.flatMap_congr fun m hm => by rw [h m hm]

theorem marking_congr {marks marks' : MonitorAction → Bool} {m : MonitorAction}
    (h : marks m = marks' m) : marking script r marks m = marking script r marks' m := by
  unfold marking
  rw [h]

/-- What the visits of distinct monitors do: `Start` for those that are found failing and were
not marked, and the marks say afterwards which of them were. -/
theorem foldl_visited {ms : List MonitorAction} (hnodup : ms.Nodup) (s : State A ω) :
    let starts := startsFrom script alertActions r s.marks ms
    let s' := ms.foldl (visited script alertActions r) s
    s'.calls = s.calls ++ starts ∧ s'.alerts = starts.foldl (receive script r) s.alerts ∧
      s'.checks = s.checks ++ ms ∧
      ∀ m, s'.marks m = if m ∈ ms then marking script r s.marks m else s.marks m := by
  induction ms generalizing s with
  | nil => simp [startsFrom]
  | cons m ms ih =>
    obtain ⟨hm, hms⟩ := List.nodup_cons.mp hnodup
    obtain ⟨hcalls, halerts, hchecks, hmarks⟩ := ih hms (visited script alertActions r s m)
    have hother {x : MonitorAction} (hx : x ∈ ms) :
        (visited script alertActions r s m).marks x = s.marks x :=
      visited_marks_other (ne_of_mem_of_not_mem hx hm) s
    have hrest : startsFrom script alertActions r (visited script alertActions r s m).marks ms =
        startsFrom script alertActions r s.marks ms :=
      startsFrom_congr script alertActions r fun x hx => hother hx
    have hsplit : startsFrom script alertActions r s.marks (m :: ms) =
        startsFrom script alertActions r s.marks [m] ++
          startsFrom script alertActions r s.marks ms := by
      simp [startsFrom]
    refine ⟨?_, ?_, ?_, fun x => ?_⟩
    · rw [List.foldl_cons, hcalls, hrest, visited_calls, hsplit, List.append_assoc]
    · rw [List.foldl_cons, halerts, hrest, visited_alerts, hsplit, List.foldl_append]
    · rw [List.foldl_cons, hchecks, visited_checks, List.append_assoc, List.singleton_append]
    · rw [List.foldl_cons, hmarks x]
      by_cases hx : x = m
      · subst hx
        simp [hm, visited_marks_self]
      · by_cases hin : x ∈ ms
        · rw [if_pos hin, if_pos (List.mem_cons_of_mem _ hin),
            marking_congr script r (hother hin)]
        · simp [hx, hin, visited_marks_other hx]

/-- `StartAlerts` reaches every alert, or throws at the first call that throws. -/
theorem invoked_cases (m : MonitorAction) (j : Nat) (as : List A) :
    (invoked script r m j as = (.ok (), as) ∧
      ∀ i, i < as.length → script.throws r m (j + i) = none) ∨
    ∃ i e, i < as.length ∧ script.throws r m (j + i) = some e ∧
      (∀ i', i' < i → script.throws r m (j + i') = none) ∧
      invoked script r m j as = (.error e, as.take (i + 1)) := by
  induction as generalizing j with
  | nil => exact .inl ⟨rfl, by simp⟩
  | cons a as ih =>
    cases ht : script.throws r m j with
    | some e => exact .inr ⟨0, e, by simp, ht, by simp, by simp [invoked, ht]⟩
    | none =>
      rcases ih (j + 1) with ⟨heq, hall⟩ | ⟨i, e, hi, he, hbefore, heq⟩
      · refine .inl ⟨by simp [invoked, ht, heq], fun i hi => ?_⟩
        cases i with
        | zero => exact ht
        | succ i =>
          have := hall i (by simpa using hi)
          rwa [show j + (i + 1) = j + 1 + i by omega]
      · refine .inr ⟨i + 1, e, by simpa using hi, ?_, fun i' hi' => ?_, ?_⟩
        · rwa [show j + (i + 1) = j + 1 + i by omega]
        · cases i' with
          | zero => exact ht
          | succ i' =>
            have := hbefore i' (by omega)
            rwa [show j + (i' + 1) = j + 1 + i' by omega]
        · simp [invoked, ht, heq]

/-- The visit of `m` throws: because `GetActionDetails` does, or because `m` starts its alerts
and one of them does. -/
def Interrupted (marks : MonitorAction → Bool) (m : MonitorAction) : Prop :=
  (∃ e, verdict script r m = .error e) ∨
    (verdict script r m = .ok false ∧ marks m = false ∧
      ∃ e, (invoked script r m 0 alertActions).1 = .error e)

theorem interrupted_or_returns (m : MonitorAction) (s : State A ω) :
    (Interrupted script alertActions r s.marks m ∧
      ∃ e, (visit script r s alertActions m).1 = .error e) ∨
    (¬ Interrupted script alertActions r s.marks m ∧
      ∃ passed, (visit script r s alertActions m).1 = .ok passed) := by
  rw [visit_eq]
  unfold Interrupted
  cases hv : verdict script r m with
  | error e => exact .inl ⟨.inl ⟨e, rfl⟩, e, rfl⟩
  | ok passed =>
    cases passed with
    | true => exact .inr ⟨by simp, true, rfl⟩
    | false =>
      cases hm : s.marks m with
      | true => exact .inr ⟨by simp, false, rfl⟩
      | false =>
        cases hi : (invoked script r m 0 alertActions).1 with
        | error e => exact .inl ⟨.inr ⟨rfl, rfl, e, rfl⟩, e, by simp [Except.map]⟩
        | ok u => exact .inr ⟨by simp, false, by simp [Except.map]⟩

/-- The loop visits the monitors up to the first interruption, if there is one. -/
theorem visitAll_cases {ms : List MonitorAction} (hnodup : ms.Nodup) (all : Bool)
    (s : State A ω) : ∃ pre post, ms = pre ++ post ∧
      (visitAll script r alertActions ms all s).2 = pre.foldl (visited script alertActions r) s ∧
      (post ≠ [] → ∃ init m, pre = init ++ [m] ∧ Interrupted script alertActions r s.marks m) ∧
      ∀ init m rest, pre = init ++ m :: rest →
        Interrupted script alertActions r s.marks m → rest = [] := by
  induction ms generalizing all s with
  | nil => exact ⟨[], [], rfl, rfl, by simp, by simp⟩
  | cons m ms ih =>
    obtain ⟨hm, hms⟩ := List.nodup_cons.mp hnodup
    have hstate : (visit script r s alertActions m).2 = visited script alertActions r s m := by
      rw [visit_eq]
    unfold visitAll
    cases hvisit : visit script r s alertActions m with
    | mk result s' =>
      obtain rfl : s' = visited script alertActions r s m := by rw [← hstate, hvisit]
      rcases interrupted_or_returns script alertActions r m s with ⟨hint, e, he⟩ | ⟨hint, passed, he⟩
      · obtain rfl : result = .error e := by rw [← he, hvisit]
        refine ⟨[m], ms, rfl, rfl, fun _ => ⟨[], m, rfl, hint⟩, ?_⟩
        intro init x rest hpre _
        cases init with
        | nil => exact (List.cons.inj hpre).2.symm
        | cons y init => simp at hpre
      · obtain rfl : result = .ok passed := by rw [← he, hvisit]
        obtain ⟨pre, post, hsplit, hfold, hpost, hlast⟩ :=
          ih hms (if passed then all else false) (visited script alertActions r s m)
        have hmarks {x : MonitorAction} (hx : x ∈ ms) :
            Interrupted script alertActions r (visited script alertActions r s m).marks x ↔
              Interrupted script alertActions r s.marks x := by
          unfold Interrupted
          rw [visited_marks_other (ne_of_mem_of_not_mem hx hm)]
        refine ⟨m :: pre, post, by rw [hsplit, List.cons_append], hfold, ?_, ?_⟩
        · intro hne
          obtain ⟨init, x, rfl, hx⟩ := hpost hne
          exact ⟨m :: init, x, rfl, (hmarks (by simp [hsplit])).mp hx⟩
        · intro init x rest hpre hx
          cases init with
          | nil =>
            rw [List.nil_append] at hpre
            obtain ⟨rfl, -⟩ := List.cons.inj hpre
            exact absurd hx hint
          | cons y init =>
            obtain ⟨-, hpre⟩ := List.cons.inj hpre
            exact hlast init x rest hpre ((hmarks (by simp [hsplit, hpre])).mpr hx)

theorem stopAll_calls (as : List A) (s : State A ω) : ∃ stops : List (Call A),
    (∀ c ∈ stops, ∃ a, c = .stop a) ∧ (stopAll script r as s).2.calls = s.calls ++ stops ∧
    (stopAll script r as s).2.checks = s.checks ∧ (stopAll script r as s).2.marks = s.marks := by
  induction as generalizing s with
  | nil => exact ⟨[], by simp, by simp [stopAll], rfl, rfl⟩
  | cons a as ih =>
    simp only [stopAll]
    cases (script.isRunning r a s.alerts).1 with
    | false => exact ih _
    | true =>
      simp only [↓reduceIte]
      cases (script.stopped r a (script.isRunning r a s.alerts).2).1 with
      | error e => exact ⟨[.stop a], by simp, rfl, rfl, rfl⟩
      | ok u =>
        obtain ⟨stops, hstops, hcalls, hchecks, hmarks⟩ := ih { s with
          alerts := (script.stopped r a (script.isRunning r a s.alerts).2).2
          calls := s.calls ++ [.stop a] }
        refine ⟨.stop a :: stops, ?_, by simpa using hcalls, hchecks, hmarks⟩
        simpa using hstops

/-- Everything one round can do: the monitors `pre` are checked and marked as they are found,
and the alerts of those that start to fail are started, up to an interruption. -/
theorem round_cases {ms : List MonitorAction} (hnodup : ms.Nodup) (s : State A ω) :
    ∃ pre post stops, ms = pre ++ post ∧ (∀ c ∈ stops, ∃ a, c = Call.stop a) ∧
      (round script r s alertActions ms).checks = s.checks ++ pre ∧
      (round script r s alertActions ms).calls =
        s.calls ++ startsFrom script alertActions r s.marks pre ++ stops ∧
      (∀ m, (round script r s alertActions ms).marks m =
        if m ∈ pre then marking script r s.marks m else s.marks m) ∧
      (post ≠ [] → ∃ init m, pre = init ++ [m] ∧ Interrupted script alertActions r s.marks m) ∧
      ∀ init m rest, pre = init ++ m :: rest →
        Interrupted script alertActions r s.marks m → rest = [] := by
  obtain ⟨pre, post, hsplit, hfold, hpost, hlast⟩ :=
    visitAll_cases script alertActions r hnodup true s
  have hpre : pre.Nodup := by
    rw [hsplit] at hnodup
    exact (List.nodup_append.mp hnodup).1
  obtain ⟨hcalls, -, hchecks, hmarks⟩ := foldl_visited script alertActions r hpre s
  rw [← hfold] at hcalls hchecks hmarks
  rw [round_eq]
  cases hv : visitAll script r alertActions ms true s with
  | mk result t =>
    rw [hv] at hcalls hchecks hmarks
    cases result with
    | error e =>
      exact ⟨pre, post, [], hsplit, by simp, hchecks, by simpa using hcalls, hmarks, hpost, hlast⟩
    | ok all =>
      cases all with
      | false =>
        exact ⟨pre, post, [], hsplit, by simp, hchecks, by simpa using hcalls, hmarks, hpost, hlast⟩
      | true =>
        obtain ⟨stops, hstops, hcalls', hchecks', hmarks'⟩ := stopAll_calls script r alertActions t
        refine ⟨pre, post, stops, hsplit, hstops, hchecks'.trans hchecks, hcalls'.trans ?_, ?_,
          hpost, hlast⟩
        · exact congrArg (· ++ stops) hcalls
        · exact fun m => (congrFun hmarks' m).trans (hmarks m)

end SomethingsWrong.Rounds
