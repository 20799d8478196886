import SomethingsWrong.Detector.EdgeTriggered

/-! Tolerated network errors. A monitor that answers with one is taken for passing,
whatever it answered before. -/
namespace SomethingsWrong.Rounds
open Detector

variable {A ω : Type} (script : Script A ω)

/-- The same surroundings with other answers of the monitors. -/
def Script.withOutcome (outcome : Nat → MonitorAction → Except Exn Bool) : Script A ω :=
  { script with outcome := outcome }

/-- Each tolerated network error replaced by a good status. -/
def takenForPassing (r : Nat) (m : MonitorAction) : Except Exn Bool :=
  if tolerated script r m then .ok true else script.outcome r m

/-- The most recent answer before round `r` that is no tolerated network error; a good
status if there is none yet. -/
def lastOther (m : MonitorAction) : Nat → Except Exn Bool
  | 0 => .ok true
  | r + 1 => if tolerated script r m then lastOther m r else script.outcome r m

/-- Each tolerated network error replaced by the monitor's most recent other outcome. -/
def recalled (r : Nat) (m : MonitorAction) : Except Exn Bool :=
  if tolerated script r m then lastOther script m r else script.outcome r m

variable {script} {alertActions : List A} {monitorActions : List MonitorAction}

theorem verdict_takenForPassing (r : Nat) (m : MonitorAction) :
    verdict (script.withOutcome (takenForPassing script)) r m = verdict script r m := by
  cases ht : tolerated script r m with
  | false => simp [verdict, Script.withOutcome, takenForPassing, ht]
  | true =>
    have hpass : verdict script r m = .ok true := by
      unfold tolerated at ht
      unfold verdict
      cases ho : script.outcome r m with
      | ok b => simp [ho] at ht
      | error e =>
        cases e with
        | webException e =>
          simp only [ho, Bool.not_eq_eq_eq_not, Bool.not_true] at ht
          simp [ht]
        | exception e => simp [ho] at ht
    rw [hpass]
    simp [verdict, Script.withOutcome, takenForPassing, ht]

theorem invoked_withOutcome (outcome : Nat → MonitorAction → Except Exn Bool) (r : Nat)
    (m : MonitorAction) (j : Nat) (as : List A) :
    invoked (script.withOutcome outcome) r m j as = invoked script r m j as := by
  induction as generalizing j with
  | nil => rfl
  | cons a as ih => simp only [invoked, Script.withOutcome] at ih ⊢; simp only [ih]

theorem stopAll_withOutcome (outcome : Nat → MonitorAction → Except Exn Bool) (r : Nat)
    (as : List A) (s : State A ω) :
    stopAll (script.withOutcome outcome) r as s = stopAll script r as s := by
  induction as generalizing s with
  | nil => rfl
  | cons a as ih => simp only [stopAll, Script.withOutcome] at ih ⊢; simp only [ih]

/-- The outcomes matter only through the verdicts on them. -/
theorem after_withOutcome {outcome : Nat → MonitorAction → Except Exn Bool}
    (h : ∀ r m, verdict (script.withOutcome outcome) r m = verdict script r m) (s : State A ω)
    (n : Nat) : after (script.withOutcome outcome) s alertActions monitorActions n =
      after script s alertActions monitorActions n := by
  have hvisit (r : Nat) (s : State A ω) (m : MonitorAction) :
      visit (script.withOutcome outcome) r s alertActions m = visit script r s alertActions m := by
    unfold visit
    rw [h, invoked_withOutcome]
    rfl
  have hall (r : Nat) (ms : List MonitorAction) (all : Bool) (s : State A ω) :
      visitAll (script.withOutcome outcome) r alertActions ms all s =
        visitAll script r alertActions ms all s := by
    induction ms generalizing all s with
    | nil => rfl
    | cons m ms ih => simp only [visitAll, hvisit, ih]
  induction n with
  | zero => rfl
  | succ n ih =>
    simp only [after, round_eq, ih, hall, stopAll_withOutcome]

/-- A tolerated network error acts as a good status. It acts as the monitor's most recent
other outcome as long as that is a good status too. -/
theorem tolerated_error_passes (s : State A ω) (n : Nat) :
    (after (script.withOutcome (takenForPassing script)) s alertActions monitorActions n).calls =
      (after script s alertActions monitorActions n).calls ∧
    ((∀ r m, tolerated script r m = true → lastOther script m r = .ok true) →
      (after (script.withOutcome (recalled script)) s alertActions monitorActions n).calls =
        (after script s alertActions monitorActions n).calls) := by
  have hpass : after (script.withOutcome (takenForPassing script)) s alertActions monitorActions n =
      after script s alertActions monitorActions n := after_withOutcome verdict_takenForPassing s n
  refine ⟨congrArg State.calls hpass, fun hlast => ?_⟩
  have hsame : recalled script = takenForPassing script := by
    funext r m
    cases ht : tolerated script r m with
    | false => simp [recalled, takenForPassing, ht]
    | true => simp [recalled, takenForPassing, ht, hlast r m ht]
  rw [hsame, hpass]

/-- A failing build, then an outage, then the same failure. -/
def outage (r : Nat) (_ : MonitorAction) : Except Exn Bool :=
  if r = 1 then .error (.webException "unreachable") else .ok false

/-- The outage stops the running alarm and lets the old failure raise a second one. -/
theorem outage_ends_episode : ¬ ∀ (script : Script Unit Bool) (s : State Unit Bool)
    (alertActions : List Unit) (monitorActions : List MonitorAction) (n : Nat),
    monitorActions.Nodup → Steady script →
    (after script s alertActions monitorActions n).calls =
      (after (script.withOutcome (recalled script)) s alertActions monitorActions n).calls := by
  intro halways
  have hcalls := halways (plainScript outage) idle [()] [monitor 0] 3 (by decide)
    (steady_plainScript outage)
  exact absurd hcalls (by decide)

/-- An outage of a monitor that has not failed yet. -/
def earlyOutage : Script Unit Bool :=
  plainScript fun r _ => if r = 0 then .error (.webException "unreachable") else .ok false

theorem tolerated_error_passes_earlyOutage :
    (after (earlyOutage.withOutcome (recalled earlyOutage)) idle [()] [monitor 0] 2).calls =
      [.start () (monitor 0)] := by
  refine ((tolerated_error_passes idle 2).2 fun r m ht => ?_).trans (by decide)
  cases r with
  | zero => rfl
  | succ r => simp [tolerated, earlyOutage, plainScript] at ht

end SomethingsWrong.Rounds
