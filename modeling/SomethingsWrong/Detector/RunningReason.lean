import SomethingsWrong.Detector.Round

/-! A running alarm has a reason: between two rounds the flag is set only while some
monitor of the list is marked as failing. -/
namespace SomethingsWrong.System
open LabelledRun Program Interleaving Detector

/-- `GetActionDetails` and `Stop` do not throw; everything else may happen. -/
def CalmChoice (x : Choice) : Prop := (∃ text, x.details = .ok text) ∧ x.stopResult = .ok ()

theorem calm_calmChoice : Calm CalmChoice := fun _ hx => hx

variable {monitorActions : List MonitorAction} {alertActions : List AlertAction}

/-- What holds whenever no `CheckAll` is in progress. -/
def HasReason (monitorActions : List MonitorAction) (alertActions : List AlertAction)
    (s : State) : Prop :=
  FlagOwned alertActions s ∧ (s.light.isRunning = true → Marked monitorActions s)

theorem stable_hasReason : Stable world (HasReason monitorActions alertActions) :=
  stable_of fun s light hs hlight => ⟨fun hno => hlight (hs.1 hno), fun hrun => hs.2 (by
    cases hr : s.light.isRunning with
    | true => rfl
    | false => simp [hlight hr] at hrun)⟩

theorem hasReason_initial (now : Int) :
    HasReason monitorActions alertActions (initial now).state :=
  ⟨fun _ => rfl, fun hrun => by simp [initial, FlashLight.State.initial] at hrun⟩

/-- From one pause between rounds to the next, whatever the round did. -/
theorem hasReason_round (hnodup : monitorActions.Nodup) (s : State)
    (hs : HasReason monitorActions alertActions s) :
    Ensures world CalmChoice (Allowed monitorActions alertActions s.history)
      (checkAllGuarded monitorActions alertActions)
      (fun _ => HasReason monitorActions alertActions) (fun _ _ => False) s :=
  (checkAllGuarded_spec hnodup s ⟨rfl, hs.1⟩).mono
    (fun _ _ ht => ⟨ht.1, ht.2 calm_calmChoice⟩) fun _ _ ht => ht

theorem running_has_reason (hnodup : monitorActions.Nodup) {now : Int} {c : Config world Exn}
    (h : Leads (step world (checkAllGuarded monitorActions alertActions)) (Admits CalmChoice)
      (initial now) c)
    (hidle : c.prog = none) (hrun : c.state.light.isRunning = true) :
    ∃ m ∈ monitorActions, c.state.marks m = true := by
  have hstart : Sound world CalmChoice (Allowed monitorActions alertActions) (fun _ _ => True)
      (HasReason monitorActions alertActions) (initial now : Config world Exn) :=
    hasReason_initial now
  have hsound := hstart.leads stable_hasReason (fun _ _ _ _ _ _ => trivial)
    (fun _ _ _ _ _ _ => trivial) (fun s hs => ⟨s.history, trivial, hasReason_round hnodup s hs⟩) h
  unfold Sound at hsound
  rw [hidle] at hsound
  exact hsound.2 hrun

def build : MonitorAction := ⟨0, "build", 300, [], false⟩

/-- The build fails; the light starts, then the sound throws for want of a file and the
rest of the round is lost. -/
def cutShort : List (Label world) :=
  [.begin, .perform { status := .ok false }, .perform {}, .perform {}, .perform {}, .perform {},
    .perform {}, .perform {}, .perform {}, .perform {}, .finish]

def cutShortEnd : Option (Config world Exn) :=
  run (step world (checkAllGuarded [build] [.flashLight FlashLight.controllerFile, .sound]))
    (initial 0) cutShort

theorem running_has_reason_cutShort : ∃ c, cutShortEnd = some c ∧ c.prog.isNone ∧
    c.state.light.isRunning = true ∧ ∃ m ∈ [build], c.state.marks m = true := by
  have hend : cutShortEnd.map (fun c => (c.prog.isNone, c.state.light.isRunning)) =
      some (true, true) := rfl
  obtain ⟨c, hc, heq⟩ := Option.map_eq_some_iff.mp hend
  obtain ⟨hidle, hrun⟩ := Prod.mk.inj heq
  have hcalm : ∀ l ∈ cutShort, Admits CalmChoice l := by simp [cutShort, Admits, CalmChoice]
  exact ⟨c, hc, hidle, hrun,
    running_has_reason (by simp) ⟨cutShort, hcalm, hc⟩ (Option.isNone_iff_eq_none.mp hidle) hrun⟩

end SomethingsWrong.System
