import SomethingsWrong.Base.Erasure
import SomethingsWrong.Detector.Round

/-! Rounds in calm surroundings, where no alert throws and every `Exec` succeeds. Over the
same monitors, outcomes and times, the lights cannot tell whether there are sounds. -/
namespace SomethingsWrong.System
open LabelledRun Program Prog Interleaving Detector

/-- What the outside can tell of a run, apart from the alerts. -/
inductive Outcome where
  | round
  | checked (action : MonitorAction) (r : Except Exn Bool)
  | described (action : MonitorAction) (r : Except Exn String)
  deriving DecidableEq

def AlertAction.isLight : AlertAction → Bool
  | flashLight _ => true
  | _ => false

/-- No alert throws and every `Exec` succeeds; what is seen are the rounds, the answers of
the monitors, and the times of both. -/
def calmly : View world (Int × Outcome) where
  allowed s op x := match op with
    | .start (.flashLight _) _ => x.process.succeeded
    | .stop (.flashLight _) => x.process.succeeded
    | .start alert action => (handle s (.start alert action) x).1.isOk
    | .stop alert => (handle s (.stop alert) x).1.isOk
    | _ => true
  allowedEnv b := match b with
    | .expire _ r => r.succeeded
    | _ => true
  begins s := [(s.light.now, .round)]
  sees s op r := match op, r with
    | .getStatus action, r => [(s.light.now, .checked action r)]
    | .getActionDetails action, r => [(s.light.now, .described action r)]
    | _, _ => []

/-- The rounds of `CheckAll` over these lists, with calm surroundings. -/
def calmStep (monitorActions : List MonitorAction) (alertActions : List AlertAction) :
    Config world Exn → Label world → Option (Config world Exn) :=
  calmly.step (checkAllGuarded monitorActions alertActions)

/-- Some calm run from the start shows `t`, and leaves the lights as `light` says. -/
def Shows (monitorActions : List MonitorAction) (alertActions : List AlertAction) (now : Int)
    (t : List (Int × Outcome)) (light : FlashLight.State) : Prop :=
  ∃ ls c, run (calmStep monitorActions alertActions) (initial now) ls = some c ∧
    trace (calmStep monitorActions alertActions) calmly.observe (initial now) ls = t ∧
    c.state.light = light

def commandsThrough (f : FileInfo) (s : FlashLight.State) : List FlashLight.Command :=
  (s.commands.filter (·.light = f)).map (·.command)

/-- In some calm run that shows `t`, the commands `cs` are sent through the controller `f`. -/
def Produces (monitorActions : List MonitorAction) (alertActions : List AlertAction) (now : Int)
    (t : List (Int × Outcome)) (f : FileInfo) (cs : List FlashLight.Command) : Prop :=
  ∃ light, Shows monitorActions alertActions now t light ∧ commandsThrough f light = cs

section Erasure

/-- An alert that is no light is called. -/
def CallsOther : Op AlertAction → Prop
  | .start alert _ => alert.isLight = false
  | .isRunning alert => alert.isLight = false
  | .stop alert => alert.isLight = false
  | _ => False

/-- A call of an alert does not throw. -/
def Returns : (op : Op AlertAction) → op.Answer → Prop
  | .start _ _, r => r = .ok ()
  | .stop _, r => r = .ok ()
  | _, _ => True

/-- The operation is no call of a light. -/
def SparesLights : Op AlertAction → Prop
  | .start alert _ => alert.isLight = false
  | .stop alert => alert.isLight = false
  | _ => True

/-- The same marks, and the same lights. -/
def SameLights (s t : State) : Prop := s.marks = t.marks ∧ s.light = t.light

theorem isOk_eq_true {r : Except Exn Unit} (h : r.isOk = true) : r = .ok () := by
  cases r with
  | ok a => rfl
  | error e => cases h

/-- A call that spares the lights leaves them alone, and returns if the surroundings are calm. -/
theorem handle_spares {s : State} {op : Op AlertAction} {x : Choice} (hop : SparesLights op)
    (hallow : calmly.allowed s op x = true) :
    Returns op (handle s op x).1 ∧ (handle s op x).2.light = s.light := by
  cases op with
  | start alert action =>
    cases alert with
    | flashLight f => cases hop
    | sound => exact ⟨isOk_eq_true hallow, rfl⟩
    | other ref => exact ⟨isOk_eq_true hallow, rfl⟩
  | stop alert =>
    cases alert with
    | flashLight f => cases hop
    | sound => exact ⟨rfl, rfl⟩
    | other ref => exact ⟨isOk_eq_true hallow, rfl⟩
  | _ => exact ⟨trivial, rfl⟩

/-- Neither the lights nor the rest of the round notice a sound. -/
theorem calmly_ignores : calmly.Ignores CallsOther Returns SameLights where
  answer op x hR := by
    cases op with
    | start alert action => cases alert <;> rfl
    | stop alert => cases alert <;> rfl
    | markedAsFailing action => exact congrFun hR.1 action
    | isRunning alert => exact congrArg FlashLight.State.isRunning hR.2
    | _ => rfl
  kept op x hR := by
    obtain ⟨hmarks, hlight⟩ := hR
    cases op with
    | start alert action => cases alert <;> exact ⟨hmarks, by simp [handle, record, hlight]⟩
    | stop alert => cases alert <;> exact ⟨hmarks, by simp [handle, record, hlight]⟩
    | setMarkedAsFailing action value => exact ⟨by simp [handle, hmarks], hlight⟩
    | _ => exact ⟨hmarks, hlight⟩
  allowed op x hR := by
    cases op with
    | start alert action => cases alert <;> rfl
    | stop alert => cases alert <;> rfl
    | _ => rfl
  begins hR := by simp only [calmly, hR.2]
  sees op r hR := by
    cases op with
    | getStatus action => simp only [calmly, hR.2]
    | getActionDetails action => simp only [calmly, hR.2]
    | _ => rfl
  skipped x hop hallow hR := by
    rename_i s t op
    have hspares : SparesLights op := by
      cases op with
      | start alert action => exact hop
      | stop alert => exact hop
      | _ => trivial
    obtain ⟨hreturns, hlight⟩ := handle_spares hspares hallow
    have hunseen : calmly.sees s op (handle s op x).1 = [] ∧ (handle s op x).2.marks = s.marks := by
      cases op with
      | start alert action => cases alert <;> exact ⟨rfl, rfl⟩
      | isRunning alert => exact ⟨rfl, rfl⟩
      | stop alert => cases alert <;> exact ⟨rfl, rfl⟩
      | _ => cases hop
    exact ⟨hreturns, hunseen.1, hunseen.2.trans hR.1, hlight.trans hR.2⟩
  env b hR h := by
    obtain ⟨light, hlight, rfl⟩ := interfere_light h
    rw [hR.2] at hlight
    exact ⟨_, congrArg (Option.map _) hlight, hR.1, rfl⟩

variable (alertActions : List AlertAction) (m : MonitorAction)

section Calls
variable {alert : AlertAction} {α : Type} {q : DetectorM AlertAction α}

theorem start_erases (h : alert.isLight = false) {rest : Unit → DetectorM AlertAction α}
    (hrest : Erases CallsOther Returns (rest ()) q) :
    Erases CallsOther Returns (start alert m >>= rest) q := by
  change Erases CallsOther Returns (call (Op.start alert m) fun r => Prog.ofExcept r >>= rest) q
  apply Erases.skip (show CallsOther (.start alert m) from h)
  intro r hr
  rw [show r = .ok () from hr]
  exact hrest

theorem stop_erases (h : alert.isLight = false) {rest : Unit → DetectorM AlertAction α}
    (hrest : Erases CallsOther Returns (rest ()) q) :
    Erases CallsOther Returns (stop alert >>= rest) q := by
  change Erases CallsOther Returns (call (Op.stop alert) fun r => Prog.ofExcept r >>= rest) q
  apply Erases.skip (show CallsOther (.stop alert) from h)
  intro r hr
  rw [show r = .ok () from hr]
  exact hrest

theorem isRunning_erases (h : alert.isLight = false) {rest : Bool → DetectorM AlertAction α}
    (hrest : ∀ running, Erases CallsOther Returns (rest running) q) :
    Erases CallsOther Returns (isRunning alert >>= rest) q := by
  change Erases CallsOther Returns (call (Op.isRunning alert) rest) q
  apply Erases.skip (show CallsOther (.isRunning alert) from h)
  intro running _
  exact hrest running

end Calls

theorem startAlerts_erases : Erases CallsOther Returns (startAlerts alertActions m)
    (startAlerts (alertActions.filter AlertAction.isLight) m) := by
  apply Erases.bind
  · apply Erases.forIn
    · intro alert _ _ b
      exact Erases.refl _
    · intro alert _ hlight b
      exact start_erases m hlight (Erases.refl _)
  · intro _
    exact Erases.refl _

theorem stopRunningAlerts_erases : Erases CallsOther Returns (stopRunningAlerts alertActions)
    (stopRunningAlerts (alertActions.filter AlertAction.isLight)) := by
  apply Erases.bind
  · apply Erases.forIn
    · intro alert _ _ b
      exact Erases.refl _
    · intro alert _ hlight b
      apply isRunning_erases hlight
      intro running
      cases running with
      | false => exact Erases.refl _
      | true => exact stop_erases hlight (Erases.refl _)
  · intro _
    exact Erases.refl _

theorem performMonitorAction_erases : Erases CallsOther Returns
    (performMonitorAction alertActions m)
    (performMonitorAction (alertActions.filter AlertAction.isLight) m) := by
  apply Erases.bind (Erases.refl _)
  intro (passed, wrongnessMessage)
  cases passed with
  | true => exact Erases.refl _
  | false =>
    apply Erases.bind (Erases.refl _)
    intro marked
    cases marked with
    | true => exact Erases.refl _
    | false =>
      apply Erases.bind (Erases.refl _)
      intro _
      apply Erases.bind (Erases.refl _)
      intro _
      apply Erases.bind (Erases.refl _)
      intro _
      apply Erases.bind (startAlerts_erases alertActions m)
      intro _
      exact Erases.refl _

theorem checkAll_erases (monitorActions : List MonitorAction) : Erases CallsOther Returns
    (checkAll monitorActions alertActions)
    (checkAll monitorActions (alertActions.filter AlertAction.isLight)) := by
  apply Erases.bind
  · apply Erases.forIn_body
    intro action all
    apply Erases.bind (performMonitorAction_erases alertActions action)
    intro result
    exact Erases.refl _
  · intro all
    cases all with
    | false => exact Erases.refl _
    | true =>
      apply Erases.bind (Erases.refl _)
      intro _
      exact stopRunningAlerts_erases alertActions

theorem checkAllGuarded_erases (monitorActions : List MonitorAction) : Erases CallsOther Returns
    (checkAllGuarded monitorActions alertActions)
    (checkAllGuarded monitorActions (alertActions.filter AlertAction.isLight)) := by
  apply Erases.tryCatch (checkAll_erases alertActions monitorActions)
  intro ex
  exact Erases.refl _

/-- A run over the whole list is one over its lights. -/
theorem Shows.lights {monitorActions : List MonitorAction} {now : Int} {t : List (Int × Outcome)}
    {light : FlashLight.State} (h : Shows monitorActions alertActions now t light) :
    Shows monitorActions (alertActions.filter AlertAction.isLight) now t light := by
  obtain ⟨ls, c, hrun, rfl, rfl⟩ := h
  have hsimulates := calmly_ignores.simulates (checkAllGuarded_erases alertActions monitorActions)
  have hstart : Matches CallsOther Returns SameLights (initial now) (initial now) :=
    ⟨⟨rfl, rfl⟩, .none⟩
  obtain ⟨ks, d, hks, htrace, hmatch⟩ := hsimulates.run hstart hrun
  exact ⟨ks, d, hks, htrace, hmatch.1.2.symm⟩

end Erasure

end SomethingsWrong.System
