import SomethingsWrong.Detector.Round
import SomethingsWrong.Light.HeldAlarm

/-! Runs of the whole program seen from the light: each step is a step of the light or
leaves it alone, so what holds of the light in every interleaving holds here too. -/
namespace SomethingsWrong.System
open LabelledRun Program Interleaving Detector

variable {monitorActions : List MonitorAction} {alertActions : List AlertAction}

/-- Some run of the whole program leads from `c` to `c'`, whatever the outside answers. -/
def Runs (monitorActions : List MonitorAction) (alertActions : List AlertAction)
    (c c' : Config world Exn) : Prop :=
  Leads (step world (checkAllGuarded monitorActions alertActions)) (Admits fun _ => True) c c'

/-- What the thread that runs the rounds can count on at any moment. -/
def InRound (monitorActions : List MonitorAction) (alertActions : List AlertAction)
    (J : List Event → State → Prop) (c : Config world Exn) : Prop :=
  Sound world (fun _ => True) (Allowed monitorActions alertActions) J (FlagOwned alertActions) c

theorem inRound_begin (hnodup : monitorActions.Nodup) (s : State) (hs : FlagOwned alertActions s) :
    Ensures world (fun _ => True) (Allowed monitorActions alertActions s.history)
      (checkAllGuarded monitorActions alertActions)
      (fun _ => FlagOwned alertActions) (fun _ _ => False) s :=
  (checkAllGuarded_spec hnodup s ⟨rfl, hs⟩).mono (fun _ _ ht => ht.1) fun _ _ ht => ht

/-- An operation only ever adds to the history. -/
theorem handle_history (s : State) (op : Op AlertAction) (x : Choice) :
    s.history <+: (handle s op x).2.history := by
  cases op with
  | getStatus action => exact List.prefix_append _ _
  | getActionDetails action => exact List.prefix_append _ _
  | markedAsFailing action => exact List.prefix_rfl
  | setMarkedAsFailing action value => exact List.prefix_rfl
  | start alert action => cases alert <;> exact List.prefix_append _ _
  | isRunning alert => exact List.prefix_rfl
  | stop alert => cases alert <;> exact List.prefix_append _ _
  | log line => exact List.prefix_rfl

theorem stable_history (h : List Event) : Stable world fun s => h <+: s.history :=
  stable_of fun _ _ hs _ => hs

theorem Runs.inRound (hnodup : monitorActions.Nodup) {now : Int} {c : Config world Exn}
    (h : Runs monitorActions alertActions (initial now) c) :
    InRound monitorActions alertActions (fun hist s => hist <+: s.history) c := by
  have hstart : InRound monitorActions alertActions (fun hist s => hist <+: s.history)
      (initial now) := fun _ => rfl
  exact hstart.leads stable_flagOwned stable_history
    (fun hist s op x hs _ => hs.trans (handle_history s op x))
    (fun s hs => ⟨s.history, List.prefix_rfl, inRound_begin hnodup s hs⟩) h

theorem admits_any (l : Label world) : Admits (fun _ => True) l := by
  cases l <;> trivial

/-- The act of the light in a step of the whole program. -/
def lightAct (c : Config world Exn) : Label world → Option FlashLight.Act
  | .perform x => match c.prog with
    | some (.call (.start (.flashLight f) m) _) => some (.start f m x.process)
    | some (.call (.stop (.flashLight f)) _) => some (.stop f x.process)
    | _ => none
  | .env b => some (.background b)
  | _ => none

/-- Every step of the whole program is that act of the light, or leaves the light alone;
and it only adds to the history. -/
theorem step_light {c c' : Config world Exn} {l : Label world} {round : DetectorM AlertAction Unit}
    (hs : step world round c l = some c') :
    (match lightAct c l with
      | some a => FlashLight.step c.state.light a = some c'.state.light
      | none => c'.state.light = c.state.light) ∧ c.state.history <+: c'.state.history := by
  obtain ⟨prog, s⟩ := c
  obtain ⟨rfl, rfl, rfl⟩ | ⟨x, op, k, rfl, rfl, rfl⟩ | ⟨rfl, rfl, rfl⟩ | ⟨b, s', rfl, hs', rfl⟩ :=
    step_cases hs
  · exact ⟨rfl, List.prefix_rfl⟩
  · refine ⟨?_, handle_history s op x⟩
    cases op with
    | start alert action => cases alert <;> rfl
    | stop alert => cases alert <;> rfl
    | _ => rfl
  · exact ⟨rfl, List.prefix_rfl⟩
  · obtain ⟨light, hl, rfl⟩ := interfere_light hs'
    exact ⟨hl, List.prefix_rfl⟩

/-- What the acts of the light preserve, the steps of the whole program preserve. -/
theorem light_kept {P : FlashLight.State → Prop} {c c' : Config world Exn} {l : Label world}
    {round : DetectorM AlertAction Unit} (hs : step world round c l = some c') (hc : P c.state.light)
    (hact : ∀ a light, lightAct c l = some a → FlashLight.step c.state.light a = some light →
      P light) : P c'.state.light := by
  have hstep := (step_light hs).1
  cases ha : lightAct c l with
  | none =>
    rw [ha] at hstep
    exact hstep ▸ hc
  | some a =>
    rw [ha] at hstep
    exact hact a _ ha hstep

/-- The next call of an alert is one that the round allows. -/
theorem lightAct_allowed {J : List Event → State → Prop} {c : Config world Exn} {l : Label world}
    {a : FlashLight.Act} (h : InRound monitorActions alertActions J c) (ha : lightAct c l = some a) :
    match a with
    | .start f _ _ => .flashLight f ∈ alertActions
    | .stop f _ => ∃ hist, J hist c.state ∧
        Allowed monitorActions alertActions hist c.state (.stop (.flashLight f))
    | .background _ => True := by
  cases l with
  | begin => cases ha
  | finish => cases ha
  | env b =>
    cases ha
    trivial
  | perform x =>
    simp only [lightAct] at ha
    split at ha
    · rename_i f m k hp
      cases ha
      obtain ⟨hist, -, hreq⟩ := Sound.next h hp
      exact hreq
    · rename_i f k hp
      cases ha
      obtain ⟨hist, hj, hreq⟩ := Sound.next h hp
      exact ⟨hist, hj, hreq⟩
    · cases ha

theorem lightAct_of {J : List Event → State → Prop} {c : Config world Exn} {l : Label world}
    {a : FlashLight.Act} {f : FileInfo} (hone : ∀ g, .flashLight g ∈ alertActions → g = f)
    (h : InRound monitorActions alertActions J c) (ha : lightAct c l = some a) :
    FlashLight.Act.Of f a := by
  have hallowed := lightAct_allowed h ha
  cases a with
  | start g m r => exact hone g hallowed
  | stop g r =>
    obtain ⟨-, -, hmem, -⟩ := hallowed
    exact hone g hmem
  | background b => trivial

/-- With one light in the list, its states in a run of the whole program are among the
reachable states of one `FlashLightAction`. -/
theorem Runs.reachable {f : FileInfo} (hone : ∀ g, .flashLight g ∈ alertActions → g = f)
    (hnodup : monitorActions.Nodup) {now : Int} {c : Config world Exn}
    (h : Runs monitorActions alertActions (initial now) c) :
    FlashLight.Reachable f c.state.light := by
  refine (h.invariant (I := fun c => Runs monitorActions alertActions (initial now) c ∧
    FlashLight.Reachable f c.state.light) ⟨Leads.refl _, now, Leads.refl _⟩ ?_).2
  intro c l c' hinv hl hs
  obtain ⟨hc, hlight⟩ := hinv
  refine ⟨hc.tail hl hs, light_kept hs hlight fun a light ha hstep => ?_⟩
  obtain ⟨t, hlight⟩ := hlight
  exact ⟨t, hlight.tail (lightAct_of hone (hc.inRound hnodup) ha) hstep⟩

/-- The hand-off between the timers does not depend on who starts and stops the light. -/
theorem Runs.handoff {now : Int} {c : Config world Exn}
    (h : Runs monitorActions alertActions (initial now) c) : FlashLight.Handoff c.state.light := by
  apply h.invariant (I := fun c => FlashLight.Handoff c.state.light)
  · exact FlashLight.handoff_initial now
  · intro c l c' hc _ hs
    exact light_kept hs hc fun _ _ _ hstep => FlashLight.handoff_step hc hstep

end SomethingsWrong.System
