import SomethingsWrong.Base.Response
import SomethingsWrong.Detector.CalmRun
import SomethingsWrong.Detector.LightRun
import SomethingsWrong.Light.LampRecord

/-! Alerts beside each other in one list. They all share the flag `_isRunning`: sounds
never touch it, one light is on its own, two lights disturb each other. -/
namespace SomethingsWrong.System
open LabelledRun Program Prog Interleaving Detector Alternating

section FirstFailure
variable {f : FileInfo} {n : Nat}

def StartsLight (f : FileInfo) : Op AlertAction → Prop
  | .start alert _ => alert = .flashLight f
  | _ => False

def MarksFailing : Op AlertAction → Prop
  | .setMarkedAsFailing _ value => value = true
  | _ => False

/-- Some command after the first `n` switched the light `f` on. -/
def SwitchedOn (f : FileInfo) (n : Nat) (s : FlashLight.State) : Prop :=
  ∃ e ∈ s.commands.drop n, e.light = f ∧ e.command = .on

theorem SwitchedOn.mono {s s' : FlashLight.State} (h : SwitchedOn f n s)
    (hgrow : s.commands <+: s'.commands) : SwitchedOn f n s' := by
  obtain ⟨e, he, hon⟩ := h
  obtain ⟨new, hnew⟩ := hgrow
  refine ⟨e, ?_, hon⟩
  rw [← hnew, List.drop_append]
  exact List.mem_append_left _ he

theorem handle_commands (s : State) (op : Op AlertAction) (x : Choice) :
    s.light.commands <+: (handle s op x).2.light.commands := by
  cases op with
  | start alert action =>
    cases alert with
    | flashLight f => exact (FlashLight.step_grows (a := .start f action x.process) rfl).2
    | sound => exact List.prefix_rfl
    | other ref => exact List.prefix_rfl
  | stop alert =>
    cases alert with
    | flashLight f => exact (FlashLight.step_grows (a := .stop f x.process) rfl).2
    | sound => exact List.prefix_rfl
    | other ref => exact List.prefix_rfl
  | _ => exact List.prefix_rfl

/-- As long as the flag is clear, a call of `Start` switches on. -/
theorem calmly_secures : calmly.Secures SparesLights (StartsLight f) Returns
    (fun s => s.light.isRunning = false ∧ n ≤ s.light.commands.length)
    (fun s => SwitchedOn f n s.light) where
  passes x hop hallow hguard := by
    obtain ⟨hreturns, hlight⟩ := handle_spares hop hallow
    exact ⟨hreturns, by rw [hlight]; exact hguard⟩
  hits x hop hguard := by
    rename_i s op
    cases op with
    | start alert action =>
      obtain rfl : alert = .flashLight f := hop
      have hnew : (FlashLight.start f action x.process s.light).commands =
          s.light.commands ++ [⟨f, .on, none, s.light.now, x.process⟩] := by
        simp [FlashLight.start_idle hguard.1]
      refine ⟨⟨f, .on, none, s.light.now, x.process⟩, ?_, rfl, rfl⟩
      change _ ∈ (FlashLight.start f action x.process s.light).commands.drop n
      rw [hnew, List.drop_append_of_le_length hguard.2]
      exact List.mem_append_right _ (List.mem_singleton_self _)
    | _ => cases hop
  keeps op x hgoal := hgoal.mono (handle_commands _ op x)
  waits s b s' hguard h := by
    obtain ⟨light, hlight, rfl⟩ := interfere_light h
    obtain ⟨-, hgrow⟩ := FlashLight.step_grows (a := .background b) hlight
    exact ⟨FlashLight.background_isRunning hlight hguard.1, Nat.le_trans hguard.2 hgrow.length_le⟩
  lasts s b s' hgoal h := by
    obtain ⟨light, hlight, rfl⟩ := interfere_light h
    exact hgoal.mono (FlashLight.step_grows (a := .background b) hlight).2

section Round
variable (alertActions : List AlertAction) (m : MonitorAction)

/-- `p` starts the light `f` whenever it has marked a monitor as failing. -/
def StartsOnFailure (f : FileInfo) {α : Type} (p : DetectorM AlertAction α) : Prop :=
  Responds MarksFailing SparesLights (StartsLight f) Returns p

theorem getStatus_starts : StartsOnFailure f (getStatus m) :=
  Responds.bind (Responds.perform id) Responds.ofExcept

theorem getActionDetails_starts : StartsOnFailure f (getActionDetails m) :=
  Responds.bind (Responds.perform id) Responds.ofExcept

theorem log_starts (level : LogLevel) (text : String) : StartsOnFailure f (log level text) :=
  Responds.perform id

theorem markedAsFailing_starts : StartsOnFailure f (markedAsFailing m) := Responds.perform id

theorem start_starts (alert : AlertAction) : StartsOnFailure f (start alert m) :=
  Responds.bind (Responds.perform id) Responds.ofExcept

theorem stop_starts (alert : AlertAction) : StartsOnFailure f (stop alert) :=
  Responds.bind (Responds.perform id) Responds.ofExcept

theorem startAlerts_starts : StartsOnFailure f (startAlerts alertActions m) := by
  apply Responds.bind
  · apply Responds.forIn
    intro alert _ b
    exact Responds.bind (start_starts m alert) fun _ => trivial
  · intro _
    trivial

theorem stopRunningAlerts_starts : StartsOnFailure f (stopRunningAlerts alertActions) := by
  apply Responds.bind
  · apply Responds.forIn
    intro alert _ b
    apply Responds.bind (Responds.perform id)
    intro running
    cases running with
    | false => trivial
    | true => exact Responds.bind (stop_starts alert) fun _ => trivial
  · intro _
    trivial

theorem evaluate_starts : StartsOnFailure f (evaluate m) := by
  have hdetails (msg : String → String) :
      StartsOnFailure f (do let details ← getActionDetails m; pure (false, msg details)) :=
    Responds.bind (getActionDetails_starts m) fun _ => trivial
  apply Responds.tryCatch
  · apply Responds.bind (getStatus_starts m)
    intro result
    cases result with
    | false => exact hdetails _
    | true => trivial
  · intro ex
    cases ex with
    | webException message =>
      simp only
      split
      · exact Responds.bind (log_starts _ _) fun _ => trivial
      · exact hdetails _
    | exception message => exact hdetails _

/-- Nothing before the first light of the list touches the flag. -/
theorem startAlerts_heads (h : alertActions.find? AlertAction.isLight = some (.flashLight f)) :
    Heads SparesLights (StartsLight f) Returns (startAlerts alertActions m) := by
  apply Heads.bind
  induction alertActions with
  | nil => cases h
  | cons alert alertActions ih =>
    rw [List.forIn_cons]
    cases hlight : alert.isLight with
    | true =>
      rw [List.find?_cons_of_pos hlight] at h
      exact .now (Option.some.inj h)
    | false =>
      rw [List.find?_cons_of_neg (by simp [hlight])] at h
      apply Heads.later (show SparesLights (.start alert m) from hlight)
      intro r hr
      rw [show r = .ok () from hr]
      exact ih h

theorem performMonitorAction_starts
    (h : alertActions.find? AlertAction.isLight = some (.flashLight f)) :
    StartsOnFailure f (performMonitorAction alertActions m) := by
  have hcontinue : StartsOnFailure f (do
      log .info ((← getActionDetails m) ++ " continue failing")
      pure false : DetectorM AlertAction Bool) := by
    apply Responds.bind (getActionDetails_starts m)
    intro details
    exact Responds.bind (log_starts _ _) fun _ => trivial
  apply Responds.bind (evaluate_starts m)
  intro (passed, wrongnessMessage)
  cases passed with
  | false =>
    apply Responds.bind (markedAsFailing_starts m)
    intro marked
    cases marked with
    | false =>
      apply Responds.bind (log_starts _ _)
      intro _ _
      constructor
      · -- the mark is set; what follows is one line of log and the loop over the alerts
        intro _
        apply Heads.later trivial
        intro _ _
        exact (startAlerts_heads alertActions m h).bind _
      · apply Responds.bind (log_starts _ _)
        intro _
        exact Responds.bind (startAlerts_starts alertActions m) fun _ => hcontinue
    | true => exact hcontinue
  | true =>
    apply Responds.bind (markedAsFailing_starts m)
    intro marked
    cases marked with
    | false => trivial
    | true =>
      apply Responds.bind (log_starts _ _)
      intro _
      exact Responds.bind (Responds.perform (fun hop => by cases hop)) fun _ => trivial

theorem checkAllGuarded_starts (monitorActions : List MonitorAction)
    (h : alertActions.find? AlertAction.isLight = some (.flashLight f)) :
    StartsOnFailure f (checkAllGuarded monitorActions alertActions) := by
  apply Responds.tryCatch
  · apply Responds.bind
    · apply Responds.forIn
      intro action _ all
      apply Responds.bind (performMonitorAction_starts alertActions action h)
      intro result
      cases result <;> trivial
    · intro all
      cases all with
      | false => trivial
      | true => exact Responds.bind (log_starts _ _) fun _ => stopRunningAlerts_starts alertActions
  · intro ex
    exact log_starts _ _

end Round
end FirstFailure

variable {monitorActions : List MonitorAction} {alertActions : List AlertAction}

/-- Every first failure that finds the flag clear switches the light `f` on before the
round is over. -/
def SwitchesOn (monitorActions : List MonitorAction) (alertActions : List AlertAction)
    (f : FileInfo) : Prop :=
  ∀ (now : Int) (ls ks : List (Label world)) (c c' : Config world Exn) (m : MonitorAction)
    (k : Unit → DetectorM AlertAction Unit),
    run (calmStep monitorActions alertActions) (initial now) ls = some c →
    c.prog = some (.call (.setMarkedAsFailing m true) k) → c.state.light.isRunning = false →
    run (calmStep monitorActions alertActions) c ks = some c' → c'.prog = none →
    SwitchedOn f c.state.light.commands.length c'.state.light

/-- Each light of the list sends commands that it could also send as the only alert. -/
def Undisturbed (monitorActions : List MonitorAction) (alertActions : List AlertAction) : Prop :=
  ∀ (f : FileInfo), .flashLight f ∈ alertActions → ∀ now t cs,
    Produces monitorActions alertActions now t f cs →
    Produces monitorActions [.flashLight f] now t f cs

theorem switchesOn_first {f : FileInfo}
    (h : alertActions.find? AlertAction.isLight = some (.flashLight f)) :
    SwitchesOn monitorActions alertActions f := by
  intro now ls ks c c' m k hrun hcall hclear hrest hend
  have htrigger : ∀ op, MarksFailing op → SparesLights op := by
    intro op hop
    cases op with
    | setMarkedAsFailing action value => trivial
    | _ => cases hop
  exact calmly_secures.response (checkAllGuarded_starts alertActions monitorActions h) htrigger
    rfl hrun hcall rfl ⟨hclear, Nat.le_refl _⟩ hrest hend

theorem undisturbed_single (h : (alertActions.filter AlertAction.isLight).length ≤ 1) :
    Undisturbed monitorActions alertActions := by
  intro f hf now t cs hproduces
  have hmem : .flashLight f ∈ alertActions.filter AlertAction.isLight :=
    List.mem_filter.mpr ⟨hf, rfl⟩
  have hone : alertActions.filter AlertAction.isLight = [.flashLight f] := by
    have hlength : (alertActions.filter AlertAction.isLight).length = 1 :=
      Nat.le_antisymm h (List.length_pos_of_mem hmem)
    obtain ⟨alert, halert⟩ := List.length_eq_one_iff.mp hlength
    rw [halert, List.mem_singleton] at hmem
    rw [halert, hmem]
  obtain ⟨light, hshows, hcs⟩ := hproduces
  exact ⟨light, hone ▸ hshows.lights, hcs⟩

theorem Shows.runs {now : Int} {t : List (Int × Outcome)} {light : FlashLight.State}
    (h : Shows monitorActions alertActions now t light) :
    ∃ c, Runs monitorActions alertActions (initial now) c ∧ c.state.light = light := by
  obtain ⟨ls, c, hrun, -, hlight⟩ := h
  exact ⟨c, (leads_of_restrict hrun).mono fun l _ => admits_any l, hlight⟩

/-- The commands of all lights together switch on and off in turn. -/
theorem Shows.alternates {now : Int} {t : List (Int × Outcome)} {light : FlashLight.State}
    (h : Shows monitorActions alertActions now t light) : Alternates .on .off light.issued := by
  obtain ⟨c, hruns, rfl⟩ := h.runs
  exact hruns.handoff.alternates

theorem Produces.alternates {f : FileInfo} {now : Int} {t : List (Int × Outcome)}
    {cs : List FlashLight.Command} (hnodup : monitorActions.Nodup)
    (h : Produces monitorActions [.flashLight f] now t f cs) : Alternates .on .off cs := by
  obtain ⟨light, hshows, rfl⟩ := h
  obtain ⟨c, hruns, rfl⟩ := hshows.runs
  have hone : ∀ g, .flashLight g ∈ [AlertAction.flashLight f] → g = f := by simp
  have hall := (hruns.reachable hone hnodup).lampTrace.commandsOf
  have hthrough : commandsThrough f c.state.light = c.state.light.issued := by
    rw [commandsThrough, List.filter_eq_self.mpr fun e he => by simp [hall e he]]
    rfl
  rw [hthrough]
  exact hruns.handoff.alternates

/-- A light has no one to share the flag with but another light: sounds change nothing, a
single light acts as if it were alone, and the first light of the list answers every first
failure that finds the flag clear. All lights together still switch on and off in turn. -/
theorem sounds_do_not_disturb (monitorActions : List MonitorAction)
    (alertActions : List AlertAction) :
    (∀ now t light, Shows monitorActions alertActions now t light →
      Shows monitorActions (alertActions.filter AlertAction.isLight) now t light) ∧
    ((alertActions.filter AlertAction.isLight).length ≤ 1 →
      Undisturbed monitorActions alertActions) ∧
    (∀ f, alertActions.find? AlertAction.isLight = some (.flashLight f) →
      SwitchesOn monitorActions alertActions f) ∧
    (∀ now t light, Shows monitorActions alertActions now t light →
      Alternates .on .off light.issued) :=
  ⟨fun _ _ _ h => h.lights, undisturbed_single, fun _ h => switchesOn_first h,
    fun _ _ _ h => h.alternates⟩

def website : MonitorAction :=
  ⟨0, "website", 20, [⟨"siren.wav", "Sounds\\siren.wav"⟩], false⟩

def leftLight : FileInfo := ⟨"left.exe", "Lib\\left.exe"⟩
def rightLight : FileInfo := ⟨"right.exe", "Lib\\right.exe"⟩

/-- The website fails: up to the mark that it gets. -/
def fails : List (Label world) :=
  [.begin, .perform { status := .ok false }, .perform {}, .perform {}, .perform {}]

/-- Both alerts are started, and the round goes on to its end. -/
def bothStart : List (Label world) :=
  [.perform {}, .perform {}, .perform {}, .perform {}, .perform {}, .perform {}, .finish]

/-- The timer of the first light expires after 20 s. -/
def expires : List (Label world) :=
  [.env (.tick 200000000), .env (.test 0), .env (.expire 0 (.exited 0))]

theorem sounds_do_not_disturb_website : ∃ t,
    Produces [website] [.sound, .flashLight leftLight] 0 t leftLight [.on, .off] ∧
    Produces [website] [.flashLight leftLight] 0 t leftLight [.on, .off] ∧
    SwitchesOn [website] [.sound, .flashLight leftLight] leftLight := by
  have hend : (run (calmStep [website] [.sound, .flashLight leftLight]) (initial 0)
      (fails ++ bothStart ++ expires)).map (fun c => commandsThrough leftLight c.state.light) =
        some [.on, .off] := rfl
  obtain ⟨c, hc, hcs⟩ := Option.map_eq_some_iff.mp hend
  have hproduces : Produces [website] [.sound, .flashLight leftLight] 0 _ leftLight [.on, .off] :=
    ⟨c.state.light, ⟨_, c, hc, rfl, rfl⟩, hcs⟩
  obtain ⟨-, halone, hfirst, -⟩ :=
    sounds_do_not_disturb [website] [.sound, .flashLight leftLight]
  exact ⟨_, hproduces, halone (by decide) leftLight (by simp) _ _ _ hproduces, hfirst leftLight rfl⟩

/-- Two lights, one after the other: the first is started and expires before the second is
started, and when the website is up again the first is stopped for the second. -/
def expiresBetween : List (Label world) :=
  fails ++ [.perform {}, .perform {}, .perform {}] ++ expires ++
    [.perform {}, .perform {}, .perform {}, .finish, .begin, .perform {}, .perform {}, .perform {},
      .perform {}, .perform {}, .perform {}, .perform {}, .perform {}, .finish]

theorem off_twice : ∃ t,
    Produces [website] [.flashLight leftLight, .flashLight rightLight] 0 t leftLight
      [.on, .off, .off] := by
  have hend : (run (calmStep [website] [.flashLight leftLight, .flashLight rightLight]) (initial 0)
      expiresBetween).map (fun c => commandsThrough leftLight c.state.light) =
        some [.on, .off, .off] := rfl
  obtain ⟨c, hc, hcs⟩ := Option.map_eq_some_iff.mp hend
  exact ⟨_, c.state.light, ⟨_, c, hc, rfl, rfl⟩, hcs⟩

/-- The second `Start` of the round finds the flag set by the first. -/
theorem second_stays_dark :
    ¬ SwitchesOn [website] [.flashLight leftLight, .flashLight rightLight] rightLight := by
  intro hswitches
  have hmark : (run (calmStep [website] [.flashLight leftLight, .flashLight rightLight])
      (initial 0) fails).isSome := rfl
  have hround : (run (calmStep [website] [.flashLight leftLight, .flashLight rightLight])
      (Option.get _ hmark) bothStart).isSome := rfl
  obtain ⟨e, he, hlight, -⟩ := hswitches 0 fails bothStart (Option.get _ hmark)
    (Option.get _ hround) website _ (Option.some_get hmark).symm rfl rfl
    (Option.some_get hround).symm rfl
  have hcommands : (Option.get _ hround).state.light.commands =
      [⟨leftLight, .on, none, 0, .exited 0⟩] := rfl
  have hmem := List.mem_of_mem_drop he
  rw [hcommands, List.mem_singleton] at hmem
  rw [hmem] at hlight
  exact absurd hlight (by decide)

/-- With two lights of their own controllers, one can be switched off twice in a row, and
a first failure can leave the other one dark. -/
theorem two_lights_disturb :
    (¬ ∀ (monitorActions : List MonitorAction) (alertActions : List AlertAction),
      monitorActions.Nodup → (alertActions.filter AlertAction.isLight).Nodup →
      (∀ ref, .other ref ∉ alertActions) → Undisturbed monitorActions alertActions) ∧
    ¬ ∀ (monitorActions : List MonitorAction) (alertActions : List AlertAction) (f : FileInfo),
      monitorActions.Nodup → (alertActions.filter AlertAction.isLight).Nodup →
      (∀ ref, .other ref ∉ alertActions) → .flashLight f ∈ alertActions →
      SwitchesOn monitorActions alertActions f := by
  constructor
  · intro hclaim
    obtain ⟨t, hproduces⟩ := off_twice
    have halone := hclaim [website] [.flashLight leftLight, .flashLight rightLight] (by simp)
      (by decide) (by simp) leftLight (by simp) 0 t _ hproduces
    have hturn := halone.alternates (by simp)
    simp [Alternates] at hturn
  · intro hclaim
    exact second_stays_dark (hclaim _ _ rightLight (by simp) (by decide) (by simp) (by simp))

end SomethingsWrong.System
