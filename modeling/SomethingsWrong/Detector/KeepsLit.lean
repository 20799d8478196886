import SomethingsWrong.Detector.LightRun

/-! How long a new alarm keeps the light on. `Start` of an idle light sets the timer to
the monitor's own duration; of a running one it changes nothing, so the light then stays
on only as long as the alarm that was already running. -/
namespace SomethingsWrong.System
open LabelledRun Program Interleaving Detector

variable {monitorActions : List MonitorAction} {alertActions : List AlertAction}
  {f : FileInfo} {m : MonitorAction}

/-- `Start(m)` of the light leads from `c₀` to `c₁`; from there to `c₂` the monitor `m`
never passes, and every process run so far succeeded. -/
structure Episode (monitorActions : List MonitorAction) (alertActions : List AlertAction)
    (f : FileInfo) (m : MonitorAction) (c₀ c₁ c₂ : Config world Exn) : Prop where
  before : ∃ now, Runs monitorActions alertActions (initial now) c₀
  call : ∃ k, c₀.prog = some (.call (.start (.flashLight f) m) k)
  start : ∃ x, step world (checkAllGuarded monitorActions alertActions) c₀ (.perform x) = some c₁
  after : Runs monitorActions alertActions c₁ c₂
  failing : ∀ es, c₂.state.history = c₁.state.history ++ es → ¬ Passed m es
  executed : ∀ i ∈ c₂.state.light.commands, i.result.succeeded = true

theorem passed_append {es es' : List Event} (h : Passed m es) : Passed m (es' ++ es) := by
  obtain ⟨e, he, hp⟩ := h
  exact ⟨e, List.mem_append_right _ he, hp⟩

theorem passed_extends {es es' : List Event} (h : Passed m es) : Passed m (es ++ es') := by
  obtain ⟨e, he, hp⟩ := h
  exact ⟨e, List.mem_append_left _ he, hp⟩

theorem Episode.step_eq {c₀ c₁ c₂ : Config world Exn}
    (h : Episode monitorActions alertActions f m c₀ c₁ c₂) :
    c₁.state.history = c₀.state.history ++ [.started (.flashLight f) m] ∧
    ∃ r, c₁.state.light = FlashLight.start f m r c₀.state.light := by
  obtain ⟨k, hk⟩ := h.call
  obtain ⟨x, hx⟩ := h.start
  simp only [step, hk, Option.some.injEq] at hx
  subst hx
  exact ⟨rfl, x.process, rfl⟩

/-- A round in which `Stop` is called later began before the `Start`, or after it. -/
def Around (c₀ c₁ : Config world Exn) (hist : List Event) (_ : State) : Prop :=
  hist <+: c₀.state.history ∨ c₁.state.history <+: hist

/-- What the run keeps from `c₁` on: as long as `m` fails and the stop time is ahead, the
alarm runs. -/
structure Keeps (monitorActions : List MonitorAction) (alertActions : List AlertAction)
    (m : MonitorAction) (stopTime : Int) (c₀ c₁ c : Config world Exn) : Prop where
  inRound : InRound monitorActions alertActions (Around c₀ c₁) c
  handoff : FlashLight.Handoff c.state.light
  longer : c₁.state.history <+: c.state.history
  held : (∀ es, c.state.history = c₁.state.history ++ es → ¬ Passed m es) →
    c.state.light.now < stopTime → FlashLight.Held stopTime c₁.state.light.commands c.state.light

/-- No `Stop` while `m` fails: its round would have seen the `Start`, or `m` pass. -/
theorem no_stop {c₀ c₁ c : Config world Exn} {hist : List Event} {alert : AlertAction}
    (hm : m ∈ monitorActions)
    (hstart : c₁.state.history = c₀.state.history ++ [.started (.flashLight f) m])
    (hlonger : c₁.state.history <+: c.state.history)
    (hfail : ∀ es, c.state.history = c₁.state.history ++ es → ¬ Passed m es)
    (haround : Around c₀ c₁ hist c.state)
    (hallowed : Allowed monitorActions alertActions hist c.state (.stop alert)) : False := by
  obtain ⟨-, es, hes, hno, hall⟩ := hallowed
  rcases haround with ⟨rest, hrest⟩ | ⟨rest, hrest⟩
  · obtain ⟨new, hnew⟩ := hlonger
    have heq : hist ++ es = hist ++ (rest ++ .started (.flashLight f) m :: new) := by
      rw [← hes, ← hnew, hstart, ← hrest]
      simp
    have hmem : .started (.flashLight f) m ∈ es := by
      rw [List.append_cancel_left heq]
      simp
    exact hno _ hmem trivial
  · exact hfail (rest ++ es) (by rw [hes, ← hrest, List.append_assoc]) (passed_append (hall m hm))

theorem Keeps.step {stopTime : Int} {c₀ c₁ c c' : Config world Exn} {l : Label world}
    (hnodup : monitorActions.Nodup) (hm : m ∈ monitorActions)
    (hstart : c₁.state.history = c₀.state.history ++ [.started (.flashLight f) m])
    (h : Keeps monitorActions alertActions m stopTime c₀ c₁ c)
    (hs : Interleaving.step world (checkAllGuarded monitorActions alertActions) c l = some c') :
    Keeps monitorActions alertActions m stopTime c₀ c₁ c' := by
  obtain ⟨hlight, hhistory⟩ := step_light hs
  have hinRound : InRound monitorActions alertActions (Around c₀ c₁) c' :=
    Sound.step stable_flagOwned (fun _ _ _ _ hj _ => hj) (fun _ _ _ _ hj _ => hj)
      (fun _ hown => ⟨c.state.history, .inr h.longer, inRound_begin hnodup _ hown⟩) h.inRound
      (by cases l <;> trivial) hs
  have hfailBefore (hfail : ∀ es, c'.state.history = c₁.state.history ++ es → ¬ Passed m es) :
      ∀ es, c.state.history = c₁.state.history ++ es → ¬ Passed m es := by
    obtain ⟨new, hnew⟩ := hhistory
    intro es hes hp
    exact hfail (es ++ new) (by rw [← hnew, hes, List.append_assoc]) (passed_extends hp)
  cases ha : lightAct c l with
  | none =>
    rw [ha] at hlight
    refine ⟨hinRound, hlight ▸ h.handoff, h.longer.trans hhistory, fun hfail hnow => ?_⟩
    rw [hlight] at hnow ⊢
    exact h.held (hfailBefore hfail) hnow
  | some a =>
    rw [ha] at hlight
    refine ⟨hinRound, FlashLight.handoff_step h.handoff hlight, h.longer.trans hhistory,
      fun hfail hnow => ?_⟩
    have hbefore := Int.lt_of_le_of_lt (FlashLight.step_grows hlight).1 hnow
    refine (h.held (hfailBefore hfail) hbefore).step h.handoff hlight (fun g r he => ?_) hnow
    subst he
    obtain ⟨hist, haround, hallowed⟩ := lightAct_allowed h.inRound ha
    exact no_stop hm hstart h.longer (hfailBefore hfail) haround hallowed

theorem Episode.keeps {stopTime : Int} {c₀ c₁ c₂ : Config world Exn}
    (hnodup : monitorActions.Nodup) (hm : m ∈ monitorActions)
    (hone : ∀ g, .flashLight g ∈ alertActions → g = f)
    (h : Episode monitorActions alertActions f m c₀ c₁ c₂)
    (hheld : FlashLight.Held stopTime c₁.state.light.commands c₁.state.light) :
    Keeps monitorActions alertActions m stopTime c₀ c₁ c₂ := by
  obtain ⟨hstart, r, hlight⟩ := h.step_eq
  obtain ⟨now, hbefore⟩ := h.before
  obtain ⟨k, hk⟩ := h.call
  obtain ⟨x, hx⟩ := h.start
  refine h.after.invariant (I := Keeps monitorActions alertActions m stopTime c₀ c₁) ?_
    fun _ _ _ hc _ hs => hc.step hnodup hm hstart hs
  have hround : InRound monitorActions alertActions (Around c₀ c₁) c₀ := by
    have hin := hbefore.inRound hnodup
    unfold InRound Sound at hin ⊢
    rw [hk] at hin ⊢
    obtain ⟨hist, hj, hens⟩ := hin
    exact ⟨hist, .inl hj, hens⟩
  constructor
  · exact hround.step stable_flagOwned (fun _ _ _ _ hj _ => hj) (fun _ _ _ _ hj _ => hj)
      (fun hnone _ => by simp [hk] at hnone) (l := .perform x) trivial hx
  · rw [hlight]
    exact FlashLight.handoff_start f m r (hbefore.reachable hone hnodup).handoff
  · exact List.prefix_rfl
  · exact fun _ _ => hheld

/-- The stop time of the timer in charge after `Start(m)`: that of the alarm already
running, or the start plus the duration of `m`. -/
def stopTimeAfter (m : MonitorAction) (c₀ : Config world Exn) : Int :=
  (if c₀.state.light.isRunning then c₀.state.light.deadline else none).getD
    (c₀.state.light.now + timeSpan 0 0 m.lightAlarmDurationInSeconds)

theorem Episode.held {c₀ c₁ c₂ : Config world Exn} (hnodup : monitorActions.Nodup)
    (hone : ∀ g, .flashLight g ∈ alertActions → g = f)
    (h : Episode monitorActions alertActions f m c₀ c₁ c₂) :
    FlashLight.Held (stopTimeAfter m c₀) c₁.state.light.commands c₁.state.light := by
  obtain ⟨-, r, hlight⟩ := h.step_eq
  obtain ⟨now, hbefore⟩ := h.before
  refine ⟨by rw [hlight, FlashLight.start_sets], ?_, rfl⟩
  cases hrun : c₀.state.light.isRunning with
  | false => simp [hlight, FlashLight.start_deadline_idle f m r hrun, stopTimeAfter, hrun]
  | true =>
    obtain ⟨stopTime, hold⟩ := (hbefore.reachable hone hnodup).handoff.held hrun
    simp [hlight, FlashLight.start_deadline_running f m r hrun, hold.deadline, stopTimeAfter, hrun]

/-- An alarm of 20 s, and one of 300 s that starts to fail while the first one runs. -/
def link : MonitorAction := ⟨0, "link", 20, [], false⟩

def nightly : MonitorAction := ⟨1, "nightly", 300, [], false⟩

def bothFail : Config world Exn → Label world → Option (Config world Exn) :=
  step world (checkAllGuarded [link, nightly] [.flashLight FlashLight.controllerFile])

def reached (c : Config world Exn) (ls : List (Label world)) : Config world Exn :=
  (run bothFail c ls).getD c

end SomethingsWrong.System
