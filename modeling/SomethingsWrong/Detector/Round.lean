import SomethingsWrong.Detector.System

/-! What one round of `CheckAll` does among the other threads: one specification for
each function of the detector. The marks and the history belong to the detector thread,
the flag does not. -/
namespace SomethingsWrong.System
open Program Interleaving Detector

/-- The call that made `PerformMonitorAction` take `action` for passing: a good status,
or a `WebException` of a monitor that tolerates it. -/
def LetsPass (action : MonitorAction) : Event → Prop
  | .checked a r => a = action ∧ (r = .ok true ∨
      ∃ message, r = .error (.webException message) ∧ action.failAtNetworkException = false)
  | .described a r => a = action ∧
      ∃ message, r = .error (.webException message) ∧ action.failAtNetworkException = false
  | _ => False

def IsStart : Event → Prop
  | .started _ _ => True
  | _ => False

def NoStart (es : List Event) : Prop := ∀ e ∈ es, ¬ IsStart e

def Passed (action : MonitorAction) (es : List Event) : Prop := ∃ e ∈ es, LetsPass action e

/-- Neither `GetActionDetails` nor a `Stop` throws. -/
def Calm (adm : Choice → Prop) : Prop :=
  ∀ x, adm x → (∃ text, x.details = .ok text) ∧ x.stopResult = .ok ()

/-- Only alerts of the list are called, and `Stop` only in a round in which every monitor
passed and no alert was started; `h` is the history at the beginning of the round. -/
def Allowed (monitorActions : List MonitorAction) (alertActions : List AlertAction)
    (h : List Event) (s : State) : Op AlertAction → Prop
  | .start alert _ => alert ∈ alertActions
  | .stop alert => alert ∈ alertActions ∧
    ∃ es, s.history = h ++ es ∧ NoStart es ∧ ∀ m ∈ monitorActions, Passed m es
  | _ => True

/-- Without a light among the alerts nobody ever sets the flag. -/
def FlagOwned (alertActions : List AlertAction) (s : State) : Prop :=
  (∀ f, AlertAction.flashLight f ∉ alertActions) → s.light.isRunning = false

/-- The marks, what the round has added to the history, and who owns the flag. -/
def Seen (alertActions : List AlertAction) (marks : MonitorAction → Bool) (h : List Event)
    (F : List Event → Prop) (s : State) : Prop :=
  s.marks = marks ∧ (∃ es, s.history = h ++ es ∧ F es) ∧ FlagOwned alertActions s

def setMark (marks : MonitorAction → Bool) (action : MonitorAction) (value : Bool) :
    MonitorAction → Bool :=
  fun m => if m = action then value else marks m

theorem setMark_of_eq {marks : MonitorAction → Bool} {action : MonitorAction} {value : Bool}
    (h : marks action = value) : setMark marks action value = marks := by
  funext m
  by_cases hm : m = action
  · simp [setMark, hm, h]
  · simp [setMark, hm]

section Stability
variable {alertActions : List AlertAction}

theorem interfere_light {s s' : State} {b : FlashLight.Background}
    (h : world.interfere s b = some s') :
    ∃ light, FlashLight.background s.light b = some light ∧ s' = { s with light := light } := by
  obtain ⟨light, hl, rfl⟩ := Option.map_eq_some_iff.mp h
  exact ⟨light, hl, rfl⟩

/-- The environment leaves what the detector owns alone, and can only clear the flag. -/
theorem stable_of {P : State → Prop}
    (h : ∀ s light, P s → (s.light.isRunning = false → light.isRunning = false) →
      P { s with light := light }) : Stable world P := by
  intro s b s' hs hstep
  obtain ⟨light, hl, rfl⟩ := interfere_light hstep
  exact h s light hs (FlashLight.background_isRunning hl)

theorem stable_flagOwned : Stable world (FlagOwned alertActions) :=
  stable_of fun _ _ hs hlight hno => hlight (hs hno)

theorem stable_seen (marks : MonitorAction → Bool) (h : List Event) (F : List Event → Prop) :
    Stable world (Seen alertActions marks h F) :=
  stable_of fun _ _ hs hlight => ⟨hs.1, hs.2.1, fun hno => hlight (hs.2.2 hno)⟩

end Stability

/-- A triple inside a round that began with history `h`. -/
abbrev Spec {α : Type} (monitorActions : List MonitorAction) (alertActions : List AlertAction)
    (adm : Choice → Prop) (h : List Event) (P : State → Prop) (p : DetectorM AlertAction α)
    (Q : α → State → Prop) (E : Exn → State → Prop) : Prop :=
  Triple world adm (Allowed monitorActions alertActions h) P p Q E

section Operations
variable {monitorActions : List MonitorAction} {alertActions : List AlertAction}
  {adm : Choice → Prop} {marks : MonitorAction → Bool} {h₀ h : List Event} {F : List Event → Prop}

/-- The history has grown by `e` since `F` held of it. -/
def After (F : List Event → Prop) (e : Event) (es : List Event) : Prop :=
  ∃ es', F es' ∧ es = es' ++ [e]

theorem Seen.record {s : State} (hs : Seen alertActions marks h F s) (e : Event) :
    Seen alertActions marks h (After F e) (record e s) := by
  obtain ⟨hm, ⟨es, hh, hF⟩, hown⟩ := hs
  exact ⟨hm, ⟨es ++ [e], by simp [System.record, hh], es, hF, rfl⟩, hown⟩

theorem Seen.mono {s : State} {G : List Event → Prop} (hs : Seen alertActions marks h F s)
    (hG : ∀ es, F es → G es) : Seen alertActions marks h G s := by
  obtain ⟨hm, ⟨es, hh, hF⟩, hown⟩ := hs
  exact ⟨hm, ⟨es, hh, hG es hF⟩, hown⟩

theorem stable_and {p : Prop} {P : State → Prop} (hP : Stable world P) :
    Stable world fun s => p ∧ P s :=
  fun s e s' hs hstep => ⟨hs.1, hP s e s' hs.2 hstep⟩

theorem getStatus_spec (action : MonitorAction) :
    Spec monitorActions alertActions adm h₀ (Seen alertActions marks h F) (getStatus action)
      (fun b => Seen alertActions marks h (After F (.checked action (.ok b))))
      (fun ex => Seen alertActions marks h (After F (.checked action (.error ex)))) := by
  refine Triple.bind (fun r => Seen alertActions marks h (After F (.checked action r))) ?_ fun r => ?_
  · refine Triple.perform (stable_seen _ _ _) (fun _ => stable_seen _ _ _) fun s hs => ?_
    exact ⟨trivial, fun x _ => hs.record (.checked action x.status)⟩
  · refine Triple.ofExcept (fun b hr => ?_) (fun ex hr => ?_)
    · exact ⟨stable_seen _ _ _, fun _ hs => hr ▸ hs⟩
    · exact ⟨stable_seen _ _ _, fun _ hs => hr ▸ hs⟩

theorem getActionDetails_spec (action : MonitorAction) :
    Spec monitorActions alertActions adm h₀ (Seen alertActions marks h F) (getActionDetails action)
      (fun text => Seen alertActions marks h (After F (.described action (.ok text))))
      (fun ex s => ¬ Calm adm ∧
        Seen alertActions marks h (After F (.described action (.error ex))) s) := by
  refine Triple.bind (fun r s => (∀ ex, r = .error ex → ¬ Calm adm) ∧
    Seen alertActions marks h (After F (.described action r)) s) ?_ fun r => ?_
  · refine Triple.perform (stable_seen _ _ _) (fun r => stable_and (stable_seen _ _ _)) fun s hs => ?_
    refine ⟨trivial, fun x hx => ⟨fun ex hr hcalm => ?_, hs.record (.described action x.details)⟩⟩
    obtain ⟨text, htext⟩ := (hcalm x hx).1
    have hr' : x.details = .error ex := hr
    simp [htext] at hr'
  · refine Triple.ofExcept (fun text hr => ?_) (fun ex hr => ?_)
    · exact ⟨stable_seen _ _ _, fun _ hs => hr ▸ hs.2⟩
    · exact ⟨stable_and (stable_seen _ _ _), fun s hs => ⟨hs.1 ex hr, hr ▸ hs.2⟩⟩

theorem markedAsFailing_spec (action : MonitorAction) {E : Exn → State → Prop} :
    Spec monitorActions alertActions adm h₀ (Seen alertActions marks h F) (markedAsFailing action)
      (fun b s => b = marks action ∧ Seen alertActions marks h F s) E := by
  refine Triple.perform (stable_seen _ _ _) (fun b => stable_and (stable_seen _ _ _)) fun s hs => ?_
  exact ⟨trivial, fun x _ => ⟨congrFun hs.1 action, hs⟩⟩

theorem setMarkedAsFailing_spec (action : MonitorAction) (value : Bool) {E : Exn → State → Prop} :
    Spec monitorActions alertActions adm h₀ (Seen alertActions marks h F)
      (setMarkedAsFailing action value)
      (fun _ => Seen alertActions (setMark marks action value) h F) E := by
  refine Triple.perform (stable_seen _ _ _) (fun _ => stable_seen _ _ _) fun s hs => ?_
  obtain ⟨rfl, hh, hown⟩ := hs
  exact ⟨trivial, fun x _ => ⟨rfl, hh, hown⟩⟩

theorem log_spec (level : LogLevel) (text : String) {E : Exn → State → Prop} :
    Spec monitorActions alertActions adm h₀ (Seen alertActions marks h F) (log level text)
      (fun _ => Seen alertActions marks h F) E := by
  refine Triple.perform (stable_seen _ _ _) (fun _ => stable_seen _ _ _) fun s hs => ?_
  exact ⟨trivial, fun x _ => hs⟩

/-- `Start` may set the flag, but then a light is in the list. -/
theorem start_spec {alert : AlertAction} (halert : alert ∈ alertActions) (action : MonitorAction) :
    Spec monitorActions alertActions adm h₀ (Seen alertActions marks h F) (start alert action)
      (fun _ => Seen alertActions marks h fun _ => True)
      (fun _ => Seen alertActions marks h fun _ => True) := by
  refine Triple.bind (fun _ => Seen alertActions marks h fun _ => True) ?_ fun r => ?_
  · refine Triple.perform (stable_seen _ _ _) (fun _ => stable_seen _ _ _) fun s hs => ?_
    refine ⟨halert, fun x _ => ?_⟩
    have hrec := (hs.record (.started alert action)).mono (fun _ _ => trivial)
    cases alert with
    | flashLight f => exact ⟨hrec.1, hrec.2.1, fun hno => absurd halert (hno f)⟩
    | sound => exact hrec
    | other ref => exact hrec
  · exact Triple.ofExcept (fun _ _ => ⟨stable_seen _ _ _, fun _ hs => hs⟩)
      (fun _ _ => ⟨stable_seen _ _ _, fun _ hs => hs⟩)

theorem startAlerts_spec (monitorAction : MonitorAction) :
    Spec monitorActions alertActions adm h₀ (Seen alertActions marks h F)
      (startAlerts alertActions monitorAction)
      (fun _ => Seen alertActions marks h fun _ => True)
      (fun _ => Seen alertActions marks h fun _ => True) := by
  refine Triple.bind (fun _ => Seen alertActions marks h fun _ => True) ?_ fun _ => ?_
  · refine Triple.conseq (Triple.forIn alertActions _
      (fun _ _ => Seen alertActions marks h fun _ => True) PUnit.unit ?_ fun _ => stable_seen _ _ _)
      (fun s hs => hs.mono fun _ _ => trivial) (fun _ _ hs => hs) (fun _ _ hs => hs)
    intro done a rest b hl
    refine Triple.bind _ (start_spec (by simp [hl]) monitorAction) fun _ => ?_
    exact Triple.yield _ (fun _ => stable_seen _ _ _) fun s hs => hs
  · exact Triple.pure _ (stable_seen _ _ _) fun _ hs => hs

theorem After.noStart {e : Event} {es : List Event} (he : ¬ IsStart e)
    (h : After NoStart e es) : NoStart es := by
  obtain ⟨es', hes', rfl⟩ := h
  intro x hx
  cases List.mem_append.mp hx with
  | inl hx => exact hes' x hx
  | inr hx => exact List.mem_singleton.mp hx ▸ he

theorem After.passed {action : MonitorAction} {F : List Event → Prop} {e : Event}
    {es : List Event} (he : LetsPass action e) (h : After F e es) : Passed action es := by
  obtain ⟨es', -, rfl⟩ := h
  exact ⟨e, by simp, he⟩

theorem letsPass_checked {action : MonitorAction} {ex : Exn} {message : String}
    (hm : ex = .webException message) (ht : action.failAtNetworkException = false) :
    LetsPass action (.checked action (.error ex)) :=
  ⟨rfl, .inr ⟨message, congrArg _ hm, ht⟩⟩

theorem letsPass_described {action : MonitorAction} {ex : Exn} {message : String}
    (hm : ex = .webException message) (ht : action.failAtNetworkException = false) :
    LetsPass action (.described action (.error ex)) :=
  ⟨rfl, message, congrArg _ hm, ht⟩

theorem noStart_checked {action : MonitorAction} {r : Except Exn Bool} {es : List Event}
    (hes : After NoStart (.checked action r) es) : NoStart es :=
  hes.noStart (by simp [IsStart])

theorem noStart_described {action : MonitorAction} {q : Except Exn Bool} {r : Except Exn String}
    {es : List Event} (hes : After (After NoStart (.checked action q)) (.described action r) es) :
    NoStart es := by
  obtain ⟨es', hes', rfl⟩ := hes
  exact After.noStart (e := .described action r) (by simp [IsStart]) ⟨es', noStart_checked hes', rfl⟩

/-- The verdict is `passed` only after a call that lets the monitor pass; an exception
leaves the `try` statement only from `GetActionDetails`. -/
theorem evaluate_spec (action : MonitorAction) :
    Spec monitorActions alertActions adm h₀ (Seen alertActions marks h (· = [])) (evaluate action)
      (fun r => Seen alertActions marks h fun es => NoStart es ∧ (r.1 = true → Passed action es))
      (fun _ s => ¬ Calm adm ∧ FlagOwned alertActions s) := by
  have hfail (msg : String → String) :
      Spec monitorActions alertActions adm h₀ (Seen alertActions marks h NoStart)
        (do let details ← getActionDetails action; pure (false, msg details))
        (fun r : Bool × String => Seen alertActions marks h fun es =>
          NoStart es ∧ (r.1 = true → Passed action es))
        (fun _ s => ¬ Calm adm ∧ FlagOwned alertActions s) := by
    refine Triple.bind _ ((getActionDetails_spec action).raises
      fun _ _ hs => ⟨hs.1, hs.2.2.2⟩) fun details => ?_
    exact Triple.pure _ (stable_seen _ _ _) fun s hs => hs.mono fun es hes =>
      ⟨hes.noStart (by simp [IsStart]), by simp⟩
  refine Triple.tryCatch (fun ex => Seen alertActions marks h fun es => NoStart es ∧
    ∀ message, ex = .webException message → action.failAtNetworkException = false →
      Passed action es) ?_ fun ex => ?_
  · have hstart {r : Except Exn Bool} (es : List Event)
        (hes : After (· = []) (.checked action r) es) : After NoStart (.checked action r) es := by
      obtain ⟨es', rfl, rfl⟩ := hes
      exact ⟨[], by simp [NoStart], rfl⟩
    refine Triple.bind (fun b => Seen alertActions marks h
      (After NoStart (.checked action (.ok b)))) ?_ fun b => ?_
    · refine (getStatus_spec action).conseq (fun s hs => hs) (fun b s hs => hs.mono hstart)
        fun ex s hs => hs.mono fun es hes => ⟨noStart_checked (hstart es hes), ?_⟩
      exact fun message hm ht => hes.passed (letsPass_checked hm ht)
    · cases b with
      | false =>
        refine Triple.bind _ ((getActionDetails_spec action).raises
          fun ex s hs => hs.2.mono fun es hes => ?_) fun details => ?_
        · exact ⟨noStart_described hes, fun message hm ht => hes.passed (letsPass_described hm ht)⟩
        · exact Triple.pure _ (stable_seen _ _ _) fun s hs => hs.mono fun es hes =>
            ⟨noStart_described hes, by simp⟩
      | true =>
        have hgood : LetsPass action (.checked action (.ok true)) := ⟨rfl, .inl rfl⟩
        exact Triple.pure _ (stable_seen _ _ _) fun s hs => hs.mono fun es hes =>
          ⟨noStart_checked hes, fun _ => hes.passed hgood⟩
  · cases ex with
    | webException message =>
      by_cases ht : action.failAtNetworkException = false
      · simp only
        rw [if_pos (by simp [ht])]
        refine Triple.bind _ (log_spec _ _) fun _ => ?_
        exact Triple.pure _ (stable_seen _ _ _) fun s hs => hs.mono fun es hes =>
          ⟨hes.1, fun _ => hes.2 message rfl ht⟩
      · simp only
        rw [if_neg (by simpa using ht)]
        exact (hfail _).pre fun s hs => hs.mono fun _ hes => hes.1
    | exception message =>
      exact (hfail _).pre fun s hs => hs.mono fun _ hes => hes.1

/-- A monitor that passed is unmarked, and no alert was started for it; one that failed is
marked, also when the round is cut short by an alert that throws. -/
theorem performMonitorAction_spec (action : MonitorAction) :
    Spec monitorActions alertActions adm h₀ (Seen alertActions marks h (· = []))
      (performMonitorAction alertActions action)
      (fun b => Seen alertActions (setMark marks action !b) h fun es =>
        b = true → NoStart es ∧ Passed action es)
      (fun _ s => FlagOwned alertActions s ∧ (Calm adm → s.marks action = true)) := by
  have hcontinue (marks : MonitorAction → Bool) (hmark : marks action = true) :
      Spec monitorActions alertActions adm h₀ (Seen alertActions marks h fun _ => True)
        (do log .info ((← getActionDetails action) ++ " continue failing"); pure false)
        (fun b => Seen alertActions (setMark marks action !b) h fun es =>
          b = true → NoStart es ∧ Passed action es)
        (fun _ s => FlagOwned alertActions s ∧ (Calm adm → s.marks action = true)) := by
    refine Triple.bind _ ((getActionDetails_spec action).raises
      fun ex s hs => ⟨hs.2.2.2, fun hcalm => absurd hcalm hs.1⟩) fun details => ?_
    refine Triple.bind _ (log_spec _ _) fun _ => ?_
    refine Triple.pure _ (stable_seen _ _ _) fun s hs => ?_
    rw [Bool.not_false, setMark_of_eq hmark]
    exact hs.mono fun _ _ => by simp
  unfold performMonitorAction
  refine Triple.bind _ ((evaluate_spec action).raises
    fun ex s hs => ⟨hs.2, fun hcalm => absurd hcalm hs.1⟩) fun r => ?_
  obtain ⟨passed, wrongnessMessage⟩ := r
  cases passed with
  | false =>
    simp only [Bool.not_false, ↓reduceIte]
    refine Triple.bind _ (markedAsFailing_spec action) fun b => ?_
    cases b with
    | false =>
      simp only [Bool.not_false, ↓reduceIte]
      have hself : setMark marks action true action = true := by simp [setMark]
      have htwice : setMark (setMark marks action true) action true = setMark marks action true :=
        setMark_of_eq hself
      refine Triple.bind _ ((log_spec _ _).pre fun s hs => hs.2) fun _ => ?_
      refine Triple.bind _ (setMarkedAsFailing_spec action true) fun _ => ?_
      refine Triple.bind _ (log_spec _ _) fun _ => ?_
      refine Triple.bind _ ((startAlerts_spec action).raises
        fun ex s hs => ⟨hs.2.2, fun _ => by rw [hs.1]; exact hself⟩) fun _ => ?_
      refine (hcontinue _ hself).post fun b s hs => ?_
      cases b with
      | false => simpa [htwice] using hs
      | true =>
        have htrue : setMark (setMark marks action true) action false = setMark marks action false := by
          funext m
          by_cases hm : m = action <;> simp [setMark, hm]
        simpa [htrue] using hs
    | true =>
      simp only [Bool.not_true, Bool.false_eq_true, ↓reduceIte]
      intro s hs
      exact hcontinue marks hs.1.symm s (hs.2.mono fun _ _ => trivial)
  | true =>
    simp only [Bool.not_true, Bool.false_eq_true, ↓reduceIte]
    refine Triple.bind _ (markedAsFailing_spec action) fun b => ?_
    cases b with
    | false =>
      simp only [Bool.false_eq_true, ↓reduceIte]
      refine Triple.pure true (stable_seen _ _ _) fun s hs => ?_
      rw [Bool.not_true, setMark_of_eq hs.1.symm]
      exact hs.2.mono fun es hes _ => ⟨hes.1, hes.2 trivial⟩
    | true =>
      simp only [↓reduceIte]
      refine Triple.bind _ ((log_spec _ _).pre fun s hs => hs.2) fun _ => ?_
      refine Triple.bind _ (setMarkedAsFailing_spec action false) fun _ => ?_
      exact Triple.pure _ (stable_seen _ _ _) fun s hs => hs.mono fun es hes _ =>
        ⟨hes.1, hes.2 trivial⟩

/-- Every monitor passed and no alert was started. -/
def AllPassed (monitorActions : List MonitorAction) (es : List Event) : Prop :=
  NoStart es ∧ ∀ m ∈ monitorActions, Passed m es

theorem AllPassed.stopped {es : List Event} {alert : AlertAction}
    (h : After (AllPassed monitorActions) (.stopped alert) es) : AllPassed monitorActions es := by
  obtain ⟨es', ⟨hno, hall⟩, rfl⟩ := h
  refine ⟨After.noStart (e := .stopped alert) (by simp [IsStart]) ⟨es', hno, rfl⟩, fun m hm => ?_⟩
  obtain ⟨e, he, hpass⟩ := hall m hm
  exact ⟨e, List.mem_append_left _ he, hpass⟩

/-- As `Seen`; moreover the flag is clear in case `p`. -/
def SeenOff (alertActions : List AlertAction) (marks : MonitorAction → Bool) (h : List Event)
    (F : List Event → Prop) (p : Prop) (s : State) : Prop :=
  Seen alertActions marks h F s ∧ (p → s.light.isRunning = false)

theorem stable_seenOff (F : List Event → Prop) (p : Prop) :
    Stable world (SeenOff alertActions marks h F p) :=
  stable_of fun _ _ hs hlight =>
    ⟨⟨hs.1.1, hs.1.2.1, fun hno => hlight (hs.1.2.2 hno)⟩, fun hp => hlight (hs.2 hp)⟩

theorem SeenOff.imp {p q : Prop} {s : State} (hs : SeenOff alertActions marks h F p s)
    (hq : q → p) : SeenOff alertActions marks h F q s :=
  ⟨hs.1, fun hp => hs.2 (hq hp)⟩

theorem isRunning_spec (alert : AlertAction) (p : Prop) {E : Exn → State → Prop} :
    Spec monitorActions alertActions adm h₀ (SeenOff alertActions marks h F p) (isRunning alert)
      (fun b => SeenOff alertActions marks h F (p ∨ b = false)) E := by
  refine Triple.perform (stable_seenOff _ _) (fun b => stable_seenOff _ _) fun s hs => ?_
  exact ⟨trivial, fun x _ => ⟨hs.1, fun hp => hp.elim hs.2 id⟩⟩

theorem stop_spec {alert : AlertAction} (halert : alert ∈ alertActions) (p : Prop) :
    Spec monitorActions alertActions adm h (SeenOff alertActions marks h (AllPassed monitorActions) p)
      (stop alert)
      (fun _ => SeenOff alertActions marks h (AllPassed monitorActions)
        (p ∨ ∃ f, alert = .flashLight f))
      (fun _ s => ¬ Calm adm ∧ FlagOwned alertActions s) := by
  refine Triple.bind (fun r s => (∀ ex, r = .error ex → ¬ Calm adm) ∧
    SeenOff alertActions marks h (AllPassed monitorActions)
      (p ∨ ∃ f, alert = .flashLight f) s) ?_ fun r => ?_
  · refine Triple.perform (stable_seenOff _ _) (fun r => stable_and (stable_seenOff _ _)) fun s hs => ?_
    obtain ⟨hs, hp⟩ := hs
    refine ⟨?_, fun x hx => ?_⟩
    · obtain ⟨-, ⟨es, hh, hno, hall⟩, -⟩ := hs
      exact ⟨halert, es, hh, hno, hall⟩
    · have hrec := (hs.record (.stopped alert)).mono fun _ => AllPassed.stopped
      cases alert with
      | flashLight f =>
        have hoff := FlashLight.stop_isRunning f x.process s.light
        exact ⟨fun ex hr => by simp [handle] at hr, ⟨hrec.1, hrec.2.1, fun _ => hoff⟩, fun _ => hoff⟩
      | sound => exact ⟨fun ex hr => by simp [handle] at hr, hrec,
        fun hq => hq.elim hp fun ⟨_, hf⟩ => nomatch hf⟩
      | other ref =>
        refine ⟨fun ex hr hcalm => ?_, hrec, fun hq => hq.elim hp fun ⟨_, hf⟩ => nomatch hf⟩
        have hr' : x.stopResult = .error ex := hr
        simp [(hcalm x hx).2] at hr'
  · refine Triple.ofExcept (fun _ _ => ?_) (fun ex hr => ?_)
    · exact ⟨stable_seenOff _ _, fun _ hs => hs.2⟩
    · exact ⟨stable_and stable_flagOwned, fun s hs => ⟨hs.1 ex hr, hs.2.1.2.2⟩⟩

/-- However many alerts share the flag, it is clear after `StopRunningAlerts`. -/
theorem stopRunningAlerts_spec :
    Spec monitorActions alertActions adm h (Seen alertActions marks h (AllPassed monitorActions))
      (stopRunningAlerts alertActions)
      (fun _ s => s.light.isRunning = false)
      (fun _ s => ¬ Calm adm ∧ FlagOwned alertActions s) := by
  let lit (done : List AlertAction) : Prop := ∃ f, AlertAction.flashLight f ∈ done
  refine Triple.bind (fun _ => SeenOff alertActions marks h (AllPassed monitorActions)
    (lit alertActions)) ?_ fun _ => ?_
  · refine Triple.conseq (Triple.forIn alertActions _
      (fun done _ => SeenOff alertActions marks h (AllPassed monitorActions) (lit done)) PUnit.unit
      ?_ fun _ => stable_seenOff _ _) (fun s hs => ⟨hs, by simp [lit]⟩) (fun _ _ hs => hs)
      (fun _ _ hs => hs)
    intro done alert rest b hl
    have hyield (p : Prop) (himp : lit (done ++ [alert]) → p) :
        Spec monitorActions alertActions adm h
          (SeenOff alertActions marks h (AllPassed monitorActions) p)
          (pure (.yield PUnit.unit))
          (fun r s => ∃ b', r = ForInStep.yield b' ∧
            SeenOff alertActions marks h (AllPassed monitorActions) (lit (done ++ [alert])) s)
          (fun _ s => ¬ Calm adm ∧ FlagOwned alertActions s) := by
      exact Triple.yield _ (fun _ => stable_seenOff _ _) fun s hs => hs.imp himp
    refine Triple.bind _ (isRunning_spec alert (lit done)) fun running => ?_
    cases running with
    | false =>
      simp only [Bool.false_eq_true, ↓reduceIte]
      exact hyield _ fun _ => .inr trivial
    | true =>
      simp only [↓reduceIte]
      refine Triple.bind _ (stop_spec (by simp [hl]) _) fun _ => ?_
      refine hyield _ ?_
      intro hlit
      obtain ⟨f, hf⟩ := hlit
      cases List.mem_append.mp hf with
      | inl hf => exact .inl (.inl ⟨f, hf⟩)
      | inr hf => exact .inr ⟨f, (List.mem_singleton.mp hf).symm⟩
  · refine Triple.pure _ (stable_of fun s light hs hlight => hlight hs) fun s hs => ?_
    by_cases hf : lit alertActions
    · exact hs.2 hf
    · exact hs.1.2.2 fun f hmem => hf ⟨f, hmem⟩

/-- Some monitor of the list is marked. -/
def Marked (monitorActions : List MonitorAction) (s : State) : Prop :=
  ∃ m ∈ monitorActions, s.marks m = true

/-- What the loop of `CheckAll` knows after the monitors in `done`. -/
def Checked (alertActions : List AlertAction) (h : List Event) (done : List MonitorAction)
    (allActionsPassed : Bool) (s : State) : Prop :=
  ∃ marks, Seen alertActions marks h (fun es => allActionsPassed = true → AllPassed done es) s ∧
    (allActionsPassed = false → ∃ m ∈ done, marks m = true)

theorem stable_checked (done : List MonitorAction) (all : Bool) :
    Stable world (Checked alertActions h done all) := by
  intro s e s' hchecked hstep
  obtain ⟨marks, hs, hall⟩ := hchecked
  exact ⟨marks, stable_seen _ _ _ s e s' hs hstep, hall⟩

theorem setMark_other {marks : MonitorAction → Bool} {action m : MonitorAction} {value : Bool}
    (hm : m ≠ action) : setMark marks action value m = marks m := by
  simp [setMark, hm]

/-- One more monitor: its own mark is new, those of the monitors before it are as they were. -/
theorem Checked.next {done : List MonitorAction} {action : MonitorAction} {all b : Bool}
    {marks : MonitorAction → Bool} {es : List Event} (hnew : action ∉ done) {s : State}
    (hdone : all = true → AllPassed done es) (hmark : all = false → ∃ m ∈ done, marks m = true)
    (hs : Seen alertActions (setMark marks action !b) (h ++ es) (fun es' =>
      b = true → NoStart es' ∧ Passed action es') s) :
    Checked alertActions h (done ++ [action]) (if !b then false else all) s := by
  obtain ⟨hmarks, ⟨es', hh, hpass⟩, hown⟩ := hs
  refine ⟨_, ⟨hmarks, ⟨es ++ es', by rw [hh, List.append_assoc], fun hall => ?_⟩, hown⟩, fun hall => ?_⟩
  · cases b with
    | false => simp at hall
    | true =>
      obtain ⟨hno, hold⟩ := hdone (by simpa using hall)
      obtain ⟨hno', e, he, hlets⟩ := hpass rfl
      refine ⟨fun x hx => (List.mem_append.mp hx).elim (hno x) (hno' x), fun m hm => ?_⟩
      cases List.mem_append.mp hm with
      | inl hm =>
        obtain ⟨e, he, hlets⟩ := hold m hm
        exact ⟨e, List.mem_append_left _ he, hlets⟩
      | inr hm => exact ⟨e, List.mem_append_right _ he, List.mem_singleton.mp hm ▸ hlets⟩
  · cases b with
    | false => exact ⟨action, by simp, by simp [setMark]⟩
    | true =>
      obtain ⟨m, hm, hmarked⟩ := hmark (by simpa using hall)
      have hne : m ≠ action := fun heq => hnew (heq ▸ hm)
      refine ⟨m, List.mem_append_left _ hm, ?_⟩
      rw [setMark_other hne, hmarked]

/-- After a round the flag is clear, or some monitor is marked; and an exception leaves a
round only behind a marked monitor. -/
theorem checkAll_spec (hnodup : monitorActions.Nodup) :
    Spec monitorActions alertActions adm h (fun s => s.history = h ∧ FlagOwned alertActions s)
      (checkAll monitorActions alertActions)
      (fun _ s => FlagOwned alertActions s ∧
        (s.light.isRunning = true → Marked monitorActions s))
      (fun _ s => FlagOwned alertActions s ∧ (Calm adm → Marked monitorActions s)) := by
  have hweaken {action : MonitorAction} (hmem : action ∈ monitorActions) (s : State)
      (hs : FlagOwned alertActions s ∧ (Calm adm → s.marks action = true)) :
      FlagOwned alertActions s ∧ (Calm adm → Marked monitorActions s) :=
    ⟨hs.1, fun hcalm => ⟨action, hmem, hs.2 hcalm⟩⟩
  refine Triple.bind (fun all s => Checked alertActions h monitorActions all s) ?_ fun all => ?_
  · refine Triple.conseq (Triple.forIn monitorActions _ (Checked alertActions h) true ?_
      fun all => stable_checked _ all) (fun s hs => ?_) (fun _ _ hs => hs) fun _ _ hs => hs
    · intro done action rest all hl s hs
      obtain ⟨marks, ⟨hm, ⟨es, hh, hdone⟩, hown⟩, hmark⟩ := hs
      have hmem : action ∈ monitorActions := by simp [hl]
      have hnew : action ∉ done := by
        rw [hl] at hnodup
        exact fun hin => (List.nodup_append.mp hnodup).2.2 action hin action (by simp) rfl
      have hstart : Seen alertActions marks (h ++ es) (· = []) s := ⟨hm, ⟨[], by simp [hh], rfl⟩, hown⟩
      refine Triple.bind _ ((performMonitorAction_spec action).conseq (fun s hs => hs)
        (fun b s hs => Checked.next hnew hdone hmark hs) (fun _ s hs => hweaken hmem s hs))
        (fun b => ?_) s hstart
      have hyield (all : Bool) : Spec monitorActions alertActions adm h
          (Checked alertActions h (done ++ [action]) all) (pure (.yield all))
          (fun r s => ∃ b', r = ForInStep.yield b' ∧ Checked alertActions h (done ++ [action]) b' s)
          (fun _ s => FlagOwned alertActions s ∧ (Calm adm → Marked monitorActions s)) := by
        exact Triple.yield _ (fun all => stable_checked _ all) fun s hs => hs
      cases b with
      | false => exact hyield false
      | true => exact hyield all
    · exact ⟨s.marks, ⟨rfl, ⟨[], by simpa using hs.1, fun _ => by simp [AllPassed, NoStart]⟩, hs.2⟩,
        by simp⟩
  · have hstable : Stable world fun s => FlagOwned alertActions s ∧
        (s.light.isRunning = true → Marked monitorActions s) :=
      stable_of fun s light hs hlight => ⟨fun hno => hlight (hs.1 hno), fun hrun => hs.2 (by
        cases hr : s.light.isRunning with
        | true => rfl
        | false => simp [hlight hr] at hrun)⟩
    cases all with
    | false =>
      simp only [Bool.false_eq_true, ↓reduceIte]
      refine Triple.pure _ hstable fun s hs => ?_
      obtain ⟨marks, hseen, hmark⟩ := hs
      obtain ⟨m, hm, hmarked⟩ := hmark rfl
      exact ⟨hseen.2.2, fun _ => ⟨m, hm, by rw [hseen.1]; exact hmarked⟩⟩
    | true =>
      simp only [↓reduceIte]
      intro s hchecked
      obtain ⟨marks, hs, -⟩ := hchecked
      have hpassed := hs.mono fun es hes => hes rfl
      refine Triple.bind _ (log_spec _ _) (fun _ => ?_) s hpassed
      refine (stopRunningAlerts_spec).conseq (fun s hs => hs) (fun _ s hs => ?_) fun _ s hs => ?_
      · exact ⟨fun _ => hs, fun hrun => by simp [hs] at hrun⟩
      · exact ⟨hs.2, fun hcalm => absurd hcalm hs.1⟩

/-- One round of the loop in `Program.Main`: whatever happens in it, it ends normally, and
a flag still set then has a marked monitor. -/
theorem checkAllGuarded_spec (hnodup : monitorActions.Nodup) :
    Spec monitorActions alertActions adm h (fun s => s.history = h ∧ FlagOwned alertActions s)
      (checkAllGuarded monitorActions alertActions)
      (fun _ s => FlagOwned alertActions s ∧
        (Calm adm → s.light.isRunning = true → Marked monitorActions s))
      (fun _ _ => False) := by
  refine Triple.tryCatch (fun _ s => FlagOwned alertActions s ∧
    (Calm adm → Marked monitorActions s)) ?_ fun ex => ?_
  · exact (checkAll_spec hnodup).post fun _ s hs => ⟨hs.1, fun _ => hs.2⟩
  · have hstable : Stable world fun s => FlagOwned alertActions s ∧
        (Calm adm → Marked monitorActions s) :=
      stable_of fun s light hs hlight => ⟨fun hno => hlight (hs.1 hno), hs.2⟩
    have hlog : Spec monitorActions alertActions adm h
        (fun s => FlagOwned alertActions s ∧ (Calm adm → Marked monitorActions s))
        (log .error ex.message)
        (fun _ s => FlagOwned alertActions s ∧ (Calm adm → Marked monitorActions s))
        (fun _ _ => False) :=
      Triple.perform hstable (fun _ => hstable) fun s hs => ⟨trivial, fun x _ => hs⟩
    exact hlog.post fun _ s hs => ⟨hs.1, fun hcalm _ => hs.2 hcalm⟩

end Operations
end SomethingsWrong.System
