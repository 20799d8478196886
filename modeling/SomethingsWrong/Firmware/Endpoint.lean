import SomethingsWrong.Firmware.Bus

/-! `usbPoll` over and over, beside the interrupt routine and for any traffic of the host. Every
packet that the device acknowledges is processed once and in order, and what it sends after a
SETUP packet is the reply to it. -/
namespace SomethingsWrong.UsbDriver
open LabelledRun Program Prog Interleaving

variable {A : Type}

section Round
variable {usbFunctionSetup : Vector UInt8 8 → A → UInt8 × A} {s₀ : State A}

/-- At every operation of a round, what has been sent is right. -/
def Sends (usbFunctionSetup : Vector UInt8 8 → A → UInt8 × A) (s₀ : State A) (s : Bus A)
    (_ : Access A) : Prop := Right usbFunctionSetup s₀ s.log

theorem pollReceived_steady (hreply : ∀ data a, (usbFunctionSetup data a).1 = 0) :
    Triple (bus A) (fun _ => True) (Sends usbFunctionSetup s₀) (Steady usbFunctionSetup s₀)
      (pollReceived usbFunctionSetup) (fun _ => Steady usbFunctionSetup s₀) (fun _ _ => False) := by
  intro s h s₁ hd₁
  have h₁ := steady_stable.drift hd₁ h
  refine ⟨h₁.1, fun _ _ => ?_⟩
  change Ensures _ _ _ (if 0 ≤ (s₁.device.usbRxLen - 3).toInt8 then _ else _) _ _ s₁
  obtain ⟨hright, ps, sent, hinput, hserves⟩ := h₁
  cases hinput with
  | free hlen hps hsent =>
    rw [if_neg (by rw [hlen]; decide)]
    exact fun s' hd => steady_stable.drift hd
      ⟨hright, ps, sent, .free hlen hps hsent, hserves⟩
  | full hfull hps hsent =>
    rw [if_pos hfull.cases.2.2]
    let d := s₁.device
    let p := d.pending
    let half := d.usbInputBufOffset
    have hR : Processing usbFunctionSetup s₀ (ps ++ [p])
        (if p.token = usbPidSetup ∧ p.len = 8 then [] else sent) half s₁ d :=
      ⟨hright, hps, hsent, ⟨d.usbRxBuf, d.usbCurrentTok, rfl, rfl⟩, hfull, rfl⟩
    have hiso : Isolates (bus A) alone (Calm half) (Processing usbFunctionSetup s₀ (ps ++ [p])
        (if p.token = usbPidSetup ∧ p.len = 8 then [] else sent) half) :=
      processing_isolates _ _
    intro s₂ hd₂
    have hR₂ := hiso.drift hR hd₂
    refine ⟨hR₂.right, fun _ _ => ?_⟩
    have hoffset : (s₂.device.usbInputBufOffset.offset.toUInt8).toNat = half.offset := by
      obtain ⟨buf, token, heq, -⟩ := hR₂.same
      rw [heq]
      change (half.offset.toUInt8).toNat = half.offset
      cases half <;> rfl
    change Ensures _ _ _ (usbProcessRxCode usbFunctionSetup
      (usbBufsize + 1 - (s₂.device.usbInputBufOffset.offset.toUInt8).toNat) p.len >>= _) _ _ s₂
    rw [hoffset]
    obtain ⟨pos, hexec, hpos, hkept⟩ :=
      usbProcessRxCode_alone (d := d) (p := p) usbFunctionSetup rfl d.pending_liesAt
    have huses : (usbProcessRxCode usbFunctionSetup (usbBufsize + 1 - half.offset) p.len).Uses
        (Calm half) :=
      calm_usbProcessRxCode (fun i hi => calm_rxByte hi) p.len
    refine Ensures.bind (R := fun _ s => ∃ t, Processing usbFunctionSetup s₀ (ps ++ [p])
      (if p.token = usbPidSetup ∧ p.len = 8 then [] else sent) half s t ∧
        Serves usbFunctionSetup s₀ (ps ++ [p])
          (if p.token = usbPidSetup ∧ p.len = 8 then [] else sent) t) ?_ ?_
    · refine hiso.ensures huses hR₂ (fun s t op _ hst => hst.right) ?_ ?_
      · intro a t' hrun s' hst
        rw [hexec] at hrun
        obtain rfl := (Prod.mk.inj hrun).2
        exact ⟨_, hst, hserves.processed hreply p hpos hkept⟩
      · intro e
        cases e
    · intro _ s₃ hs₃ s₄ hd₄
      obtain ⟨t, hst, ht⟩ := hs₃
      have hst₄ := hiso.drift hst hd₄
      exact ⟨hst₄.right, fun _ _ s₅ hd₅ => steady_stable.drift hd₅ (hst₄.finished ht)⟩

theorem pollTransmit_steady :
    Triple (bus A) (fun _ => True) (Sends usbFunctionSetup s₀) (Steady usbFunctionSetup s₀)
      pollTransmit (fun _ => Steady usbFunctionSetup s₀) (fun _ _ => False) := by
  intro s h s₁ hd₁
  have h₁ := steady_stable.drift hd₁ h
  refine ⟨h₁.1, fun _ _ => ?_⟩
  change Ensures _ _ _ (if s₁.device.driver.usbTxLen &&& 0x10 ≠ 0 then _ else _) _ _ s₁
  by_cases hidle : s₁.device.driver.usbTxLen &&& 0x10 ≠ 0
  · rw [if_pos hidle]
    obtain ⟨hright, ps, sent, hinput, hserves⟩ := h₁
    let d := s₁.device
    have hR : Building usbFunctionSetup s₀ ps sent s₁ d := ⟨hright, hinput, rfl, rfl, hidle⟩
    have hiso : Isolates (bus A) alone Private (Building usbFunctionSetup s₀ ps sent) :=
      building_isolates ps sent
    intro s₂ hd₂
    have hR₂ := hiso.drift hR hd₂
    refine ⟨hR₂.right, fun _ _ => ?_⟩
    change Ensures _ _ _ (if s₂.device.driver.usbMsgLen ≠ usbNoMsg then _ else _) _ _ s₂
    rw [congrArg State.driver hR₂.state]
    by_cases hmsg : d.driver.usbMsgLen ≠ usbNoMsg
    · rw [if_pos hmsg]
      have hsendable := hserves.sendable hmsg
      obtain ⟨buf, hexec, hbuf⟩ := prepareBlock_alone d fun buf h9 h10 j hj =>
        hsendable.steady buf h9 h10 j (Nat.lt_of_lt_of_le hj d.driver.blockLen_le_msgLen)
      obtain ⟨hdue, hready, hrest⟩ := Driver.due_built hidle hmsg hsendable hbuf
      refine Ensures.bind (R := fun len s => len = d.driver.blockLen + 4 ∧
        Building usbFunctionSetup s₀ ps sent s { d.withDriver (d.driver.prepared buf) with
          usbMsgPos := d.usbMsgPos + d.driver.blockLen.toNat }) ?_ ?_
      · refine hiso.ensures private_prepareBlock hR₂ (fun s t op _ hst => hst.right) ?_ ?_
        · intro a t' hrun s' hst
          rw [hexec] at hrun
          obtain ⟨hlen, rfl⟩ := Prod.mk.inj hrun
          exact ⟨(Except.ok.inj hlen).symm, hst⟩
        · intro e
          cases e
      · intro len s₃ hs₃ s₄ hd₄
        obtain ⟨rfl, hst⟩ := hs₃
        have hst₄ := hiso.drift hst hd₄
        refine ⟨hst₄.right, fun _ _ s₅ hd₅ => steady_stable.drift hd₅ ?_⟩
        have hdriver : s₄.device.driver = d.driver.prepared buf := congrArg State.driver hst₄.state
        have huser : s₄.device.user = s₁.device.user := by
          rw [hst₄.state]
          rfl
        have hbuilt : { s₄.device.driver with usbTxLen := d.driver.blockLen + 4 } =
            d.driver.built buf := by
          rw [hdriver]
          rfl
        change Steady usbFunctionSetup s₀
          (s₄.withDriver { s₄.device.driver with usbTxLen := d.driver.blockLen + 4 })
        rw [hbuilt]
        refine ⟨hst₄.right, ps, sent, hst₄.input.withDriver _, huser.trans hserves.user,
          hserves.configuration, fun hbusy => absurd hready hbusy, ?_, ?_⟩
        · intro hmore
          have hpos : s₄.device.usbMsgPos = _ := hst₄.pos
          change (d.driver.built buf).Sendable s₄.device.usbMsgPos
          rw [hpos]
          exact hrest hmore
        · have hpos : s₄.device.usbMsgPos = _ := hst₄.pos
          change sent ++ (d.driver.built buf).due s₄.device.usbMsgPos = _
          rw [hpos, ← hserves.complete]
          exact congrArg (sent ++ ·) hdue
    · rw [if_neg hmsg]
      intro s₃ hd₃
      have hst₃ := hiso.drift hR₂ hd₃
      exact ⟨hst₃.right, ps, sent, hst₃.input, hserves.congr hst₃.state hst₃.pos⟩
  · rw [if_neg hidle]
    exact fun s' hd => steady_stable.drift hd h₁

theorem resetCheck_steady (n : Nat) :
    Triple (bus A) (fun _ => True) (Sends usbFunctionSetup s₀) (Steady usbFunctionSetup s₀)
      (resetCheck n) (fun _ => Steady usbFunctionSetup s₀) (fun _ _ => False) := by
  induction n with
  | zero =>
    intro s h s₁ hd₁
    obtain ⟨hright, ps, sent, hinput, hserves⟩ := steady_stable.drift hd₁ h
    refine ⟨hright, fun _ _ s₂ hd₂ => ?_⟩
    have h₁ : Steady usbFunctionSetup s₀
        (s₁.withDriver { s₁.device.driver with usbNewDeviceAddr := 0 }) := by
      refine ⟨hright, ps, sent, hinput.withDriver _, hserves.user, hserves.configuration,
        hserves.idle, ?_, ?_⟩
      · intro hmsg
        obtain ⟨hsteady, houtside⟩ := hserves.sendable hmsg
        exact ⟨hsteady, houtside⟩
      · have hdue := Driver.due_newDeviceAddr s₁.device.driver 0 s₁.device.usbMsgPos
        exact (congrArg (sent ++ ·) hdue).trans hserves.complete
    obtain ⟨hright₂, ps₂, sent₂, hinput₂, hserves₂⟩ := steady_stable.drift hd₂ h₁
    refine ⟨hright₂, fun _ _ s₃ hd₃ => steady_stable.drift hd₃ ?_⟩
    refine ⟨hright₂, ps₂, sent₂, ?_, hserves₂.congr rfl rfl⟩
    cases hinput₂ with
    | free hlen hps hsent => exact .free hlen hps hsent
    | full hfull hps hsent => exact .full hfull hps hsent
  | succ n ih =>
    intro s h s₁ hd₁
    have h₁ := steady_stable.drift hd₁ h
    refine ⟨h₁.1, fun line _ => ?_⟩
    change Ensures _ _ _ (if line ≠ 0 then _ else _) _ _ s₁
    by_cases hline : line ≠ 0
    · rw [if_pos hline]
      exact fun s' hd => steady_stable.drift hd h₁
    · rw [if_neg hline]
      exact ih s₁ h₁

/-- One round of the main loop, beside the interrupt routine. -/
theorem usbPoll_steady (hreply : ∀ data a, (usbFunctionSetup data a).1 = 0) :
    Triple (bus A) (fun _ => True) (Sends usbFunctionSetup s₀) (Steady usbFunctionSetup s₀)
      (usbPoll usbFunctionSetup) (fun _ => Steady usbFunctionSetup s₀) (fun _ _ => False) :=
  Triple.bind _ (pollReceived_steady hreply) fun _ =>
    Triple.bind _ pollTransmit_steady fun _ => resetCheck_steady 20

end Round

section Runs
variable {usbFunctionSetup : Vector UInt8 8 → A → UInt8 × A}

/-- As the variables are initialised: nothing received, nothing to send. -/
structure Device.IsIdle (d : Device A) : Prop where
  received : d.usbRxLen = 0
  waiting : d.driver.usbTxLen = usbPidNak
  message : d.driver.usbMsgLen = usbNoMsg

theorem Device.IsIdle.steady {d : Device A} (h : d.IsIdle) :
    Steady usbFunctionSetup d.toState ⟨d, []⟩ := by
  have hnone : d.driver.transmission = [] := by rw [Driver.transmission, if_pos h.message]
  have hdue : d.driver.due d.usbMsgPos = [] := by
    rw [Driver.due, Driver.queued, Driver.upcoming, h.waiting, if_neg (by decide),
      if_pos h.message]
    rfl
  have hexpected : expected usbFunctionSetup d.toState [] = [] := hnone
  refine ⟨?_, [], [], .free h.received rfl rfl, rfl, rfl, fun _ => h.waiting,
    fun hmsg => absurd h.message hmsg, ?_⟩
  · intro l hl
    obtain rfl := List.prefix_nil.mp hl
    exact List.nil_prefix
  · rw [hdue, hexpected, List.nil_append]

/-- What the main loop and the host can come to. -/
def Reaches (usbFunctionSetup : Vector UInt8 8 → A → UInt8 × A) (d : Device A)
    (c : Config (bus A) Empty) : Prop :=
  Leads (step (bus A) (usbPoll usbFunctionSetup)) (fun _ => True) ⟨none, ⟨d, []⟩⟩ c

theorem Steady.sound (hreply : ∀ data a, (usbFunctionSetup data a).1 = 0) {s₀ : State A}
    {s : Bus A} (hs : Steady usbFunctionSetup s₀ s) {c : Config (bus A) Empty}
    (h : Leads (step (bus A) (usbPoll usbFunctionSetup)) (fun _ => True) ⟨none, s⟩ c) :
    Sound (bus A) (fun _ => True) (fun _ : Unit => Sends usbFunctionSetup s₀)
      (fun _ _ => True) (Steady usbFunctionSetup s₀) c := by
  have hadmits : Leads (step (bus A) (usbPoll usbFunctionSetup)) (Admits fun _ => True)
      ⟨none, s⟩ c := h.mono fun l _ => by cases l <;> trivial
  have hstart : Sound (bus A) (fun _ => True) (fun _ : Unit => Sends usbFunctionSetup s₀)
      (fun _ _ => True) (Steady usbFunctionSetup s₀) (⟨none, s⟩ : Config (bus A) Empty) := hs
  have hround : ∀ s, Steady usbFunctionSetup s₀ s →
      Ensures (bus A) (fun _ => True) (Sends usbFunctionSetup s₀)
        (usbPoll usbFunctionSetup) (fun _ => Steady usbFunctionSetup s₀) (fun _ _ => False) s := by
    intro s hs
    refine (usbPoll_steady hreply s hs).mono (fun _ _ hs => hs) fun e => ?_
    cases e
  exact Sound.leads steady_stable (fun _ _ _ _ _ _ => trivial) (fun _ _ _ _ _ _ => trivial)
    (fun s hs => ⟨(), trivial, hround s hs⟩) hstart hadmits

/-- From one moment between two rounds to another. -/
theorem Steady.leads (hreply : ∀ data a, (usbFunctionSetup data a).1 = 0) {s₀ : State A}
    {s s' : Bus A} (hs : Steady usbFunctionSetup s₀ s)
    (h : Leads (step (bus A) (usbPoll usbFunctionSetup)) (fun _ => True) ⟨none, s⟩ ⟨none, s'⟩) :
    Steady usbFunctionSetup s₀ s' := hs.sound hreply h

theorem Reaches.sound (hreply : ∀ data a, (usbFunctionSetup data a).1 = 0) {d : Device A}
    (hd : d.IsIdle) {c : Config (bus A) Empty} (h : Reaches usbFunctionSetup d c) :
    Sound (bus A) (fun _ => True) (fun _ : Unit => Sends usbFunctionSetup d.toState)
      (fun _ _ => True) (Steady usbFunctionSetup d.toState) c := hd.steady.sound hreply h

/-- Between two rounds. -/
theorem Reaches.steady (hreply : ∀ data a, (usbFunctionSetup data a).1 = 0) {d : Device A}
    (hd : d.IsIdle) {c : Config (bus A) Empty} (h : Reaches usbFunctionSetup d c)
    (hbetween : c.prog = none) : Steady usbFunctionSetup d.toState c.state := by
  obtain ⟨prog, s⟩ := c
  obtain rfl : prog = none := hbetween
  exact hd.steady.leads hreply h

/-- At every moment, also in the middle of a round. -/
theorem Reaches.right (hreply : ∀ data a, (usbFunctionSetup data a).1 = 0) {d : Device A}
    (hd : d.IsIdle) {c : Config (bus A) Empty} (h : Reaches usbFunctionSetup d c) :
    Right usbFunctionSetup d.toState c.state.log := by
  have hsound := h.sound hreply hd
  obtain ⟨prog, s⟩ := c
  cases prog with
  | none => exact hsound.1
  | some p =>
    obtain ⟨_, _, hensures⟩ := hsound
    cases p with
    | ret _ => exact (hensures s (Leads.refl s)).1
    | raise e => cases e
    | call op k => exact (hensures s (Leads.refl s)).1

end Runs
end SomethingsWrong.UsbDriver
