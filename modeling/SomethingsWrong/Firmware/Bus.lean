import SomethingsWrong.Firmware.Transfer

/-! The driver on the bus, where the interrupt routine may come in between any two accesses of
the main loop: what holds whenever nothing is under way, and why the two stretches that process
a packet and prepare an answer are not disturbed. -/
namespace SomethingsWrong.UsbDriver
open LabelledRun Program Prog Interleaving

variable {A : Type}

/-- The device, and what it has answered to the packets of the host so far. -/
structure Bus (A : Type) where
  device : Device A
  log : List Answer

/-- The choice is what the main loop reads of the line; the environment is the host, whose
packets the interrupt routine takes. -/
abbrev bus (A : Type) : World (fun _ : Access A => UInt8) where
  State := Bus A
  Choice := UInt8
  handle s op line := ((op line s.device).1, { s with device := (op line s.device).2 })
  Env := List UInt8
  interfere s bytes :=
    some ⟨(interrupt bytes s.device).2, s.log ++ [(interrupt bytes s.device).1]⟩

def Bus.withDriver (s : Bus A) (r : Driver) : Bus A := { s with device := s.device.withDriver r }

def Answer.packet : Answer → Option Packet
  | .stored p => some p
  | _ => none

/-- The packets that have been acknowledged and stored. -/
def stored (log : List Answer) : List Packet := log.filterMap Answer.packet

/-- One more answer: a SETUP packet begins a new transfer. -/
def Answer.account (sent : List (List UInt8)) : Answer → List (List UInt8)
  | .stored p => if p.token = usbPidSetup ∧ p.len = 8 then [] else sent
  | .data bytes => sent ++ [bytes]
  | _ => sent

/-- The data packets that have been sent since the last SETUP packet. -/
def sentSince (log : List Answer) : List (List UInt8) := log.foldl Answer.account []

@[simp] theorem stored_concat (log : List Answer) (a : Answer) :
    stored (log ++ [a]) = stored log ++ a.packet.toList := by
  cases a <;> simp [stored, Answer.packet]

@[simp] theorem sentSince_concat (log : List Answer) (a : Answer) :
    sentSince (log ++ [a]) = a.account (sentSince log) := by
  simp [sentSince]

section Invariant
variable (usbFunctionSetup : Vector UInt8 8 → A → UInt8 × A) (s₀ : State A)

/-- The packets that the host should get after these, according to the sequential driver. -/
def expected (ps : List Packet) : List (List UInt8) :=
  (receive usbFunctionSetup ps s₀).driver.transmission

/-- At every moment so far what had been sent was the beginning of what should be sent. -/
def Right (log : List Answer) : Prop :=
  ∀ l, l <+: log → sentSince l <+: expected usbFunctionSetup s₀ (stored l)

/-- The variables stand where processing these packets leads, after these data packets. -/
structure Serves (ps : List Packet) (sent : List (List UInt8)) (d : Device A) : Prop where
  user : d.user = (receive usbFunctionSetup ps s₀).user
  configuration :
    d.driver.usbConfiguration = (receive usbFunctionSetup ps s₀).driver.usbConfiguration
  idle : d.driver.usbTxLen &&& 0x10 ≠ 0 → d.driver.usbTxLen = usbPidNak
  sendable : d.driver.usbMsgLen ≠ usbNoMsg → d.driver.Sendable d.usbMsgPos
  complete : sent ++ d.driver.due d.usbMsgPos = expected usbFunctionSetup s₀ ps

/-- A packet waits to be processed. -/
def Device.IsFull (d : Device A) : Prop := ∃ n : Nat, 4 ≤ n ∧ n ≤ usbBufsize ∧ d.usbRxLen = n.toUInt8

/-- Where the input stands: nothing waits, or the last packet of the log does. -/
inductive Input (ps : List Packet) (sent : List (List UInt8)) (s : Bus A) : Prop
  | free (hlen : s.device.usbRxLen = 0) (hps : stored s.log = ps) (hsent : sentSince s.log = sent)
  | full (hfull : s.device.IsFull) (hps : stored s.log = ps ++ [s.device.pending])
      (hsent : sentSince s.log = if s.device.pending.token = usbPidSetup ∧
        s.device.pending.len = 8 then [] else sent)

/-- Between two rounds of the main loop, and in the middle of one where nothing is under way. -/
def Steady (s : Bus A) : Prop :=
  Right usbFunctionSetup s₀ s.log ∧
    ∃ ps sent, Input ps sent s ∧ Serves usbFunctionSetup s₀ ps sent s.device

variable {usbFunctionSetup s₀}

theorem Right.begins {log : List Answer} (h : Right usbFunctionSetup s₀ log) :
    sentSince log <+: expected usbFunctionSetup s₀ (stored log) := h log (List.prefix_refl log)

theorem Right.concat {log : List Answer} (h : Right usbFunctionSetup s₀ log) {a : Answer}
    (ha : sentSince (log ++ [a]) <+: expected usbFunctionSetup s₀ (stored (log ++ [a]))) :
    Right usbFunctionSetup s₀ (log ++ [a]) := by
  intro l hl
  rcases List.prefix_concat_iff.mp hl with rfl | hl
  · exact ha
  · exact h l hl

theorem Right.quiet {log : List Answer} (h : Right usbFunctionSetup s₀ log) {a : Answer}
    (ha : a.IsQuiet) : Right usbFunctionSetup s₀ (log ++ [a]) := by
  apply h.concat
  cases a with
  | silence => simpa [Answer.account, Answer.packet] using h.begins
  | handshake pid => simpa [Answer.account, Answer.packet] using h.begins
  | stored p => cases ha
  | data bytes => cases ha

/-- A packet that is not a SETUP packet leaves the transfer as it is. -/
theorem expected_of_not_setup (ps : List Packet) {p : Packet} (hp : ¬p.IsSetup) :
    expected usbFunctionSetup s₀ (ps ++ [p]) = expected usbFunctionSetup s₀ ps := by
  rw [expected, receive, List.foldl_append, List.foldl_cons, List.foldl_nil,
    usbProcessRx_of_not_setup _ hp]
  rfl

theorem Right.stored {log : List Answer} (h : Right usbFunctionSetup s₀ log) (p : Packet) :
    Right usbFunctionSetup s₀ (log ++ [.stored p]) := by
  apply h.concat
  rw [sentSince_concat, stored_concat]
  by_cases hp : p.token = usbPidSetup ∧ p.len = 8
  · rw [Answer.account, if_pos hp]
    exact List.nil_prefix
  · rw [Answer.account, if_neg hp]
    have hsame : expected usbFunctionSetup s₀ (UsbDriver.stored log ++ [p]) =
        expected usbFunctionSetup s₀ (UsbDriver.stored log) :=
      expected_of_not_setup (UsbDriver.stored log) hp
    rw [show (Answer.stored p).packet.toList = [p] from rfl, hsame]
    exact h.begins

theorem Serves.congr {ps : List Packet} {sent : List (List UInt8)} {d d' : Device A}
    (h : Serves usbFunctionSetup s₀ ps sent d) (hstate : d'.toState = d.toState)
    (hpos : d'.usbMsgPos = d.usbMsgPos) : Serves usbFunctionSetup s₀ ps sent d' := by
  refine ⟨?_, ?_, ?_, ?_, ?_⟩
  · rw [hstate]
    exact h.user
  · rw [hstate]
    exact h.configuration
  · rw [hstate]
    exact h.idle
  · rw [hstate, hpos]
    exact h.sendable
  · rw [hstate, hpos]
    exact h.complete

theorem SameButInput.pending {d d' : Device A} (h : SameButInput d d') :
    d'.pending = d.pending ∧ d'.usbRxLen = d.usbRxLen := by
  obtain ⟨buf, token, rfl, hbuf⟩ := h
  refine ⟨?_, rfl⟩
  unfold Device.pending
  dsimp only
  rw [hbuf]

theorem SameButInput.trans {d d' d'' : Device A} (h : SameButInput d d')
    (h' : SameButInput d' d'') : SameButInput d d'' := by
  obtain ⟨buf, token, rfl, hbuf⟩ := h
  obtain ⟨buf', token', rfl, hbuf'⟩ := h'
  exact ⟨buf', token', rfl, hbuf'.trans hbuf⟩

theorem Device.IsFull.cases {d : Device A} (h : d.IsFull) :
    d.usbRxLen ≠ 0 ∧ 1 ≤ d.usbRxLen.toInt8 ∧ 0 ≤ (d.usbRxLen - 3).toInt8 := by
  obtain ⟨n, hmin, hmax, hlen⟩ := h
  have hmax' : n ≤ 11 := hmax
  rw [hlen]
  interval_cases n <;> decide

theorem stored_quiet (log : List Answer) {a : Answer} (ha : a.IsQuiet) :
    stored (log ++ [a]) = stored log ∧ sentSince (log ++ [a]) = sentSince log := by
  cases a with
  | silence => simp [Answer.packet, Answer.account]
  | handshake pid => simp [Answer.packet, Answer.account]
  | stored p => cases ha
  | data bytes => cases ha

/-- The main loop's variables are no part of the input. -/
theorem Input.withDriver {ps : List Packet} {sent : List (List UInt8)} {s : Bus A}
    (h : Input ps sent s) (r : Driver) : Input ps sent (s.withDriver r) := by
  cases h with
  | free hlen hps hsent => exact .free hlen hps hsent
  | full hfull hps hsent => exact .full hfull hps hsent

/-- An interrupt in which no data packet is sent. -/
theorem Input.effect {ps : List Packet} {sent : List (List UInt8)} {s : Bus A}
    (h : Input ps sent s) (hright : Right usbFunctionSetup s₀ s.log) {a : Answer} {d : Device A}
    (he : Effect s.device a d) (hquiet : ∀ bytes, a ≠ .data bytes) :
    Input ps sent ⟨d, s.log ++ [a]⟩ ∧ Right usbFunctionSetup s₀ (s.log ++ [a]) ∧
      d.toState = s.device.toState ∧ d.usbMsgPos = s.device.usbMsgPos := by
  cases he with
  | quiet ha hd =>
    obtain ⟨hps', hsent'⟩ := stored_quiet s.log ha
    obtain ⟨hpending, hlen'⟩ := hd.pending
    have hsame : d.toState = s.device.toState ∧ d.usbMsgPos = s.device.usbMsgPos := by
      obtain ⟨buf, token, rfl, -⟩ := hd
      exact ⟨rfl, rfl⟩
    refine ⟨?_, hright.quiet ha, hsame⟩
    cases h with
    | free hlen hps hsent => exact .free (hlen'.trans hlen) (hps'.trans hps) (hsent'.trans hsent)
    | full hfull hps hsent =>
      obtain ⟨n, hmin, hmax, hn⟩ := hfull
      refine .full ⟨n, hmin, hmax, hlen'.trans hn⟩ ?_ ?_
      · exact hps'.trans (hpending ▸ hps)
      · exact hsent'.trans (hpending ▸ hsent)
  | @stored d₁ n hd hfree hmin hmax =>
    have hsame : (d₁.store n).toState = s.device.toState ∧
        (d₁.store n).usbMsgPos = s.device.usbMsgPos := by
      obtain ⟨buf, token, rfl, -⟩ := hd
      exact ⟨rfl, rfl⟩
    refine ⟨?_, hright.stored _, hsame⟩
    cases h with
    | free hlen hps hsent =>
      refine .full ⟨n, hmin, hmax, rfl⟩ ?_ ?_
      · rw [stored_concat, hps]
        rfl
      · rw [sentSince_concat, hsent]
        rfl
    | full hfull hps hsent => exact absurd hfree hfull.cases.1
  | sent hd hfree hready => exact absurd rfl (hquiet _)

/-- The packet in the buffer goes out, and the rest is still due. -/
theorem Serves.sent {ps : List Packet} {sent : List (List UInt8)} {d : Device A}
    (h : Serves usbFunctionSetup s₀ ps sent d) (hready : d.driver.usbTxLen &&& 0x10 = 0) :
    Serves usbFunctionSetup s₀ ps (sent ++ [d.driver.outgoing]) d.transmitted := by
  refine ⟨h.user, h.configuration, fun _ => rfl, ?_, ?_⟩
  · intro hmsg
    obtain ⟨hsteady, houtside⟩ := h.sendable hmsg
    exact ⟨hsteady, houtside⟩
  · have hnone : d.transmitted.driver.queued = [] :=
      if_neg (show usbPidNak &&& 0x10 ≠ 0 by decide)
    have hone : d.driver.queued = [d.driver.outgoing] := if_pos hready
    have hsame : d.transmitted.driver.upcoming d.transmitted.usbMsgPos =
        d.driver.upcoming d.usbMsgPos := by
      have hmessage : d.transmitted.driver.message d.usbMsgPos d.driver.usbMsgLen.toNat =
          d.driver.message d.usbMsgPos d.driver.usbMsgLen.toNat :=
        Driver.message_congr fun _ _ => rfl
      rw [Driver.upcoming, Driver.upcoming, ← hmessage]
      rfl
    rw [← h.complete, Driver.due, Driver.due, hnone, hone, hsame, List.nil_append,
      List.append_assoc]

/-- Between two accesses anything may arrive. -/
theorem steady_stable : Stable (bus A) (Steady usbFunctionSetup s₀) := by
  intro s bytes s' hs hstep
  obtain rfl := Option.some.inj hstep
  obtain ⟨hright, ps, sent, hinput, hserves⟩ := hs
  have heff := interrupt_effect bytes s.device
  generalize (interrupt bytes s.device).1 = a at heff ⊢
  generalize (interrupt bytes s.device).2 = d at heff ⊢
  by_cases hdata : ∃ packet, a = .data packet
  · obtain ⟨packet, rfl⟩ := hdata
    cases heff with
    | quiet ha _ => cases ha
    | @sent d₁ hd hfree hready =>
      have hinput' : s.device.usbRxLen = 0 ∧ stored s.log = ps ∧ sentSince s.log = sent := by
        cases hinput with
        | free hlen hps hsent => exact ⟨hlen, hps, hsent⟩
        | full hfull _ _ => exact absurd hfull.cases.2.1 hfree
      obtain ⟨hlen, hps, hsent⟩ := hinput'
      have hsame : d₁.toState = s.device.toState ∧ d₁.usbMsgPos = s.device.usbMsgPos ∧
          d₁.usbRxLen = s.device.usbRxLen := by
        obtain ⟨buf, token, rfl, -⟩ := hd
        exact ⟨rfl, rfl, rfl⟩
      have hready' : d₁.driver.usbTxLen &&& 0x10 = 0 := by rw [hsame.1]; exact hready
      have hserves' := (hserves.congr hsame.1 hsame.2.1).sent hready'
      have hps' : stored (s.log ++ [.data d₁.driver.outgoing]) = ps := by
        simp [hps, Answer.packet]
      have hsent' : sentSince (s.log ++ [.data d₁.driver.outgoing]) =
          sent ++ [d₁.driver.outgoing] := by
        simp [hsent, Answer.account]
      refine ⟨hright.concat ?_, ps, sent ++ [d₁.driver.outgoing],
        .free (hsame.2.2.trans hlen) hps' hsent', hserves'⟩
      rw [hps', hsent', ← hserves'.complete]
      exact List.prefix_append _ _
  · have hquiet : ∀ bytes, a ≠ .data bytes := fun bytes heq => hdata ⟨bytes, heq⟩
    obtain ⟨hinput', hright', hstate, hpos⟩ := hinput.effect hright heff hquiet
    exact ⟨hright', ps, sent, hinput', hserves.congr hstate hpos⟩

end Invariant

section Processing
variable (usbFunctionSetup : Vector UInt8 8 → A → UInt8 × A) (s₀ : State A)

/-- While a packet is processed, the device is as the processing alone would leave it, but for
the half of the buffer that still receives. -/
structure Processing (ps : List Packet) (sent : List (List UInt8)) (half : Half) (s : Bus A)
    (t : Device A) : Prop where
  right : Right usbFunctionSetup s₀ s.log
  packets : stored s.log = ps
  sent : sentSince s.log = sent
  same : SameButInput t s.device
  full : t.IsFull
  offset : t.usbInputBufOffset = half

/-- An access that the interrupt routine cannot disturb while a packet waits. -/
def Calm (half : Half) (op : Access A) : Prop :=
  ∀ line t d, SameButInput t d → t.usbInputBufOffset = half →
    (op line d).1 = (op 1 t).1 ∧ SameButInput (op 1 t).2 (op line d).2 ∧
      (op 1 t).2.usbRxLen = t.usbRxLen ∧ (op 1 t).2.usbInputBufOffset = half

variable {usbFunctionSetup s₀} {half : Half}

theorem processing_isolates (ps : List Packet) (sent : List (List UInt8)) :
    Isolates (bus A) alone (Calm half) (Processing usbFunctionSetup s₀ ps sent half) := by
  refine ⟨?_, ?_, ?_⟩
  · intro s t bytes s' h hstep
    obtain rfl := Option.some.inj hstep
    have hlen : s.device.usbRxLen = t.usbRxLen := h.same.pending.2
    have heff := interrupt_effect bytes s.device
    generalize (interrupt bytes s.device).1 = a at heff ⊢
    generalize (interrupt bytes s.device).2 = d at heff ⊢
    cases heff with
    | quiet ha hd =>
      obtain ⟨hps, hsent⟩ := stored_quiet s.log ha
      exact ⟨h.right.quiet ha, hps.trans h.packets, hsent.trans h.sent, h.same.trans hd, h.full,
        h.offset⟩
    | stored hd hfree hmin hmax => exact absurd (hlen ▸ hfree) h.full.cases.1
    | sent hd hfree hready => exact absurd (hlen ▸ h.full.cases.2.1) hfree
  · intro s t op line hcalm h
    exact (hcalm line t s.device h.same h.offset).1
  · intro s t op line hcalm h
    obtain ⟨-, hsame, hlen, hoffset⟩ := hcalm line t s.device h.same h.offset
    obtain ⟨n, hmin, hmax, hn⟩ := h.full
    exact ⟨h.right, h.packets, h.sent, hsame, ⟨n, hmin, hmax, hlen.trans hn⟩, hoffset⟩

theorem calm_get {f : Device A → UInt8}
    (h : ∀ t d, SameButInput t d → t.usbInputBufOffset = half → f d = f t) :
    (get f).Uses (Calm half) :=
  Uses.perform fun _ t d hsame hhalf => ⟨h t d hsame hhalf, hsame, rfl, hhalf⟩

theorem calm_setDriver (f : Driver → Driver) : (setDriver (A := A) f).Uses (Calm half) := by
  apply Uses.perform
  intro _ t d hsame hhalf
  obtain ⟨buf, token, rfl, hbuf⟩ := hsame
  exact ⟨rfl, ⟨buf, token, rfl, hbuf⟩, rfl, hhalf⟩

theorem calm_setMsgPtr (p : MsgPtr) : (setMsgPtr (A := A) p).Uses (Calm half) := by
  apply Uses.perform
  intro _ t d hsame hhalf
  obtain ⟨buf, token, rfl, hbuf⟩ := hsame
  exact ⟨rfl, ⟨buf, token, rfl, hbuf⟩, rfl, hhalf⟩

/-- The bytes of the packet that waits lie in the other half. -/
theorem calm_rxByte {i : Nat} (hi : i < 8) :
    (get (A := A) (·.rxByte (usbBufsize + 1 - half.offset + i))).Uses (Calm half) := by
  apply calm_get
  intro t d hsame hhalf
  obtain ⟨buf, token, rfl, hbuf⟩ := hsame
  rw [hhalf] at hbuf
  cases half with
  | first =>
    have hk : ¬usbBufsize + 1 - Half.first.offset + i < usbBufsize := by
      simp [Half.offset, usbBufsize]
      omega
    have hbuf' : buf .second = t.usbRxBuf .second := hbuf
    rw [Device.rxByte, Device.rxByte, if_neg hk, if_neg hk]
    exact congrArg (fun b : Vector UInt8 usbBufsize => b.toList.getD _ 0) hbuf'
  | second =>
    have hk : usbBufsize + 1 - Half.second.offset + i < usbBufsize := by
      simp [Half.offset, usbBufsize]
      omega
    have hbuf' : buf .first = t.usbRxBuf .first := hbuf
    rw [Device.rxByte, Device.rxByte, if_pos hk, if_pos hk]
    exact congrArg (fun b : Vector UInt8 usbBufsize => b.toList.getD _ 0) hbuf'

theorem calm_getDescriptorCode (desc : Descriptor) :
    (getDescriptorCode (A := A) desc).Uses (Calm half) :=
  Uses.ite (Uses.bind (calm_setMsgPtr _) fun _ => trivial) trivial

section Bytes
variable {data : Nat} (hbytes : ∀ i < 8, (get (A := A) (·.rxByte (data + i))).Uses (Calm half))
include hbytes

theorem calm_usbFunctionSetupCode :
    (usbFunctionSetupCode usbFunctionSetup data).Uses (Calm half) := by
  refine Uses.bind (hbytes 0 (by decide)) fun b0 => ?_
  refine Uses.bind (hbytes 1 (by decide)) fun b1 => ?_
  refine Uses.bind (hbytes 2 (by decide)) fun b2 => ?_
  refine Uses.bind (hbytes 3 (by decide)) fun b3 => ?_
  refine Uses.bind (hbytes 4 (by decide)) fun b4 => ?_
  refine Uses.bind (hbytes 5 (by decide)) fun b5 => ?_
  refine Uses.bind (hbytes 6 (by decide)) fun b6 => ?_
  refine Uses.bind (hbytes 7 (by decide)) fun b7 => ?_
  apply Uses.perform
  intro _ t d hsame hhalf
  obtain ⟨buf, token, rfl, hbuf⟩ := hsame
  exact ⟨rfl, ⟨buf, token, rfl, hbuf⟩, rfl, hhalf⟩

theorem calm_descriptorSwitch : (descriptorSwitch (A := A) data).Uses (Calm half) := by
  refine Uses.bind (hbytes 3 (by decide)) fun kind => ?_
  refine Uses.ite (calm_getDescriptorCode _) (Uses.ite (calm_getDescriptorCode _) (Uses.ite ?_ trivial))
  refine Uses.bind (hbytes 2 (by decide)) fun index => ?_
  refine Uses.ite (calm_getDescriptorCode _) (Uses.ite (calm_getDescriptorCode _) ?_)
  exact Uses.ite (calm_getDescriptorCode _) (Uses.ite (calm_getDescriptorCode _) trivial)

theorem calm_usbDriverDescriptorCode :
    (usbDriverDescriptorCode (A := A) data).Uses (Calm half) :=
  Uses.bind (calm_descriptorSwitch hbytes) fun _ =>
    Uses.bind (calm_setDriver _) fun _ => trivial

theorem calm_usbDriverSetupCode : (usbDriverSetupCode (A := A) data).Uses (Calm half) := by
  have hptr (p : MsgPtr) (len : UInt8) :
      (setMsgPtr (A := A) p >>= fun _ => pure len).Uses (Calm half) :=
    Uses.bind (calm_setMsgPtr p) fun _ => trivial
  have hset (f : Driver → Driver) (p : MsgPtr) (len : UInt8) :
      (setDriver (A := A) f >>= fun _ => setMsgPtr p >>= fun _ => pure len).Uses (Calm half) :=
    Uses.bind (calm_setDriver f) fun _ => hptr p len
  refine Uses.bind (hbytes 2 (by decide)) fun value => ?_
  refine Uses.bind (calm_setDriver _) fun _ => ?_
  refine Uses.bind (hbytes 1 (by decide)) fun request => ?_
  refine Uses.ite (hset _ _ _) (Uses.ite (hset _ _ _) ?_)
  refine Uses.ite (calm_usbDriverDescriptorCode hbytes) (Uses.ite (hptr _ _) ?_)
  exact Uses.ite (hset _ _ _) (Uses.ite (hptr _ _) (hptr _ _))

theorem calm_usbProcessRxCode (len : UInt8) :
    (usbProcessRxCode usbFunctionSetup data len).Uses (Calm half) := by
  have htoken : (get (A := A) (·.usbRxToken)).Uses (Calm half) := by
    apply calm_get
    intro t d hsame _
    obtain ⟨buf, token, rfl, -⟩ := hsame
    rfl
  have hstart : (startSetup (A := A)).Uses (Calm half) :=
    Uses.bind (calm_setDriver _) fun _ => Uses.bind (calm_setDriver _) fun _ =>
      Uses.bind (calm_setDriver _) fun _ => trivial
  refine Uses.bind htoken fun token => Uses.ite (Uses.ite trivial ?_) trivial
  refine Uses.bind hstart fun _ => Uses.bind (hbytes 0 (by decide)) fun bmRequestType => ?_
  refine Uses.bind ?_ fun replyLen => ?_
  · exact Uses.ite (calm_usbFunctionSetupCode hbytes) (calm_usbDriverSetupCode hbytes)
  · exact Uses.bind (hbytes 7 (by decide)) fun high => Uses.bind (hbytes 6 (by decide)) fun low =>
      Uses.bind (calm_setDriver _) fun _ => trivial

end Bytes

/-- The bytes of the packet that waits, as the code addresses them. -/
theorem Device.pending_liesAt (d : Device A) :
    LiesAt d (usbBufsize + 1 - d.usbInputBufOffset.offset) d.pending.data := by
  intro i
  have hi : i.val < 8 := i.isLt
  have hbyte (buf : Vector UInt8 usbBufsize) : buf.toList.getD (i.val + 1) 0 = (payload buf)[i] := by
    have hsize : i.val + 1 < usbBufsize := by
      rw [usbBufsize]
      omega
    have hlt : i.val + 1 < buf.toList.length := by rwa [Vector.length_toList]
    rw [← List.getElem_eq_getD (h := hlt) 0, Vector.getElem_toList]
    have hpayload : (payload buf)[i.val] = buf[i.val + 1] := Vector.getElem_ofFn hi
    exact hpayload.symm
  unfold Device.pending Device.rxByte
  cases d.usbInputBufOffset with
  | first =>
    have hk : ¬usbBufsize + 1 - Half.first.offset + i.val < usbBufsize := by
      simp [Half.offset, usbBufsize]
      omega
    have hindex : usbBufsize + 1 - Half.first.offset + i.val - usbBufsize = i.val + 1 := by
      simp only [Half.offset, usbBufsize]
      omega
    rw [if_neg hk, hindex]
    exact hbyte _
  | second =>
    have hk : usbBufsize + 1 - Half.second.offset + i.val < usbBufsize := by
      simp [Half.offset, usbBufsize]
      omega
    have hindex : usbBufsize + 1 - Half.second.offset + i.val = i.val + 1 := by
      simp only [Half.offset, usbBufsize]
      omega
    rw [if_pos hk, hindex]
    exact hbyte _

/-- To process the packet that waits leads on to the reply to it. -/
theorem Serves.processed (hreply : ∀ data a, (usbFunctionSetup data a).1 = 0) {ps : List Packet}
    {sent : List (List UInt8)} {d : Device A} (h : Serves usbFunctionSetup s₀ ps sent d)
    (p : Packet) {pos : Nat}
    (hpos : p.IsStandard → (usbProcessRx usbFunctionSetup p d.toState).driver.usbMsgLen ≠ 0 →
      pos = 0)
    (hkept : ¬p.IsSetup → pos = d.usbMsgPos) :
    Serves usbFunctionSetup s₀ (ps ++ [p])
      (if p.token = usbPidSetup ∧ p.len = 8 then [] else sent)
      { d with toState := usbProcessRx usbFunctionSetup p d.toState, usbMsgPos := pos } := by
  have hreceive : receive usbFunctionSetup (ps ++ [p]) s₀ =
      usbProcessRx usbFunctionSetup p (receive usbFunctionSetup ps s₀) := by
    simp [receive]
  by_cases hp : p.token = usbPidSetup ∧ p.len = 8
  · have hreplies := usbProcessRx_replies hreply hp d.toState
    have hzero : (usbProcessRx usbFunctionSetup p d.toState).driver.usbMsgLen ≠ 0 → pos = 0 := by
      by_cases htype : p.request.bmRequestType &&& usbRqTypeMask = usbRqTypeStandard
      · exact hpos ⟨hp, htype⟩
      · intro hne
        apply absurd _ hne
        apply UInt8.toNat_inj.mp
        rw [hreplies.length, Packet.reply, if_neg htype]
        rfl
    rw [if_pos hp]
    have hfront : (usbProcessRx usbFunctionSetup p d.toState).driver.usbTxLen = usbPidNak ∧
        (usbProcessRx usbFunctionSetup p d.toState).driver.usbTxBuf[0] = usbPidData0 :=
      usbProcessRx_front hp d.toState
    obtain ⟨hlen, hpid⟩ := hfront
    refine ⟨?_, ?_, fun _ => hlen, fun _ => hreplies.sendable hzero, ?_⟩
    · rw [hreceive]
      exact usbProcessRx_user p h.user
    · apply Eq.trans (usbProcessRx_configuration p d.toState)
      rw [hreceive, usbProcessRx_configuration, ← h.configuration]
    · have hdue : (usbProcessRx usbFunctionSetup p d.toState).driver.due pos =
          packets usbPidData1 (p.reply d.driver.usbConfiguration) := by
        rw [Driver.due_fresh hlen hpid hzero, hreplies.transmission]
      rw [List.nil_append, expected, hreceive,
        (usbProcessRx_replies hreply hp _).transmission, ← h.configuration]
      exact hdue
  · obtain rfl := hkept hp
    have hsame : usbProcessRx usbFunctionSetup p d.toState = d.toState :=
      usbProcessRx_of_not_setup _ hp d.toState
    rw [if_neg hp, hsame]
    have hstay : receive usbFunctionSetup (ps ++ [p]) s₀ = receive usbFunctionSetup ps s₀ := by
      rw [hreceive, usbProcessRx_of_not_setup _ hp]
    refine ⟨by rw [hstay]; exact h.user, by rw [hstay]; exact h.configuration, h.idle,
      h.sendable, ?_⟩
    rw [expected_of_not_setup ps hp]
    exact h.complete

/-- The packet has been processed, and its half of the buffer is given back. -/
theorem Processing.finished {ps : List Packet} {sent : List (List UInt8)} {s : Bus A}
    {t : Device A} (h : Processing usbFunctionSetup s₀ ps sent half s t)
    (hserves : Serves usbFunctionSetup s₀ ps sent t) :
    Steady usbFunctionSetup s₀ { s with device := { s.device with usbRxLen := 0 } } := by
  have hsame : s.device.toState = t.toState ∧ s.device.usbMsgPos = t.usbMsgPos := by
    obtain ⟨buf, token, heq, -⟩ := h.same
    rw [heq]
    exact ⟨rfl, rfl⟩
  exact ⟨h.right, ps, sent, .free rfl h.packets h.sent, hserves.congr hsame.1 hsame.2⟩

end Processing

section Building
variable (usbFunctionSetup : Vector UInt8 8 → A → UInt8 × A) (s₀ : State A)

/-- While a packet is prepared, the transmit buffer is not sent. -/
structure Building (ps : List Packet) (sent : List (List UInt8)) (s : Bus A) (t : Device A) :
    Prop where
  right : Right usbFunctionSetup s₀ s.log
  input : Input ps sent s
  state : s.device.toState = t.toState
  pos : s.device.usbMsgPos = t.usbMsgPos
  idle : t.driver.usbTxLen &&& 0x10 ≠ 0

/-- An access to nothing but the main loop's variables, which leaves `usbTxLen` alone. -/
def Private (op : Access A) : Prop :=
  ∀ line t d, d.driver = t.driver → d.usbMsgPos = t.usbMsgPos → (op line d).1 = (op 1 t).1 ∧
    ∃ r pos, (op line d).2 = { d.withDriver r with usbMsgPos := pos } ∧
      (op 1 t).2 = { t.withDriver r with usbMsgPos := pos } ∧ r.usbTxLen = t.driver.usbTxLen

variable {usbFunctionSetup s₀}

theorem building_isolates (ps : List Packet) (sent : List (List UInt8)) :
    Isolates (bus A) alone Private (Building usbFunctionSetup s₀ ps sent) := by
  refine ⟨?_, ?_, ?_⟩
  · intro s t bytes s' h hstep
    obtain rfl := Option.some.inj hstep
    have heff := interrupt_effect bytes s.device
    have hquiet : ∀ packet, (interrupt bytes s.device).1 ≠ .data packet := by
      intro packet hdata
      rw [hdata] at heff
      generalize (interrupt bytes s.device).2 = d at heff
      cases heff with
      | quiet ha _ => cases ha
      | sent hd hfree hready =>
        apply h.idle
        rw [← h.state]
        exact hready
    obtain ⟨hinput, hright, hstate, hpos⟩ := h.input.effect h.right heff hquiet
    exact ⟨hright, hinput, hstate.trans h.state, hpos.trans h.pos, h.idle⟩
  · intro s t op line hop h
    exact (hop line t s.device (congrArg State.driver h.state) h.pos).1
  · intro s t op line hop h
    obtain ⟨-, r, pos, hs, ht, hlen⟩ :=
      hop line t s.device (congrArg State.driver h.state) h.pos
    have hinput : Input ps sent
        { s with device := { s.device.withDriver r with usbMsgPos := pos } } := by
      cases h.input with
      | free hfree hps hsent => exact .free hfree hps hsent
      | full hfull hps hsent => exact .full hfull hps hsent
    have huser : s.device.user = t.user := congrArg State.user h.state
    change Building _ _ _ _ { s with device := (op line s.device).2 } (op 1 t).2
    rw [hs, ht]
    refine ⟨h.right, hinput, ?_, rfl, ?_⟩
    · change (⟨r, s.device.user⟩ : State A) = ⟨r, t.user⟩
      rw [huser]
    · change r.usbTxLen &&& 0x10 ≠ 0
      rw [hlen]
      exact h.idle

theorem private_get {f : Driver → Nat → UInt8} :
    (get (A := A) fun d => f d.driver d.usbMsgPos).Uses Private := by
  apply Uses.perform
  intro _ t d hdriver hpos
  refine ⟨congrArg₂ f hdriver hpos, t.driver, t.usbMsgPos, ?_, rfl, rfl⟩
  rw [← hdriver, ← hpos]
  rfl

theorem private_setDriver {f : Driver → Driver} (h : ∀ r, (f r).usbTxLen = r.usbTxLen) :
    (setDriver (A := A) f).Uses Private := by
  apply Uses.perform
  intro _ t d hdriver hpos
  refine ⟨rfl, f t.driver, t.usbMsgPos, ?_, rfl, h t.driver⟩
  rw [← hdriver, ← hpos]
  rfl

theorem private_usbDeviceReadLoop (n i : Nat) : (usbDeviceReadLoop (A := A) n i).Uses Private := by
  induction n generalizing i with
  | zero => trivial
  | succ n ih =>
    exact Uses.bind (private_get (f := fun r pos => r.fetch (pos + i))) fun _ =>
      Uses.bind (private_setDriver fun _ => rfl) fun _ => ih (i + 1)

theorem private_usbDeviceRead (len : UInt8) : (usbDeviceRead (A := A) len).Uses Private := by
  have hmove : (set (A := A) fun d => { d with usbMsgPos := d.usbMsgPos + len.toNat }).Uses
      Private := by
    apply Uses.perform
    intro _ t d hdriver hpos
    refine ⟨rfl, t.driver, t.usbMsgPos + len.toNat, ?_, rfl, rfl⟩
    rw [← hdriver, ← hpos]
    rfl
  exact Uses.ite (Uses.bind (private_usbDeviceReadLoop len.toNat 0) fun _ =>
    Uses.bind hmove fun _ => trivial) trivial

theorem private_finishBlock (len : UInt8) : (finishBlock (A := A) len).Uses Private := by
  have hcrc : (usbCrc16Append (A := A) len.toNat).Uses Private :=
    Uses.bind (private_setDriver fun _ => rfl) fun _ =>
      Uses.bind (private_setDriver fun _ => rfl) fun _ => trivial
  have hend (len : UInt8) :
      (setDriver (A := A) (fun r => { r with usbMsgLen := usbNoMsg }) >>= fun _ => pure len).Uses
        Private :=
    Uses.bind (private_setDriver fun _ => rfl) fun _ => trivial
  refine Uses.ite (Uses.bind hcrc fun _ => Uses.ite (hend _) trivial) (hend _)

theorem private_prepareBlock : (prepareBlock (A := A)).Uses Private := by
  refine Uses.bind (private_get (f := fun r _ => r.usbMsgLen)) fun msgLen => ?_
  refine Uses.bind (private_setDriver fun _ => rfl) fun _ => ?_
  refine Uses.bind (private_get (f := fun r _ => r.usbTxBuf[0])) fun pid => ?_
  refine Uses.bind (private_setDriver fun _ => rfl) fun _ => ?_
  exact Uses.bind (private_usbDeviceRead _) private_finishBlock

end Building

end SomethingsWrong.UsbDriver
