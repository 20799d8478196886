import SomethingsWrong.Firmware.UsbPoll

/-! What a control transfer sends to the host: the reply to a request, cut into data packets,
and the packets that the driver's variables still stand for while the transfer is under way. -/
namespace SomethingsWrong.UsbDriver

section Packets

/-- The data packets of a message: eight bytes each, and a last one that is shorter. -/
def packets (pid : UInt8) (bytes : List UInt8) : List (List UInt8) :=
  if bytes.length < 8 then [dataPacket pid bytes]
  else dataPacket pid (bytes.take 8) :: packets (toggled pid) (bytes.drop 8)
termination_by bytes.length
decreasing_by
  rw [List.length_drop]
  omega

theorem packets_of_short (pid : UInt8) {bytes : List UInt8} (h : bytes.length < 8) :
    packets pid bytes = [dataPacket pid bytes] := by
  rw [packets, if_pos h]

theorem packets_of_long (pid : UInt8) {bytes : List UInt8} (h : ¬bytes.length < 8) :
    packets pid bytes =
      dataPacket pid (bytes.take 8) :: packets (toggled pid) (bytes.drop 8) := by
  rw [packets, if_neg h]

end Packets

section Reply

/-- The descriptor that a request names. -/
def descriptorReply (kind index : UInt8) : List UInt8 :=
  if kind = usbDescrDevice then Descriptor.device.bytes
  else if kind = usbDescrConfig then Descriptor.configuration.bytes
  else if kind = usbDescrString then
    if index = 0 then Descriptor.string0.bytes
    else if index = 1 then Descriptor.stringVendor.bytes
    else if index = 2 then Descriptor.stringDevice.bytes
    else []
  else []

/-- The whole answer to a standard request. -/
def controlReply (rq : UsbRequest) (configuration : UInt8) : List UInt8 :=
  if rq.bRequest = usbRqGetStatus then [0, 0]
  else if rq.bRequest = usbRqSetAddress then []
  else if rq.bRequest = usbRqGetDescriptor then descriptorReply rq.wValue.high rq.wValue.low
  else if rq.bRequest = usbRqGetConfiguration then [configuration]
  else if rq.bRequest = usbRqSetConfiguration then []
  else if rq.bRequest = usbRqGetInterface then [0]
  else []

/-- As much of it as the host has asked for. -/
def UsbRequest.limit (rq : UsbRequest) (bytes : List UInt8) : List UInt8 :=
  if rq.wLength.high = 0 then bytes.take rq.wLength.low.toNat else bytes

/-- What the device answers to a SETUP packet: standard requests have a reply, the others an
empty one. -/
def Packet.reply (p : Packet) (configuration : UInt8) : List UInt8 :=
  if p.request.bmRequestType &&& usbRqTypeMask = usbRqTypeStandard then
    p.request.limit (controlReply p.request configuration)
  else []

/-- The driver is about to send these bytes, and writes to the front of the transmit buffer do
not change them. Only a reply of at most two bytes lies in that buffer, at its end. -/
structure Replies (len : UInt8) (r : Driver) (bytes : List UInt8) : Prop where
  length : len.toNat = bytes.length
  small : bytes.length ≤ 38
  steady : ∀ buf : Vector UInt8 usbBufsize, buf[9] = r.usbTxBuf[9] → buf[10] = r.usbTxBuf[10] →
    ∀ j (hj : j < bytes.length), (r.withTxBuf buf).fetch j = bytes[j]
  outside : 2 < bytes.length → ∀ (buf : Vector UInt8 usbBufsize) i,
    (r.withTxBuf buf).fetch i = r.fetch i

theorem Driver.fetch_flash {r : Driver} {d : Descriptor} (hflags : r.usbMsgFlags = usbFlgMsgPtrIsRom)
    (hptr : r.usbMsgPtr = .flash d) (i : Nat) : r.fetch i = d.bytes.getD i 0 := by
  rw [fetch, hflags, if_pos (by decide), hptr]

theorem Driver.fetch_configuration {r : Driver} (hflags : r.usbMsgFlags = 0)
    (hptr : r.usbMsgPtr = .configuration) (i : Nat) :
    r.fetch i = if i = 0 then r.usbConfiguration else 0 := by
  rw [fetch, hflags, if_neg (by decide), hptr]

theorem Driver.fetch_txBuf {r : Driver} {offset : Nat} (hflags : r.usbMsgFlags = 0)
    (hptr : r.usbMsgPtr = .txBuf offset) (i : Nat) :
    r.fetch i = r.usbTxBuf.toList.getD (offset + i) 0 := by
  rw [fetch, hflags, if_neg (by decide), hptr]

theorem Replies.nothing (r : Driver) : Replies 0 r [] :=
  ⟨rfl, by decide, fun _ _ _ _ hj => absurd hj (Nat.not_lt_zero _), fun h => absurd h (by decide)⟩

theorem Replies.flash {r : Driver} {d : Descriptor} (hflags : r.usbMsgFlags = usbFlgMsgPtrIsRom)
    (hptr : r.usbMsgPtr = .flash d) : Replies (d.props &&& 0x3fff).toUInt8 r d.bytes := by
  have hfetch (buf : Vector UInt8 usbBufsize) (i : Nat) :
      (r.withTxBuf buf).fetch i = d.bytes.getD i 0 := Driver.fetch_flash (r := r.withTxBuf buf) hflags hptr i
  refine ⟨?_, ?_, ?_, ?_⟩
  · cases d <;> rfl
  · cases d <;> decide
  · intro buf _ _ j hj
    rw [List.getElem_eq_getD 0, hfetch]
  · intro _ buf i
    rw [hfetch, Driver.fetch_flash hflags hptr]

theorem Replies.configuration {r : Driver} (hflags : r.usbMsgFlags = 0)
    (hptr : r.usbMsgPtr = .configuration) : Replies 1 r [r.usbConfiguration] := by
  refine ⟨rfl, by simp, ?_, fun h => absurd h (by simp)⟩
  intro buf _ _ j hj
  have hzero : j = 0 := by simpa using hj
  subst hzero
  exact Driver.fetch_configuration (r := r.withTxBuf buf) hflags hptr 0

/-- The default reply, one or two bytes at the end of the transmit buffer. -/
theorem Replies.txBuf {r : Driver} (hflags : r.usbMsgFlags = 0) (hptr : r.usbMsgPtr = .txBuf 9)
    (h9 : r.usbTxBuf[9] = 0) : Replies 1 r [0] ∧ (r.usbTxBuf[10] = 0 → Replies 2 r [0, 0]) := by
  have hfetch (buf : Vector UInt8 usbBufsize) (i : Nat) :
      (r.withTxBuf buf).fetch i = buf.toList.getD (9 + i) 0 :=
    Driver.fetch_txBuf (r := r.withTxBuf buf) hflags hptr i
  have hget (buf : Vector UInt8 usbBufsize) (i : Nat) (hi : i < usbBufsize) :
      buf.toList.getD i 0 = buf[i] := by
    rw [← List.getElem_eq_getD (h := by simpa using hi) 0, Vector.getElem_toList]
  refine ⟨⟨rfl, by simp, ?_, fun h => absurd h (by simp)⟩,
    fun h10 => ⟨rfl, by simp, ?_, fun h => absurd h (by simp)⟩⟩
  · intro buf h9' _ j hj
    have hzero : j = 0 := by simpa using hj
    subst hzero
    rw [hfetch, hget buf 9 (by decide), h9', h9]
    rfl
  · intro buf h9' h10' j hj
    have hj' : j < 2 := hj
    interval_cases j
    · rw [hfetch, hget buf 9 (by decide), h9', h9]
      rfl
    · rw [hfetch, hget buf 10 (by decide), h10', h10]
      rfl

theorem Replies.ite {c : Prop} [Decidable c] {x y : UInt8 × Driver} {bytes bytes' : List UInt8}
    (h : c → Replies x.1 x.2 bytes) (h' : ¬c → Replies y.1 y.2 bytes') :
    Replies (if c then x else y).1 (if c then x else y).2 (if c then bytes else bytes') := by
  by_cases hc : c
  · simpa [hc] using h hc
  · simpa [hc] using h' hc

theorem getDescriptor_replies {d : Descriptor} (h : d.props ≠ 0) (r : Driver) :
    Replies (getDescriptor d r).1 { (getDescriptor d r).2 with usbMsgFlags := usbFlgMsgPtrIsRom }
      d.bytes := by
  rw [getDescriptor, if_pos h]
  exact Replies.flash rfl rfl

theorem usbDriverDescriptor_replies (rq : UsbRequest) (r : Driver) :
    Replies (usbDriverDescriptor rq r).1 (usbDriverDescriptor rq r).2
      (descriptorReply rq.wValue.high rq.wValue.low) := by
  unfold usbDriverDescriptor descriptorReply
  dsimp only
  split_ifs
  all_goals first
    | exact getDescriptor_replies (by decide) r
    | exact Replies.nothing _

/-- Whatever the request, the driver replies as `controlReply` says. -/
theorem usbDriverSetup_replies (rq : UsbRequest) {r : Driver} (hflags : r.usbMsgFlags = 0) :
    Replies (usbDriverSetup rq r).1 (usbDriverSetup rq r).2 (controlReply rq r.usbConfiguration) := by
  have hset : (r.usbTxBuf.set 9 0)[9] = 0 := Vector.getElem_set_self _
  have hset' : ((r.usbTxBuf.set 9 0).set 10 0)[9] = 0 := by
    rw [Vector.getElem_set_ne (by decide) (by decide) (by decide), hset]
  refine Replies.ite (fun _ => ?_) fun _ => ?_
  · exact (Replies.txBuf (by exact hflags) rfl (by exact hset')).2 (Vector.getElem_set_self _)
  refine Replies.ite (fun _ => Replies.nothing _) fun _ => ?_
  refine Replies.ite (fun _ => usbDriverDescriptor_replies rq _) fun _ => ?_
  refine Replies.ite (fun _ => Replies.configuration hflags rfl) fun _ => ?_
  refine Replies.ite (fun _ => Replies.nothing _) fun _ => ?_
  exact Replies.ite (fun _ => (Replies.txBuf (by exact hflags) rfl (by exact hset)).1)
    fun _ => Replies.nothing _

/-- A reply that has been cut. -/
theorem Replies.limited {len : UInt8} {r : Driver} {bytes : List UInt8} (h : Replies len r bytes)
    (rq : UsbRequest) :
    Replies (r.limited rq len).usbMsgLen (r.limited rq len) (rq.limit bytes) := by
  have hcut (n : Nat) : ∀ buf : Vector UInt8 usbBufsize, buf[9] = r.usbTxBuf[9] →
      buf[10] = r.usbTxBuf[10] → ∀ j (hj : j < (bytes.take n).length),
        (r.withTxBuf buf).fetch j = (bytes.take n)[j] := by
    intro buf h9 h10 j hj
    rw [List.getElem_take]
    exact h.steady buf h9 h10 j (by rw [List.length_take] at hj; omega)
  have hlimit : (r.limited rq len).usbMsgLen.toNat = (rq.limit bytes).length := by
    unfold Driver.limited UsbRequest.limit
    by_cases hhigh : rq.wLength.high = 0
    · by_cases hlow : rq.wLength.low < len
      · have hle : rq.wLength.low.toNat < bytes.length := by
          rw [← h.length]
          exact hlow
        simp only [hhigh, hlow, and_self, if_true, List.length_take]
        omega
      · have hle : bytes.length ≤ rq.wLength.low.toNat := by
          rw [← h.length]
          exact UInt8.not_lt.mp hlow
        simp only [hhigh, hlow, and_false, if_false, if_true, List.length_take, h.length]
        omega
    · simp only [hhigh, false_and, if_false, h.length]
  have hle : (rq.limit bytes).length ≤ bytes.length := by
    unfold UsbRequest.limit
    split_ifs
    · rw [List.length_take]
      omega
    · exact Nat.le_refl _
  refine ⟨hlimit, hle.trans h.small, ?_, fun hlong => h.outside (by omega)⟩
  unfold UsbRequest.limit
  split_ifs
  · exact hcut _
  · exact h.steady

section Message
variable {len : UInt8} {r : Driver} {bytes : List UInt8}

theorem Driver.message_eq (r : Driver) (pos : Nat) (bytes : List UInt8)
    (h : ∀ j (hj : j < bytes.length), r.fetch (pos + j) = bytes[j]) :
    r.message pos bytes.length = bytes := by
  induction bytes generalizing pos with
  | nil => rfl
  | cons b bytes ih =>
    have hrest : r.message (pos + 1) bytes.length = bytes := ih (pos + 1) fun j hj => by
      rw [Nat.add_assoc, Nat.add_comm 1 j]
      exact h (j + 1) (Nat.succ_lt_succ hj)
    rw [List.length_cons, Driver.message, hrest]
    exact congrArg (· :: bytes) (h 0 (Nat.succ_pos _))

theorem Replies.message (h : Replies r.usbMsgLen r bytes) :
    r.message 0 r.usbMsgLen.toNat = bytes := by
  rw [h.length]
  apply Driver.message_eq
  intro j hj
  rw [Nat.zero_add]
  exact h.steady r.usbTxBuf rfl rfl j hj

/-- The reply as packets. -/
def Driver.transmission (r : Driver) : List (List UInt8) :=
  if r.usbMsgLen = usbNoMsg then [] else packets usbPidData1 (r.message 0 r.usbMsgLen.toNat)

theorem Replies.transmission (h : Replies r.usbMsgLen r bytes) :
    r.transmission = packets usbPidData1 bytes := by
  have hne : r.usbMsgLen ≠ usbNoMsg := by
    intro heq
    have hlen := h.length
    have hsmall := h.small
    rw [heq] at hlen
    have h255 : usbNoMsg.toNat = 255 := rfl
    omega
  rw [Driver.transmission, if_neg hne, h.message]

end Message

variable {A : Type} {usbFunctionSetup : Vector UInt8 8 → A → UInt8 × A}

/-- After a SETUP packet the driver is about to send the reply to it. -/
theorem usbProcessRx_replies (hreply : ∀ data a, (usbFunctionSetup data a).1 = 0) {p : Packet}
    (hp : p.IsSetup) (s : State A) :
    Replies (usbProcessRx usbFunctionSetup p s).driver.usbMsgLen
      (usbProcessRx usbFunctionSetup p s).driver (p.reply s.driver.usbConfiguration) := by
  by_cases htype : p.request.bmRequestType &&& usbRqTypeMask = usbRqTypeStandard
  · have h := (usbDriverSetup_replies p.request (r := s.driver.fresh) rfl).limited p.request
    rw [usbProcessRx_standard usbFunctionSetup ⟨hp, htype⟩, Packet.reply, if_pos htype]
    exact h
  · have h := (Replies.nothing s.driver.fresh).limited p.request
    rw [usbProcessRx_custom usbFunctionSetup ⟨hp, htype⟩, hreply, Packet.reply, if_neg htype]
    have hnil : p.request.limit [] = [] := by
      unfold UsbRequest.limit
      split_ifs <;> simp
    rw [hnil] at h
    exact h

theorem usbDriverDescriptor_front (rq : UsbRequest) (r : Driver) :
    (usbDriverDescriptor rq r).2.usbTxLen = r.usbTxLen ∧
      (usbDriverDescriptor rq r).2.usbTxBuf = r.usbTxBuf ∧
      (usbDriverDescriptor rq r).2.usbConfiguration = r.usbConfiguration := by
  have hget (d : Descriptor) : (getDescriptor d r).2.usbTxLen = r.usbTxLen ∧
      (getDescriptor d r).2.usbTxBuf = r.usbTxBuf ∧
      (getDescriptor d r).2.usbConfiguration = r.usbConfiguration := by
    unfold getDescriptor
    split_ifs <;> exact ⟨rfl, rfl, rfl⟩
  unfold usbDriverDescriptor
  dsimp only
  split_ifs
  all_goals first
    | exact hget _
    | exact ⟨rfl, rfl, rfl⟩

/-- The configuration that a standard request leaves. -/
def UsbRequest.configuration (rq : UsbRequest) (configuration : UInt8) : UInt8 :=
  if rq.bRequest = usbRqSetConfiguration then rq.wValue.low else configuration

theorem usbDriverSetup_front (rq : UsbRequest) (r : Driver) :
    (usbDriverSetup rq r).2.usbTxLen = r.usbTxLen ∧
      (usbDriverSetup rq r).2.usbTxBuf[0] = r.usbTxBuf[0] ∧
      (usbDriverSetup rq r).2.usbConfiguration = rq.configuration r.usbConfiguration := by
  have hfirst : (r.usbTxBuf.set 9 0)[0] = r.usbTxBuf[0] :=
    Vector.getElem_set_ne (by decide) (by decide) (by decide)
  by_cases hset : rq.bRequest = usbRqSetConfiguration
  · have hother : ¬usbRqSetConfiguration = usbRqGetStatus ∧ ¬usbRqSetConfiguration = usbRqSetAddress ∧
        ¬usbRqSetConfiguration = usbRqGetDescriptor ∧
        ¬usbRqSetConfiguration = usbRqGetConfiguration := by decide
    simp only [usbDriverSetup, UsbRequest.configuration, hset, hother, if_false, if_true]
    exact ⟨trivial, hfirst, trivial⟩
  · have hdescriptor :=
      usbDriverDescriptor_front rq { r with usbTxBuf := r.usbTxBuf.set 9 0 }
    rw [UsbRequest.configuration, if_neg hset]
    unfold usbDriverSetup
    dsimp only
    split_ifs
    · refine ⟨rfl, ?_, rfl⟩
      exact (Vector.getElem_set_ne (by decide) (by decide) (by decide)).trans hfirst
    · exact ⟨rfl, hfirst, rfl⟩
    · obtain ⟨hlen, hbuf, hconf⟩ := hdescriptor
      have hpid := congrArg (fun buf : Vector UInt8 usbBufsize => buf[0]) hbuf
      exact ⟨hlen, hpid.trans hfirst, hconf⟩
    all_goals exact ⟨rfl, hfirst, rfl⟩

/-- The configuration that a packet leaves. -/
def Packet.configuration (p : Packet) (configuration : UInt8) : UInt8 :=
  if p.token = usbPidSetup ∧ p.len = 8 ∧
      p.request.bmRequestType &&& usbRqTypeMask = usbRqTypeStandard then
    p.request.configuration configuration
  else configuration

theorem usbProcessRx_configuration (p : Packet) (s : State A) :
    (usbProcessRx usbFunctionSetup p s).driver.usbConfiguration =
      p.configuration s.driver.usbConfiguration := by
  by_cases hsetup : p.IsSetup
  · by_cases htype : p.request.bmRequestType &&& usbRqTypeMask = usbRqTypeStandard
    · rw [usbProcessRx_standard usbFunctionSetup ⟨hsetup, htype⟩, Packet.configuration,
        if_pos ⟨hsetup.1, hsetup.2, htype⟩]
      exact (usbDriverSetup_front p.request s.driver.fresh).2.2
    · rw [usbProcessRx_custom usbFunctionSetup ⟨hsetup, htype⟩, Packet.configuration,
        if_neg fun h => htype h.2.2]
      rfl
  · rw [usbProcessRx_of_not_setup _ hsetup, Packet.configuration,
      if_neg fun h => hsetup ⟨h.1, h.2.1⟩]

/-- The firmware's own state after a packet. -/
theorem usbProcessRx_user (p : Packet) {s s' : State A} (h : s.user = s'.user) :
    (usbProcessRx usbFunctionSetup p s).user = (usbProcessRx usbFunctionSetup p s').user := by
  by_cases hp : p.IsCustom
  · rw [usbProcessRx_of_custom hp, usbProcessRx_of_custom hp, h]
  · rw [usbProcessRx_of_not_custom hp, usbProcessRx_of_not_custom hp, h]

/-- A SETUP packet ends what was being sent. -/
theorem usbProcessRx_front {p : Packet} (hp : p.IsSetup) (s : State A) :
    (usbProcessRx usbFunctionSetup p s).driver.usbTxLen = usbPidNak ∧
      (usbProcessRx usbFunctionSetup p s).driver.usbTxBuf[0] = usbPidData0 := by
  have hfresh : s.driver.fresh.usbTxBuf[0] = usbPidData0 := Vector.getElem_set_self _
  by_cases htype : p.request.bmRequestType &&& usbRqTypeMask = usbRqTypeStandard
  · rw [usbProcessRx_standard usbFunctionSetup ⟨hp, htype⟩]
    obtain ⟨hlen, hbuf, -⟩ := usbDriverSetup_front p.request s.driver.fresh
    exact ⟨hlen, hbuf.trans hfresh⟩
  · rw [usbProcessRx_custom usbFunctionSetup ⟨hp, htype⟩]
    exact ⟨rfl, hfresh⟩

end Reply

section Due

/-- What is left of the message can be sent: writes to the front of the transmit buffer do not
change it, and where it does not fit into one packet it lies outside of that buffer. -/
structure Driver.Sendable (r : Driver) (pos : Nat) : Prop where
  steady : ∀ buf : Vector UInt8 usbBufsize, buf[9] = r.usbTxBuf[9] → buf[10] = r.usbTxBuf[10] →
    ∀ j < r.usbMsgLen.toNat, (r.withTxBuf buf).fetch (pos + j) = r.fetch (pos + j)
  outside : 2 < r.usbMsgLen.toNat → ∀ (buf : Vector UInt8 usbBufsize) i,
    (r.withTxBuf buf).fetch i = r.fetch i

theorem Replies.sendable {r : Driver} {bytes : List UInt8} (h : Replies r.usbMsgLen r bytes)
    {pos : Nat} (hpos : r.usbMsgLen ≠ 0 → pos = 0) : r.Sendable pos := by
  refine ⟨?_, fun hlong => h.outside (by rwa [← h.length])⟩
  intro buf h9 h10 j hj
  have hzero : pos = 0 := by
    apply hpos
    intro hlen
    rw [hlen] at hj
    exact Nat.not_lt_zero j hj
  have hj' : j < bytes.length := by rwa [← h.length]
  rw [hzero, Nat.zero_add, h.steady buf h9 h10 j hj', ← h.steady r.usbTxBuf rfl rfl j hj']
  rfl

/-- The packet in the transmit buffer. -/
def Driver.queued (r : Driver) : List (List UInt8) :=
  if r.usbTxLen &&& 0x10 = 0 then [r.outgoing] else []

/-- The packets of the message that is still to be sent. -/
def Driver.upcoming (r : Driver) (pos : Nat) : List (List UInt8) :=
  if r.usbMsgLen = usbNoMsg then []
  else packets (toggled (getElem r.usbTxBuf 0 pid_inside)) (r.message pos r.usbMsgLen.toNat)

/-- All packets that the driver would still send in this transfer. -/
def Driver.due (r : Driver) (pos : Nat) : List (List UInt8) := r.queued ++ r.upcoming pos

theorem Driver.due_newDeviceAddr (r : Driver) (address : UInt8) (pos : Nat) :
    ({ r with usbNewDeviceAddr := address } : Driver).due pos = r.due pos := by
  have hmessage (n : Nat) : ({ r with usbNewDeviceAddr := address } : Driver).message pos n =
      r.message pos n := Driver.message_congr fun _ _ => rfl
  rw [due, due, upcoming, upcoming, hmessage]
  rfl

/-- What is due at the beginning of the reply. -/
theorem Driver.due_fresh {r : Driver} {pos : Nat} (hlen : r.usbTxLen = usbPidNak)
    (hpid : r.usbTxBuf[0] = usbPidData0) (hpos : r.usbMsgLen ≠ 0 → pos = 0) :
    r.due pos = r.transmission := by
  have hqueued : r.queued = [] := by
    rw [queued, hlen, if_neg (by decide)]
  have htoggle : toggled usbPidData0 = usbPidData1 := by decide
  have hmessage : r.message pos r.usbMsgLen.toNat = r.message 0 r.usbMsgLen.toNat := by
    by_cases hzero : r.usbMsgLen = 0
    · rw [hzero]
      rfl
    · rw [hpos hzero]
  rw [due, hqueued, List.nil_append, upcoming, transmission, hpid, htoggle, hmessage]

theorem Driver.message_add (r : Driver) (pos n k : Nat) :
    r.message pos (n + k) = r.message pos n ++ r.message (pos + n) k := by
  induction n generalizing pos with
  | zero => simp [message]
  | succ n ih =>
    rw [Nat.add_right_comm, message, ih, message, List.cons_append, Nat.add_assoc pos 1 n,
      Nat.add_comm 1 n]

theorem txLen_of_block {len : UInt8} (h : len.toNat ≤ 8) :
    (len + 4).toNat = len.toNat + 4 ∧ (len + 4) &&& 0x10 = 0 := by
  have hlen : len = UInt8.ofNat len.toNat := UInt8.ofNat_toNat.symm
  generalize len.toNat = n at hlen h
  subst hlen
  interval_cases n <;> decide

/-- A block is the end of the message, or it is full. -/
theorem Driver.blockLen_cases (r : Driver) :
    (r.blockLen < 8 ∧ r.blockLen = r.usbMsgLen) ∨
      (¬r.blockLen < 8 ∧ r.blockLen = 8 ∧ 8 ≤ r.usbMsgLen) := by
  unfold blockLen
  split_ifs with h8
  · exact .inr ⟨UInt8.lt_irrefl 8, rfl, UInt8.le_of_lt h8⟩
  · by_cases hshort : r.usbMsgLen < 8
    · exact .inl ⟨hshort, rfl⟩
    · have hge : 8 ≤ r.usbMsgLen := UInt8.not_lt.mp hshort
      exact .inr ⟨hshort, UInt8.le_antisymm (UInt8.not_lt.mp h8) hge, hge⟩

/-- To prepare a packet does not change what the host will get. -/
theorem Driver.due_built {r : Driver} {pos : Nat} {buf : Vector UInt8 usbBufsize}
    (hidle : r.usbTxLen &&& 0x10 ≠ 0) (hmsg : r.usbMsgLen ≠ usbNoMsg) (h : r.Sendable pos)
    (hbuf : buf.toList.take (r.blockLen.toNat + 3) =
      dataPacket (toggled r.usbTxBuf[0]) (r.message pos r.blockLen.toNat)) :
    (r.built buf).due (pos + r.blockLen.toNat) = r.due pos ∧
      (r.built buf).usbTxLen &&& 0x10 = 0 ∧
      ((r.built buf).usbMsgLen ≠ usbNoMsg →
        (r.built buf).Sendable (pos + r.blockLen.toNat)) := by
  obtain ⟨htxLen, hready⟩ := txLen_of_block r.blockLen_le
  have hready' : (r.built buf).usbTxLen &&& 0x10 = 0 := hready
  have hout : (r.built buf).queued =
      [dataPacket (toggled r.usbTxBuf[0]) (r.message pos r.blockLen.toNat)] := by
    rw [queued, if_pos hready', ← hbuf]
    change [buf.toList.take ((r.blockLen + 4).toNat - 1)] = _
    rw [htxLen]
    rfl
  have hnone : r.queued = [] := by rw [queued, if_neg hidle]
  rw [due, due, hout, hnone, List.nil_append, upcoming, upcoming, if_neg hmsg]
  obtain ⟨hshort, hlen⟩ | ⟨hfull, hlen, hge⟩ := r.blockLen_cases
  · have hend : (r.built buf).usbMsgLen = usbNoMsg := if_pos hshort
    have hfew : (r.message pos r.usbMsgLen.toNat).length < 8 := by
      rw [length_message, ← hlen]
      exact hshort
    rw [if_pos hend, packets_of_short _ hfew, hlen]
    exact ⟨rfl, hready', fun hne => absurd hend hne⟩
  · have hmany : 8 ≤ r.usbMsgLen.toNat := hge
    have hmsgLen : (r.built buf).usbMsgLen = r.usbMsgLen - 8 := by
      rw [← hlen]
      exact if_neg hfull
    have hleft : (r.built buf).usbMsgLen.toNat = r.usbMsgLen.toNat - 8 := by
      rw [hmsgLen, UInt8.toNat_sub_of_le _ _ hge]
      rfl
    have hmore : (r.built buf).usbMsgLen ≠ usbNoMsg := by
      intro heq
      rw [heq] at hleft
      have hmax := r.usbMsgLen.toNat_lt
      have h255 : usbNoMsg.toNat = 255 := rfl
      omega
    have houtside (buf' : Vector UInt8 usbBufsize) (i : Nat) :
        (r.withTxBuf buf').fetch i = r.fetch i := h.outside (by omega) buf' i
    have hpid : (r.built buf).usbTxBuf[0] = toggled r.usbTxBuf[0] := by
      have hhead := congrArg (fun l => l[0]?) hbuf
      simp only [List.getElem?_take, dataPacket, List.cons_append, List.getElem?_cons_zero] at hhead
      rw [if_pos (by omega), Vector.getElem?_toList] at hhead
      exact (Vector.getElem?_eq_some_iff.mp hhead).2
    have h8 : r.blockLen.toNat = 8 := by rw [hlen]; rfl
    have hsum : r.usbMsgLen.toNat = 8 + (r.usbMsgLen.toNat - 8) := by omega
    have hsplit : r.message pos r.usbMsgLen.toNat =
        r.message pos 8 ++ r.message (pos + 8) (r.usbMsgLen.toNat - 8) := by
      rw [← Driver.message_add, ← hsum]
    have hrest : (r.built buf).message (pos + 8) (r.usbMsgLen.toNat - 8) =
        r.message (pos + 8) (r.usbMsgLen.toNat - 8) :=
      Driver.message_congr fun j _ => houtside buf _
    have hlong : ¬(r.message pos r.usbMsgLen.toNat).length < 8 := by
      rw [length_message]
      omega
    refine ⟨?_, hready', fun _ => ⟨?_, ?_⟩⟩
    · rw [if_neg hmore, packets_of_long _ hlong, hpid, hleft, h8, hrest, hsplit,
        List.take_left' (length_message ..), List.drop_left' (length_message ..)]
      rfl
    · intro buf' _ _ j _
      exact (houtside buf' _).trans (houtside buf _).symm
    · intro _ buf' i
      exact (houtside buf' i).trans (houtside buf i).symm

end Due
end SomethingsWrong.UsbDriver
