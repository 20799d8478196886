import Mathlib.Data.List.Induction
import SomethingsWrong.Firmware.Endpoint

/-! Control transfers as the host sees them: what it puts together from the data packets is the
reply to its request, whatever else happens on the bus; and where it asks often enough, it gets
all of them. -/
namespace SomethingsWrong.UsbDriver
open LabelledRun Program Prog Interleaving
open SomethingsWrong.Crc16 (Accepted accepted_append)

section Host

/-- The data of a packet that passes the check of the host: the identifier that is its turn, at
most eight bytes, and a checksum that fits. -/
def checkPacket (pid : UInt8) : List UInt8 → Option (List UInt8)
  | [] => none
  | id :: rest =>
    if id = pid ∧ 2 ≤ rest.length ∧ rest.length ≤ 10 ∧
        Accepted ((rest.map UInt8.toBitVec).flatMap Crc.bits) then
      some (rest.take (rest.length - 2))
    else none

/-- The message in these packets. It ends with the first one that is not full. -/
def assemble (pid : UInt8) : List (List UInt8) → Option (List UInt8)
  | [] => none
  | packet :: more => (checkPacket pid packet).bind fun bytes =>
      if bytes.length < 8 then (if more = [] then some bytes else none)
      else (assemble (toggled pid) more).map (bytes ++ ·)

theorem checkPacket_dataPacket (pid : UInt8) {bytes : List UInt8} (h : bytes.length ≤ 8) :
    checkPacket pid (dataPacket pid bytes) = some bytes := by
  let rest := bytes ++ [(checksum bytes).1, (checksum bytes).2]
  have hlen : rest.length = bytes.length + 2 := by simp [rest]
  have haccepted : Accepted ((rest.map UInt8.toBitVec).flatMap Crc.bits) := by
    have h := accepted_append (bytes.map UInt8.toBitVec)
    simpa [rest, checksum, Crc16.bytesOf] using h
  have hcheck : pid = pid ∧ 2 ≤ rest.length ∧ rest.length ≤ 10 ∧
      Accepted ((rest.map UInt8.toBitVec).flatMap Crc.bits) :=
    ⟨rfl, by omega, by omega, haccepted⟩
  have htake : rest.take (rest.length - 2) = bytes := by
    rw [hlen, Nat.add_sub_cancel, List.take_left' rfl]
  change (if pid = pid ∧ 2 ≤ rest.length ∧ rest.length ≤ 10 ∧
    Accepted ((rest.map UInt8.toBitVec).flatMap Crc.bits) then _ else none) = _
  rw [if_pos hcheck]
  exact congrArg some htake

theorem assemble_cons {pid : UInt8} {bytes : List UInt8} (h : bytes.length ≤ 8)
    (more : List (List UInt8)) :
    assemble pid (dataPacket pid bytes :: more) =
      if bytes.length < 8 then (if more = [] then some bytes else none)
      else (assemble (toggled pid) more).map (bytes ++ ·) := by
  rw [assemble, checkPacket_dataPacket pid h, Option.bind_some]

/-- All packets of a message give the message. -/
theorem assemble_packets (pid : UInt8) (bytes : List UInt8) :
    assemble pid (packets pid bytes) = some bytes := by
  induction pid, bytes using packets.induct with
  | case1 pid bytes hshort =>
    rw [packets_of_short pid hshort, assemble_cons (by omega), if_pos hshort, if_pos rfl]
  | case2 pid bytes hlong ih =>
    have hfull : (bytes.take 8).length = 8 := by
      rw [List.length_take]
      omega
    rw [packets_of_long pid hlong, assemble_cons (by omega), if_neg (by omega), ih,
      Option.map_some, List.take_append_drop]

/-- The first packets of a message give nothing else. -/
theorem assemble_begins {pid : UInt8} {bytes : List UInt8} {l : List (List UInt8)}
    (h : l <+: packets pid bytes) {bytes' : List UInt8} (hl : assemble pid l = some bytes') :
    bytes' = bytes := by
  induction pid, bytes using packets.induct generalizing l bytes' with
  | case1 pid bytes hshort =>
    rw [packets_of_short pid hshort] at h
    cases l with
    | nil => cases hl
    | cons packet more =>
      obtain ⟨rfl, hmore⟩ := List.cons_prefix_cons.mp h
      obtain rfl := List.prefix_nil.mp hmore
      rw [assemble_cons (by omega), if_pos hshort, if_pos rfl] at hl
      exact (Option.some.inj hl).symm
  | case2 pid bytes hlong ih =>
    rw [packets_of_long pid hlong] at h
    cases l with
    | nil => cases hl
    | cons packet more =>
      obtain ⟨rfl, hmore⟩ := List.cons_prefix_cons.mp h
      have hfull : (bytes.take 8).length = 8 := by
        rw [List.length_take]
        omega
      rw [assemble_cons (by omega), if_neg (by omega)] at hl
      obtain ⟨rest, hrest, hjoin⟩ := Option.map_eq_some_iff.mp hl
      rw [← hjoin, ih hmore hrest, List.take_append_drop]

end Host

section Log

def Answer.bytes : Answer → Option (List UInt8)
  | .data bytes => some bytes
  | _ => none

/-- The data packets among these answers. -/
def dataSent (log : List Answer) : List (List UInt8) := log.filterMap Answer.bytes

/-- The configuration after these packets. -/
def configured (ps : List Packet) (configuration : UInt8) : UInt8 :=
  ps.foldl (fun configuration p => p.configuration configuration) configuration

variable {A : Type} {usbFunctionSetup : Vector UInt8 8 → A → UInt8 × A}

theorem receive_configuration (ps : List Packet) (s : State A) :
    (receive usbFunctionSetup ps s).driver.usbConfiguration =
      configured ps s.driver.usbConfiguration := by
  induction ps generalizing s with
  | nil => rfl
  | cons p ps ih =>
    have hrest := ih (usbProcessRx usbFunctionSetup p s)
    rw [usbProcessRx_configuration] at hrest
    exact hrest

/-- Until the next SETUP packet the host is sent the reply to the last one. -/
theorem expected_transfer (hreply : ∀ data a, (usbFunctionSetup data a).1 = 0) (s₀ : State A)
    (ps : List Packet) {p : Packet} (hp : p.IsSetup) {qs : List Packet}
    (hqs : ∀ q ∈ qs, ¬q.IsSetup) :
    expected usbFunctionSetup s₀ (ps ++ p :: qs) =
      packets usbPidData1 (p.reply (configured ps s₀.driver.usbConfiguration)) := by
  induction qs using List.reverseRecOn with
  | nil =>
    rw [expected, receive, List.foldl_append, List.foldl_cons, List.foldl_nil,
      (usbProcessRx_replies hreply hp _).transmission, ← receive_configuration]
    rfl
  | append_singleton qs q ih =>
    have hq : ¬q.IsSetup := hqs q (by simp)
    have hsplit : ps ++ p :: (qs ++ [q]) = (ps ++ p :: qs) ++ [q] := by simp
    rw [hsplit, expected_of_not_setup _ hq, ih fun r hr => hqs r (by simp [hr])]

theorem foldl_account {log : List Answer} (h : ∀ q ∈ stored log, ¬q.IsSetup)
    (sent : List (List UInt8)) : log.foldl Answer.account sent = sent ++ dataSent log := by
  induction log generalizing sent with
  | nil => simp [dataSent]
  | cons a log ih =>
    cases a with
    | silence => exact ih h sent
    | handshake pid => exact ih h sent
    | stored p =>
      have hp : ¬(p.token = usbPidSetup ∧ p.len = 8) := h p (List.mem_cons_self ..)
      have hrest := ih (fun q hq => h q (List.mem_cons_of_mem _ hq)) sent
      rw [List.foldl_cons, Answer.account, if_neg hp, hrest]
      rfl
    | data bytes =>
      rw [List.foldl_cons, Answer.account, ih h, List.append_assoc]
      rfl

theorem sentSince_transfer (before : List Answer) {p : Packet} (hp : p.IsSetup)
    {after : List Answer} (hafter : ∀ q ∈ stored after, ¬q.IsSetup) :
    sentSince (before ++ .stored p :: after) = dataSent after := by
  have hp' : p.token = usbPidSetup ∧ p.len = 8 := hp
  rw [sentSince, List.foldl_append, List.foldl_cons, Answer.account, if_pos hp',
    foldl_account hafter, List.nil_append]

theorem stored_append (log log' : List Answer) : stored (log ++ log') = stored log ++ stored log' :=
  List.filterMap_append

theorem begins_reply (hreply : ∀ data a, (usbFunctionSetup data a).1 = 0) {s₀ : State A}
    {log : List Answer} (h : Right usbFunctionSetup s₀ log) {before after rest : List Answer}
    {p : Packet} (hlog : log = before ++ .stored p :: (after ++ rest)) (hp : p.IsSetup)
    (hafter : ∀ q ∈ stored after, ¬q.IsSetup) :
    dataSent after <+:
      packets usbPidData1 (p.reply (configured (stored before) s₀.driver.usbConfiguration)) := by
  have hprefix : before ++ .stored p :: after <+: log := by
    rw [hlog]
    exact ⟨rest, by simp⟩
  have hright := h _ hprefix
  rw [sentSince_transfer before hp hafter, stored_append] at hright
  rw [← expected_transfer hreply s₀ (stored before) hp hafter]
  exact hright

theorem Steady.processed {s₀ : State A} {s : Bus A} (h : Steady usbFunctionSetup s₀ s) :
    ∃ ps, stored s.log = ps ++ (if s.device.usbRxLen = 0 then [] else [s.device.pending]) ∧
      s.device.user = (receive usbFunctionSetup ps s₀).user ∧
      s.device.driver.usbConfiguration = configured ps s₀.driver.usbConfiguration := by
  obtain ⟨-, ps, sent, hinput, hserves⟩ := h
  refine ⟨ps, ?_, hserves.user, hserves.configuration.trans (receive_configuration ps _)⟩
  cases hinput with
  | free hlen hps hsent => rw [if_pos hlen, List.append_nil, hps]
  | full hfull hps hsent => rw [if_neg hfull.cases.1, hps]

/-- Whatever traffic there is and wherever the interrupt routine comes in: the data packets that
the device sends after a SETUP packet are the first ones of the reply to that packet. -/
theorem sent_is_reply (hreply : ∀ data a, (usbFunctionSetup data a).1 = 0) {d : Device A}
    (hd : d.IsIdle) {c : Config (bus A) Empty} (h : Reaches usbFunctionSetup d c)
    {before after rest : List Answer} {p : Packet}
    (hlog : c.state.log = before ++ .stored p :: (after ++ rest)) (hp : p.IsSetup)
    (hafter : ∀ q ∈ stored after, ¬q.IsSetup) :
    dataSent after <+:
      packets usbPidData1 (p.reply (configured (stored before) d.driver.usbConfiguration)) :=
  begins_reply hreply (h.right hreply hd) hlog hp hafter

/-- So the host never reads anything but the reply to its request. -/
theorem host_reads_reply (hreply : ∀ data a, (usbFunctionSetup data a).1 = 0) {d : Device A}
    (hd : d.IsIdle) {c : Config (bus A) Empty} (h : Reaches usbFunctionSetup d c)
    {before after rest : List Answer} {p : Packet}
    (hlog : c.state.log = before ++ .stored p :: (after ++ rest)) (hp : p.IsSetup)
    (hafter : ∀ q ∈ stored after, ¬q.IsSetup) {bytes : List UInt8}
    (hread : assemble usbPidData1 (dataSent after) = some bytes) :
    bytes = p.reply (configured (stored before) d.driver.usbConfiguration) :=
  assemble_begins (begins_reply hreply (h.right hreply hd) hlog hp hafter) hread

/-- Between two rounds every packet that has been acknowledged and stored, but for one that may
still wait, has been processed once and in order. A data packet without data is acknowledged, too,
but never stored. -/
theorem acknowledged_processed (hreply : ∀ data a, (usbFunctionSetup data a).1 = 0) {d : Device A}
    (hd : d.IsIdle) {c : Config (bus A) Empty} (h : Reaches usbFunctionSetup d c)
    (hbetween : c.prog = none) :
    ∃ ps, stored c.state.log =
        ps ++ (if c.state.device.usbRxLen = 0 then [] else [c.state.device.pending]) ∧
      c.state.device.user = (receive usbFunctionSetup ps d.toState).user ∧
      c.state.device.driver.usbConfiguration = configured ps d.driver.usbConfiguration := by
  exact (h.steady hreply hd hbetween).processed

end Log

section Completion
variable {A : Type} (usbFunctionSetup : Vector UInt8 8 → A → UInt8 × A)

/-- A round of the main loop that nothing comes in between. -/
def Device.poll (d : Device A) : Device A := (exec alone (usbPoll usbFunctionSetup) d).2

/-- The host lets a round pass and asks the device, under its address, for data, and so on. -/
inductive Fetches : Device A → List Answer → Device A → Prop
  | done (d : Device A) : Fetches d [] d
  | ask {d d' : Device A} {answers : List Answer} (address check : UInt8)
      (haddress : address <<< 1 = (d.poll usbFunctionSetup).usbDeviceAddr)
      (h : Fetches (interrupt [usbPidIn, address, check] (d.poll usbFunctionSetup)).2 answers d') :
      Fetches d ((interrupt [usbPidIn, address, check] (d.poll usbFunctionSetup)).1 :: answers) d'

variable {usbFunctionSetup} {s₀ : State A}

theorem exec_bus {α : Type} (p : Code A α) (d : Device A) (log : List Answer) :
    exec (fun s op => (bus A).handle s op 1) p ⟨d, log⟩ =
      ((exec alone p d).1, ⟨(exec alone p d).2, log⟩) := by
  induction p generalizing d with
  | ret a => rfl
  | raise e => rfl
  | call op k ih => exact ih _ _

theorem steady_of_exec {p : Code A Unit} {d : Device A} {log : List Answer}
    (h : Triple (bus A) (fun _ => True) (Sends usbFunctionSetup s₀) (Steady usbFunctionSetup s₀) p
      (fun _ => Steady usbFunctionSetup s₀) (fun _ _ => False))
    (hs : Steady usbFunctionSetup s₀ ⟨d, log⟩) :
    (exec alone p d).1 = .ok () ∧ Steady usbFunctionSetup s₀ ⟨(exec alone p d).2, log⟩ := by
  have hexec := exec_bus p d log
  cases hresult : (exec alone p d).1 with
  | error e => cases e
  | ok _ =>
    rw [hresult] at hexec
    exact ⟨rfl, (h _ hs).exec trivial hexec⟩

/-- After the first half of a round no packet waits. -/
theorem pollReceived_free {d : Device A} {log : List Answer}
    (hs : Steady usbFunctionSetup s₀ ⟨d, log⟩) :
    (exec alone (pollReceived usbFunctionSetup) d).2.usbRxLen = 0 := by
  rw [pollReceived, exec_get]
  obtain ⟨-, ps, sent, hinput, -⟩ := hs
  cases hinput with
  | free hlen hps hsent =>
    have hlen' : d.usbRxLen = 0 := hlen
    rw [if_neg (by rw [hlen']; decide)]
    exact hlen'
  | full hfull hps hsent =>
    rw [if_pos hfull.cases.2.2, exec_get, exec_bind]
    cases hresult : exec alone (usbProcessRxCode usbFunctionSetup
        (usbBufsize + 1 - (d.usbInputBufOffset.offset.toUInt8).toNat) (d.usbRxLen - 3)) d with
    | mk result d' =>
      cases result with
      | error e => cases e
      | ok _ => rfl

/-- After the second half the transmit buffer is filled or there is nothing to send. -/
theorem pollTransmit_prepared {d : Device A}
    (h : d.driver.usbMsgLen ≠ usbNoMsg → d.driver.Sendable d.usbMsgPos) :
    (exec alone pollTransmit d).2.usbRxLen = d.usbRxLen ∧
      ((exec alone pollTransmit d).2.driver.usbTxLen &&& 0x10 ≠ 0 →
        (exec alone pollTransmit d).2.driver.usbMsgLen = usbNoMsg) := by
  rw [pollTransmit, exec_get]
  by_cases hidle : d.driver.usbTxLen &&& 0x10 ≠ 0
  · rw [if_pos hidle, exec_get]
    by_cases hmsg : d.driver.usbMsgLen ≠ usbNoMsg
    · rw [if_pos hmsg]
      obtain ⟨buf, hexec, hbuf⟩ := prepareBlock_alone d fun buf h9 h10 j hj =>
        (h hmsg).steady buf h9 h10 j (Nat.lt_of_lt_of_le hj d.driver.blockLen_le_msgLen)
      have hready := (Driver.due_built hidle hmsg (h hmsg) hbuf).2.1
      rw [usbBuildTxBlock, exec_bind_ok alone hexec]
      exact ⟨rfl, fun hbusy => absurd hready hbusy⟩
    · rw [if_neg hmsg]
      exact ⟨rfl, fun _ => not_not.mp hmsg⟩
  · rw [if_neg hidle]
    exact ⟨rfl, fun hbusy => absurd hbusy hidle⟩

/-- After a round the buffer holds the next packet, if one is due. -/
theorem poll_prepared (hreply : ∀ data a, (usbFunctionSetup data a).1 = 0) {d : Device A}
    {log : List Answer} (hs : Steady usbFunctionSetup s₀ ⟨d, log⟩) :
    Steady usbFunctionSetup s₀ ⟨d.poll usbFunctionSetup, log⟩ ∧
      (d.poll usbFunctionSetup).usbRxLen = 0 ∧
      ((d.poll usbFunctionSetup).driver.usbTxLen &&& 0x10 ≠ 0 →
        (d.poll usbFunctionSetup).driver.usbMsgLen = usbNoMsg) := by
  refine ⟨(steady_of_exec (usbPoll_steady hreply) hs).2, ?_⟩
  have hfree := pollReceived_free hs
  obtain ⟨hok, hs₁⟩ := steady_of_exec (pollReceived_steady hreply) hs
  generalize hexec : exec alone (pollReceived usbFunctionSetup) d = r at hfree hok hs₁
  obtain ⟨result, d₁⟩ := r
  obtain rfl : result = .ok () := hok
  obtain ⟨hok₂, -⟩ := steady_of_exec pollTransmit_steady hs₁
  obtain ⟨-, ps, sent, hinput, hserves⟩ := hs₁
  obtain ⟨hlen, hprepared⟩ := pollTransmit_prepared hserves.sendable
  generalize hexec₂ : exec alone pollTransmit d₁ = r at hlen hprepared hok₂
  obtain ⟨result, d₂⟩ := r
  obtain rfl : result = .ok () := hok₂
  have hpoll : d.poll usbFunctionSetup = d₂ := by
    rw [Device.poll, usbPoll, exec_bind_ok alone hexec, exec_bind_ok alone hexec₂]
    rfl
  rw [hpoll]
  exact ⟨hlen.trans hfree, hprepared⟩

/-- What is still to be sent after this. -/
def left (usbFunctionSetup : Vector UInt8 8 → A → UInt8 × A) (s₀ : State A) (log : List Answer) :
    List (List UInt8) :=
  (expected usbFunctionSetup s₀ (stored log)).drop (sentSince log).length

theorem Steady.due {d : Device A} {log : List Answer} (hs : Steady usbFunctionSetup s₀ ⟨d, log⟩)
    (hfree : d.usbRxLen = 0) :
    Serves usbFunctionSetup s₀ (stored log) (sentSince log) d ∧
      left usbFunctionSetup s₀ log = d.driver.due d.usbMsgPos := by
  obtain ⟨-, ps, sent, hinput, hserves⟩ := hs
  cases hinput with
  | free hlen hps hsent =>
    have hps' : stored log = ps := hps
    have hsent' : sentSince log = sent := hsent
    rw [← hps', ← hsent'] at hserves
    refine ⟨hserves, ?_⟩
    rw [left, ← hserves.complete, List.drop_left]
  | full hfull hps hsent => exact absurd hfree hfull.cases.1

/-- What the receiver has stored. -/
theorem rxLoop_getElem (bytes : List UInt8) (d : Device A) {i : Nat} (hi : i < usbBufsize) {b : UInt8}
    (hb : bytes[i]? = some b) :
    ((rxLoop bytes d).usbRxBuf (rxLoop bytes d).usbInputBufOffset)[i] = b := by
  have hbuf : (rxLoop bytes d).usbRxBuf d.usbInputBufOffset =
      overwrite bytes (d.usbRxBuf d.usbInputBufOffset) := if_pos rfl
  have hbyte : (overwrite bytes (d.usbRxBuf d.usbInputBufOffset))[i] =
      bytes[i]?.getD (d.usbRxBuf d.usbInputBufOffset)[i] := Vector.getElem_ofFn hi
  rw [hb, Option.getD_some] at hbyte
  exact (congrArg (fun buf : Vector UInt8 usbBufsize => buf[i]) hbuf).trans hbyte

theorem se0_in {n : Nat} {d : Device A} (hn : ¬usbBufsize < n)
    (htoken : (d.usbRxBuf d.usbInputBufOffset)[0] = usbPidIn)
    (haddress : (d.usbRxBuf d.usbInputBufOffset)[1] <<< 1 = d.usbDeviceAddr) :
    se0 n d = handleIn d := by
  unfold se0
  dsimp only
  rw [htoken, if_neg hn, if_neg (by decide), if_neg (by decide), if_neg (not_not.mpr haddress),
    if_pos rfl]

theorem se0_setup {n : Nat} {d : Device A} (hn : ¬usbBufsize < n)
    (htoken : (d.usbRxBuf d.usbInputBufOffset)[0] = usbPidSetup)
    (haddress : (d.usbRxBuf d.usbInputBufOffset)[1] <<< 1 = d.usbDeviceAddr) :
    se0 n d = (.silence, { d with usbCurrentTok := usbPidSetup }) := by
  unfold se0
  dsimp only
  rw [htoken, if_neg hn, if_neg (by decide), if_neg (by decide), if_neg (not_not.mpr haddress),
    if_neg (by decide), if_pos rfl]

theorem se0_data {n : Nat} {d : Device A} (hn : ¬usbBufsize < n)
    (htoken : (d.usbRxBuf d.usbInputBufOffset)[0] = usbPidData0) :
    se0 n d = handleData n d := by
  unfold se0
  dsimp only
  rw [htoken, if_neg hn, if_pos rfl]

/-- What the host gets for an IN token where no packet waits. -/
theorem interrupt_in {d : Device A} {address : UInt8} (h : address <<< 1 = d.usbDeviceAddr)
    (check : UInt8) (hfree : d.usbRxLen = 0) : (interrupt [usbPidIn, address, check] d).1 =
      if d.driver.usbTxLen &&& 0x10 ≠ 0 then .handshake d.driver.usbTxLen
      else .data d.driver.outgoing := by
  have htoken := rxLoop_getElem [usbPidIn, address, check] d (i := 0) (by decide) rfl
  have haddress := rxLoop_getElem [usbPidIn, address, check] d (i := 1) (by decide) rfl
  have hempty : ¬1 ≤ (rxLoop [usbPidIn, address, check] d).usbRxLen.toInt8 := by
    change ¬1 ≤ d.usbRxLen.toInt8
    rw [hfree]
    decide
  rw [interrupt, se0_in (by simp [usbBufsize]) htoken (by rw [haddress]; exact h), handleIn,
    if_neg hempty]
  exact apply_ite Prod.fst _ _ _

/-- The first `n` answers of a device that has these packets to send and then no more. -/
def answersOf (packets : List (List UInt8)) (n : Nat) : List Answer :=
  (packets.take n).map .data ++ List.replicate (n - packets.length) (.handshake usbPidNak)

theorem dataSent_answersOf (packets : List (List UInt8)) (n : Nat) :
    dataSent (answersOf packets n) = packets.take n := by
  have hdata (l : List (List UInt8)) : dataSent (l.map .data) = l := by
    rw [dataSent, List.filterMap_map]
    exact List.filterMap_some
  have hnak (k : Nat) : dataSent (List.replicate k (.handshake usbPidNak)) = [] := by
    apply List.filterMap_eq_nil_iff.mpr
    intro a ha
    rw [List.eq_of_mem_replicate ha]
    rfl
  have happend (l l' : List Answer) : dataSent (l ++ l') = dataSent l ++ dataSent l' :=
    List.filterMap_append
  rw [answersOf, happend, hdata, hnak, List.append_nil]

/-- The answers are the packets that are left. -/
theorem Fetches.answers (hreply : ∀ data a, (usbFunctionSetup data a).1 = 0) {d d' : Device A}
    {answers : List Answer} (h : Fetches usbFunctionSetup d answers d') {log : List Answer}
    (hs : Steady usbFunctionSetup s₀ ⟨d, log⟩) :
    answers = answersOf (left usbFunctionSetup s₀ log) answers.length := by
  induction h generalizing log with
  | done d => simp [answersOf]
  | @ask d d' answers address check haddress h ih =>
    obtain ⟨hs', hfree, hprepared⟩ := poll_prepared hreply hs
    generalize d.poll usbFunctionSetup = e at haddress ih hs' hfree hprepared ⊢
    obtain ⟨hserves, hleft⟩ := hs'.due hfree
    let bytes := [usbPidIn, address, check]
    have hnext : Steady usbFunctionSetup s₀
        ⟨(interrupt bytes e).2, log ++ [(interrupt bytes e).1]⟩ :=
      steady_stable ⟨e, log⟩ bytes _ hs' rfl
    have hrest := ih hnext
    have hin := interrupt_in haddress check hfree
    by_cases hidle : e.driver.usbTxLen &&& 0x10 ≠ 0
    · have hanswer : (interrupt bytes e).1 = .handshake usbPidNak := by
        rw [hin, if_pos hidle, hserves.idle hidle]
      have hnone : left usbFunctionSetup s₀ log = [] := by
        rw [hleft, Driver.due, Driver.queued, if_neg hidle, Driver.upcoming,
          if_pos (hprepared hidle)]
        rfl
      have hsame : left usbFunctionSetup s₀ (log ++ [.handshake usbPidNak]) = [] := by
        obtain ⟨hstored, hsent⟩ :=
          stored_quiet log (a := .handshake usbPidNak) trivial
        rw [left, hstored, hsent]
        exact hnone
      change (interrupt bytes e).1 :: answers = _
      rw [hanswer, hsame] at hrest
      rw [hanswer, hnone]
      simpa [answersOf, List.replicate_succ] using hrest
    · have hanswer : (interrupt bytes e).1 = .data e.driver.outgoing := by
        rw [hin, if_neg hidle]
      have hhead : left usbFunctionSetup s₀ log =
          e.driver.outgoing :: e.driver.upcoming e.usbMsgPos := by
        rw [hleft, Driver.due, Driver.queued, if_pos (not_not.mp hidle)]
        rfl
      have htail : left usbFunctionSetup s₀ (log ++ [.data e.driver.outgoing]) =
          e.driver.upcoming e.usbMsgPos := by
        have hdrop := congrArg List.tail hhead
        rw [left, List.tail_drop] at hdrop
        simpa [left, Answer.packet, Answer.account] using hdrop
      change (interrupt bytes e).1 :: answers = _
      rw [hanswer, htail] at hrest
      rw [hanswer, hhead]
      simpa [answersOf] using hrest

/-- The two packets with which a transfer begins: token and request. -/
def Device.request (d : Device A) (token data : List UInt8) : Answer × Device A :=
  interrupt data (interrupt token d).2

/-- The device acknowledges a request that is addressed to it, if no other one waits. -/
theorem request_stored {d : Device A} {address : UInt8} (h : address <<< 1 = d.usbDeviceAddr)
    (hfree : d.usbRxLen = 0) (check : UInt8) (request : Vector UInt8 8) (low high : UInt8) :
    (interrupt [usbPidSetup, address, check] d).1 = .silence ∧
      (d.request [usbPidSetup, address, check]
        (usbPidData0 :: request.toList ++ [low, high])).1 =
        .stored ⟨usbPidSetup, request, 8⟩ := by
  let token := [usbPidSetup, address, check]
  let data := usbPidData0 :: request.toList ++ [low, high]
  have htoken := rxLoop_getElem token d (i := 0) (by decide) rfl
  have haddress := rxLoop_getElem token d (i := 1) (by decide) rfl
  have hfirst : interrupt token d =
      (.silence, { rxLoop token d with usbCurrentTok := usbPidSetup }) := by
    rw [interrupt, se0_setup (by simp [token, usbBufsize]) htoken (by rw [haddress]; exact h)]
  generalize hd' : ({ rxLoop token d with usbCurrentTok := usbPidSetup } : Device A) = d' at hfirst
  have hsame : d'.usbCurrentTok = usbPidSetup ∧ d'.usbRxLen = 0 := by
    rw [← hd']
    exact ⟨rfl, hfree⟩
  have hlen : data.length = 11 := by simp [data]
  have hpid := rxLoop_getElem data d' (i := 0) (by decide) rfl
  have hpayload : payload ((rxLoop data d').usbRxBuf (rxLoop data d').usbInputBufOffset) =
      request := by
    apply Vector.ext
    intro i hi
    have hbyte : data[i + 1]? = some request[i] := by
      change (request.toList ++ [low, high])[i]? = _
      rw [List.getElem?_append_left (by rwa [Vector.length_toList]), Vector.getElem?_toList,
        Vector.getElem?_eq_getElem hi]
    have hindex : i + 1 < usbBufsize := by
      rw [usbBufsize]
      omega
    exact (Vector.getElem_ofFn hi).trans (rxLoop_getElem data d' hindex hbyte)
  refine ⟨congrArg Prod.fst hfirst, ?_⟩
  change (interrupt data (interrupt token d).2).1 = _
  rw [hfirst, interrupt, hlen, se0_data (by decide) hpid, handleData,
    if_neg (by rw [show (rxLoop data d').usbCurrentTok = _ from hsame.1]; decide),
    if_neg (not_not.mpr (show (rxLoop data d').usbRxLen = 0 from hsame.2)), if_neg (by decide)]
  change Answer.stored ⟨d'.usbCurrentTok, payload ((rxLoop data d').usbRxBuf
    (rxLoop data d').usbInputBufOffset.other.other), (11 : Nat).toUInt8 - 3⟩ = _
  rw [Half.other_other, hpayload, hsame.1]
  rfl

theorem Reaches.interrupted {d e : Device A} {log : List Answer}
    (h : Reaches usbFunctionSetup d ⟨none, ⟨e, log⟩⟩) (bytes : List UInt8) :
    Reaches usbFunctionSetup d ⟨none, ⟨(interrupt bytes e).2, log ++ [(interrupt bytes e).1]⟩⟩ :=
  Leads.tail h (l := .env bytes) trivial rfl

theorem leads_poll (e : Device A) (log : List Answer) :
    Leads (step (bus A) (usbPoll usbFunctionSetup)) (fun _ => True) ⟨none, ⟨e, log⟩⟩
      ⟨none, ⟨e.poll usbFunctionSetup, log⟩⟩ := by
  have hexec := exec_bus (usbPoll usbFunctionSetup) e log
  cases hresult : (exec alone (usbPoll usbFunctionSetup) e).1 with
  | error e => cases e
  | ok _ =>
    rw [hresult] at hexec
    have hround : Leads (step (bus A) (usbPoll usbFunctionSetup)) (Admits fun _ => True)
        ⟨none, ⟨e, log⟩⟩ ⟨none, ⟨e.poll usbFunctionSetup, log⟩⟩ := leads_round trivial hexec
    exact hround.mono fun _ _ => trivial

theorem Reaches.polled {d e : Device A} {log : List Answer}
    (h : Reaches usbFunctionSetup d ⟨none, ⟨e, log⟩⟩) :
    Reaches usbFunctionSetup d ⟨none, ⟨e.poll usbFunctionSetup, log⟩⟩ :=
  Leads.trans h (leads_poll e log)

/-- What the host does to fetch data is a part of a run. -/
theorem Fetches.reaches {d e e' : Device A} {answers log : List Answer}
    (hfetches : Fetches usbFunctionSetup e answers e')
    (h : Reaches usbFunctionSetup d ⟨none, ⟨e, log⟩⟩) :
    Reaches usbFunctionSetup d ⟨none, ⟨e', log ++ answers⟩⟩ := by
  induction hfetches generalizing log with
  | done e => rwa [List.append_nil]
  | ask address check haddress hrest ih =>
    have hnext := ih (h.polled.interrupted _)
    rwa [List.append_assoc] at hnext

/-- From whatever the device has been through: between two rounds and where no packet waits, the
host gets the whole reply to a request, packet by packet, and after it no more. -/
theorem transfer_completes (hreply : ∀ data a, (usbFunctionSetup data a).1 = 0) {d : Device A}
    (hd : d.IsIdle) {c : Config (bus A) Empty} (h : Reaches usbFunctionSetup d c)
    (hbetween : c.prog = none) (hfree : c.state.device.usbRxLen = 0) {address : UInt8}
    (haddress : address <<< 1 = c.state.device.usbDeviceAddr) (check : UInt8)
    (request : Vector UInt8 8) (low high : UInt8) {answers : List Answer} {d' : Device A}
    (hfetches : Fetches usbFunctionSetup
      (c.state.device.request [usbPidSetup, address, check]
        (usbPidData0 :: request.toList ++ [low, high])).2 answers d') :
    answers = answersOf (packets usbPidData1 (Packet.reply ⟨usbPidSetup, request, 8⟩
        (configured (stored c.state.log) d.driver.usbConfiguration))) answers.length ∧
      ((packets usbPidData1 (Packet.reply ⟨usbPidSetup, request, 8⟩
          (configured (stored c.state.log) d.driver.usbConfiguration))).length ≤ answers.length →
        assemble usbPidData1 (dataSent answers) = some (Packet.reply ⟨usbPidSetup, request, 8⟩
          (configured (stored c.state.log) d.driver.usbConfiguration))) ∧
      Reaches usbFunctionSetup d ⟨none, ⟨d',
        c.state.log ++ .silence :: .stored ⟨usbPidSetup, request, 8⟩ :: answers⟩⟩ := by
  have hsteady := h.steady hreply hd hbetween
  obtain ⟨prog, e, log⟩ := c
  obtain rfl : prog = none := hbetween
  obtain ⟨hsilence, hstored⟩ := request_stored (d := e) haddress hfree check request low high
  let p : Packet := ⟨usbPidSetup, request, 8⟩
  let token := [usbPidSetup, address, check]
  let data := usbPidData0 :: request.toList ++ [low, high]
  have hlog : Steady usbFunctionSetup d.toState
      ⟨(e.request token data).2, log ++ [.silence] ++ [.stored p]⟩ := by
    have hfirst := steady_stable ⟨e, log⟩ token _ hsteady rfl
    have hsecond := steady_stable _ data _ hfirst rfl
    rw [show (interrupt token e).1 = .silence from hsilence] at hsecond
    rw [show (interrupt data (interrupt token e).2).1 = .stored p from hstored] at hsecond
    exact hsecond
  have hp : p.IsSetup := ⟨rfl, rfl⟩
  have hleft : left usbFunctionSetup d.toState (log ++ [.silence] ++ [.stored p]) =
      packets usbPidData1 (p.reply (configured (stored log) d.driver.usbConfiguration)) := by
    have hnone : ∀ q ∈ stored [], ¬q.IsSetup := fun q hq => by cases hq
    have hsent : sentSince (log ++ [.silence] ++ [.stored p]) = [] :=
      sentSince_transfer (log ++ [.silence]) hp hnone
    have hps : stored (log ++ [.silence] ++ [.stored p]) = stored log ++ [p] := by
      rw [stored_concat, stored_concat]
      simp [Answer.packet]
    rw [left, hsent, hps]
    exact expected_transfer hreply d.toState (stored log) hp fun q hq => by cases hq
  have hanswers := hfetches.answers hreply hlog
  rw [hleft] at hanswers
  refine ⟨hanswers, fun henough => ?_, ?_⟩
  · rw [hanswers, dataSent_answersOf, List.take_of_length_le henough, assemble_packets]
  have hrun := hfetches.reaches ((h.interrupted token).interrupted data)
  rw [show (interrupt token e).1 = .silence from hsilence,
    show (interrupt data (interrupt token e).2).1 = .stored p from hstored] at hrun
  simpa using hrun

end Completion
end SomethingsWrong.UsbDriver
