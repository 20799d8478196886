import SomethingsWrong.Firmware.Board

/-! The two ends of the bus: the controller program on the host, the firmware on the board.
libusb and the host controller are any that do what they are there for: a transfer that does not
fail is one that the device has acknowledged, and it returns what the device has sent. Nobody but
the controller asks anything of the lamp while it runs. -/
namespace SomethingsWrong.Firmware
open Program Controller UsbDriver LabelledRun Interleaving
open FlashLight (Command)

section Log

/-- While these answers are given the main loop of the board goes on. -/
structure Session (b b' : Bus UInt8) (log : List Answer) : Prop where
  leads : Leads (step (bus UInt8) (usbPoll usbFunctionSetup)) (fun _ => True) ⟨none, b⟩ ⟨none, b'⟩
  log_eq : b'.log = b.log ++ log

/-- Nothing has been asked of the lamp. -/
def Quiet (b b' : Bus UInt8) : Prop := ∃ log, Session b b' log ∧ ∀ p ∈ stored log, commanded p = none

theorem Session.trans {b b' b'' : Bus UInt8} {log log' : List Answer} (h : Session b b' log)
    (h' : Session b' b'' log') : Session b b'' (log ++ log') :=
  ⟨h.leads.trans h'.leads, by rw [h'.log_eq, h.log_eq, List.append_assoc]⟩

theorem Session.interrupted (d : UsbDriver.Device UInt8) (log : List Answer) (bytes : List UInt8) :
    Session ⟨d, log⟩ ⟨(interrupt bytes d).2, log ++ [(interrupt bytes d).1]⟩
      [(interrupt bytes d).1] :=
  ⟨Leads.single (l := .env bytes) trivial rfl, rfl⟩

theorem Quiet.refl (b : Bus UInt8) : Quiet b b :=
  ⟨[], ⟨Leads.refl _, (List.append_nil _).symm⟩, fun _ hp => by cases hp⟩

theorem Quiet.trans {b b' b'' : Bus UInt8} (h : Quiet b b') (h' : Quiet b' b'') : Quiet b b'' := by
  obtain ⟨log, hsession, hnone⟩ := h
  obtain ⟨log', hsession', hnone'⟩ := h'
  refine ⟨log ++ log', hsession.trans hsession', ?_⟩
  intro p hp
  rw [stored_append] at hp
  exact (List.mem_append.mp hp).elim (hnone p) (hnone' p)

/-- A control transfer that has not failed: the device has acknowledged the request, no other
request has come after it, and the bytes are those of the data packets sent since. -/
def Transferred (request : Packet) (reply : Reply) (log : List Answer) : Prop :=
  ∃ before after bytes, log = before ++ .stored request :: after ∧
    (∀ q ∈ stored after, ¬q.IsSetup) ∧
    assemble usbPidData1 (dataSent after) = some bytes ∧
    reply.count = bytes.length ∧ ∀ i (hi : i < bytes.length), reply.bytes i = bytes[i]

theorem lastCommanded_append (ps qs : List Packet) :
    lastCommanded (ps ++ qs) = (lastCommanded qs).or (lastCommanded ps) := by
  rw [lastCommanded, List.filterMap_append, List.getLast?_append]
  rfl

theorem lastCommanded_of_none {ps : List Packet} (h : ∀ p ∈ ps, commanded p = none) :
    lastCommanded ps = none := by
  rw [lastCommanded, List.filterMap_eq_nil_iff.mpr h]
  rfl

theorem commanded_of_not_setup {p : Packet} (h : ¬p.IsSetup) : commanded p = none :=
  if_neg fun hp => h ⟨hp.1, hp.2.1⟩

/-- What the device has answered last is no acknowledgement of a command. -/
def Settled (log : List Answer) : Prop :=
  sentSince log ≠ [] ∨ ∀ p, (stored log).getLast? = some p → commanded p = none

theorem Settled.quiet {log more : List Answer} (h : Settled log)
    (hnone : ∀ p ∈ stored more, commanded p = none) : Settled (log ++ more) := by
  by_cases hmore : stored more = []
  · have hsame : stored (log ++ more) = stored log := by rw [stored_append, hmore, List.append_nil]
    rcases h with hsent | hlast
    · left
      have hsetup : ∀ q ∈ stored more, ¬q.IsSetup := by
        rw [hmore]
        exact fun q hq => by cases hq
      rw [sentSince, List.foldl_append, foldl_account hsetup]
      exact fun hnil => hsent (List.append_eq_nil_iff.mp hnil).1
    · right
      rwa [hsame]
  · right
    intro p hp
    rw [stored_append, List.getLast?_append_of_ne_nil _ hmore] at hp
    exact hnone p (List.mem_of_getLast? hp)

/-- The steps of a run do not depend on what the device has answered before. -/
theorem leads_relog {round : Code UInt8 Unit} {c c' : Config (bus UInt8) Empty}
    (h : Leads (step (bus UInt8) round) (fun _ => True) c c') (log : List Answer) :
    ∃ more, c'.state.log = c.state.log ++ more ∧
      Leads (step (bus UInt8) round) (fun _ => True) ⟨c.prog, ⟨c.state.device, log⟩⟩
        ⟨c'.prog, ⟨c'.state.device, log ++ more⟩⟩ := by
  refine h.invariant (I := fun t => ∃ more, t.state.log = c.state.log ++ more ∧
    Leads (step (bus UInt8) round) (fun _ => True) ⟨c.prog, ⟨c.state.device, log⟩⟩
      ⟨t.prog, ⟨t.state.device, log ++ more⟩⟩) ?_ ?_
  · refine ⟨[], (List.append_nil _).symm, ?_⟩
    rw [List.append_nil]
    exact Leads.refl _
  · intro t l t' ht _ hs
    obtain ⟨more, hlog, hleads⟩ := ht
    obtain ⟨prog, d, log'⟩ := t
    obtain ⟨rfl, rfl, rfl⟩ | ⟨line, op, k, rfl, rfl, rfl⟩ | ⟨rfl, rfl, rfl⟩ |
      ⟨bytes, s', rfl, hs', rfl⟩ := step_cases hs
    · exact ⟨more, hlog, hleads.tail (l := .begin) trivial rfl⟩
    · exact ⟨more, hlog, hleads.tail (l := .perform line) trivial rfl⟩
    · exact ⟨more, hlog, hleads.tail (l := .finish) trivial rfl⟩
    · obtain rfl := Option.some.inj hs'
      refine ⟨more ++ [(interrupt bytes d).1], ?_, ?_⟩
      · change log' ++ [_] = _
        rw [show log' = c.state.log ++ more from hlog, List.append_assoc]
      · rw [← List.append_assoc]
        exact hleads.tail (l := .env bytes) trivial rfl

theorem stored_data (l : List (List UInt8)) : stored (l.map .data) = [] := by
  apply List.filterMap_eq_nil_iff.mpr
  intro a ha
  obtain ⟨bytes, -, rfl⟩ := List.mem_map.mp ha
  rfl

theorem sentSince_data (l : List (List UInt8)) : sentSince (l.map .data) = l := by
  induction l using List.reverseRecOn with
  | nil => rfl
  | append_singleton l bytes ih =>
    rw [List.map_append, List.map_singleton, sentSince_concat, ih]
    rfl

/-- Where nothing waits, what has been processed so far is in the variables: the log may begin
again, with no more than the data packets of the transfer under way. -/
theorem restart {s₀ : State UInt8} {b : Bus UInt8} (h : Steady usbFunctionSetup s₀ b)
    (hfree : b.device.usbRxLen = 0) : ∃ s₁, s₁.user = b.device.user ∧
      Steady usbFunctionSetup s₁ ⟨b.device, (sentSince b.log).map .data⟩ := by
  obtain ⟨-, ps, sent, hinput, hserves⟩ := h
  have hsent : sentSince b.log = sent := by
    cases hinput with
    | free hlen hps hsent => exact hsent
    | full hfull hps hsent => exact absurd hfree hfull.cases.1
  have hserves' : Serves usbFunctionSetup (receive usbFunctionSetup ps s₀) [] sent b.device :=
    ⟨hserves.user, hserves.configuration, hserves.idle, hserves.sendable, hserves.complete⟩
  rw [hsent]
  refine ⟨receive usbFunctionSetup ps s₀, hserves.user.symm, ?_, [], sent,
    .free hfree (stored_data sent) (sentSince_data sent), hserves'⟩
  intro l hl
  obtain ⟨k, rfl⟩ : ∃ k, l = (sent.take k).map .data := by
    rw [List.prefix_iff_eq_take] at hl
    exact ⟨l.length, by rw [List.map_take]; exact hl⟩
  rw [stored_data, sentSince_data, ← hserves'.complete]
  exact (List.take_prefix k sent).trans (List.prefix_append ..)

/-- A session that finds nothing waiting: the lamp shows what it has stored, but for what may
still wait at the end. -/
theorem Session.shows {s₀ : State UInt8} {b b' : Bus UInt8} {log : List Answer}
    (h : Session b b' log) (hsteady : Steady usbFunctionSetup s₀ b)
    (hfree : b.device.usbRxLen = 0) {i : Nat} (hi : i < 8) : ∃ ps, ps <+: stored log ∧
      bit b'.device.user i =
        if i = 0 then (lastCommanded ps).getD (bit b.device.user 0) else bit b.device.user i := by
  obtain ⟨s₁, huser, hagain⟩ := restart hsteady hfree
  obtain ⟨more, hlog, hleads⟩ := leads_relog h.leads ((sentSince b.log).map .data)
  obtain rfl : log = more := List.append_cancel_left (h.log_eq.symm.trans hlog)
  obtain ⟨ps, hps, huser', -⟩ := (hagain.leads usbFunctionSetup_reply hleads).processed
  rw [stored_append, stored_data, List.nil_append] at hps
  refine ⟨ps, ⟨_, hps.symm⟩, ?_⟩
  rw [huser', receive_bit ps _ hi, huser]

/-- What has been acknowledged and is settled has been done. -/
theorem Settled.shows {portB : UInt8} {b : Bus UInt8} (h : Settled b.log)
    (hsteady : Steady usbFunctionSetup (board portB).toState b) {i : Nat} (hi : i < 8) :
    bit b.device.user i =
      if i = 0 then (lastCommanded (stored b.log)).getD (bit portB 0) else bit portB i := by
  obtain ⟨-, ps, sent, hinput, hserves⟩ := hsteady
  have hsame : lastCommanded (stored b.log) = lastCommanded ps := by
    cases hinput with
    | free hlen hps hsent => rw [hps]
    | full hfull hps hsent =>
      have hpending : commanded b.device.pending = none := by
        rcases h with hsent' | hlast
        · by_cases hsetup : b.device.pending.IsSetup
          · exact absurd (hsent.trans (if_pos hsetup)) hsent'
          · exact commanded_of_not_setup hsetup
        · apply hlast
          rw [hps, List.getLast?_concat]
      have hnone : ∀ p ∈ [b.device.pending], commanded p = none := by simpa using hpending
      rw [hps, lastCommanded_append, lastCommanded_of_none hnone, Option.none_or]
  rw [hserves.user, receive_bit ps _ hi, hsame]
  rfl

end Log

section Wire
variable {ν H σ : Type}

/-- The requests that the controller sends: for a descriptor, and for the lamp. -/
def IsRequest (m : ControlMsg) : Prop :=
  (∃ index langid, m = Controller.getDescriptor index langid) ∨
    m = vendorRequest Controller.usbPb0On ∨ m = vendorRequest Controller.usbPb0Off

/-- libusb with the board behind one of its handles, the board as it is at the end of the round of
its main loop. Nobody else asks anything of the lamp. The requests ask for more than the board has,
so that a reply ends with a packet that is not full. -/
structure Attached (libusb : σ → (op : Op ν H) → op.Answer × σ) (device : σ → Bus UInt8)
    (handle : H) : Prop where
  transfer : ∀ s m, IsRequest m → ∃ log,
    Session (device s) (device (libusb s (.usbControlMsg handle m)).2) log ∧
      (∀ p ∈ stored log, p = setupPacket m ∨ commanded p = none) ∧
      (0 ≤ (libusb s (.usbControlMsg handle m)).1.count →
        Transferred (setupPacket m) (libusb s (.usbControlMsg handle m)).1 log)
  other : ∀ s op, (∀ m, op ≠ .usbControlMsg handle m) → Quiet (device s) (device (libusb s op).2)

/-- A whole answer of these bytes. -/
def wholeReply (bytes : List UInt8) : Reply := ⟨bytes.length, fun i => bytes.getD i 0⟩

/-- What the host knows of a device from its descriptor. -/
def describedBy (bytes : List UInt8) : DeviceDescriptor where
  idVendor := (bytes.getD 8 0).toUInt16 ||| (bytes.getD 9 0).toUInt16 <<< 8
  idProduct := (bytes.getD 10 0).toUInt16 ||| (bytes.getD 11 0).toUInt16 <<< 8
  iManufacturer := bytes.getD 14 0
  iProduct := bytes.getD 15 0

instance : DecidableEq Packet := fun p q =>
  decidable_of_iff (p.token = q.token ∧ p.data = q.data ∧ p.len = q.len) <| by
    cases p
    cases q
    simp

/-- A host that asks for data, each time after a round of the main loop. -/
def fetch : Nat → UsbDriver.Device UInt8 → List Answer × UsbDriver.Device UInt8
  | 0, d => ([], d)
  | n + 1, d =>
    let asked := interrupt [usbPidIn, 0, 0] (d.poll usbFunctionSetup)
    (asked.1 :: (fetch n asked.2).1, (fetch n asked.2).2)

/-- A control transfer with the board at address zero. -/
@[irreducible] def controlTransfer (m : ControlMsg) (b : Bus UInt8) : Reply × Bus UInt8 :=
  let token := interrupt [usbPidSetup, 0, 0] b.device
  let data := interrupt (usbPidData0 :: (setupPacket m).data.toList ++ [0, 0]) token.2
  let fetched := fetch 5 data.2
  match assemble usbPidData1 (dataSent fetched.1) with
  | none => (⟨-1, fun _ => 0⟩, b)
  | some bytes =>
    if stored [token.1] = [] ∧ data.1.packet = some (setupPacket m) ∧ stored fetched.1 = [] then
      (wholeReply bytes, ⟨fetched.2, b.log ++ token.1 :: data.1 :: fetched.1⟩)
    else (⟨-1, fun _ => 0⟩, b)

/-- The board alone on a bus. -/
def wired (b : Bus UInt8) : (op : Op Unit Unit) → op.Answer × Bus UInt8
  | .usbInit => ((), b)
  | .usbFindBusses => ((), b)
  | .usbFindDevices => ((), b)
  | .usbGetBusses => ([[⟨describedBy Descriptor.device.bytes, ()⟩]], b)
  | .usbOpen _ => (some (), b)
  | .usbClose _ => ((), b)
  | .usbControlMsg _ m => controlTransfer m b
  | .usbStrerror => ("", b)
  | .fprintf _ _ => ((), b)
  | .uninitialized => (fun _ => 0, b)

theorem packet_eq_some {a : Answer} {p : Packet} (h : a.packet = some p) : a = .stored p := by
  cases a with
  | stored q => rw [Option.some.inj h]
  | silence => cases h
  | handshake pid => cases h
  | data bytes => cases h

theorem fetch_session (n : Nat) (d : UsbDriver.Device UInt8) (log : List Answer) :
    Session ⟨d, log⟩ ⟨(fetch n d).2, log ++ (fetch n d).1⟩ (fetch n d).1 := by
  induction n generalizing d log with
  | zero =>
    rw [show log ++ (fetch 0 d).1 = log from List.append_nil log]
    exact ⟨Leads.refl _, (List.append_nil _).symm⟩
  | succ n ih =>
    have hpoll : Session ⟨d, log⟩ ⟨d.poll usbFunctionSetup, log⟩ [] :=
      ⟨leads_poll d log, (List.append_nil _).symm⟩
    have hrest := ih (interrupt [usbPidIn, 0, 0] (d.poll usbFunctionSetup)).2
      (log ++ [(interrupt [usbPidIn, 0, 0] (d.poll usbFunctionSetup)).1])
    have hsession := (hpoll.trans (Session.interrupted _ _ [usbPidIn, 0, 0])).trans hrest
    rw [List.append_assoc] at hsession
    exact hsession

theorem controlTransfer_session (m : ControlMsg) (b : Bus UInt8) :
    ∃ log, Session b (controlTransfer m b).2 log ∧
      (∀ p ∈ stored log, p = setupPacket m ∨ commanded p = none) ∧
      (0 ≤ (controlTransfer m b).1.count →
        Transferred (setupPacket m) (controlTransfer m b).1 log) := by
  have hfailed : ∃ log, Session b b log ∧
      (∀ p ∈ stored log, p = setupPacket m ∨ commanded p = none) ∧
      (0 ≤ (-1 : Int) → Transferred (setupPacket m) ⟨-1, fun _ => 0⟩ log) :=
    ⟨[], ⟨Leads.refl _, (List.append_nil _).symm⟩, (fun _ hp => by cases hp), fun h => by omega⟩
  unfold controlTransfer
  dsimp only
  split
  · exact hfailed
  · rename_i bytes hbytes
    split_ifs with hanswers
    · obtain ⟨htoken, hdata, hfetched⟩ := hanswers
      let token := interrupt [usbPidSetup, 0, 0] b.device
      let data := interrupt (usbPidData0 :: (setupPacket m).data.toList ++ [0, 0]) token.2
      have hstored : data.1 = .stored (setupPacket m) := packet_eq_some hdata
      have hsession := ((Session.interrupted b.device b.log [usbPidSetup, 0, 0]).trans
        (Session.interrupted token.2 _ (usbPidData0 :: (setupPacket m).data.toList ++ [0, 0]))).trans
        (fetch_session 5 data.2 _)
      have hlog : stored (token.1 :: data.1 :: (fetch 5 data.2).1) = [setupPacket m] := by
        rw [show token.1 :: data.1 :: (fetch 5 data.2).1 =
          [token.1] ++ ([data.1] ++ (fetch 5 data.2).1) from rfl, stored_append, stored_append,
          htoken, hfetched, hstored]
        rfl
      rw [List.append_assoc, List.append_assoc] at hsession
      refine ⟨token.1 :: data.1 :: (fetch 5 data.2).1, hsession, ?_, fun _ =>
        ⟨[token.1], (fetch 5 data.2).1, bytes, ?_, ?_, hbytes, rfl, ?_⟩⟩
      · intro p hp
        left
        rw [hlog] at hp
        exact List.mem_singleton.mp hp
      · rw [← hstored]
        rfl
      · rw [hfetched]
        exact fun q hq => by cases hq
      · intro i hi
        exact (List.getElem_eq_getD 0).symm
    · exact hfailed

theorem wired_attached : Attached wired id () where
  transfer b m _ := controlTransfer_session m b
  other b op hop := by
    cases op with
    | usbControlMsg handle m => exact absurd rfl (hop m)
    | _ => exact Quiet.refl b

/-- The board before anything has come over the bus. -/
def fresh (portB : UInt8) : Bus UInt8 := ⟨board portB, []⟩

end Wire

section Run
variable {ν H σ : Type} {libusb : σ → (op : Op ν H) → op.Answer × σ} {device : σ → Bus UInt8}
  {handle : H}

theorem commanded_getDescriptor (index langid : Nat) :
    commanded (setupPacket (getDescriptor index langid)) = none :=
  if_neg fun h => h.2.2 (show (0x80 : UInt8) &&& usbRqTypeMask = usbRqTypeStandard by decide)

theorem commanded_vendorRequest {argv : List (List UInt8)} {request : Nat}
    (h : requested argv = some request) :
    commanded (setupPacket (vendorRequest request)) =
      some (decide (requested argv = some Controller.usbPb0On)) := by
  rw [h]
  unfold requested at h
  split_ifs at h with hon hoff
  · obtain rfl := Option.some.inj h
    rfl
  · obtain rfl := Option.some.inj h
    rfl

theorem isRequest_of_requested {argv : List (List UInt8)} {request : Nat}
    (h : requested argv = some request) : IsRequest (vendorRequest request) := by
  unfold requested at h
  split_ifs at h
  · exact .inr (.inl (congrArg vendorRequest (Option.some.inj h).symm))
  · exact .inr (.inr (congrArg vendorRequest (Option.some.inj h).symm))

theorem Attached.asks (h : Attached libusb device handle) {op : Op ν H} (hop : Asks op) (s : σ) :
    Quiet (device s) (device (libusb s op).2) := by
  by_cases hhandle : ∃ m, op = .usbControlMsg handle m
  · obtain ⟨m, rfl⟩ := hhandle
    obtain ⟨index, langid, rfl⟩ := hop
    obtain ⟨log, hsession, hstored, -⟩ :=
      h.transfer s (getDescriptor index langid) (.inl ⟨index, langid, rfl⟩)
    refine ⟨log, hsession, ?_⟩
    intro p hp
    rcases hstored p hp with rfl | hnone
    · exact commanded_getDescriptor index langid
    · exact hnone
  · exact h.other s op fun m hm => hhandle ⟨m, hm⟩

theorem Attached.within (h : Attached libusb device handle) {α : Type} {p : UsbM ν H α}
    (hp : p.Within Asks) (s : σ) : Quiet (device s) (device (Prog.exec libusb p s).2) := by
  have hkeeps : ∀ s' op, Asks op → Quiet (device s) (device s') →
      Quiet (device s) (device (libusb s' op).2) :=
    fun s' op hop hquiet => hquiet.trans (h.asks hop s')
  exact hp.exec_invariant libusb hkeeps (Quiet.refl _)

theorem within_report (handle : H) (nBytes : Int) :
    (report handle nBytes : UsbM ν H Nat).Within Asks := by
  unfold report
  split
  · exact ⟨trivial, fun _ => ⟨trivial, fun _ => ⟨trivial, fun _ => trivial⟩⟩⟩
  · exact ⟨trivial, fun _ => trivial⟩

theorem exec_main_selected {argv : List (List UInt8)} {param : List UInt8}
    (hparam : argv[1]? = some param) {s s' : σ}
    (hopen : Prog.exec libusb openController s = (.ok (some handle), s')) :
    (Prog.exec libusb (main argv) s).2 = match requested argv with
      | some request => (Prog.exec libusb (report handle
          (libusb s' (.usbControlMsg handle (vendorRequest request))).1.count)
          (libusb s' (.usbControlMsg handle (vendorRequest request))).2).2
      | none => (Prog.exec libusb (report handle 0) s').2 := by
  have hother : literal "off" ≠ literal "on" := by decide
  unfold main requested
  simp only [hparam, Prog.exec_bind, hopen, Option.some.injEq]
  by_cases hon : param = literal "on"
  · simp only [hon, ↓reduceIte]
    rfl
  · by_cases hoff : param = literal "off"
    · simp only [hoff, hother, ↓reduceIte]
      rfl
    · simp only [hon, hoff, ↓reduceIte]
      rfl

/-- A run of the controller: either it asks nothing of the lamp, or it sends the board the
request that its argument names, once. -/
theorem main_cases (h : Attached libusb device handle) (argv : List (List UInt8)) (s : σ) :
    (Quiet (device s) (device (Prog.exec libusb (main argv) s).2) ∧
        ∀ e ∈ vendorRequests (Prog.transcript libusb (main argv) s), e.1 ≠ handle) ∨
      ∃ request s', requested argv = some request ∧ Quiet (device s) (device s') ∧
        Quiet (device (libusb s' (.usbControlMsg handle (vendorRequest request))).2)
          (device (Prog.exec libusb (main argv) s).2) ∧
        vendorRequests (Prog.transcript libusb (main argv) s) = [(handle, vendorRequest request,
          (libusb s' (.usbControlMsg handle (vendorRequest request))).1.count)] := by
  have hprint (s : σ) (stream : Stream) (text : String) :
      Quiet (device s) (device (libusb s (.fprintf stream text)).2) :=
    h.asks (show Asks (.fprintf stream text : Op ν H) from trivial) s
  cases hparam : argv[1]? with
  | none =>
    left
    simp only [main, hparam]
    exact ⟨((hprint _ _ _).trans (hprint _ _ _)).trans (hprint _ _ _), fun e he => by cases he⟩
  | some param =>
    obtain ⟨selected, s', hopen, hnone⟩ := openController_spec libusb s
    have hsearch : Quiet (device s) (device s') := by
      have hquiet := h.within (within_usbOpenDevice 0x16C0 (literal "Krzysztof Walach") 0x05DC
        (literal "Something's Wrong!")) s
      rw [show Prog.exec libusb (usbOpenDevice _ _ _ _) s = _ from hopen] at hquiet
      exact hquiet
    cases selected with
    | none =>
      left
      simp only [main, hparam, Prog.exec_bind, Prog.transcript_bind, hopen, vendorRequests_append,
        hnone]
      exact ⟨hsearch.trans (hprint _ _ _), fun e he => by cases he⟩
    | some selected =>
      have hexec := exec_main_selected hparam hopen
      have hsent := (main_selected hparam hopen).2
      cases hrequest : requested argv with
      | none =>
        left
        rw [hrequest] at hexec hsent
        rw [hexec, hsent]
        exact ⟨hsearch.trans (h.within (within_report selected 0) s'), fun e he => by cases he⟩
      | some request =>
        rw [hrequest] at hexec hsent
        rw [hexec, hsent]
        by_cases hselected : selected = handle
        · right
          subst hselected
          exact ⟨request, s', rfl, hsearch, h.within (within_report selected _) _, rfl⟩
        · left
          have hother := h.other s' (.usbControlMsg selected (vendorRequest request)) fun m hm =>
            hselected (by cases hm; rfl)
          refine ⟨(hsearch.trans hother).trans (h.within (within_report selected _) _), ?_⟩
          intro e he
          rw [List.mem_singleton.mp he]
          exact hselected

end Run

section Lamp
variable {ν H σ : Type} {libusb : σ → (op : Op ν H) → op.Answer × σ} {device : σ → Bus UInt8}
  {handle : H} {portB : UInt8} {s : σ}

theorem Transferred.settled {request : Packet} {reply : Reply} {log : List Answer}
    (h : Transferred request reply log) (hsetup : request.IsSetup) (log₀ : List Answer) :
    Settled (log₀ ++ log) ∧ lastCommanded (stored log) =
      (commanded request).or (lastCommanded (stored log)) := by
  obtain ⟨before, after, bytes, rfl, hafter, hbytes, -⟩ := h
  refine ⟨Or.inl ?_, ?_⟩
  · rw [← List.append_assoc, sentSince_transfer (log₀ ++ before) hsetup hafter]
    intro hnil
    rw [hnil] at hbytes
    cases hbytes
  · have hstored : stored (before ++ .stored request :: after) =
        stored before ++ ([request] ++ stored after) := by
      rw [stored_append]
      rfl
    have hlast : lastCommanded (stored after) = none :=
      lastCommanded_of_none fun q hq => commanded_of_not_setup (hafter q hq)
    rw [hstored, lastCommanded_append, lastCommanded_append, hlast, Option.none_or]
    cases hcommand : commanded request <;> simp [lastCommanded, hcommand]

theorem Session.reaches {b b' : Bus UInt8} {log : List Answer} (h : Session b b' log)
    (hstart : UsbDriver.Reaches usbFunctionSetup (board portB) ⟨none, b⟩) :
    UsbDriver.Reaches usbFunctionSetup (board portB) ⟨none, b'⟩ := hstart.trans h.leads

theorem Quiet.reaches {b b' : Bus UInt8} (h : Quiet b b')
    (hstart : UsbDriver.Reaches usbFunctionSetup (board portB) ⟨none, b⟩) :
    UsbDriver.Reaches usbFunctionSetup (board portB) ⟨none, b'⟩ := by
  obtain ⟨log, hsession, -⟩ := h
  exact hsession.reaches hstart

theorem Quiet.lastCommanded {b b' : Bus UInt8} (h : Quiet b b') :
    lastCommanded (stored b'.log) = lastCommanded (stored b.log) := by
  obtain ⟨log, hsession, hnone⟩ := h
  rw [hsession.log_eq, stored_append, lastCommanded_append, lastCommanded_of_none hnone,
    Option.none_or]

theorem Quiet.settled {b b' : Bus UInt8} (h : Quiet b b') (hsettled : Settled b.log) :
    Settled b'.log := by
  obtain ⟨log, hsession, hnone⟩ := h
  rw [hsession.log_eq]
  exact hsettled.quiet hnone

theorem switches_of_sent (h : Attached libusb device handle)
    (hstart : UsbDriver.Reaches usbFunctionSetup (board portB) ⟨none, device s⟩)
    (argv : List (List UInt8)) {message : ControlMsg} {result : Int}
    (hsent : (handle, message, result) ∈
      vendorRequests (Prog.transcript libusb (main argv) s)) (hresult : 0 ≤ result) {i : Nat}
    (hi : i < 8) : bit (device (Prog.exec libusb (main argv) s).2).device.user i =
      if i = 0 then decide (requested argv = some Controller.usbPb0On) else bit portB i := by
  obtain ⟨-, hnone⟩ | ⟨request, s', hrequest, hbefore, hafter, hone⟩ := main_cases h argv s
  · exact absurd rfl (hnone _ hsent)
  · rw [hone] at hsent
    obtain rfl : result = _ := (Prod.mk.inj (Prod.mk.inj (List.mem_singleton.mp hsent)).2).2
    obtain ⟨log, hsession, -, htransferred⟩ :=
      h.transfer s' (vendorRequest request) (isRequest_of_requested hrequest)
    obtain ⟨hsettled, hlast⟩ := (htransferred hresult).settled ⟨rfl, rfl⟩ (device s').log
    rw [← hsession.log_eq] at hsettled
    rw [commanded_vendorRequest hrequest, Option.some_or] at hlast
    have hreaches := hafter.reaches (hsession.reaches (hbefore.reaches hstart))
    have hshows := (hafter.settled hsettled).shows
      (hreaches.steady usbFunctionSetup_reply (board_isIdle portB) rfl) hi
    rw [hshows, hafter.lastCommanded, hsession.log_eq, stored_append, lastCommanded_append, hlast]
    rfl

/-- A run of the controller that gets its request to the board has switched the lamp when it
ends, and only the lamp, whatever the board was doing and whatever else is on the bus, as long as
nobody else asks anything of the lamp. -/
theorem controller_switches_lamp (h : Attached libusb device handle)
    (hstart : UsbDriver.Reaches usbFunctionSetup (board portB) ⟨none, device s⟩)
    (argv : List (List UInt8)) {message : ControlMsg} {result : Int}
    (hsent : (handle, message, result) ∈
      vendorRequests (Prog.transcript libusb (main argv) s)) (hresult : 0 ≤ result) {i : Nat}
    (hi : i < 8) : bit (device (Prog.exec libusb (main argv) s).2).device.user i =
      if i = 0 then decide (requested argv = some Controller.usbPb0On) else bit portB i :=
  switches_of_sent h hstart argv hsent hresult hi

theorem controller_switches_lamp_on :
    bit (Prog.exec wired (main [[], literal "on"]) (fresh 2)).2.device.user 0 =
      decide (requested [[], literal "on"] = some Controller.usbPb0On) :=
  controller_switches_lamp wired_attached (Leads.refl _) _
    (show ((), vendorRequest Controller.usbPb0On, (0 : Int)) ∈
      vendorRequests (Prog.transcript wired (main [[], literal "on"]) (fresh 2)) by decide +kernel)
    (by decide) (show 0 < 8 by decide)

theorem lastCommanded_of_known {ps : List Packet} {on : Bool}
    (h : ∀ p ∈ ps, commanded p = some on ∨ commanded p = none) :
    lastCommanded ps = some on ∨ lastCommanded ps = none := by
  cases hlast : lastCommanded ps with
  | none => exact .inr rfl
  | some last =>
    obtain ⟨p, hp, hcommand⟩ := List.mem_filterMap.mp (List.mem_of_getLast? hlast)
    rcases h p hp with hon | hnone
    · exact .inl (hcommand.symm.trans hon)
    · rw [hnone] at hcommand
      cases hcommand

/-- However a run of the controller fails, on the way to the board or with it: if nothing waited
when it began, the lamp is as it was or as the argument asks, and the other pins are as they were. -/
theorem controller_only_obeys (h : Attached libusb device handle)
    (hstart : UsbDriver.Reaches usbFunctionSetup (board portB) ⟨none, device s⟩)
    (hfree : (device s).device.usbRxLen = 0) (argv : List (List UInt8)) {i : Nat} (hi : i < 8) :
    bit (device (Prog.exec libusb (main argv) s).2).device.user i = bit (device s).device.user i ∨
      i = 0 ∧ ∃ request, requested argv = some request ∧
        bit (device (Prog.exec libusb (main argv) s).2).device.user i =
          decide (request = Controller.usbPb0On) := by
  have hsteady := hstart.steady usbFunctionSetup_reply (board_isIdle portB) rfl
  obtain ⟨⟨log, hsession, hnone⟩, -⟩ | ⟨request, s', hrequest, hbefore, hafter, -⟩ :=
    main_cases h argv s
  · left
    obtain ⟨ps, hps, hshows⟩ := hsession.shows hsteady hfree hi
    rw [hshows, lastCommanded_of_none fun p hp => hnone p (hps.subset hp), Option.getD_none]
    split_ifs with hzero
    · rw [hzero]
    · rfl
  · obtain ⟨log₁, hsession₁, hnone₁⟩ := hbefore
    obtain ⟨log₂, hsession₂, hstored, -⟩ :=
      h.transfer s' (vendorRequest request) (isRequest_of_requested hrequest)
    obtain ⟨log₃, hsession₃, hnone₃⟩ := hafter
    obtain ⟨ps, hps, hshows⟩ :=
      ((hsession₁.trans hsession₂).trans hsession₃).shows hsteady hfree hi
    have hcommand := commanded_vendorRequest hrequest
    have hknown : ∀ p ∈ ps, commanded p =
        some (decide (requested argv = some Controller.usbPb0On)) ∨ commanded p = none := by
      intro p hp
      have hmem := hps.subset hp
      rw [stored_append, stored_append, List.mem_append, List.mem_append] at hmem
      rcases hmem with (hmem | hmem) | hmem
      · exact .inr (hnone₁ p hmem)
      · rcases hstored p hmem with rfl | hnone
        · exact .inl hcommand
        · exact .inr hnone
      · exact .inr (hnone₃ p hmem)
    by_cases hzero : i = 0
    · rw [if_pos hzero] at hshows
      rcases lastCommanded_of_known hknown with hasked | hnone
      · right
        refine ⟨hzero, request, hrequest, ?_⟩
        rw [hshows, hasked, hrequest]
        simp
      · left
        rw [hshows, hnone, hzero, Option.getD_none]
    · left
      rw [hshows, if_neg hzero]

/-- A word that the controller does not know. -/
theorem controller_only_obeys_unknown :
    bit (Prog.exec wired (main [[], literal "blink"]) (fresh 3)).2.device.user 0 = bit 3 0 ∨
      0 = 0 ∧ ∃ request, requested [[], literal "blink"] = some request ∧
        bit (Prog.exec wired (main [[], literal "blink"]) (fresh 3)).2.device.user 0 =
          decide (request = Controller.usbPb0On) :=
  controller_only_obeys wired_attached (Leads.refl _) rfl _ (show 0 < 8 by decide)

end Lamp

end SomethingsWrong.Firmware
