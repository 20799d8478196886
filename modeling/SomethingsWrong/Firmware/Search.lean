import SomethingsWrong.Firmware.Session

/-! The controller program finds the board: the descriptors that the firmware sends are those that
the search looks for. -/
namespace SomethingsWrong.Firmware
open Program Controller UsbDriver LabelledRun
open FlashLight (Command)

section Search
variable {ν H σ : Type} {libusb : σ → (op : Op ν H) → op.Answer × σ} {device : σ → Bus UInt8}
  {handle : H} {portB : UInt8} {s : σ}

/-- What the host reads is what the firmware has for this request. -/
theorem Attached.reads (h : Attached libusb device handle)
    (hstart : UsbDriver.Reaches usbFunctionSetup (board portB) ⟨none, device s⟩) {m : ControlMsg}
    (hm : IsRequest m) {bytes : List UInt8}
    (hreply : ∀ configuration, (setupPacket m).reply configuration = bytes)
    (hcount : 0 ≤ (libusb s (.usbControlMsg handle m)).1.count) :
    (libusb s (.usbControlMsg handle m)).1.count = bytes.length ∧
      ∀ i (hi : i < bytes.length), (libusb s (.usbControlMsg handle m)).1.bytes i = bytes[i] := by
  obtain ⟨log, hsession, -, htransferred⟩ := h.transfer s m hm
  obtain ⟨before, after, read, rfl, hafter, hread, hlen, hbytes⟩ := htransferred hcount
  have hright := (hsession.reaches hstart).right usbFunctionSetup_reply (board_isIdle portB)
  have hlog : (device (libusb s (.usbControlMsg handle m)).2).log =
      (device s).log ++ before ++ .stored (setupPacket m) :: (after ++ []) := by
    rw [hsession.log_eq, List.append_nil, List.append_assoc]
  have hprefix := begins_reply usbFunctionSetup_reply hright hlog ⟨rfl, rfl⟩ hafter
  have hsame : read = bytes := (assemble_begins hprefix hread).trans (hreply _)
  subst hsame
  exact ⟨hlen, hbytes⟩

theorem text_congr {r r' : Reply} (hcount : r.count = r'.count)
    (hbytes : ∀ i : Nat, (i : Int) < r.count → r.bytes i = r'.bytes i) (hpos : 0 < r.count) :
    r.text = r'.text := by
  have hunits : r.units = r'.units := by
    rw [Reply.units, Reply.units, hbytes 0 hpos, hcount]
  have hchars : r.chars = r'.chars := by
    rw [Reply.chars, Reply.chars, ← hunits]
    apply List.map_congr_left
    intro j hj
    have hj' : j < r.units := List.mem_range.mp hj
    rw [Reply.units] at hj'
    rw [hbytes (2 * j + 2) (by omega), hbytes (2 * j + 3) (by omega)]
  rw [Reply.text, Reply.text, hchars]

theorem carries_of_reads {r : Reply} {bytes name : List UInt8} (hcount : r.count = bytes.length)
    (hbytes : ∀ i (hi : i < bytes.length), r.bytes i = bytes[i])
    (h : Carries (wholeReply bytes) name) : Carries r name := by
  obtain ⟨htwo, htype, htext⟩ := h
  have hwhole (i : Nat) (hi : (i : Int) < r.count) : r.bytes i = (wholeReply bytes).bytes i := by
    have hlt : i < bytes.length := by omega
    rw [hbytes i hlt, List.getElem_eq_getD 0]
    rfl
  have hlen : (2 : Int) ≤ r.count := by rwa [hcount]
  refine ⟨hlen, (hwhole 1 (by omega)).trans htype, ?_⟩
  rw [text_congr hcount hwhole (by omega)]
  exact htext

/-- The names that the firmware has are those that the controller looks for. -/
theorem names_agree :
    Carries (wholeReply Descriptor.stringVendor.bytes) (literal "Krzysztof Walach") ∧
      Carries (wholeReply Descriptor.stringDevice.bytes) (literal "Something's Wrong!") := by
  decide

/-- No transfer with this handle fails. -/
def Succeeds (handle : H) : (Σ op : Op ν H, op.Answer) → Prop
  | ⟨.usbControlMsg h _, reply⟩ => h = handle → 0 ≤ reply.count
  | _ => True

instance [DecidableEq H] (handle : H) :
    DecidablePred (Succeeds (ν := ν) handle)
  | ⟨.usbControlMsg h _, reply⟩ => inferInstanceAs (Decidable (h = handle → 0 ≤ reply.count))
  | ⟨.usbInit, _⟩ => isTrue trivial
  | ⟨.usbFindBusses, _⟩ => isTrue trivial
  | ⟨.usbFindDevices, _⟩ => isTrue trivial
  | ⟨.usbGetBusses, _⟩ => isTrue trivial
  | ⟨.usbOpen _, _⟩ => isTrue trivial
  | ⟨.usbClose _, _⟩ => isTrue trivial
  | ⟨.usbStrerror, _⟩ => isTrue trivial
  | ⟨.fprintf _ _, _⟩ => isTrue trivial
  | ⟨.uninitialized, _⟩ => isTrue trivial

theorem Attached.reads_name (h : Attached libusb device handle)
    (hstart : UsbDriver.Reaches usbFunctionSetup (board portB) ⟨none, device s⟩) {index : Nat}
    {bytes name : List UInt8} (hreply : ∀ configuration,
      (setupPacket (Controller.getDescriptor index 0x0409)).reply configuration = bytes)
    (hcarries : Carries (wholeReply bytes) name) (hname : ∀ c ∈ name, c ≠ 0) (buf : Memory)
    (hφ : Prog.Throughout libusb (Succeeds handle)
      (usbGetDescriptorString handle index 0x0409 buf 256) s) :
    ∃ n buf' s', Prog.exec libusb (usbGetDescriptorString handle index 0x0409 buf 256) s =
        (.ok (n, buf'), s') ∧ ¬n < 0 ∧ strcmpEqual buf' 0 name = true ∧
      UsbDriver.Reaches usbFunctionSetup (board portB) ⟨none, device s'⟩ := by
  let m := Controller.getDescriptor index 0x0409
  let reply := (libusb s (.usbControlMsg handle m)).1
  have hcount : 0 ≤ reply.count := hφ _ (List.mem_singleton.mpr rfl) rfl
  have hm : IsRequest m := .inl ⟨index, 0x0409, rfl⟩
  obtain ⟨hlen, hbytes⟩ := h.reads hstart hm hreply hcount
  obtain ⟨htwo, htype, htext⟩ := carries_of_reads hlen hbytes hcarries
  obtain ⟨log, hsession, -⟩ := h.transfer s m hm
  have hexec : Prog.exec libusb (usbGetDescriptorString handle index 0x0409 buf 256) s =
      (.ok (storeString reply buf 256), (libusb s (.usbControlMsg handle m)).2) := rfl
  refine ⟨(storeString reply buf 256).1, (storeString reply buf 256).2, _, hexec, ?_, ?_,
    hsession.reaches hstart⟩
  · rw [storeString_neg_iff]
    exact Int.not_lt.mpr hcount
  · exact (strcmpEqual_stored ⟨hcount, htype⟩ buf hname).mpr htext

/-- The ids that the controller looks for. -/
def HasIds (dev : Controller.Device ν) : Prop :=
  (dev.descriptor.idVendor.toNat : Int) = 0x16C0 ∧ (dev.descriptor.idProduct.toNat : Int) = 0x05DC

/-- The board is the first device on the busses with its ids, and can be opened. -/
structure Listed (libusb : σ → (op : Op ν H) → op.Answer × σ) (own : Controller.Device ν)
    (handle : H) : Prop where
  descriptor : own.descriptor = describedBy Descriptor.device.bytes
  busses : ∀ s, ∃ pre post, List.flatten (libusb s .usbGetBusses).1 = pre ++ own :: post ∧
    ∀ dev ∈ pre, ¬HasIds dev
  opens : ∀ s, (libusb s (.usbOpen own)).1 = some handle

theorem wired_listed : Listed wired ⟨describedBy Descriptor.device.bytes, ()⟩ () where
  descriptor := rfl
  busses _ := ⟨[], [], rfl, fun _ hdev => by cases hdev⟩
  opens _ := rfl

variable {own : Controller.Device ν}

/-- `visitDevice` for the names and ids of the controller. -/
def visit (dev : Controller.Device ν) (b : Buffers) : UsbM ν H (Option H × Buffers) :=
  visitDevice 0x16C0 (literal "Krzysztof Walach") 0x05DC (literal "Something's Wrong!") dev b

theorem visit_other {dev : Controller.Device ν} (hids : ¬HasIds dev) (b : Buffers) :
    (visit dev b : UsbM ν H (Option H × Buffers)) = pure (none, b) := by
  unfold visit visitDevice
  rw [if_pos]
  rwa [← not_and_or]

theorem visit_own (h : Attached libusb device handle) (hlisted : Listed libusb own handle)
    (hstart : UsbDriver.Reaches usbFunctionSetup (board portB) ⟨none, device s⟩) (b : Buffers)
    (hφ : Prog.Throughout libusb (Succeeds handle) (visit own b) s) :
    ∃ b' s', Prog.exec libusb (visit own b) s = (.ok (some handle, b'), s') := by
  have hids : ¬((own.descriptor.idVendor.toNat : Int) ≠ 0x16C0 ∨
      (own.descriptor.idProduct.toNat : Int) ≠ 0x05DC) := by
    rw [hlisted.descriptor]
    decide
  have hopen : Prog.exec libusb (usbOpen own) s = (.ok (some handle), (libusb s (.usbOpen own)).2) :=
    Prod.ext (congrArg Except.ok (hlisted.opens s)) rfl
  unfold visit visitDevice at hφ ⊢
  rw [if_neg hids] at hφ ⊢
  have hφ₁ := hφ.right hopen
  rw [Prog.exec_bind_ok libusb hopen]
  dsimp only at hφ₁ ⊢
  rw [show own.descriptor.iManufacturer.toNat = 1 by rw [hlisted.descriptor]; rfl] at hφ₁ ⊢
  rw [show own.descriptor.iProduct.toNat = 2 by rw [hlisted.descriptor]; rfl] at hφ₁ ⊢
  have hstart₁ := (h.other s (.usbOpen own) fun m hm => by cases hm).reaches hstart
  obtain ⟨n, devVendor, s₂, hvendor, hn, hvendorName, hstart₂⟩ := h.reads_name hstart₁
    (fun _ => rfl) names_agree.1 (by simp [literal]) b.devVendor hφ₁.left
  have hφ₂ := hφ₁.right hvendor
  rw [Prog.exec_bind_ok libusb hvendor]
  dsimp only at hφ₂ ⊢
  rw [if_neg hn] at hφ₂ ⊢
  obtain ⟨n, devProduct, s₃, hproduct, hn, hproductName, -⟩ := h.reads_name hstart₂
    (fun _ => rfl) names_agree.2 (by simp [literal]) b.devProduct hφ₂.left
  rw [Prog.exec_bind_ok libusb hproduct]
  dsimp only
  rw [if_neg hn, if_pos (by rw [hvendorName, hproductName]; rfl)]
  exact ⟨_, _, rfl⟩

theorem visitDevices_other {pre : List (Controller.Device ν)} (hpre : ∀ dev ∈ pre, ¬HasIds dev)
    (rest : List (Controller.Device ν)) (b : Buffers) :
    (visitDevices 0x16C0 (literal "Krzysztof Walach") 0x05DC (literal "Something's Wrong!")
        (pre ++ rest) b : UsbM ν H (Option H × Buffers)) =
      visitDevices 0x16C0 (literal "Krzysztof Walach") 0x05DC (literal "Something's Wrong!") rest b := by
  induction pre with
  | nil => rfl
  | cons dev pre ih =>
    have hskip := visit_other (H := H) (hpre dev (List.mem_cons_self ..)) b
    unfold visit at hskip
    rw [List.cons_append, visitDevices, hskip, pure_bind]
    exact ih fun dev hdev => hpre dev (List.mem_cons_of_mem _ hdev)

theorem visitDevices_own (h : Attached libusb device handle) (hlisted : Listed libusb own handle)
    (hstart : UsbDriver.Reaches usbFunctionSetup (board portB) ⟨none, device s⟩)
    (post : List (Controller.Device ν)) (b : Buffers)
    (hφ : Prog.Throughout libusb (Succeeds handle) (visitDevices 0x16C0
      (literal "Krzysztof Walach") 0x05DC (literal "Something's Wrong!") (own :: post) b) s) :
    ∃ b' s', Prog.exec libusb (visitDevices 0x16C0 (literal "Krzysztof Walach") 0x05DC
      (literal "Something's Wrong!") (own :: post) b) s = (.ok (some handle, b'), s') := by
  rw [visitDevices] at hφ ⊢
  obtain ⟨b', s', hexec⟩ := visit_own h hlisted hstart b hφ.left
  unfold visit at hexec
  rw [Prog.exec_bind_ok libusb hexec]
  exact ⟨b', s', rfl⟩

theorem visitBusses_own (h : Attached libusb device handle) (hlisted : Listed libusb own handle)
    (hstart : UsbDriver.Reaches usbFunctionSetup (board portB) ⟨none, device s⟩)
    {busses : List (List (Controller.Device ν))} {pre post : List (Controller.Device ν)}
    (hbusses : busses.flatten = pre ++ own :: post) (hpre : ∀ dev ∈ pre, ¬HasIds dev) (b : Buffers)
    (hφ : Prog.Throughout libusb (Succeeds handle) (visitBusses 0x16C0
      (literal "Krzysztof Walach") 0x05DC (literal "Something's Wrong!") busses b) s) :
    ∃ b' s', Prog.exec libusb (visitBusses 0x16C0 (literal "Krzysztof Walach") 0x05DC
      (literal "Something's Wrong!") busses b) s = (.ok (some handle, b'), s') := by
  induction busses generalizing pre with
  | nil => simp at hbusses
  | cons bus busses ih =>
    rw [visitBusses] at hφ ⊢
    rw [List.flatten_cons, List.append_eq_append_iff] at hbusses
    rcases hbusses with ⟨more, rfl, hrest⟩ | ⟨more, rfl, hrest⟩
    · -- the board is on a later bus
      have hskip := visitDevices_other (H := H)
        (fun dev hdev => hpre dev (List.mem_append_left _ hdev)) [] b
      rw [List.append_nil, visitDevices] at hskip
      rw [hskip, pure_bind] at hφ ⊢
      exact ih hrest (fun dev hdev => hpre dev (List.mem_append_right _ hdev)) hφ
    · cases more with
      | nil =>
        have hskip := visitDevices_other (H := H) hpre [] b
        rw [visitDevices] at hskip
        rw [hskip, pure_bind] at hφ ⊢
        have hhere : busses.flatten = [] ++ own :: post := hrest.symm
        exact ih hhere (fun _ hdev => by cases hdev) hφ
      | cons first more =>
        obtain ⟨rfl, -⟩ := List.cons.inj hrest
        rw [visitDevices_other hpre] at hφ ⊢
        obtain ⟨b', s', hexec⟩ := visitDevices_own h hlisted hstart more b hφ.left
        rw [Prog.exec_bind_ok libusb hexec]
        exact ⟨b', s', rfl⟩

/-- The search finds the board. -/
theorem openController_own (h : Attached libusb device handle) (hlisted : Listed libusb own handle)
    (hstart : UsbDriver.Reaches usbFunctionSetup (board portB) ⟨none, device s⟩)
    (hφ : Prog.Throughout libusb (Succeeds handle) openController s) :
    ∃ s', Prog.exec libusb openController s = (.ok (some handle), s') := by
  have hmove (s : σ) (op : Op ν H) (hop : ∀ m, op ≠ .usbControlMsg handle m)
      (hs : UsbDriver.Reaches usbFunctionSetup (board portB) ⟨none, device s⟩) :=
    (h.other s op hop).reaches hs
  have hstart' := hmove _ .usbGetBusses (fun m hm => by cases hm) <|
    hmove _ .usbFindDevices (fun m hm => by cases hm) <|
    hmove _ .usbFindBusses (fun m hm => by cases hm) <|
    hmove _ .usbInit (fun m hm => by cases hm) <|
    hmove _ .uninitialized (fun m hm => by cases hm) <|
    hmove _ .uninitialized (fun m hm => by cases hm) hstart
  have hφ' := (((((hφ.right rfl).right rfl).right rfl).right rfl).right rfl).right rfl
  obtain ⟨pre, post, hbusses, hpre⟩ := hlisted.busses _
  obtain ⟨b', s', hexec⟩ := visitBusses_own h hlisted hstart' hbusses hpre _ hφ'.left
  refine ⟨s', ?_⟩
  change Prog.exec libusb (visitBusses _ _ _ _ _ _ >>= _) _ = _
  rw [Prog.exec_bind_ok libusb hexec]
  rfl

theorem vendor_succeeds {α : Type} {p : UsbM ν H α}
    (hφ : Prog.Throughout libusb (Succeeds handle) p s) {message : ControlMsg} {result : Int}
    (hsent : (handle, message, result) ∈ vendorRequests (Prog.transcript libusb p s)) :
    0 ≤ result := by
  obtain ⟨⟨op, reply⟩, he, hentry⟩ := List.mem_filterMap.mp hsent
  cases op with
  | usbControlMsg handle' message' =>
    dsimp only at hentry
    split_ifs at hentry with htype
    obtain ⟨rfl, -, rfl⟩ : handle' = handle ∧ message' = message ∧ reply.count = result := by
      simpa using hentry
    exact hφ _ he rfl
  | _ => cases hentry

theorem main_own (h : Attached libusb device handle) (hlisted : Listed libusb own handle)
    (hstart : UsbDriver.Reaches usbFunctionSetup (board portB) ⟨none, device s⟩)
    {argv : List (List UInt8)} {request : Nat} (hrequest : requested argv = some request)
    (hφ : Prog.Throughout libusb (Succeeds handle) (main argv) s) :
    (Prog.exec libusb (main argv) s).1 = .ok 0 ∧ ∃ result, 0 ≤ result ∧
      (handle, vendorRequest request, result) ∈ vendorRequests (Prog.transcript libusb (main argv) s) := by
  cases hparam : argv[1]? with
  | none => simp [requested, hparam] at hrequest
  | some param =>
    have hsearch : Prog.Throughout libusb (Succeeds handle) openController s := by
      unfold main at hφ
      rw [hparam] at hφ
      exact hφ.left
    obtain ⟨s', hopen⟩ := openController_own h hlisted hstart hsearch
    obtain ⟨hexit, hsent⟩ := main_selected hparam hopen
    rw [hrequest] at hsent
    have hmem : (handle, vendorRequest request,
        (libusb s' (.usbControlMsg handle (vendorRequest request))).1.count) ∈
        vendorRequests (Prog.transcript libusb (main argv) s) := by
      rw [hsent]
      exact List.mem_singleton_self _
    exact ⟨hexit, _, vendor_succeeds hφ hmem, hmem⟩

theorem main_reaches (h : Attached libusb device handle)
    (hstart : UsbDriver.Reaches usbFunctionSetup (board portB) ⟨none, device s⟩)
    (argv : List (List UInt8)) : UsbDriver.Reaches usbFunctionSetup (board portB)
      ⟨none, device (Prog.exec libusb (main argv) s).2⟩ := by
  obtain ⟨hquiet, -⟩ | ⟨request, s', hrequest, hbefore, hafter, -⟩ := main_cases h argv s
  · exact hquiet.reaches hstart
  · obtain ⟨log, hsession, -⟩ :=
      h.transfer s' (vendorRequest request) (isRequest_of_requested hrequest)
    exact hafter.reaches (hsession.reaches (hbefore.reaches hstart))

variable (libusb handle)

/-- The controller, started for each of these commands after the last one has ended; the exit
codes. -/
def runs (exe : List UInt8) : List Command → σ → List (Except Nat Nat) × σ
  | [], s => ([], s)
  | c :: commands, s =>
    let run := Prog.exec libusb (main [exe, literal c.param]) s
    (run.1 :: (runs exe commands run.2).1, (runs exe commands run.2).2)

/-- No transfer with the board fails in these runs. -/
def NoneFails (exe : List UInt8) : List Command → σ → Prop
  | [], _ => True
  | c :: commands, s =>
    Prog.Throughout libusb (Succeeds handle) (main [exe, literal c.param]) s ∧
      NoneFails exe commands (Prog.exec libusb (main [exe, literal c.param]) s).2

variable {libusb handle}

/-- Firmware and controller fit together: the search finds the board by the names that it sends,
every run ends with code zero, and the lamp follows the last command. -/
theorem lamp_follows_controller (h : Attached libusb device handle)
    (hlisted : Listed libusb own handle)
    (hstart : UsbDriver.Reaches usbFunctionSetup (board portB) ⟨none, device s⟩) (exe : List UInt8)
    (commands : List Command) (c : Command)
    (hnone : NoneFails libusb handle exe (commands ++ [c]) s) {i : Nat} (hi : i < 8) :
    (∀ code ∈ (runs libusb exe (commands ++ [c]) s).1, code = .ok 0) ∧
      bit (device (runs libusb exe (commands ++ [c]) s).2).device.user i =
        if i = 0 then decide (c = .on) else bit portB i := by
  have hrequest (c : Command) : requested [exe, literal c.param] =
      some (if c = .on then Controller.usbPb0On else Controller.usbPb0Off) := by
    cases c with
    | on => exact (requested_param exe).1
    | off => exact (requested_param exe).2
  induction commands generalizing s with
  | nil =>
    obtain ⟨hexit, result, hresult, hsent⟩ := main_own h hlisted hstart (hrequest c) hnone.1
    refine ⟨fun code hcode => (List.mem_singleton.mp hcode).trans hexit, ?_⟩
    have hlamp := switches_of_sent h hstart [exe, literal c.param] hsent hresult hi
    rw [hrequest] at hlamp
    apply hlamp.trans
    cases c <;> rfl
  | cons d commands ih =>
    obtain ⟨hexit, -⟩ := main_own h hlisted hstart (hrequest d) hnone.1
    obtain ⟨hcodes, hlamp⟩ := ih (main_reaches h hstart [exe, literal d.param]) hnone.2
    refine ⟨?_, hlamp⟩
    intro code hcode
    rcases List.mem_cons.mp hcode with rfl | hcode
    · exact hexit
    · exact hcodes code hcode

theorem lamp_follows_controller_offOn :
    (∀ code ∈ (runs wired [] [.off, .on] (fresh 2)).1, code = .ok 0) ∧
      bit (runs wired [] [.off, .on] (fresh 2)).2.device.user 0 = true :=
  lamp_follows_controller wired_attached wired_listed (Leads.refl _) [] [.off] .on
    ⟨show ∀ e ∈ Prog.transcript wired (main [[], literal "off"]) (fresh 2), Succeeds () e by
        decide +kernel,
      show ∀ e ∈ Prog.transcript wired (main [[], literal "on"])
        (Prog.exec wired (main [[], literal "off"]) (fresh 2)).2, Succeeds () e by decide +kernel,
      trivial⟩ (show 0 < 8 by decide)

end Search

end SomethingsWrong.Firmware
