import SomethingsWrong.Controller.Main
import SomethingsWrong.Firmware.UsbDriver

/-! The firmware behind the driver: `PB0` is the lamp. Its two command codes are also the
numbers of standard requests, and are told apart from them by the request type alone. -/
namespace SomethingsWrong.Firmware
open Program Controller UsbDriver
open FlashLight (Command)

def usbPb0Off : UInt8 := 0
def usbPb0On : UInt8 := 1

/-- `usbFunctionSetup`; the firmware's own state is the register `PORTB`. -/
def usbFunctionSetup (data : Vector UInt8 8) (portB : UInt8) : UInt8 × UInt8 :=
  let rq := UsbRequest.ofBytes data
  if rq.bRequest = usbPb0On then (0, portB ||| 1)
  else if rq.bRequest = usbPb0Off then (0, portB &&& ~~~1)
  else (0, portB)

/-- One bit of a register. -/
def bit (register : UInt8) (i : Nat) : Bool := register.toBitVec.getLsbD i

/-- The SETUP packet of `usb_control_msg`: words go out low byte first. -/
def setupPacket (m : ControlMsg) : Packet where
  token := usbPidSetup
  data := #v[m.requesttype.toUInt8, m.request.toUInt8, m.value.toUInt8, (m.value >>> 8).toUInt8,
    m.index.toUInt8, (m.index >>> 8).toUInt8, m.size.toUInt8, (m.size >>> 8).toUInt8]
  len := 8

/-- The controller program, started with this command, sends the packet; libusb and the
devices on the busses may be any. -/
inductive SentFor (c : Command) : Packet → Prop where
  | sent {ν H σ : Type} (libusb : σ → (op : Op ν H) → op.Answer × σ) (exe : List UInt8) (s : σ)
      {handle : H} {message : ControlMsg} {result : Int}
      (h : (handle, message, result) ∈
        vendorRequests (Prog.transcript libusb (main [exe, literal c.param]) s)) :
      SentFor c (setupPacket message)

/-- What may arrive at the device. A packet whose acknowledgement was lost arrives again. -/
inductive Traffic where
  | standard (p : Packet) (h : p.IsStandard)
  | dataPhase (p : Packet) (h : p.token ≠ usbPidSetup)
  | wrongLength (p : Packet) (h : p.token = usbPidSetup ∧ p.len ≠ 8)
  | controller (c : Command) (p : Packet) (h : SentFor c p)

def Traffic.packet : Traffic → Packet
  | standard p _ => p
  | dataPhase p _ => p
  | wrongLength p _ => p
  | controller _ p _ => p

def Traffic.command : Traffic → Option Command
  | controller c _ _ => some c
  | _ => none

/-- The last command of the controller. -/
def lastCommand (ts : List Traffic) : Option Command := (ts.filterMap Traffic.command).getLast?

/-- The device after this traffic. -/
def deliver (ts : List Traffic) (s : State UInt8) : State UInt8 :=
  receive usbFunctionSetup (ts.map Traffic.packet) s

theorem bit_one (i : Nat) : bit 1 i = decide (i = 0) := by
  rw [bit, show (1 : UInt8).toBitVec = 1#8 from rfl, BitVec.getLsbD_one]
  simp

theorem bit_on (portB : UInt8) (i : Nat) : bit (portB ||| 1) i = (bit portB i || decide (i = 0)) := by
  rw [← bit_one i]
  exact BitVec.getLsbD_or

theorem bit_off {i : Nat} (hi : i < 8) (portB : UInt8) :
    bit (portB &&& ~~~1) i = (bit portB i && !decide (i = 0)) := by
  have hnot : bit (~~~1) i = !bit 1 i := by
    simp only [bit, UInt8.toBitVec_not, BitVec.getLsbD_not, hi, decide_true, Bool.true_and]
  rw [← bit_one i, ← hnot]
  exact BitVec.getLsbD_and

/-- The request of the controller program for a command: both sides agree on its number. -/
theorem sentFor_packet {c : Command} {p : Packet} (h : SentFor c p) :
    p = setupPacket (vendorRequest (if c = .on then Controller.usbPb0On else Controller.usbPb0Off)) := by
  cases h with
  | sent libusb exe s hmem =>
    cases sent_cases libusb [exe, literal c.param] s with
    | inl hnone =>
      rw [hnone] at hmem
      cases hmem
    | inr hone =>
      obtain ⟨request, handle, result, s', hrequest, -, hsent⟩ := hone
      rw [hsent] at hmem
      have hmessage := (Prod.mk.inj (Prod.mk.inj (List.mem_singleton.mp hmem)).2).1
      rw [hmessage]
      have hknown := requested_param exe
      cases c with
      | on =>
        rw [hknown.1] at hrequest
        cases hrequest
        rfl
      | off =>
        rw [hknown.2] at hrequest
        cases hrequest
        rfl

/-- A command of the controller is a vendor request, and moves the lamp's bit alone. -/
theorem usbProcessRx_controller {c : Command} {p : Packet} (h : SentFor c p) (s : State UInt8) :
    (usbProcessRx usbFunctionSetup p s).user =
      if c = .on then s.user ||| 1 else s.user &&& ~~~1 := by
  rw [sentFor_packet h]
  have hcustom (request : Nat) : (setupPacket (vendorRequest request)).IsCustom :=
    ⟨⟨rfl, rfl⟩, show (0xC0 : UInt8) &&& usbRqTypeMask ≠ usbRqTypeStandard by decide⟩
  rw [usbProcessRx_of_custom (hcustom _)]
  cases c <;> rfl

/-- One packet. -/
theorem usbProcessRx_bit (t : Traffic) (s : State UInt8) {i : Nat} (hi : i < 8) :
    bit (usbProcessRx usbFunctionSetup t.packet s).user i =
      if i = 0 then t.command.elim (bit s.user 0) (· == .on) else bit s.user i := by
  have hkept {p : Packet} (h : ¬ p.IsCustom) :
      bit (usbProcessRx usbFunctionSetup p s).user i =
        if i = 0 then bit s.user 0 else bit s.user i := by
    rw [usbProcessRx_of_not_custom h]
    split
    · rename_i hzero
      rw [hzero]
    · rfl
  cases t with
  | standard p h => exact hkept h.not_custom
  | dataPhase p h => exact hkept fun hcustom => h hcustom.1.1
  | wrongLength p h => exact hkept fun hcustom => h.2 hcustom.1.2
  | controller c p h =>
    have hport := usbProcessRx_controller h s
    simp only [Traffic.packet, Traffic.command, hport]
    cases c with
    | on =>
      rw [if_pos rfl, bit_on]
      by_cases hzero : i = 0 <;> simp [hzero]
    | off =>
      rw [if_neg (by decide), bit_off hi]
      by_cases hzero : i = 0 <;> simp [hzero]

/-- Any traffic: the last command decides the lamp, and nothing moves the other bits. -/
theorem deliver_bit (ts : List Traffic) (s : State UInt8) {i : Nat} (hi : i < 8) :
    bit (deliver ts s).user i =
      if i = 0 then (lastCommand ts).elim (bit s.user 0) (· == .on) else bit s.user i := by
  induction ts generalizing s with
  | nil =>
    by_cases hzero : i = 0
    · subst hzero
      rfl
    · rw [if_neg hzero]
      rfl
  | cons t ts ih =>
    have hrest := ih (usbProcessRx usbFunctionSetup t.packet s)
    have hfirst := usbProcessRx_bit t s hi
    have hlamp := usbProcessRx_bit t s (show 0 < 8 by decide)
    rw [show deliver (t :: ts) s = deliver ts (usbProcessRx usbFunctionSetup t.packet s) from rfl,
      hrest]
    by_cases hzero : i = 0
    · rw [if_pos hzero, if_pos hzero, hlamp, if_pos rfl]
      cases hcommand : t.command with
      | none => simp [lastCommand, hcommand]
      | some c =>
        cases hlast : lastCommand ts with
        | none =>
          unfold lastCommand at hlast ⊢
          simp [hcommand, List.getLast?_cons, hlast]
        | some d =>
          unfold lastCommand at hlast ⊢
          simp [hcommand, List.getLast?_cons, hlast]
    · rw [if_neg hzero, hfirst, if_neg hzero, if_neg hzero]

/-- Whatever traffic arrives: the lamp shows the last command of the controller, the other
bits stay, and no standard request touches the register. -/
theorem lamp_shows_last_command (ts : List Traffic) (s : State UInt8) :
    bit (deliver ts s).user 0 = (lastCommand ts).elim (bit s.user 0) (· == .on) ∧
      (∀ i, 0 < i → i < 8 → bit (deliver ts s).user i = bit s.user i) ∧
      ∀ p, p.IsStandard → ∀ t, (usbProcessRx usbFunctionSetup p t).user = t.user := by
  refine ⟨?_, ?_, ?_⟩
  · rw [deliver_bit ts s (show 0 < 8 by decide), if_pos rfl]
  · intro i hpos hi
    rw [deliver_bit ts s hi, if_neg (by omega)]
  · intro p hp t
    exact usbProcessRx_of_not_custom hp.not_custom

/-- With the device on a bus, the controller program does send its request. -/
theorem sentFor_vendorRequest (c : Command) : SentFor c
    (setupPacket (vendorRequest (if c = .on then Controller.usbPb0On else Controller.usbPb0Off))) := by
  apply SentFor.sent (answer (surroundings [[controller]])) [] ⟨0, 0⟩
  cases c with
  | on => exact List.mem_singleton.mpr rfl
  | off => exact List.mem_singleton.mpr rfl

/-- `GET_STATUS` of the device and `CLEAR_FEATURE` of an endpoint, numbers 0 and 1. -/
def getStatus : Packet := ⟨usbPidSetup, #v[0x80, 0, 0, 0, 0, 0, 2, 0], 8⟩

def clearFeature : Packet := ⟨usbPidSetup, #v[0x02, 1, 0, 0, 0x81, 0, 0, 0], 8⟩

/-- The driver's variables as they are initialised. -/
def poweredUp : Driver where
  usbNewDeviceAddr := 0
  usbConfiguration := 0
  usbTxLen := usbPidNak
  usbTxBuf := Vector.replicate usbBufsize 0
  usbMsgPtr := .txBuf 0
  usbMsgLen := 0xff
  usbMsgFlags := 0

def lampOn : Traffic := .controller .on _ (sentFor_vendorRequest .on)

def lampOff : Traffic := .controller .off _ (sentFor_vendorRequest .off)

/-- The lamp stays on over a `GET_STATUS`, and off over a `CLEAR_FEATURE`. -/
theorem lamp_shows_last_command_enumeration :
    bit (deliver [lampOn, .standard getStatus ⟨⟨rfl, rfl⟩, by decide⟩] ⟨poweredUp, 2⟩).user 0 = true ∧
      bit (deliver [lampOn, lampOff, lampOff, .standard clearFeature ⟨⟨rfl, rfl⟩, by decide⟩]
        ⟨poweredUp, 2⟩).user 0 = false :=
  ⟨(lamp_shows_last_command _ _).1, (lamp_shows_last_command _ _).1⟩

end SomethingsWrong.Firmware
