import SomethingsWrong.Base.Isolation
import SomethingsWrong.Firmware.Interrupt

/-! `usbPoll`, one access to the driver's variables after the other, as the interrupt routine
may come in between any two of them; and what its two halves, the processing of a packet and
the preparation of an answer, do when nothing comes in between. -/
namespace SomethingsWrong.UsbDriver
open Program Prog
open SomethingsWrong.Crc16 (crc16)

def usbNoMsg : UInt8 := 0xff

/-- The names as `usbconfig.h` spells them, character by character. -/
def usbCfgVendorName : List Char :=
  ['K', 'r', 'z', 'y', 's', 'z', 't', 'o', 'f', ' ', 'W', 'a', 'l', 'a', 'c', 'h']

def usbCfgDeviceName : List Char :=
  ['S', 'o', 'm', 'e', 't', 'h', 'i', 'n', 'g', '\'', 's', ' ', 'W', 'r', 'o', 'n', 'g', '!']

/-- An array of `int`: the header, then one character after the other. -/
def stringDescriptor (name : List Char) : List UInt8 :=
  (2 * name.length + 2).toUInt8 :: usbDescrString ::
    name.flatMap fun c => [c.toNat.toUInt8, (c.toNat >>> 8).toUInt8]

/-- What stands in the flash memory. -/
def Descriptor.bytes : Descriptor → List UInt8
  | .device =>
    [18, usbDescrDevice, 0x10, 0x01, 0xff, 0, 0, 8, 0xc0, 0x16, 0xdc, 0x05, 0x00, 0x01, 1, 2, 0, 1]
  | .configuration =>
    [9, usbDescrConfig, 18, 0, 1, 1, 0, 0x80, 25, 9, 4, 0, 0, 0, 0, 0, 0, 0]
  | .string0 => [4, 3, 0x09, 0x04]
  | .stringVendor => stringDescriptor usbCfgVendorName
  | .stringDevice => stringDescriptor usbCfgDeviceName
  | .stringSerialNumber => []

/-- The byte `i` places behind `usbMsgPtr` as it was assigned. A message is never longer than
what the pointer points at, and the flags always fit the pointer where it has a length. -/
def Driver.fetch (r : Driver) (i : Nat) : UInt8 :=
  if r.usbMsgFlags &&& usbFlgMsgPtrIsRom ≠ 0 then
    match r.usbMsgPtr with
    | .flash d => d.bytes.getD i 0
    | _ => 0
  else
    match r.usbMsgPtr with
    | .configuration => if i = 0 then r.usbConfiguration else 0
    | .txBuf offset => r.usbTxBuf.toList.getD (offset + i) 0
    | .flash _ => 0

/-- `usbRxBuf[k]` -/
def Device.rxByte {A : Type} (d : Device A) (k : Nat) : UInt8 :=
  if k < usbBufsize then (d.usbRxBuf .first).toList.getD k 0
  else (d.usbRxBuf .second).toList.getD (k - usbBufsize) 0

def Device.withDriver {A : Type} (d : Device A) (r : Driver) : Device A := { d with driver := r }

/-- One access to the variables; the first argument is what `USBIN & USBMASK` reads. -/
abbrev Access (A : Type) := UInt8 → Device A → UInt8 × Device A

abbrev Code (A α : Type) := @Prog (Access A) (fun _ => UInt8) Empty α

variable {A : Type}

def get (f : Device A → UInt8) : Code A UInt8 := perform fun _ d => (f d, d)

def set (f : Device A → Device A) : Code A UInt8 := perform fun _ d => (0, f d)

/-- An assignment to a variable of `Driver`. -/
def setDriver (f : Driver → Driver) : Code A UInt8 := set fun d => d.withDriver (f d.driver)

def usbLineStatus : Code A UInt8 := perform fun line d => (line, d)

section ProcessRx

/-- `usbMsgPtr = ...` -/
def setMsgPtr (p : MsgPtr) : Code A UInt8 :=
  set fun d => { d.withDriver { d.driver with usbMsgPtr := p } with usbMsgPos := 0 }

/-- `GET_DESCRIPTOR` -/
def getDescriptorCode (d : Descriptor) : Code A UInt8 := do
  if d.props ≠ 0 then
    let _ ← setMsgPtr (.flash d)
    pure (d.props &&& 0x3fff).toUInt8
  else pure 0

/-- The switch of `usbDriverDescriptor`; `data` is an index into `usbRxBuf`. -/
def descriptorSwitch (data : Nat) : Code A UInt8 := do
  let kind ← get (·.rxByte (data + 3))
  if kind = usbDescrDevice then getDescriptorCode .device
  else if kind = usbDescrConfig then getDescriptorCode .configuration
  else if kind = usbDescrString then do
    let index ← get (·.rxByte (data + 2))
    if index = 0 then getDescriptorCode .string0
    else if index = 1 then getDescriptorCode .stringVendor
    else if index = 2 then getDescriptorCode .stringDevice
    else if index = 3 then getDescriptorCode .stringSerialNumber
    else pure 0
  else pure 0

def usbDriverDescriptorCode (data : Nat) : Code A UInt8 := do
  let len ← descriptorSwitch data
  let _ ← setDriver fun r => { r with usbMsgFlags := usbFlgMsgPtrIsRom }
  pure len

theorem nine_inside : 9 < usbBufsize := by decide

theorem ten_inside : 10 < usbBufsize := by decide

def usbDriverSetupCode (data : Nat) : Code A UInt8 := do
  let value ← get (·.rxByte (data + 2))
  let _ ← setDriver fun r => { r with usbTxBuf := r.usbTxBuf.set 9 0 nine_inside }
  let request ← get (·.rxByte (data + 1))
  if request = usbRqGetStatus then
    let _ ← setDriver fun r => { r with usbTxBuf := r.usbTxBuf.set 10 0 ten_inside }
    let _ ← setMsgPtr (.txBuf 9)
    pure 2
  else if request = usbRqSetAddress then
    let _ ← setDriver fun r => { r with usbNewDeviceAddr := value }
    let _ ← setMsgPtr (.txBuf 9)
    pure 0
  else if request = usbRqGetDescriptor then usbDriverDescriptorCode data
  else if request = usbRqGetConfiguration then
    let _ ← setMsgPtr .configuration
    pure 1
  else if request = usbRqSetConfiguration then
    let _ ← setDriver fun r => { r with usbConfiguration := value }
    let _ ← setMsgPtr (.txBuf 9)
    pure 0
  else if request = usbRqGetInterface then
    let _ ← setMsgPtr (.txBuf 9)
    pure 1
  else
    let _ ← setMsgPtr (.txBuf 9)
    pure 0

/-- The call of `usbFunctionSetup` with the eight bytes, read one after the other. -/
def usbFunctionSetupCode (usbFunctionSetup : Vector UInt8 8 → A → UInt8 × A) (data : Nat) :
    Code A UInt8 := do
  let b0 ← get (·.rxByte data)
  let b1 ← get (·.rxByte (data + 1))
  let b2 ← get (·.rxByte (data + 2))
  let b3 ← get (·.rxByte (data + 3))
  let b4 ← get (·.rxByte (data + 4))
  let b5 ← get (·.rxByte (data + 5))
  let b6 ← get (·.rxByte (data + 6))
  let b7 ← get (·.rxByte (data + 7))
  perform fun _ d =>
    let (len, user) := usbFunctionSetup #v[b0, b1, b2, b3, b4, b5, b6, b7] d.user
    (len, { d with user := user })

/-- The beginning of `usbProcessRx`: data toggling, pending transmit and flags. -/
def startSetup : Code A Unit := do
  let _ ← setDriver fun r => { r with usbTxBuf := r.usbTxBuf.set 0 usbPidData0 pid_inside }
  let _ ← setDriver fun r => { r with usbTxLen := usbPidNak }
  let _ ← setDriver fun r => { r with usbMsgFlags := 0 }
  pure ()

/-- The end of `usbProcessRx`: no more than the host has asked for. -/
def limitReply (data : Nat) (replyLen : UInt8) : Code A Unit := do
  let high ← get (·.rxByte (data + 7))
  let low ← get (·.rxByte (data + 6))
  let _ ← setDriver fun r =>
    { r with usbMsgLen := if high = 0 ∧ low < replyLen then low else replyLen }
  pure ()

variable (usbFunctionSetup : Vector UInt8 8 → A → UInt8 × A)

/-- Standard requests are handled by the driver. -/
def handleRequest (data : Nat) (bmRequestType : UInt8) : Code A UInt8 :=
  if bmRequestType &&& usbRqTypeMask ≠ usbRqTypeStandard then
    usbFunctionSetupCode usbFunctionSetup data
  else usbDriverSetupCode data

def usbProcessRxCode (data : Nat) (len : UInt8) : Code A Unit := do
  let token ← get (·.usbRxToken)
  if token = usbPidSetup then
    if len ≠ 8 then pure ()
    else
      startSetup
      let bmRequestType ← get (·.rxByte data)
      let replyLen ← handleRequest usbFunctionSetup data bmRequestType
      limitReply data replyLen
  else pure ()

end ProcessRx

section BuildTxBlock

def Driver.withTxBuf (r : Driver) (buf : Vector UInt8 usbBufsize) : Driver :=
  { r with usbTxBuf := buf }

/-- The loop of `usbDeviceRead`, with `n` bytes to go of which the next is the `i`-th. -/
def usbDeviceReadLoop : Nat → Nat → Code A Unit
  | 0, _ => pure ()
  | n + 1, i => do
    let c ← get fun d => d.driver.fetch (d.usbMsgPos + i)
    let _ ← setDriver fun r => r.withTxBuf (r.usbTxBuf.setIfInBounds (1 + i) c)
    usbDeviceReadLoop n (i + 1)

/-- `usbDeviceRead(usbTxBuf + 1, len)` -/
def usbDeviceRead (len : UInt8) : Code A UInt8 := do
  if 0 < len then
    usbDeviceReadLoop len.toNat 0
    let _ ← set fun d => { d with usbMsgPos := d.usbMsgPos + len.toNat }
    pure len
  else pure len

/-- The data bytes of the transmit buffer. -/
def Driver.txData (r : Driver) (len : Nat) : List UInt8 := (r.usbTxBuf.toList.drop 1).take len

/-- The checksum of bytes, low byte first. -/
def checksum (bytes : List UInt8) : UInt8 × UInt8 :=
  let crc := crc16 (bytes.map UInt8.toBitVec)
  (UInt8.ofBitVec (crc.setWidth 8), UInt8.ofBitVec ((crc >>> 8).setWidth 8))

/-- `usbCrc16Append(&usbTxBuf[1], len)`: its two stores. -/
def usbCrc16Append (len : Nat) : Code A Unit := do
  let _ ← setDriver fun r =>
    r.withTxBuf (r.usbTxBuf.setIfInBounds (1 + len) (checksum (r.txData len)).1)
  let _ ← setDriver fun r =>
    r.withTxBuf (r.usbTxBuf.setIfInBounds (2 + len) (checksum (r.txData len)).2)
  pure ()

def usbPidStall : UInt8 := 0x1e

/-- DATA toggling -/
def toggled (pid : UInt8) : UInt8 := pid ^^^ (usbPidData0 ^^^ usbPidData1)

/-- `len` bytes have been read. The result is what becomes of `usbTxLen`. -/
def finishBlock (len : UInt8) : Code A UInt8 := do
  if len ≤ 8 then
    usbCrc16Append len.toNat
    let len := len + 4
    if len < 12 then
      let _ ← setDriver fun r => { r with usbMsgLen := usbNoMsg }
      pure len
    else pure len
  else
    let _ ← setDriver fun r => { r with usbMsgLen := usbNoMsg }
    pure usbPidStall

/-- `usbBuildTxBlock` up to its last statement, during which the buffer is not sent. -/
def prepareBlock : Code A UInt8 := do
  let msgLen ← get (·.driver.usbMsgLen)
  let wantLen := if 8 < msgLen then 8 else msgLen
  let _ ← setDriver fun r => { r with usbMsgLen := r.usbMsgLen - wantLen }
  let pid ← get fun d => getElem d.driver.usbTxBuf 0 pid_inside
  let _ ← setDriver fun r => r.withTxBuf (r.usbTxBuf.set 0 (toggled pid) pid_inside)
  let len ← usbDeviceRead wantLen
  finishBlock len

def usbBuildTxBlock : Code A Unit := do
  let len ← prepareBlock
  let _ ← setDriver fun r => { r with usbTxLen := len }
  pure ()

end BuildTxBlock

/-- The check for a reset, with `n` samples to go. -/
def resetCheck : Nat → Code A Unit
  | 0 => do
    let _ ← setDriver fun r => { r with usbNewDeviceAddr := 0 }
    let _ ← set fun d => { d with usbDeviceAddr := 0 }
    pure ()
  | n + 1 => do
    let line ← usbLineStatus
    if line ≠ 0 then pure () else resetCheck n

/-- The first half of `usbPoll`: a packet that waits is processed. -/
def pollReceived (usbFunctionSetup : Vector UInt8 8 → A → UInt8 × A) : Code A Unit := do
  let len ← get fun d => d.usbRxLen - 3
  if 0 ≤ len.toInt8 then
    let offset ← get fun d => d.usbInputBufOffset.offset.toUInt8
    usbProcessRxCode usbFunctionSetup (usbBufsize + 1 - offset.toNat) len
    let _ ← set fun d => { d with usbRxLen := 0 }

/-- The second half: where the transmit system is idle and something is to be sent, it is
prepared. -/
def pollTransmit : Code A Unit := do
  let txLen ← get (·.driver.usbTxLen)
  if txLen &&& 0x10 ≠ 0 then
    let msgLen ← get (·.driver.usbMsgLen)
    if msgLen ≠ usbNoMsg then usbBuildTxBlock

def usbPoll (usbFunctionSetup : Vector UInt8 8 → A → UInt8 × A) : Code A Unit := do
  pollReceived usbFunctionSetup
  pollTransmit
  resetCheck 20

/-- The device without the interrupt routine, while the bus is not in reset. -/
def alone (d : Device A) (op : Access A) : UInt8 × Device A := op 1 d

section Alone
variable {α : Type} (d : Device A)

@[simp] theorem exec_get (f : Device A → UInt8) (k : UInt8 → Code A α) :
    exec alone (get f >>= k) d = exec alone (k (f d)) d := rfl

@[simp] theorem exec_set (f : Device A → Device A) (k : UInt8 → Code A α) :
    exec alone (set f >>= k) d = exec alone (k 0) (f d) := rfl

@[simp] theorem exec_setDriver (f : Driver → Driver) (k : UInt8 → Code A α) :
    exec alone (setDriver f >>= k) d = exec alone (k 0) (d.withDriver (f d.driver)) := rfl

@[simp] theorem driver_withDriver (r : Driver) : (d.withDriver r).driver = r := rfl

@[simp] theorem user_withDriver (r : Driver) : (d.withDriver r).user = d.user := rfl

@[simp] theorem withDriver_withDriver (r r' : Driver) :
    (d.withDriver r).withDriver r' = d.withDriver r' := rfl

@[simp] theorem rxByte_withDriver (r : Driver) (k : Nat) :
    (d.withDriver r).rxByte k = d.rxByte k := rfl

/-- The packet whose bytes lie at an index of `usbRxBuf`. -/
def LiesAt (d : Device A) (data : Nat) (bytes : Vector UInt8 8) : Prop :=
  ∀ i : Fin 8, d.rxByte (data + i) = bytes[i]

/-- Alone, the code returns this length and leaves this driver; where there is something to
send, `usbMsgPtr` has been assigned. -/
def Points (p : Code A UInt8) (d : Device A) (result : UInt8 × Driver) : Prop :=
  ∃ pos, exec alone p d =
      (.ok result.1, { d.withDriver result.2 with usbMsgPos := pos }) ∧
    (result.1 ≠ 0 → pos = 0)

variable {d}

theorem Points.ite {c : Prop} [Decidable c] {p q : Code A UInt8} {r r' : UInt8 × Driver}
    (h : c → Points p d r) (h' : ¬c → Points q d r') :
    Points (if c then p else q) d (if c then r else r') := by
  by_cases hc : c
  · simpa [hc] using h hc
  · simpa [hc] using h' hc

theorem Points.get {f : Device A → UInt8} {b : UInt8} {k : UInt8 → Code A UInt8}
    {r : UInt8 × Driver} (hb : f d = b) (h : Points (k b) d r) :
    Points (UsbDriver.get f >>= k) d r := by
  subst hb
  exact h

theorem Points.setDriver {f : Driver → Driver} {k : UInt8 → Code A UInt8} {r : UInt8 × Driver}
    (h : Points (k 0) (d.withDriver (f d.driver)) r) :
    Points (UsbDriver.setDriver f >>= k) d r := h

theorem Points.setMsgPtr (p : MsgPtr) (len : UInt8) :
    Points (UsbDriver.setMsgPtr p >>= fun _ => pure len) d
      (len, { d.driver with usbMsgPtr := p }) :=
  ⟨0, rfl, fun _ => rfl⟩

theorem Points.nothing : Points (pure 0) d (0, d.driver) := ⟨d.usbMsgPos, rfl, fun h => absurd rfl h⟩

theorem getDescriptorCode_alone (desc : Descriptor) :
    Points (getDescriptorCode desc) d (getDescriptor desc d.driver) :=
  Points.ite (fun _ => ⟨0, rfl, fun _ => rfl⟩) fun _ => Points.nothing

theorem descriptorSwitch_alone {data : Nat} {bytes : Vector UInt8 8} (h : LiesAt d data bytes) :
    ∃ result, Points (descriptorSwitch data) d result ∧
      usbDriverDescriptor (UsbRequest.ofBytes bytes) d.driver =
        (result.1, { result.2 with usbMsgFlags := usbFlgMsgPtrIsRom }) := by
  have h2 : d.rxByte (data + 2) = bytes[2] := h 2
  have h3 : d.rxByte (data + 3) = bytes[3] := h 3
  refine ⟨_, ?_, rfl⟩
  refine Points.get h3 (Points.ite (fun _ => getDescriptorCode_alone _) fun _ =>
    Points.ite (fun _ => getDescriptorCode_alone _) fun _ => Points.ite (fun _ => ?_) fun _ =>
      Points.nothing)
  exact Points.get h2 (Points.ite (fun _ => getDescriptorCode_alone _) fun _ =>
    Points.ite (fun _ => getDescriptorCode_alone _) fun _ =>
      Points.ite (fun _ => getDescriptorCode_alone _) fun _ =>
        Points.ite (fun _ => getDescriptorCode_alone _) fun _ => Points.nothing)

theorem usbDriverDescriptorCode_alone {data : Nat} {bytes : Vector UInt8 8}
    (h : LiesAt d data bytes) :
    Points (usbDriverDescriptorCode data) d
      (usbDriverDescriptor (UsbRequest.ofBytes bytes) d.driver) := by
  obtain ⟨result, ⟨pos, hexec, hpos⟩, hresult⟩ := descriptorSwitch_alone h
  rw [hresult]
  refine ⟨pos, ?_, hpos⟩
  rw [usbDriverDescriptorCode, exec_bind, hexec]
  rfl

theorem usbDriverSetupCode_alone {data : Nat} {bytes : Vector UInt8 8} (h : LiesAt d data bytes) :
    Points (usbDriverSetupCode data) d
      (usbDriverSetup (UsbRequest.ofBytes bytes) d.driver) := by
  have h1 : d.rxByte (data + 1) = bytes[1] := h 1
  have h2 : d.rxByte (data + 2) = bytes[2] := h 2
  refine Points.get h2 (Points.setDriver (Points.get h1 ?_))
  refine Points.ite (fun _ => Points.setDriver (Points.setMsgPtr _ _)) fun _ => ?_
  refine Points.ite (fun _ => Points.setDriver (Points.setMsgPtr _ _)) fun _ => ?_
  refine Points.ite (fun _ => usbDriverDescriptorCode_alone h) fun _ => ?_
  refine Points.ite (fun _ => Points.setMsgPtr _ _) fun _ => ?_
  refine Points.ite (fun _ => Points.setDriver (Points.setMsgPtr _ _)) fun _ => ?_
  exact Points.ite (fun _ => Points.setMsgPtr _ _) fun _ => Points.setMsgPtr _ _

variable (usbFunctionSetup : Vector UInt8 8 → A → UInt8 × A)

theorem usbFunctionSetupCode_alone {data : Nat} {bytes : Vector UInt8 8} (h : LiesAt d data bytes) :
    exec alone (usbFunctionSetupCode usbFunctionSetup data) d =
      (.ok (usbFunctionSetup bytes d.user).1,
        { d with user := (usbFunctionSetup bytes d.user).2 }) := by
  have hbytes : #v[d.rxByte data, d.rxByte (data + 1), d.rxByte (data + 2), d.rxByte (data + 3),
      d.rxByte (data + 4), d.rxByte (data + 5), d.rxByte (data + 6), d.rxByte (data + 7)] =
      bytes := by
    apply Vector.ext
    intro i hi
    have hi' := h ⟨i, hi⟩
    interval_cases i <;> exact hi'
  rw [← hbytes]
  rfl

/-- The driver at the beginning of a control transfer. -/
def Driver.fresh (r : Driver) : Driver :=
  { r with
    usbTxBuf := r.usbTxBuf.set 0 usbPidData0 pid_inside
    usbTxLen := usbPidNak
    usbMsgFlags := 0 }

/-- No more than the host has asked for. -/
def Driver.limited (r : Driver) (rq : UsbRequest) (len : UInt8) : Driver :=
  { r with usbMsgLen := if rq.wLength.high = 0 ∧ rq.wLength.low < len then rq.wLength.low else len }

theorem usbProcessRx_custom {p : Packet} (h : p.IsCustom) (s : State A) :
    usbProcessRx usbFunctionSetup p s =
      ⟨s.driver.fresh.limited p.request (usbFunctionSetup p.data s.user).1,
        (usbFunctionSetup p.data s.user).2⟩ := by
  rw [usbProcessRx, if_pos h.1.1, if_neg (not_not.mpr h.1.2)]
  simp only [h.2, ne_eq, not_false_iff, if_true]
  rfl

theorem usbProcessRx_standard {p : Packet} (h : p.IsStandard) (s : State A) :
    usbProcessRx usbFunctionSetup p s =
      ⟨(usbDriverSetup p.request s.driver.fresh).2.limited p.request
        (usbDriverSetup p.request s.driver.fresh).1, s.user⟩ := by
  rw [usbProcessRx, if_pos h.1.1, if_neg (not_not.mpr h.1.2)]
  simp only [h.2, ne_eq, not_true_eq_false, if_false]
  rfl

theorem usbProcessRx_of_not_setup {p : Packet} (h : ¬p.IsSetup) (s : State A) :
    usbProcessRx usbFunctionSetup p s = s := by
  unfold usbProcessRx
  split_ifs with htoken hlen
  · rfl
  · exact absurd ⟨htoken, not_not.mp hlen⟩ h
  · rfl

theorem startSetup_alone {α : Type} (k : Unit → Code A α) :
    exec alone (startSetup >>= k) d = exec alone (k ()) (d.withDriver d.driver.fresh) := rfl

theorem limitReply_alone {data : Nat} {p : Packet} (h : LiesAt d data p.data) (len : UInt8) :
    exec alone (limitReply data len) d =
      (.ok (), d.withDriver (d.driver.limited p.request len)) := by
  have h6 : d.rxByte (data + 6) = p.request.wLength.low := h 6
  have h7 : d.rxByte (data + 7) = p.request.wLength.high := h 7
  rw [limitReply, exec_get, exec_get, exec_setDriver, h6, h7]
  rfl

theorem Driver.limited_ne_zero {r : Driver} {rq : UsbRequest} {len : UInt8}
    (h : (r.limited rq len).usbMsgLen ≠ 0) : len ≠ 0 := by
  rintro rfl
  apply h
  have hnot : ¬(rq.wLength.high = 0 ∧ rq.wLength.low < 0) := fun hlow =>
    absurd hlow.2 (UInt8.not_lt_zero)
  rw [Driver.limited, if_neg hnot]

/-- Without the interrupt routine the code processes the packet as `usbProcessRx` says. -/
theorem usbProcessRxCode_alone {data : Nat} {p : Packet} (htoken : d.usbRxToken = p.token)
    (h : LiesAt d data p.data) :
    ∃ pos, exec alone (usbProcessRxCode usbFunctionSetup data p.len) d =
        (.ok (), { d with
          toState := usbProcessRx usbFunctionSetup p d.toState, usbMsgPos := pos }) ∧
      (p.IsStandard → (usbProcessRx usbFunctionSetup p d.toState).driver.usbMsgLen ≠ 0 →
        pos = 0) ∧ (¬p.IsSetup → pos = d.usbMsgPos) := by
  rw [usbProcessRxCode, exec_get]
  by_cases hsetup : p.token = usbPidSetup
  · rw [if_pos (htoken.trans hsetup)]
    by_cases hlen : p.len = 8
    · have hp : p.IsSetup := ⟨hsetup, hlen⟩
      have h0 : d.rxByte data = p.request.bmRequestType := h 0
      rw [if_neg (not_not.mpr hlen), startSetup_alone, exec_get, rxByte_withDriver, h0, handleRequest]
      by_cases htype : p.request.bmRequestType &&& usbRqTypeMask ≠ usbRqTypeStandard
      · have hfresh : LiesAt (d.withDriver d.driver.fresh) data p.data := h
        have hcall := usbFunctionSetupCode_alone usbFunctionSetup hfresh
        refine ⟨d.usbMsgPos, ?_, fun hstd => absurd hstd.2 htype, fun _ => rfl⟩
        rw [if_pos htype, exec_bind_ok alone hcall, usbProcessRx_custom usbFunctionSetup ⟨hp, htype⟩]
        exact limitReply_alone (by exact h) _
      · have hstd : p.IsStandard := ⟨hp, not_not.mp htype⟩
        have hfresh : LiesAt (d.withDriver d.driver.fresh) data p.data := h
        obtain ⟨pos, hcall, hpos⟩ := usbDriverSetupCode_alone hfresh
        refine ⟨pos, ?_, fun _ hlen' => hpos ?_, fun hnot => absurd hp hnot⟩
        · rw [if_neg htype, exec_bind_ok alone hcall, usbProcessRx_standard usbFunctionSetup hstd]
          exact limitReply_alone (by exact h) _
        · rw [usbProcessRx_standard usbFunctionSetup hstd] at hlen'
          exact Driver.limited_ne_zero hlen'
    · refine ⟨d.usbMsgPos, ?_, fun hstd => absurd hstd.1.2 hlen, fun _ => rfl⟩
      rw [if_pos hlen, usbProcessRx_of_not_setup _ fun hp => hlen hp.2]
      rfl
  · refine ⟨d.usbMsgPos, ?_, fun hstd => absurd hstd.1.1 hsetup, fun _ => rfl⟩
    rw [if_neg (htoken ▸ hsetup), usbProcessRx_of_not_setup _ fun hp => hsetup hp.1]
    rfl

/-- `n` bytes from a place behind `usbMsgPtr` on. -/
def Driver.message (r : Driver) : Nat → Nat → List UInt8
  | _, 0 => []
  | pos, n + 1 => r.fetch pos :: r.message (pos + 1) n

theorem Driver.message_congr {r r' : Driver} {pos n : Nat}
    (h : ∀ i < n, r'.fetch (pos + i) = r.fetch (pos + i)) : r'.message pos n = r.message pos n := by
  induction n generalizing pos with
  | zero => rfl
  | succ n ih =>
    have hrest : r'.message (pos + 1) n = r.message (pos + 1) n := ih fun i hi => by
      rw [Nat.add_right_comm, Nat.add_assoc]
      exact h (i + 1) (by omega)
    rw [message, message, hrest]
    exact congrArg (· :: _) (h 0 (by omega))

theorem Driver.length_message (r : Driver) (pos n : Nat) : (r.message pos n).length = n := by
  induction n generalizing pos with
  | zero => rfl
  | succ n ih => rw [message, List.length_cons, ih]

/-- The loop copies the message into the transmit buffer if the writes before a byte do not
change it. -/
theorem usbDeviceReadLoop_alone (n i : Nat) (hin : i + n ≤ 8) (d : Device A)
    (hsteady : ∀ buf : Vector UInt8 usbBufsize, buf[9] = d.driver.usbTxBuf[9] →
      buf[10] = d.driver.usbTxBuf[10] → ∀ j, i ≤ j → j < i + n →
        (d.driver.withTxBuf buf).fetch (d.usbMsgPos + j) = d.driver.fetch (d.usbMsgPos + j)) :
    ∃ buf, exec alone (usbDeviceReadLoop n i) d =
        (.ok (), d.withDriver (d.driver.withTxBuf buf)) ∧
      buf.toList = d.driver.usbTxBuf.toList.take (1 + i) ++
        d.driver.message (d.usbMsgPos + i) n ++ d.driver.usbTxBuf.toList.drop (1 + i + n) := by
  induction n generalizing i d with
  | zero => exact ⟨d.driver.usbTxBuf, rfl, by simp [Driver.message]⟩
  | succ n ih =>
    let c := d.driver.fetch (d.usbMsgPos + i)
    let buf := d.driver.usbTxBuf.setIfInBounds (1 + i) c
    have h9 : buf[9] = d.driver.usbTxBuf[9] :=
      Vector.getElem_setIfInBounds_ne (by decide) (by omega)
    have h10 : buf[10] = d.driver.usbTxBuf[10] :=
      Vector.getElem_setIfInBounds_ne (by decide) (by omega)
    obtain ⟨buf', hexec, hbuf'⟩ := ih (i + 1) (by omega) (d.withDriver (d.driver.withTxBuf buf))
      fun buf'' h9' h10' j hij hj => by
        have hbefore := hsteady buf h9 h10 j (by omega) (by omega)
        have hafter := hsteady buf'' (h9'.trans h9) (h10'.trans h10) j (by omega) (by omega)
        exact hafter.trans hbefore.symm
    refine ⟨buf', hexec, ?_⟩
    have hmsg : (d.driver.withTxBuf buf).message (d.usbMsgPos + (i + 1)) n =
        d.driver.message (d.usbMsgPos + (i + 1)) n :=
      Driver.message_congr fun j hj => by
        rw [Nat.add_assoc]
        exact hsteady buf h9 h10 (i + 1 + j) (by omega) (by omega)
    have hlen : 1 + i < d.driver.usbTxBuf.toList.length := by
      rw [Vector.length_toList, usbBufsize]
      omega
    have hset : buf.toList = d.driver.usbTxBuf.toList.take (1 + i) ++
        c :: d.driver.usbTxBuf.toList.drop (1 + i + 1) := by
      rw [Vector.toList_setIfInBounds, List.set_eq_take_append_cons_drop, if_pos hlen]
    have htake : (d.driver.usbTxBuf.toList.take (1 + i)).length = 1 + i := by
      rw [List.length_take]
      omega
    have hfirst : buf.toList.take (1 + (i + 1)) =
        d.driver.usbTxBuf.toList.take (1 + i) ++ [c] := by
      have hsum : 1 + (i + 1) = (d.driver.usbTxBuf.toList.take (1 + i)).length + 1 := by omega
      rw [hset, hsum, List.take_length_add_append, List.take_succ_cons, List.take_zero]
    have hlast : buf.toList.drop (1 + (i + 1) + n) =
        d.driver.usbTxBuf.toList.drop (1 + i + (n + 1)) := by
      have hsum : 1 + (i + 1) + n = (d.driver.usbTxBuf.toList.take (1 + i)).length + (n + 1) := by
        omega
      rw [hset, hsum, List.drop_length_add_append, List.drop_succ_cons, List.drop_drop]
      congr 1
      omega
    change buf'.toList = buf.toList.take (1 + (i + 1)) ++
      (d.driver.withTxBuf buf).message (d.usbMsgPos + (i + 1)) n ++
        buf.toList.drop (1 + (i + 1) + n) at hbuf'
    rw [hbuf', hfirst, hmsg, hlast, Driver.message, List.append_assoc _ [c]]
    rfl

theorem usbDeviceRead_alone (len : UInt8) (hlen : len.toNat ≤ 8) (d : Device A)
    (hsteady : ∀ buf : Vector UInt8 usbBufsize, buf[9] = d.driver.usbTxBuf[9] →
      buf[10] = d.driver.usbTxBuf[10] → ∀ j < len.toNat,
        (d.driver.withTxBuf buf).fetch (d.usbMsgPos + j) = d.driver.fetch (d.usbMsgPos + j)) :
    ∃ buf, exec alone (usbDeviceRead len) d =
        (.ok len, { d.withDriver (d.driver.withTxBuf buf) with
          usbMsgPos := d.usbMsgPos + len.toNat }) ∧
      buf.toList = d.driver.usbTxBuf.toList.take 1 ++
        d.driver.message d.usbMsgPos len.toNat ++ d.driver.usbTxBuf.toList.drop (1 + len.toNat) := by
  by_cases hpos : 0 < len
  · obtain ⟨buf, hexec, hbuf⟩ := usbDeviceReadLoop_alone len.toNat 0 (by omega) d
      fun buf h9 h10 j _ hj => hsteady buf h9 h10 j (by omega)
    refine ⟨buf, ?_, hbuf⟩
    rw [usbDeviceRead, if_pos hpos, exec_bind_ok alone hexec]
    rfl
  · have hzero : len.toNat = 0 := by
      have hle : ¬0 < len.toNat := hpos
      omega
    refine ⟨d.driver.usbTxBuf, ?_, ?_⟩
    · rw [usbDeviceRead, if_neg hpos, hzero]
      rfl
    · rw [hzero, Driver.message, List.append_nil, Nat.add_zero, List.take_append_drop]

theorem txData_set {r : Driver} {len i : Nat} (hi : 1 + len ≤ i) (c : UInt8) :
    (r.withTxBuf (r.usbTxBuf.setIfInBounds i c)).txData len = r.txData len := by
  apply List.ext_getElem?
  intro j
  by_cases hj : j < len
  · simp only [Driver.txData, Driver.withTxBuf, Vector.toList_setIfInBounds, List.getElem?_take,
      List.getElem?_drop, if_pos hj]
    rw [List.getElem?_set_ne (by omega)]
  · simp only [Driver.txData, List.getElem?_take, if_neg hj]

/-- Behind the data the two stores leave the checksum, low byte first. -/
theorem usbCrc16Append_alone (len : Nat) (hlen : len ≤ 8) (d : Device A) :
    ∃ buf, exec alone (usbCrc16Append len) d =
        (.ok (), d.withDriver (d.driver.withTxBuf buf)) ∧
      buf.toList = d.driver.usbTxBuf.toList.take (1 + len) ++
        [(checksum (d.driver.txData len)).1, (checksum (d.driver.txData len)).2] ++
          d.driver.usbTxBuf.toList.drop (3 + len) := by
  let low := (checksum (d.driver.txData len)).1
  let high := (checksum (d.driver.txData len)).2
  let buf₁ := d.driver.usbTxBuf.setIfInBounds (1 + len) low
  refine ⟨buf₁.setIfInBounds (2 + len) high, ?_, ?_⟩
  · have hsame : (checksum ((d.driver.withTxBuf buf₁).txData len)).2 = high := by
      rw [txData_set (Nat.le_refl (1 + len)) low]
    rw [← hsame]
    rfl
  · have hsize : d.driver.usbTxBuf.toList.length = 11 := Vector.length_toList
    have htake : (d.driver.usbTxBuf.toList.take (1 + len)).length = 1 + len := by
      rw [List.length_take]
      omega
    have hfirst : buf₁.toList = d.driver.usbTxBuf.toList.take (1 + len) ++
        low :: d.driver.usbTxBuf.toList.drop (1 + len + 1) := by
      rw [Vector.toList_setIfInBounds, List.set_eq_take_append_cons_drop, if_pos (by omega)]
    have hsum : 2 + len = (d.driver.usbTxBuf.toList.take (1 + len)).length + 1 := by omega
    have hlen₁ : 2 + len < buf₁.toList.length := by
      rw [Vector.length_toList, usbBufsize]
      omega
    rw [Vector.toList_setIfInBounds, List.set_eq_take_append_cons_drop, if_pos hlen₁, hfirst]
    have htwo : (d.driver.usbTxBuf.toList.take (1 + len) ++
        low :: d.driver.usbTxBuf.toList.drop (1 + len + 1)).take (2 + len) =
        d.driver.usbTxBuf.toList.take (1 + len) ++ [low] := by
      rw [hsum, List.take_length_add_append, List.take_succ_cons, List.take_zero]
    have hrest : (d.driver.usbTxBuf.toList.take (1 + len) ++
        low :: d.driver.usbTxBuf.toList.drop (1 + len + 1)).drop (2 + len + 1) =
        d.driver.usbTxBuf.toList.drop (3 + len) := by
      rw [hsum, Nat.add_assoc, List.drop_length_add_append, List.drop_succ_cons, List.drop_drop]
      congr 1
      omega
    rw [htwo, hrest]
    simp [low, high]

/-- A data packet as it goes over the bus. -/
def dataPacket (pid : UInt8) (bytes : List UInt8) : List UInt8 :=
  pid :: bytes ++ [(checksum bytes).1, (checksum bytes).2]

/-- The size of the next block. -/
def Driver.blockLen (r : Driver) : UInt8 := if 8 < r.usbMsgLen then 8 else r.usbMsgLen

theorem Driver.blockLen_le (r : Driver) : r.blockLen.toNat ≤ 8 := by
  unfold blockLen
  split_ifs with h
  · decide
  · exact UInt8.not_lt.mp h

theorem Driver.blockLen_le_msgLen (r : Driver) : r.blockLen.toNat ≤ r.usbMsgLen.toNat := by
  unfold blockLen
  split_ifs with h
  · exact Nat.le_of_lt h
  · exact Nat.le_refl _

/-- The driver with a block in its buffer, before it says so in `usbTxLen`. A block of fewer
than eight bytes ends the message. -/
def Driver.prepared (r : Driver) (buf : Vector UInt8 usbBufsize) : Driver :=
  { r with
    usbMsgLen := if r.blockLen < 8 then usbNoMsg else r.usbMsgLen - r.blockLen
    usbTxBuf := buf }

def Driver.built (r : Driver) (buf : Vector UInt8 usbBufsize) : Driver :=
  { r.prepared buf with usbTxLen := r.blockLen + 4 }

theorem finishBlock_alone (len : UInt8) (hlen : len.toNat ≤ 8) (d : Device A) :
    ∃ buf, exec alone (finishBlock len) d = (.ok (len + 4), d.withDriver { d.driver with
        usbMsgLen := if len < 8 then usbNoMsg else d.driver.usbMsgLen
        usbTxBuf := buf }) ∧
      buf.toList = d.driver.usbTxBuf.toList.take (1 + len.toNat) ++
        [(checksum (d.driver.txData len.toNat)).1, (checksum (d.driver.txData len.toNat)).2] ++
          d.driver.usbTxBuf.toList.drop (3 + len.toNat) := by
  obtain ⟨buf, hexec, hbuf⟩ := usbCrc16Append_alone len.toNat hlen d
  have hle : len ≤ 8 := hlen
  have hshort : len + 4 < 12 ↔ len < 8 := by
    have h4 : (4 : UInt8).toNat = 4 := rfl
    have h8 : (8 : UInt8).toNat = 8 := rfl
    have h12 : (12 : UInt8).toNat = 12 := rfl
    rw [UInt8.lt_iff_toNat_lt, UInt8.lt_iff_toNat_lt, UInt8.toNat_add]
    omega
  refine ⟨buf, ?_, hbuf⟩
  rw [finishBlock, if_pos hle, exec_bind_ok alone hexec]
  by_cases hlt : len < 8
  · rw [if_pos (hshort.mpr hlt), if_pos hlt]
    rfl
  · rw [if_neg (fun h => hlt (hshort.mp h)), if_neg hlt]
    rfl

/-- Alone, the code puts the next block of the message into the buffer, as a data packet with
the other identifier. -/
theorem prepareBlock_alone (d : Device A)
    (hsteady : ∀ buf : Vector UInt8 usbBufsize, buf[9] = d.driver.usbTxBuf[9] →
      buf[10] = d.driver.usbTxBuf[10] → ∀ j < d.driver.blockLen.toNat,
        (d.driver.withTxBuf buf).fetch (d.usbMsgPos + j) = d.driver.fetch (d.usbMsgPos + j)) :
    ∃ buf, exec alone prepareBlock d = (.ok (d.driver.blockLen + 4),
        { d.withDriver (d.driver.prepared buf) with
          usbMsgPos := d.usbMsgPos + d.driver.blockLen.toNat }) ∧
      buf.toList.take (d.driver.blockLen.toNat + 3) = dataPacket (toggled d.driver.usbTxBuf[0])
        (d.driver.message d.usbMsgPos d.driver.blockLen.toNat) := by
  let n := d.driver.blockLen.toNat
  have hn : n ≤ 8 := d.driver.blockLen_le
  let buf₀ := d.driver.usbTxBuf.set 0 (toggled d.driver.usbTxBuf[0])
  let r₀ : Driver :=
    { d.driver with usbMsgLen := d.driver.usbMsgLen - d.driver.blockLen, usbTxBuf := buf₀ }
  have h9 : buf₀[9] = d.driver.usbTxBuf[9] := Vector.getElem_set_ne (by decide) (by decide) (by decide)
  have h10 : buf₀[10] = d.driver.usbTxBuf[10] :=
    Vector.getElem_set_ne (by decide) (by decide) (by decide)
  have hfetch : ∀ j < n, r₀.fetch (d.usbMsgPos + j) = d.driver.fetch (d.usbMsgPos + j) :=
    fun j hj => hsteady buf₀ h9 h10 j hj
  obtain ⟨buf, hread, hbuf⟩ := usbDeviceRead_alone d.driver.blockLen hn (d.withDriver r₀)
    fun buf' h9' h10' j hj =>
      (hsteady buf' (h9'.trans h9) (h10'.trans h10) j hj).trans (hfetch j hj).symm
  let d₁ : Device A := { (d.withDriver r₀).withDriver (r₀.withTxBuf buf) with
    usbMsgPos := d.usbMsgPos + n }
  obtain ⟨buf', hfinish, hbuf'⟩ := finishBlock_alone d.driver.blockLen hn d₁
  have hmsg : r₀.message d.usbMsgPos n = d.driver.message d.usbMsgPos n :=
    Driver.message_congr hfetch
  have hhead : buf₀.toList.take 1 = [toggled d.driver.usbTxBuf[0]] := by
    have hsize : d.driver.usbTxBuf.toList.length = 11 := Vector.length_toList
    obtain ⟨x, xs, hL⟩ := List.exists_cons_of_length_pos (by omega : 0 < d.driver.usbTxBuf.toList.length)
    rw [Vector.toList_set, hL]
    rfl
  have hfront : buf.toList = (toggled d.driver.usbTxBuf[0] :: d.driver.message d.usbMsgPos n) ++
      buf₀.toList.drop (1 + n) := by
    rw [← hmsg]
    exact hbuf.trans (by rw [show (d.withDriver r₀).driver.usbTxBuf = buf₀ from rfl, hhead]; rfl)
  have hlen : (toggled d.driver.usbTxBuf[0] :: d.driver.message d.usbMsgPos n).length = 1 + n := by
    rw [List.length_cons, Driver.length_message, Nat.add_comm]
  have htake : buf.toList.take (1 + n) =
      toggled d.driver.usbTxBuf[0] :: d.driver.message d.usbMsgPos n := by
    rw [hfront, List.take_left' hlen]
  have hdata : d₁.driver.txData n = d.driver.message d.usbMsgPos n := by
    change (buf.toList.drop 1).take n = _
    rw [hfront, List.cons_append, List.drop_one, List.tail_cons,
      List.take_left' (Driver.length_message ..)]
  refine ⟨buf', ?_, ?_⟩
  · change exec alone (usbDeviceRead d.driver.blockLen >>= finishBlock) (d.withDriver r₀) = _
    rw [exec_bind_ok alone hread]
    exact hfinish
  · rw [hbuf', show d₁.driver.usbTxBuf = buf from rfl, htake, hdata, List.take_left']
    · rfl
    · rw [List.length_append, hlen]
      exact Nat.add_comm 1 n ▸ rfl

end Alone
end SomethingsWrong.UsbDriver
