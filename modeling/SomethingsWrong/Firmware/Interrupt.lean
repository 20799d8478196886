import SomethingsWrong.Firmware.Crc16
import SomethingsWrong.Firmware.UsbDriver

/-! The interrupt routine of the driver as the main loop sees it: one packet of the host goes
into the half of the receive buffer that is not being processed, and is answered at once. The
routine runs with interrupts disabled. -/
namespace SomethingsWrong.UsbDriver

def usbPidOut : UInt8 := 0xe1
def usbPidIn : UInt8 := 0x69
def usbPidData1 : UInt8 := 0x4b
def usbPidAck : UInt8 := 0xd2

/-- The two halves of `usbRxBuf`; `usbInputBufOffset` is the first index of one of them. -/
inductive Half where
  | first | second
  deriving DecidableEq

def Half.offset : Half → Nat
  | .first => 0
  | .second => usbBufsize

/-- `USB_BUFSIZE - usbInputBufOffset` -/
def Half.other : Half → Half
  | .first => .second
  | .second => .first

@[simp] theorem Half.other_ne (h : Half) : h.other ≠ h := by cases h <;> simp [other]

@[simp] theorem Half.other_other (h : Half) : h.other.other = h := by cases h <;> rfl

/-- The other variables of the driver. `usbMsgPos` is how far `usbDeviceRead` has moved
`usbMsgPtr` on; `usbRxLen` is signed. -/
structure Device (A : Type) extends State A where
  usbMsgPos : Nat
  usbRxBuf : Half → Vector UInt8 usbBufsize
  usbInputBufOffset : Half
  usbDeviceAddr : UInt8
  usbCurrentTok : UInt8
  usbRxToken : UInt8
  usbRxLen : UInt8

/-- What the device does in reply: nothing, a handshake alone, an acknowledgement of a packet
that it has stored, or a data packet. -/
inductive Answer where
  | silence
  | handshake (pid : UInt8)
  | stored (p : Packet)
  | data (bytes : List UInt8)

variable {A : Type}

theorem pid_inside : 0 < usbBufsize := by decide

theorem address_inside : 1 < usbBufsize := by decide

/-- The received bytes over what the buffer held. -/
def overwrite (bytes : List UInt8) (old : Vector UInt8 usbBufsize) : Vector UInt8 usbBufsize :=
  Vector.ofFn fun i => bytes[i.val]?.getD old[i]

/-- The eight bytes after the packet identifier. -/
def payload (buf : Vector UInt8 usbBufsize) : Vector UInt8 8 :=
  Vector.ofFn fun i =>
    have h : i.val + 1 < usbBufsize := Nat.lt_of_lt_of_le (Nat.add_lt_add_right i.isLt 1) (by decide)
    buf[i.val + 1]

/-- The packet that waits for `usbPoll`. `usbRxLen` counts its identifier and checksum. -/
def Device.pending (d : Device A) : Packet :=
  ⟨d.usbRxToken, payload (d.usbRxBuf d.usbInputBufOffset.other), d.usbRxLen - 3⟩

/-- Store a packet of `n` bytes and swap the halves. -/
def Device.store (n : Nat) (d : Device A) : Device A :=
  { d with
    usbRxLen := n.toUInt8
    usbRxToken := d.usbCurrentTok
    usbInputBufOffset := d.usbInputBufOffset.other }

/-- The bytes of the packet that is ready, without the sync byte that `usbTxLen` counts. -/
def Driver.outgoing (r : Driver) : List UInt8 := r.usbTxBuf.toList.take (r.usbTxLen.toNat - 1)

/-- After the data packet the address that `SET_ADDRESS` left becomes the device's. -/
def Device.transmitted (d : Device A) : Device A :=
  { d with
    driver := { d.driver with usbTxLen := usbPidNak }
    usbDeviceAddr := d.driver.usbNewDeviceAddr <<< 1 }

def handleData (n : Nat) (d : Device A) : Answer × Device A :=
  if d.usbCurrentTok = 0 then (.silence, d)
  else if d.usbRxLen ≠ 0 then (.handshake usbPidNak, d)
  else if n < 4 then (.handshake usbPidAck, d)
  else (.stored (d.store n).pending, d.store n)

def handleIn (d : Device A) : Answer × Device A :=
  if 1 ≤ d.usbRxLen.toInt8 then (.handshake usbPidNak, d)
  else if d.driver.usbTxLen &&& 0x10 ≠ 0 then (.handshake d.driver.usbTxLen, d)
  else (.data d.driver.outgoing, d.transmitted)

/-- What the routine does at the end of a packet of `n` bytes, from `se0` or `overflow` on. -/
def se0 (n : Nat) (d : Device A) : Answer × Device A :=
  let buf := d.usbRxBuf d.usbInputBufOffset
  let token := getElem buf 0 pid_inside
  let address : UInt8 := getElem buf 1 address_inside
  if usbBufsize < n then (.silence, { d with usbCurrentTok := 0 })
  else if token = usbPidData0 then handleData n d
  else if token = usbPidData1 then handleData n d
  else if address <<< 1 ≠ d.usbDeviceAddr then (.silence, { d with usbCurrentTok := 0 })
  else if token = usbPidIn then handleIn d
  else if token = usbPidSetup then (.silence, { d with usbCurrentTok := token })
  else if token = usbPidOut then (.silence, { d with usbCurrentTok := token })
  else (.silence, { d with usbCurrentTok := 0 })

/-- The bytes as the receiver loop stores them. -/
def rxLoop (bytes : List UInt8) (d : Device A) : Device A :=
  { d with usbRxBuf := fun h => if h = d.usbInputBufOffset then overwrite bytes (d.usbRxBuf h)
      else d.usbRxBuf h }

/-- The interrupt routine for one packet of the host. After `overflow` the real routine may take the
tail of a packet that is too long for the start of another one: what it makes of the tail is then a
further packet of the run. -/
def interrupt (bytes : List UInt8) (d : Device A) : Answer × Device A :=
  se0 bytes.length (rxLoop bytes d)

/-- Nothing that the main loop or the host has to remember. -/
def Answer.IsQuiet : Answer → Prop
  | .silence => True
  | .handshake _ => True
  | _ => False

/-- The same device but for what the interrupt routine always overwrites: the half of the
buffer that receives, and the last token. -/
def SameButInput (d d' : Device A) : Prop :=
  ∃ buf token, d' = { d with usbRxBuf := buf, usbCurrentTok := token } ∧
    buf d.usbInputBufOffset.other = d.usbRxBuf d.usbInputBufOffset.other

/-- What one packet of the host can do to the device: no more than change the input, be stored,
or fetch the data packet that is ready. -/
inductive Effect (d : Device A) : Answer → Device A → Prop
  | quiet {a : Answer} {d' : Device A} (ha : a.IsQuiet) (h : SameButInput d d') : Effect d a d'
  | stored {d' : Device A} {n : Nat} (h : SameButInput d d') (hfree : d.usbRxLen = 0)
      (hmin : 4 ≤ n) (hmax : n ≤ usbBufsize) : Effect d (.stored (d'.store n).pending) (d'.store n)
  | sent {d' : Device A} (h : SameButInput d d') (hfree : ¬1 ≤ d.usbRxLen.toInt8)
      (hready : d.driver.usbTxLen &&& 0x10 = 0) :
      Effect d (.data d'.driver.outgoing) d'.transmitted

theorem handleData_effect {d d' : Device A} (h : SameButInput d d') {n : Nat}
    (hn : n ≤ usbBufsize) : Effect d (handleData n d').1 (handleData n d').2 := by
  have hlen : d'.usbRxLen = d.usbRxLen := by
    obtain ⟨buf, token, rfl, -⟩ := h
    rfl
  unfold handleData
  split_ifs with htoken hfull hshort
  · exact .quiet trivial h
  · exact .quiet trivial h
  · exact .quiet trivial h
  · exact .stored h (by simpa [hlen] using hfull) (by omega) hn

theorem handleIn_effect {d d' : Device A} (h : SameButInput d d') :
    Effect d (handleIn d').1 (handleIn d').2 := by
  have hsame : d'.usbRxLen = d.usbRxLen ∧ d'.driver = d.driver := by
    obtain ⟨buf, token, rfl, -⟩ := h
    exact ⟨rfl, rfl⟩
  unfold handleIn
  split_ifs with hfull hidle
  · exact .quiet trivial h
  · exact .quiet trivial h
  · exact .sent h (by rwa [← hsame.1]) (by rw [← hsame.2]; exact not_not.mp hidle)

theorem interrupt_effect (bytes : List UInt8) (d : Device A) :
    Effect d (interrupt bytes d).1 (interrupt bytes d).2 := by
  have hinput : SameButInput d (rxLoop bytes d) :=
    ⟨(rxLoop bytes d).usbRxBuf, d.usbCurrentTok, rfl, by simp [rxLoop]⟩
  have htoken (token : UInt8) : SameButInput d { rxLoop bytes d with usbCurrentTok := token } :=
    ⟨(rxLoop bytes d).usbRxBuf, token, rfl, by simp [rxLoop]⟩
  unfold interrupt se0
  dsimp only
  split_ifs with hover
  · exact .quiet trivial (htoken 0)
  · exact handleData_effect hinput (by omega)
  · exact handleData_effect hinput (by omega)
  · exact .quiet trivial (htoken 0)
  · exact handleIn_effect hinput
  · exact .quiet trivial (htoken _)
  · exact .quiet trivial (htoken _)
  · exact .quiet trivial (htoken 0)

end SomethingsWrong.UsbDriver
