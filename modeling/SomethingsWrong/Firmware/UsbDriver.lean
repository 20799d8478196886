import Mathlib.Data.List.Basic

/-! What the V-USB driver does with a received packet, configured as in `usbconfig.h`: no
interrupt endpoint, no `usbFunctionRead` or `usbFunctionWrite`, no long transfers. Standard
requests are answered by the driver, all others are handed to `usbFunctionSetup`. -/
namespace SomethingsWrong.UsbDriver

def usbBufsize : Nat := 11

def usbPidSetup : UInt8 := 0x2d
def usbPidData0 : UInt8 := 0xc3
def usbPidNak : UInt8 := 0x5a

def usbRqTypeMask : UInt8 := 0x60
def usbRqTypeStandard : UInt8 := (0 : UInt8) <<< 5

def usbRqGetStatus : UInt8 := 0
def usbRqSetAddress : UInt8 := 5
def usbRqGetDescriptor : UInt8 := 6
def usbRqGetConfiguration : UInt8 := 8
def usbRqSetConfiguration : UInt8 := 9
def usbRqGetInterface : UInt8 := 10

def usbDescrDevice : UInt8 := 1
def usbDescrConfig : UInt8 := 2
def usbDescrString : UInt8 := 3

def usbFlgMsgPtrIsRom : UInt8 := (1 : UInt8) <<< 6

def usbCfgVendorNameLen : Nat := 16
def usbCfgDeviceNameLen : Nat := 18

/-- `usbWord_t` -/
structure UsbWord where
  low : UInt8
  high : UInt8
  deriving DecidableEq

/-- `usbRequest_t` -/
structure UsbRequest where
  bmRequestType : UInt8
  bRequest : UInt8
  wValue : UsbWord
  wIndex : UsbWord
  wLength : UsbWord
  deriving DecidableEq

/-- The cast of the received bytes to `usbRequest_t *`. -/
def UsbRequest.ofBytes (data : Vector UInt8 8) : UsbRequest :=
  ⟨data[0], data[1], ⟨data[2], data[3]⟩, ⟨data[4], data[5]⟩, ⟨data[6], data[7]⟩⟩

/-- A packet in the receive buffer: `usbRxToken`, the bytes and their number. -/
structure Packet where
  token : UInt8
  data : Vector UInt8 8
  len : UInt8

def Packet.request (p : Packet) : UsbRequest := UsbRequest.ofBytes p.data

/-- The descriptors in flash memory. There is no serial number. -/
inductive Descriptor where
  | device | configuration | string0 | stringVendor | stringDevice | stringSerialNumber
  deriving DecidableEq

/-- `sizeof`, after `USB_CFG_DESCR_PROPS_..` has been redefined to it. An `int` of the string
descriptors has two bytes. -/
def Descriptor.props : Descriptor → Nat
  | .device => 18
  | .configuration => 18
  | .string0 => 4
  | .stringVendor => 2 * (1 + usbCfgVendorNameLen)
  | .stringDevice => 2 * (1 + usbCfgDeviceNameLen)
  | .stringSerialNumber => 0

/-- Where `usbMsgPtr` points: into `usbTxBuf`, at `usbConfiguration` or into the flash. -/
inductive MsgPtr where
  | txBuf (offset : Nat)
  | configuration
  | flash (d : Descriptor)
  deriving DecidableEq

/-- The driver's variables, as far as a received packet reads or writes them. -/
structure Driver where
  usbNewDeviceAddr : UInt8
  usbConfiguration : UInt8
  usbTxLen : UInt8
  usbTxBuf : Vector UInt8 usbBufsize
  usbMsgPtr : MsgPtr
  usbMsgLen : UInt8
  usbMsgFlags : UInt8

/-- `GET_DESCRIPTOR`, for properties that are neither dynamic nor in RAM. -/
def getDescriptor (d : Descriptor) (s : Driver) : UInt8 × Driver :=
  if d.props ≠ 0 then ((d.props &&& 0x3fff).toUInt8, { s with usbMsgPtr := .flash d }) else (0, s)

def usbDriverDescriptor (rq : UsbRequest) (s : Driver) : UInt8 × Driver :=
  let (len, s) :=
    if rq.wValue.high = usbDescrDevice then getDescriptor .device s
    else if rq.wValue.high = usbDescrConfig then getDescriptor .configuration s
    else if rq.wValue.high = usbDescrString then
      if rq.wValue.low = 0 then getDescriptor .string0 s
      else if rq.wValue.low = 1 then getDescriptor .stringVendor s
      else if rq.wValue.low = 2 then getDescriptor .stringDevice s
      else if rq.wValue.low = 3 then getDescriptor .stringSerialNumber s
      else (0, s)
    else (0, s)
  (len, { s with usbMsgFlags := usbFlgMsgPtrIsRom })

/-- `usbDriverSetup`. `CLEAR_FEATURE`, `SET_FEATURE` and `SET_INTERFACE` are not compiled in and
fall to the default. -/
def usbDriverSetup (rq : UsbRequest) (s : Driver) : UInt8 × Driver :=
  let value := rq.wValue.low
  let s := { s with usbTxBuf := s.usbTxBuf.set 9 0 }
  if rq.bRequest = usbRqGetStatus then
    (2, { s with usbTxBuf := s.usbTxBuf.set 10 0, usbMsgPtr := .txBuf 9 })
  else if rq.bRequest = usbRqSetAddress then
    (0, { s with usbNewDeviceAddr := value, usbMsgPtr := .txBuf 9 })
  else if rq.bRequest = usbRqGetDescriptor then usbDriverDescriptor rq s
  else if rq.bRequest = usbRqGetConfiguration then (1, { s with usbMsgPtr := .configuration })
  else if rq.bRequest = usbRqSetConfiguration then
    (0, { s with usbConfiguration := value, usbMsgPtr := .txBuf 9 })
  else if rq.bRequest = usbRqGetInterface then (1, { s with usbMsgPtr := .txBuf 9 })
  else (0, { s with usbMsgPtr := .txBuf 9 })

/-- The driver and the variables of the firmware that it serves. -/
structure State (A : Type) where
  driver : Driver
  user : A

variable {A : Type} (usbFunctionSetup : Vector UInt8 8 → A → UInt8 × A)

/-- `usbProcessRx` -/
def usbProcessRx (p : Packet) (s : State A) : State A :=
  if p.token = usbPidSetup then
    if p.len ≠ 8 then s
    else
      let rq := p.request
      let driver := { s.driver with
        usbTxBuf := s.driver.usbTxBuf.set 0 usbPidData0
        usbTxLen := usbPidNak
        usbMsgFlags := 0 }
      let (replyLen, s) : UInt8 × State A :=
        if rq.bmRequestType &&& usbRqTypeMask ≠ usbRqTypeStandard then
          let (replyLen, user) := usbFunctionSetup p.data s.user
          (replyLen, ⟨driver, user⟩)
        else
          let (replyLen, driver) := usbDriverSetup rq driver
          (replyLen, ⟨driver, s.user⟩)
      let replyLen :=
        if rq.wLength.high = 0 ∧ rq.wLength.low < replyLen then rq.wLength.low else replyLen
      { s with driver := { s.driver with usbMsgLen := replyLen } }
  else
    -- the data phase of a transfer, of which nothing is compiled in
    s

/-- One packet after the other. -/
def receive (ps : List Packet) (s : State A) : State A :=
  ps.foldl (fun s p => usbProcessRx usbFunctionSetup p s) s

/-- A SETUP packet of the right size. -/
def Packet.IsSetup (p : Packet) : Prop := p.token = usbPidSetup ∧ p.len = 8

/-- A standard request, whatever its other fields are. -/
def Packet.IsStandard (p : Packet) : Prop :=
  p.IsSetup ∧ p.request.bmRequestType &&& usbRqTypeMask = usbRqTypeStandard

/-- A class or vendor request, or one of the reserved type. -/
def Packet.IsCustom (p : Packet) : Prop :=
  p.IsSetup ∧ p.request.bmRequestType &&& usbRqTypeMask ≠ usbRqTypeStandard

variable {usbFunctionSetup} {p : Packet} {s : State A}

/-- A custom request reaches the firmware once, with its bytes. -/
theorem usbProcessRx_of_custom (h : p.IsCustom) :
    (usbProcessRx usbFunctionSetup p s).user = (usbFunctionSetup p.data s.user).2 := by
  have htoken : p.token = usbPidSetup := h.1.1
  have hlen : p.len = 8 := h.1.2
  simp [usbProcessRx, htoken, hlen, h.2]

/-- Nothing else reaches the firmware. -/
theorem usbProcessRx_of_not_custom (h : ¬ p.IsCustom) :
    (usbProcessRx usbFunctionSetup p s).user = s.user := by
  by_cases htoken : p.token = usbPidSetup
  · by_cases hlen : p.len = 8
    · have htype : p.request.bmRequestType &&& usbRqTypeMask = usbRqTypeStandard := by
        by_contra hne
        exact h ⟨⟨htoken, hlen⟩, hne⟩
      simp [usbProcessRx, htoken, hlen, htype]
    · simp [usbProcessRx, htoken, hlen]
  · simp [usbProcessRx, htoken]

theorem Packet.IsStandard.not_custom (h : p.IsStandard) : ¬ p.IsCustom := fun hcustom => hcustom.2 h.2

end SomethingsWrong.UsbDriver
