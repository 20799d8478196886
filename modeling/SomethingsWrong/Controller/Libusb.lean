import Mathlib.Data.List.TakeWhile
import SomethingsWrong.Base.Program

/-! The controller program's view of libusb and of C strings. `ν` is what libusb keeps of a
device beyond the descriptor, and `H` the type of device handles; the program looks into
neither. -/
namespace SomethingsWrong.Controller
open Program

/-- The bytes of an array, from its beginning on. -/
abbrev Memory := Nat → UInt8

def Memory.set (m : Memory) (j : Nat) (b : UInt8) : Memory := fun i => if i = j then b else m i

/-- `strcmp(m + j, name) == 0` -/
def strcmpEqual (m : Memory) : Nat → List UInt8 → Bool
  | j, [] => m j == 0
  | j, c :: cs => m j == c && strcmpEqual m (j + 1) cs

/-- The bytes of a string literal of ASCII characters. -/
def literal (s : String) : List UInt8 := s.toList.map fun c => c.toNat.toUInt8

def usbTypeStandard : Nat := 0x00 <<< 5
def usbTypeVendor : Nat := 0x02 <<< 5
def usbRecipDevice : Nat := 0x00
def usbEndpointIn : Nat := 0x80
def usbReqGetDescriptor : Nat := 0x06
def usbDtString : UInt8 := 0x03

/-- What the program reads of `struct usb_device_descriptor`. -/
structure DeviceDescriptor where
  idVendor : UInt16
  idProduct : UInt16
  iManufacturer : UInt8
  iProduct : UInt8
  deriving DecidableEq

/-- `struct usb_device` -/
structure Device (ν : Type) where
  descriptor : DeviceDescriptor
  node : ν

/-- The arguments of `usb_control_msg` after the handle, without the buffer. -/
structure ControlMsg where
  requesttype : Nat
  request : Nat
  value : Nat
  index : Nat
  size : Nat
  timeout : Nat
  deriving DecidableEq

/-- The result of a transfer, and the whole buffer after it: the bytes that were not
received are those the buffer held before. -/
structure Reply where
  count : Int
  bytes : Memory

inductive Stream where
  | stdout | stderr
  deriving DecidableEq

inductive Op (ν H : Type) where
  | usbInit
  | usbFindBusses
  | usbFindDevices
  | usbGetBusses
  | usbOpen (dev : Device ν)
  | usbClose (handle : H)
  | usbControlMsg (handle : H) (message : ControlMsg)
  | usbStrerror
  | fprintf (stream : Stream) (text : String)
  | uninitialized

/-- The busses come as the list of the devices on each; `uninitialized` yields the bytes
of a fresh local array. -/
abbrev Op.Answer {ν H : Type} : Op ν H → Type
  | .usbInit => Unit
  | .usbFindBusses => Unit
  | .usbFindDevices => Unit
  | .usbGetBusses => List (List (Device ν))
  | .usbOpen _ => Option H
  | .usbClose _ => Unit
  | .usbControlMsg _ _ => Reply
  | .usbStrerror => String
  | .fprintf _ _ => Unit
  | .uninitialized => Memory

/-- A program that may end early with an exit code. -/
abbrev UsbM (ν H : Type) := @Prog (Op ν H) Op.Answer Nat

variable {ν H : Type}

def usbOpen (dev : Device ν) : UsbM ν H (Option H) := Prog.perform (Op.usbOpen dev)

def usbClose (handle : H) : UsbM ν H Unit := Prog.perform (Op.usbClose handle)

def usbControlMsg (handle : H) (message : ControlMsg) : UsbM ν H Reply :=
  Prog.perform (Op.usbControlMsg handle message)

def usbStrerror : UsbM ν H String := Prog.perform Op.usbStrerror

def fprintf (stream : Stream) (text : String) : UsbM ν H Unit :=
  Prog.perform (Op.fprintf stream text)

def uninitialized : UsbM ν H Memory := Prog.perform Op.uninitialized

/-- `exit(code)` -/
def exit {α : Type} (code : Nat) : UsbM ν H α := throw code

/-- An array that begins with a NUL equals the empty string only. -/
theorem strcmpEqual_of_nul {m : Memory} {name : List UInt8} (hname : ∀ c ∈ name, c ≠ 0) {j : Nat}
    (hj : m j = 0) : strcmpEqual m j name = true ↔ [] = name := by
  cases name with
  | nil => simp [strcmpEqual, hj]
  | cons c cs =>
    have hc : c ≠ 0 := hname c (List.mem_cons_self ..)
    simp [strcmpEqual, hj, Ne.symm hc]

/-- Comparing a terminated array with a string compares what stands before the first NUL. -/
theorem strcmpEqual_iff {m : Memory} {name : List UInt8} (hname : ∀ c ∈ name, c ≠ 0) (j n : Nat)
    (hend : m (j + n) = 0) : strcmpEqual m j name = true ↔
      ((List.range' j n).map m).takeWhile (· != 0) = name := by
  induction n generalizing j name with
  | zero => simpa using strcmpEqual_of_nul hname hend
  | succ n ih =>
    rw [List.range'_succ, List.map_cons]
    by_cases hj : m j = 0
    · simpa [hj] using strcmpEqual_of_nul hname hj
    · rw [List.takeWhile_cons_of_pos (by simpa using hj)]
      cases name with
      | nil => simp [strcmpEqual, hj]
      | cons c cs =>
        have hrest := ih (fun c hc => hname c (List.mem_cons_of_mem _ hc)) (j + 1)
          (by rw [← hend]; congr 1; omega)
        simp [strcmpEqual, hrest]

end SomethingsWrong.Controller
