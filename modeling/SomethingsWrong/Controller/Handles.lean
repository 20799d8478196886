import SomethingsWrong.Base.Custody
import SomethingsWrong.Controller.Main

/-! The device handles of the controller program. The search holds the handle of the device
it visits and gives back at most that of the device it accepts, which `main` then closes. -/
namespace SomethingsWrong.Controller
open Program Custody

section Custody
variable {ν H : Type}

/-- What an operation does with a device handle. -/
def handleEvent : (op : Op ν H) → op.Answer → Event H
  | .usbOpen _, handle => handle.elim .other .acquire
  | .usbClose handle, _ => .release handle
  | .usbControlMsg handle _, _ => .use handle
  | _, _ => .other

variable {α : Type} {s : Option H} {E : Nat → Option H → Prop}

theorem keeps_usbOpen (dev : Device ν) {Q : Option H → Option H → Prop} (h : ∀ handle, Q handle handle) :
    Keeps handleEvent (usbOpen dev : UsbM ν H _) Q E none := by
  apply Keeps.perform
  intro handle
  cases handle with
  | none => exact ⟨none, .other none, h none⟩
  | some handle => exact ⟨some handle, .acquire handle, h (some handle)⟩

theorem keeps_usbClose (handle : H) {Q : Unit → Option H → Prop} (h : Q () none) :
    Keeps handleEvent (usbClose handle : UsbM ν H _) Q E (some handle) :=
  Keeps.perform fun _ => ⟨none, .release handle, h⟩

theorem keeps_usbControlMsg (handle : H) (message : ControlMsg) {Q : Reply → Option H → Prop}
    (h : ∀ reply, Q reply (some handle)) :
    Keeps handleEvent (usbControlMsg handle message : UsbM ν H _) Q E (some handle) :=
  Keeps.perform fun reply => ⟨some handle, .use handle, h reply⟩

/-- An operation that has nothing to do with handles. -/
theorem keeps_other {op : Op ν H} (hop : ∀ x, handleEvent op x = .other)
    {Q : op.Answer → Option H → Prop} (h : ∀ x, Q x s) :
    Keeps handleEvent (Prog.perform op : UsbM ν H _) Q E s := by
  apply Keeps.perform
  intro x
  rw [hop]
  exact ⟨s, .other s, h x⟩

/-- A message to the user before the rest. -/
theorem keeps_warning (text : String) {rest : UsbM ν H α} {Q : α → Option H → Prop}
    (h : Keeps handleEvent rest Q E s) :
    Keeps handleEvent (do fprintf .stderr (text ++ (← usbStrerror) ++ "\n"); rest) Q E s := by
  apply Keeps.bind (fun _ t => t = s) (keeps_other (fun _ => rfl) fun _ => rfl)
  intro error t ht
  subst ht
  apply Keeps.bind (fun _ u => u = t) (keeps_other (fun _ => rfl) fun _ => rfl)
  intro _ u hu
  subst hu
  exact h

theorem keeps_usbGetDescriptorString (handle : H) (index langid : Nat) (buf : Memory)
    (buflen : Nat) :
    Keeps handleEvent (usbGetDescriptorString handle index langid buf buflen : UsbM ν H _)
      (fun _ t => t = some handle) E (some handle) := by
  apply Keeps.bind (fun _ t => t = some handle) (keeps_usbControlMsg handle _ fun _ => rfl)
  intro reply t ht
  exact Keeps.pure ht

theorem keeps_close (handle : H) (a : α) {Q : α → Option H → Prop} (h : Q a none) :
    Keeps handleEvent (do usbClose handle; pure a : UsbM ν H α) Q E (some handle) := by
  apply Keeps.bind (fun _ t => t = none) (keeps_usbClose handle rfl)
  intro _ t ht
  subst ht
  exact Keeps.pure h

section Search
variable (vendor : Int) (vendorName : List UInt8) (product : Int) (productName : List UInt8)

/-- A visit ends with the handle it returns, and otherwise with none. -/
theorem keeps_visitDevice (dev : Device ν) (b : Buffers) :
    Keeps handleEvent (visitDevice (H := H) vendor vendorName product productName dev b)
      (fun r t => t = r.1) E none := by
  unfold visitDevice
  split
  · exact Keeps.pure rfl
  · apply Keeps.bind (fun handle t => t = handle) (keeps_usbOpen dev fun _ => rfl)
    intro handle t ht
    rw [ht]
    cases handle with
    | none => exact keeps_warning _ (Keeps.pure rfl)
    | some handle =>
      apply Keeps.bind _ (keeps_usbGetDescriptorString handle _ _ _ _)
      intro (rval, devVendor) t ht
      rw [ht]
      dsimp only
      split
      · exact keeps_warning _ (keeps_close handle _ rfl)
      · apply Keeps.bind _ (keeps_usbGetDescriptorString handle _ _ _ _)
        intro (rval, devProduct) t ht
        rw [ht]
        dsimp only
        split
        · exact keeps_warning _ (keeps_close handle _ rfl)
        · split
          · exact Keeps.pure rfl
          · exact keeps_close handle _ rfl

theorem keeps_visitDevices (devs : List (Device ν)) (b : Buffers) :
    Keeps handleEvent (visitDevices (H := H) vendor vendorName product productName devs b)
      (fun r t => t = r.1) E none := by
  induction devs generalizing b with
  | nil => exact Keeps.pure rfl
  | cons dev devs ih =>
    apply Keeps.bind _ (keeps_visitDevice vendor vendorName product productName dev b)
    intro r t ht
    obtain ⟨handle, b'⟩ := r
    rw [ht]
    cases handle with
    | none => exact ih b'
    | some handle => exact Keeps.pure rfl

theorem keeps_visitBusses (busses : List (List (Device ν))) (b : Buffers) :
    Keeps handleEvent (visitBusses (H := H) vendor vendorName product productName busses b)
      (fun r t => t = r.1) E none := by
  induction busses generalizing b with
  | nil => exact Keeps.pure rfl
  | cons bus busses ih =>
    apply Keeps.bind _ (keeps_visitDevices vendor vendorName product productName bus b)
    intro r t ht
    obtain ⟨handle, b'⟩ := r
    rw [ht]
    cases handle with
    | none => exact ih b'
    | some handle => exact Keeps.pure rfl

theorem keeps_usbOpenDevice :
    Keeps handleEvent (usbOpenDevice (ν := ν) (H := H) vendor vendorName product productName)
      (fun handle t => t = handle) E none := by
  have hstep {op : Op ν H} {rest : op.Answer → UsbM ν H (Option H)}
      (hop : ∀ x, handleEvent op x = .other)
      (h : ∀ x, Keeps handleEvent (rest x) (fun handle t => t = handle) E none) :
      Keeps handleEvent (Prog.perform op >>= rest) (fun handle t => t = handle) E none := by
    apply Keeps.bind (fun _ t => t = none) (keeps_other hop fun _ => rfl)
    intro x t ht
    subst ht
    exact h x
  unfold usbOpenDevice uninitialized
  repeat
    apply hstep fun _ => rfl
    intro _
  apply Keeps.bind _ (keeps_visitBusses vendor vendorName product productName _ _)
  intro r t ht
  exact Keeps.pure ht

end Search

/-- Whatever became of the transfer, the handle is closed. -/
theorem keeps_report (handle : H) (nBytes : Int) :
    Keeps handleEvent (report handle nBytes : UsbM ν H Nat) (fun _ t => t = none) E (some handle) := by
  unfold report
  split
  · exact keeps_warning _ (keeps_close handle 0 rfl)
  · exact keeps_close handle 0 rfl

theorem keeps_transfer (handle : H) (request : Nat) :
    Keeps handleEvent
      (do report handle (← usbControlMsg handle (vendorRequest request)).count : UsbM ν H Nat)
      (fun _ t => t = none) E (some handle) := by
  apply Keeps.bind (fun _ t => t = some handle) (keeps_usbControlMsg handle _ fun _ => rfl)
  intro reply t ht
  rw [ht]
  exact keeps_report handle reply.count

/-- A last word to the user, with nothing in hand. -/
theorem keeps_exit (stream : Stream) (text : String) {rest : UsbM ν H α} {Q : α → Option H → Prop}
    (h : Keeps handleEvent rest Q E none) :
    Keeps handleEvent (do fprintf stream text; rest) Q E none := by
  apply Keeps.bind (fun _ t => t = none) (keeps_other (fun _ => rfl) fun _ => rfl)
  intro _ t ht
  rw [ht]
  exact h

/-- Every way out of the program ends without a handle. -/
theorem keeps_main (argv : List (List UInt8)) :
    Keeps handleEvent (main argv : UsbM ν H Nat) (fun _ t => t = none) (fun _ t => t = none) none := by
  unfold main
  cases hparam : argv[1]? with
  | none => exact keeps_exit _ _ (keeps_exit _ _ (keeps_exit _ _ rfl))
  | some param =>
    apply Keeps.bind _ (keeps_usbOpenDevice _ _ _ _)
    intro handle t ht
    rw [ht]
    cases handle with
    | none => exact keeps_exit _ _ rfl
    | some handle =>
      dsimp only
      by_cases hon : param = literal "on"
      · rw [if_pos hon]
        exact keeps_transfer handle usbPb0On
      · rw [if_neg hon]
        by_cases hoff : param = literal "off"
        · rw [if_pos hoff]
          exact keeps_transfer handle usbPb0Off
        · rw [if_neg hoff]
          exact keeps_report handle 0

end Custody

/-- Over a whole run, for any arguments, any devices and any results: every handle that was
opened is closed once before the end, one at most is open at a time, none is used before it
is opened or after it is closed, and at most one lamp request is sent, on the handle that
`usbOpenDevice` returned. -/
theorem handles_in_order {ν H σ : Type} (libusb : σ → (op : Op ν H) → op.Answer × σ)
    (argv : List (List UInt8)) (s : σ) :
    Disciplined (events handleEvent (Prog.transcript libusb (main argv) s)) ∧
      (vendorRequests (Prog.transcript libusb (main argv) s)).length ≤ 1 ∧
      ∀ e ∈ vendorRequests (Prog.transcript libusb (main argv) s),
        (Prog.exec libusb openController s).1 = .ok (some e.1) := by
  refine ⟨(keeps_main argv).disciplined libusb s, ?_⟩
  cases sent_cases libusb argv s with
  | inl hnone => simp [hnone]
  | inr hone =>
    obtain ⟨request, handle, result, s', -, hopen, hsent⟩ := hone
    simp [hsent, hopen]

end SomethingsWrong.Controller
