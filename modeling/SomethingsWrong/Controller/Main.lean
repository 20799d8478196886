import SomethingsWrong.Base.Transcript
import SomethingsWrong.Controller.OpenDevice
import SomethingsWrong.Light.FlashLightAction

/-! The controller program, run against any libusb. Past the search for the device it always
ends with code zero, which is all that `FlashLightAction.Exec` looks at. -/
namespace SomethingsWrong.Controller
open Program

section Program
variable {ν H : Type}

def usbPb0Off : Nat := 0
def usbPb0On : Nat := 1

def vendorRequest (request : Nat) : ControlMsg where
  requesttype := usbTypeVendor ||| usbRecipDevice ||| usbEndpointIn
  request := request
  value := 0
  index := 0
  size := 256
  timeout := 5000

/-- The call of `usbOpenDevice` in `main`. -/
def openController : UsbM ν H (Option H) :=
  usbOpenDevice 0x16C0 (literal "Krzysztof Walach") 0x05DC (literal "Something's Wrong!")

/-- The end of `main`, after the transfer. -/
def report (handle : H) (nBytes : Int) : UsbM ν H Nat := do
  if nBytes < 0 then
    fprintf .stderr ("USB error: " ++ (← usbStrerror) ++ "\n")
  usbClose handle
  pure 0

/-- `main`; the exit code is what it returns or what it calls `exit` with. -/
def main (argv : List (List UInt8)) : UsbM ν H Nat := do
  match argv[1]? with
  -- argc < 2
  | none =>
    fprintf .stdout "Usage:\n"
    fprintf .stdout "somethingswrong_controller.exe on\n"
    fprintf .stdout "somethingswrong_controller.exe off\n"
    exit 1
  | some param =>
    match ← openController with
    | none =>
      fprintf .stderr "Could not find 'Something's Wrong!' device!\n"
      exit 1
    | some handle =>
      let nBytes : Int ←
        if param = literal "on" then do
          pure (← usbControlMsg handle (vendorRequest usbPb0On)).count
        else if param = literal "off" then do
          pure (← usbControlMsg handle (vendorRequest usbPb0Off)).count
        else
          pure 0
      report handle nBytes

def exitCode : Except Nat Nat → Nat
  | .ok code => code
  | .error code => code

/-- The request that `argv[1]` names. -/
def requested (argv : List (List UInt8)) : Option Nat :=
  if argv[1]? = some (literal "on") then some usbPb0On
  else if argv[1]? = some (literal "off") then some usbPb0Off
  else none

/-- `FlashLightAction` passes the two arguments that the controller knows. -/
theorem requested_param (exe : List UInt8) :
    requested [exe, literal FlashLight.Command.on.param] = some usbPb0On ∧
      requested [exe, literal FlashLight.Command.off.param] = some usbPb0Off :=
  ⟨rfl, rfl⟩

/-- The vendor requests of a run, with the result of each. -/
def vendorRequests (t : List (Σ op : Op ν H, op.Answer)) : List (H × ControlMsg × Int) :=
  t.filterMap fun
    | ⟨.usbControlMsg handle message, reply⟩ =>
      if message.requesttype = usbTypeVendor ||| usbRecipDevice ||| usbEndpointIn then
        some (handle, message, reply.count)
      else none
    | _ => none

/-- Whatever is not a vendor request. -/
def Harmless : Op ν H → Prop
  | .usbControlMsg _ message =>
    message.requesttype ≠ usbTypeVendor ||| usbRecipDevice ||| usbEndpointIn
  | _ => True

/-- Of the control transfers, those that ask for a string descriptor. -/
def Asks : Op ν H → Prop
  | .usbControlMsg _ message => ∃ index langid, message = getDescriptor index langid
  | _ => True

theorem Asks.harmless {op : Op ν H} (h : Asks op) : Harmless op := by
  cases op with
  | usbControlMsg handle message =>
    obtain ⟨index, langid, rfl⟩ := h
    exact show (0x80 : Nat) ≠ 0xC0 by decide
  | _ => trivial

theorem vendorRequests_append (t u : List (Σ op : Op ν H, op.Answer)) :
    vendorRequests (t ++ u) = vendorRequests t ++ vendorRequests u := List.filterMap_append

theorem vendorRequests_of_harmless {t : List (Σ op : Op ν H, op.Answer)}
    (ht : ∀ e ∈ t, Harmless e.1) : vendorRequests t = [] := by
  apply List.filterMap_eq_nil_iff.mpr
  intro e he
  obtain ⟨op, reply⟩ := e
  have hop := ht _ he
  cases op with
  | usbControlMsg handle message => exact if_neg hop
  | _ => rfl

section Search
open Prog
variable (vendor : Int) (vendorName : List UInt8) (product : Int) (productName : List UInt8)

theorem within_usbGetDescriptorString (dev : H) (index langid : Nat) (buf : Memory) (buflen : Nat) :
    Within Asks (usbGetDescriptorString (ν := ν) dev index langid buf buflen) :=
  .bind (within_perform ⟨index, langid, rfl⟩) fun _ => within_pure _

theorem within_warning (text : String) {α : Type} {rest : UsbM ν H α} (h : Within Asks rest) :
    Within Asks (do fprintf .stderr (text ++ (← usbStrerror) ++ "\n"); rest) :=
  .bind (within_perform trivial) fun _ => .bind (within_perform trivial) fun _ => h

theorem within_close (handle : H) {α : Type} (a : α) :
    Within Asks (do usbClose handle; pure a : UsbM ν H α) :=
  .bind (within_perform trivial) fun _ => within_pure a

theorem within_visitDevice (dev : Device ν) (b : Buffers) :
    Within Asks (visitDevice (H := H) vendor vendorName product productName dev b) := by
  unfold visitDevice
  split
  · exact within_pure _
  · refine .bind (within_perform trivial) fun handle => ?_
    cases handle with
    | none => exact within_warning _ (within_pure _)
    | some handle =>
      refine .bind (within_usbGetDescriptorString ..) fun (rval, devVendor) => ?_
      dsimp only
      split
      · exact within_warning _ (within_close handle _)
      · refine .bind (within_usbGetDescriptorString ..) fun (rval, devProduct) => ?_
        dsimp only
        split
        · exact within_warning _ (within_close handle _)
        · split
          · exact within_pure _
          · exact within_close handle _

theorem within_visitDevices (devs : List (Device ν)) (b : Buffers) :
    Within Asks (visitDevices (H := H) vendor vendorName product productName devs b) := by
  induction devs generalizing b with
  | nil => exact within_pure _
  | cons dev devs ih =>
    refine .bind (within_visitDevice ..) fun (handle, b) => ?_
    cases handle with
    | none => exact ih b
    | some handle => exact within_pure _

theorem within_visitBusses (busses : List (List (Device ν))) (b : Buffers) :
    Within Asks (visitBusses (H := H) vendor vendorName product productName busses b) := by
  induction busses generalizing b with
  | nil => exact within_pure _
  | cons bus busses ih =>
    refine .bind (within_visitDevices ..) fun (handle, b) => ?_
    cases handle with
    | none => exact ih b
    | some handle => exact within_pure _

/-- The search sends no other request, and always comes back. -/
theorem within_usbOpenDevice :
    Within Asks (usbOpenDevice (ν := ν) (H := H) vendor vendorName product productName) := by
  refine .bind (within_perform trivial) fun _ => .bind (within_perform trivial) fun _ => ?_
  refine .bind (within_perform trivial) fun _ => .bind (within_perform trivial) fun _ => ?_
  refine .bind (within_perform trivial) fun _ => .bind (within_perform trivial) fun _ => ?_
  exact .bind (within_visitBusses ..) fun (handle, _) => within_pure handle

end Search

end Program

section Truth
variable {ν H σ : Type} (libusb : σ → (op : Op ν H) → op.Answer × σ) (argv : List (List UInt8))
  (s : σ)

/-- The command has reached the device that the search selected: the run sends it one vendor
request, the one that `argv[1]` names, and the transfer does not fail. -/
def Delivered : Prop :=
  ∃ request handle result, requested argv = some request ∧
    (Prog.exec libusb openController s).1 = .ok (some handle) ∧
    vendorRequests (Prog.transcript libusb (main argv) s) =
      [(handle, vendorRequest request, result)] ∧ 0 ≤ result

/-- What the caller learns from the exit code is right. -/
structure TellsTruth : Prop where
  exit_zero_iff : exitCode (Prog.exec libusb (main argv) s).1 = 0 ↔ Delivered libusb argv s
  silent : (∀ line ∈ (FlashLight.ProcessResult.exited
      (exitCode (Prog.exec libusb (main argv) s).1)).log, line.level ≠ .error) →
    Delivered libusb argv s

theorem openController_spec : ∃ selected s',
    Prog.exec libusb openController s = (.ok selected, s') ∧
      vendorRequests (Prog.transcript libusb openController s) = [] := by
  have hwithin := (within_usbOpenDevice (ν := ν) (H := H) 0x16C0 (literal "Krzysztof Walach") 0x05DC
    (literal "Something's Wrong!")).mono fun _ => Asks.harmless
  obtain ⟨selected, s', hrun⟩ := hwithin.exec_ok libusb s
  exact ⟨selected, s', hrun, vendorRequests_of_harmless (hwithin.of_mem_transcript libusb s)⟩

theorem report_spec (handle : H) (nBytes : Int) (s : σ) :
    (Prog.exec libusb (report handle nBytes) s).1 = .ok 0 ∧
      vendorRequests (Prog.transcript libusb (report handle nBytes) s) = [] := by
  unfold report
  split
  · exact ⟨rfl, rfl⟩
  · exact ⟨rfl, rfl⟩

theorem transfer_spec (handle : H) (request : Nat) (s : σ) :
    let program := do report handle (← usbControlMsg handle (vendorRequest request)).count
    (Prog.exec libusb program s).1 = .ok 0 ∧
      vendorRequests (Prog.transcript libusb program s) = [(handle, vendorRequest request,
        (libusb s (.usbControlMsg handle (vendorRequest request))).1.count)] := by
  intro program
  have hreport := report_spec libusb handle
    (libusb s (.usbControlMsg handle (vendorRequest request))).1.count
    (libusb s (.usbControlMsg handle (vendorRequest request))).2
  exact ⟨hreport.1, congrArg (_ :: ·) hreport.2⟩

variable {libusb argv s}

/-- Past the search the exit code is zero, and the command named is sent once. -/
theorem main_selected {param : List UInt8} (hparam : argv[1]? = some param) {handle : H} {s' : σ}
    (hopen : Prog.exec libusb openController s = (.ok (some handle), s')) :
    (Prog.exec libusb (main argv) s).1 = .ok 0 ∧
      vendorRequests (Prog.transcript libusb (main argv) s) =
        ((requested argv).map fun request => (handle, vendorRequest request,
          (libusb s' (.usbControlMsg handle (vendorRequest request))).1.count)).toList := by
  obtain ⟨_, _, _, hnone⟩ := openController_spec libusb s
  unfold main requested
  simp only [hparam, Prog.exec_bind, Prog.transcript_bind, hopen, Option.some.injEq,
    vendorRequests_append, hnone, List.nil_append]
  have hother : literal "off" ≠ literal "on" := by decide
  by_cases hon : param = literal "on"
  · simpa [hon] using transfer_spec libusb handle usbPb0On s'
  · by_cases hoff : param = literal "off"
    · simpa [hoff, hother] using transfer_spec libusb handle usbPb0Off s'
    · simpa [hon, hoff] using report_spec libusb handle 0 s'

/-- At most one vendor request is sent: the one that `argv[1]` names, on the handle found. -/
theorem sent_cases (libusb : σ → (op : Op ν H) → op.Answer × σ) (argv : List (List UInt8)) (s : σ) :
    vendorRequests (Prog.transcript libusb (main argv) s) = [] ∨
      ∃ request handle result s', requested argv = some request ∧
        Prog.exec libusb openController s = (.ok (some handle), s') ∧
        vendorRequests (Prog.transcript libusb (main argv) s) =
          [(handle, vendorRequest request, result)] := by
  cases hparam : argv[1]? with
  | none =>
    apply Or.inl
    simp only [main, hparam]
    rfl
  | some param =>
    obtain ⟨selected, s', hopen, hnone⟩ := openController_spec libusb s
    cases selected with
    | none =>
      apply Or.inl
      simp only [main, hparam, Prog.transcript_bind, hopen, vendorRequests_append, hnone]
      rfl
    | some handle =>
      have hsent := (main_selected hparam hopen).2
      cases hrequest : requested argv with
      | none => exact .inl (by simpa [hrequest] using hsent)
      | some request =>
        exact .inr ⟨request, handle, _, s', rfl, hopen, by simpa [hrequest] using hsent⟩

/-- Without a device, or without an argument, the exit code is one. -/
theorem main_not_selected (h : 2 ≤ argv.length →
    (Prog.exec libusb openController s).1 = .ok none) :
    (Prog.exec libusb (main argv) s).1 = .error 1 ∧ ¬ Delivered libusb argv s := by
  cases hparam : argv[1]? with
  | none =>
    refine ⟨by simp only [main, hparam]; rfl, ?_⟩
    intro hdelivered
    obtain ⟨request, _, _, hrequest, _⟩ := hdelivered
    simp [requested, hparam] at hrequest
  | some param =>
    have hnone := h (List.getElem?_eq_some_iff.mp hparam).1
    refine ⟨?_, ?_⟩
    · simp only [main, hparam, Prog.exec_bind]
      generalize Prog.exec libusb openController s = r at hnone
      obtain ⟨result, s'⟩ := r
      cases hnone
      rfl
    · intro hdelivered
      obtain ⟨_, handle, _, _, hopen, _⟩ := hdelivered
      rw [hnone] at hopen
      cases hopen

theorem delivered_iff {param : List UInt8} (hparam : argv[1]? = some param) {handle : H} {s' : σ}
    (hopen : Prog.exec libusb openController s = (.ok (some handle), s')) :
    Delivered libusb argv s ↔ ∃ request, requested argv = some request ∧
      0 ≤ (libusb s' (.usbControlMsg handle (vendorRequest request))).1.count := by
  have hsent := (main_selected hparam hopen).2
  constructor
  · intro hdelivered
    obtain ⟨request, handle', result, hrequest, -, hrequests, hresult⟩ := hdelivered
    rw [hrequest, hrequests] at hsent
    have hfields : handle' = handle ∧
        result = (libusb s' (.usbControlMsg handle (vendorRequest request))).1.count := by
      simpa using hsent
    exact ⟨request, hrequest, hfields.2 ▸ hresult⟩
  · intro hknown
    obtain ⟨request, hrequest, hresult⟩ := hknown
    rw [hrequest] at hsent
    exact ⟨request, handle, _, hrequest, by rw [hopen], hsent, hresult⟩

theorem silent_iff (code : Nat) :
    (∀ line ∈ (FlashLight.ProcessResult.exited code).log, line.level ≠ .error) ↔ code = 0 := by
  by_cases hcode : code = 0 <;> simp [FlashLight.ProcessResult.log, hcode]

theorem tellsTruth_iff_exit :
    TellsTruth libusb argv s ↔
      (exitCode (Prog.exec libusb (main argv) s).1 = 0 ↔ Delivered libusb argv s) :=
  ⟨fun h => h.exit_zero_iff, fun h => ⟨h, fun hsilent => h.mp ((silent_iff _).mp hsilent)⟩⟩

variable (libusb argv s)

/-- The exit code is right exactly unless a device was selected and then either `argv[1]` is
no command or the transfer fails. -/
theorem tells_truth_iff : TellsTruth libusb argv s ↔
    (2 ≤ argv.length → ∀ handle s', Prog.exec libusb openController s = (.ok (some handle), s') →
      ∃ request, requested argv = some request ∧
        0 ≤ (libusb s' (.usbControlMsg handle (vendorRequest request))).1.count) := by
  rw [tellsTruth_iff_exit]
  by_cases hargc : 2 ≤ argv.length
  · obtain ⟨param, hparam⟩ : ∃ param, argv[1]? = some param := ⟨_, List.getElem?_eq_getElem hargc⟩
    obtain ⟨selected, s', hopen, -⟩ := openController_spec libusb s
    cases selected with
    | none =>
      have hnot : _ ∧ ¬ Delivered libusb argv s := main_not_selected fun _ => by rw [hopen]
      simp [exitCode, hnot, hopen]
    | some handle =>
      obtain ⟨hexit, hsent⟩ := main_selected hparam hopen
      rw [hexit, delivered_iff hparam hopen]
      simp [exitCode, hargc, hopen]
  · have hnot : _ ∧ ¬ Delivered libusb argv s := main_not_selected fun h => absurd h hargc
    simp [exitCode, hnot, hargc]

end Truth

/-- Surroundings in which a vendor request gets `reply`. -/
def answerVendor (env : Surroundings) (reply : Reply) (s : Progress) :
    (op : Op Behaviour UsbDevice) → op.Answer × Progress
  | .usbControlMsg handle message =>
    if message.requesttype = usbTypeVendor ||| usbRecipDevice ||| usbEndpointIn then (reply, s)
    else answer env s (.usbControlMsg handle message)
  | op => answer env s op

/-- The controller is found, but the transfer fails: the program reports the error and ends
with code zero. -/
theorem failed_transfer_unnoticed :
    ¬ TellsTruth (answerVendor (surroundings [[controller]]) ⟨-1, fun _ => 0⟩)
      [literal "somethingswrong_controller.exe", literal FlashLight.Command.on.param] ⟨0, 0⟩ := by
  intro h
  obtain ⟨request, handle, result, -, -, hrequests, hresult⟩ := h.exit_zero_iff.mp rfl
  have hfailed : [(controller, vendorRequest usbPb0On, (-1 : Int))] =
      [(handle, vendorRequest request, result)] := hrequests
  simp only [List.cons.injEq, Prod.mk.injEq] at hfailed
  omega

end SomethingsWrong.Controller
