import SomethingsWrong.Base.HistorySearch
import SomethingsWrong.Controller.DescriptorString

/-! `usbOpenDevice`: the search for the controller's own device. Its two arrays live over
the whole search, so an answer of the wrong type leaves the string of an earlier device in
place, and that string then takes part in the decision. -/
namespace SomethingsWrong.Controller
open Program HistorySearch

section Search
variable {ν H : Type}

/-- The arrays `devVendor` and `devProduct`. -/
structure Buffers where
  devVendor : Memory
  devProduct : Memory

variable (vendor : Int) (vendorName : List UInt8) (product : Int) (productName : List UInt8)

/-- The body of the loop over the devices: the handle if the search ends here. -/
def visitDevice (dev : Device ν) (b : Buffers) : UsbM ν H (Option H × Buffers) := do
  if (dev.descriptor.idVendor.toNat : Int) ≠ vendor ∨
      (dev.descriptor.idProduct.toNat : Int) ≠ product then
    pure (none, b)
  else
    match ← usbOpen dev with
    | none =>
      fprintf .stderr ("Warning: cannot open USB device: " ++ (← usbStrerror) ++ "\n")
      pure (none, b)
    | some handle =>
      let (rval, devVendor) ← usbGetDescriptorString handle
        dev.descriptor.iManufacturer.toNat 0x0409 b.devVendor 256
      let b := { b with devVendor := devVendor }
      if rval < 0 then
        fprintf .stderr ("Warning: cannot query manufacturer for device: " ++ (← usbStrerror) ++ "\n")
        usbClose handle
        pure (none, b)
      else
        let (rval, devProduct) ← usbGetDescriptorString handle
          dev.descriptor.iProduct.toNat 0x0409 b.devProduct 256
        let b := { b with devProduct := devProduct }
        if rval < 0 then
          fprintf .stderr ("Warning: cannot query product for device: " ++ (← usbStrerror) ++ "\n")
          usbClose handle
          pure (none, b)
        else if strcmpEqual b.devVendor 0 vendorName && strcmpEqual b.devProduct 0 productName then
          pure (some handle, b)
        else
          usbClose handle
          pure (none, b)

/-- The loop over the devices of one bus. -/
def visitDevices : List (Device ν) → Buffers → UsbM ν H (Option H × Buffers)
  | [], b => pure (none, b)
  | dev :: devs, b => do
    match ← visitDevice vendor vendorName product productName dev b with
    | (some handle, b) => pure (some handle, b)
    | (none, b) => visitDevices devs b

/-- The loop over the busses. -/
def visitBusses : List (List (Device ν)) → Buffers → UsbM ν H (Option H × Buffers)
  | [], b => pure (none, b)
  | bus :: busses, b => do
    match ← visitDevices vendor vendorName product productName bus b with
    | (some handle, b) => pure (some handle, b)
    | (none, b) => visitBusses busses b

def usbOpenDevice : UsbM ν H (Option H) := do
  let devVendor ← uninitialized
  let devProduct ← uninitialized
  Prog.perform Op.usbInit
  Prog.perform Op.usbFindBusses
  Prog.perform Op.usbFindDevices
  let busses ← Prog.perform Op.usbGetBusses
  let (handle, _) ← visitBusses vendor vendorName product productName busses ⟨devVendor, devProduct⟩
  pure handle

end Search

/-- How a device behaves when it is visited: whether it can be opened, and what it answers.
`answers k message` is the answer to the request `message` if `k` requests came before it. -/
structure Behaviour where
  opens : Bool
  answers : Nat → ControlMsg → Reply

abbrev UsbDevice := Device Behaviour

/-- The answer to the request for the manufacturer's name, the first of a visit. -/
def Device.manufacturer (dev : UsbDevice) : Reply :=
  dev.node.answers 0 (getDescriptor dev.descriptor.iManufacturer.toNat 0x0409)

/-- The answer to the request for the product's name, the second of a visit. -/
def Device.product (dev : UsbDevice) : Reply :=
  dev.node.answers 1 (getDescriptor dev.descriptor.iProduct.toNat 0x0409)

/-- The busses, the bytes on the stack, and the error texts. A handle is known by the device
it was opened on. -/
structure Surroundings where
  busses : List (List UsbDevice)
  stack : Buffers
  strerror : String

/-- The arrays handed out, and the requests answered since a device was opened. -/
structure Progress where
  arrays : Nat
  requests : Nat

def answer (env : Surroundings) (s : Progress) :
    (op : Op Behaviour UsbDevice) → op.Answer × Progress
  | .usbInit => ((), s)
  | .usbFindBusses => ((), s)
  | .usbFindDevices => ((), s)
  | .usbGetBusses => (env.busses, s)
  | .usbOpen dev => (if dev.node.opens then some dev else none, { s with requests := 0 })
  | .usbClose _ => ((), s)
  | .usbControlMsg handle message =>
    (handle.node.answers s.requests message, { s with requests := s.requests + 1 })
  | .usbStrerror => (env.strerror, s)
  | .fprintf _ _ => ((), s)
  | .uninitialized =>
    (if s.arrays = 0 then env.stack.devVendor else env.stack.devProduct,
      { s with arrays := s.arrays + 1 })

section Decision
variable (vendor : Int) (vendorName : List UInt8) (product : Int) (productName : List UInt8)

/-- The ids match and the device can be opened. -/
def Visited (dev : UsbDevice) : Prop :=
  (dev.descriptor.idVendor.toNat : Int) = vendor ∧ (dev.descriptor.idProduct.toNat : Int) = product ∧
    dev.node.opens = true

/-- The answer has been received with its type byte, which is right, and decodes to `name`. -/
def Carries (reply : Reply) (name : List UInt8) : Prop :=
  2 ≤ reply.count ∧ reply.bytes 1 = usbDtString ∧ reply.text = name

/-- The controller's own device, by what it answers in this visit. -/
def Genuine (dev : UsbDevice) : Prop :=
  Visited vendor product dev ∧ Carries dev.manufacturer vendorName ∧
    Carries dev.product productName

instance (dev : UsbDevice) : Decidable (Visited vendor product dev) :=
  inferInstanceAs (Decidable (_ ∧ _ ∧ _))

instance (reply : Reply) (name : List UInt8) : Decidable (Carries reply name) :=
  inferInstanceAs (Decidable (_ ∧ _ ∧ _))

instance (dev : UsbDevice) : Decidable (Genuine vendor vendorName product productName dev) :=
  inferInstanceAs (Decidable (_ ∧ _ ∧ _))

/-- The requests for the vendor name that are answered while the devices are visited. -/
def vendorReplies (devs : List UsbDevice) : List Reply :=
  (devs.filter fun d => Visited vendor product d).map (·.manufacturer)

/-- The product name is asked for only if the request for the vendor name did not fail. -/
def productReplies (devs : List UsbDevice) : List Reply :=
  (devs.filter fun d => Visited vendor product d ∧ 0 ≤ d.manufacturer.count).map (·.product)

/-- The string that an array shows after these answers is `name`: the text of the last
answer stored, or else what was on the stack. -/
def Shows (stack : Memory) (replies : List Reply) (name : List UInt8) : Prop :=
  match replies.reverse.find? (fun r => r.Stored) with
  | some reply => reply.text = name
  | none => strcmpEqual stack 0 name = true

/-- The search accepts `dev` if it gets there after the devices `pre`. -/
def Accepted (stack : Buffers) (pre : List UsbDevice) (dev : UsbDevice) : Prop :=
  Visited vendor product dev ∧ 0 ≤ dev.manufacturer.count ∧ 0 ≤ dev.product.count ∧
    Shows stack.devVendor (vendorReplies vendor product (pre ++ [dev])) vendorName ∧
    Shows stack.devProduct (productReplies vendor product (pre ++ [dev])) productName

/-- The array shows `name` although this answer does not carry it: an older string is left
there, or the type byte was not received and there is nothing after it. -/
def Deceives (stack : Memory) (replies : List Reply) (reply : Reply) (name : List UInt8) : Prop :=
  (¬ reply.Stored ∧ Shows stack replies name) ∨ (reply.Stored ∧ reply.count < 2 ∧ name = [])

/-- Visited after the devices `pre`, `dev` passes for the controller's own: at least one of
its names is not in its own answer. -/
def Misleading (stack : Buffers) (pre : List UsbDevice) (dev : UsbDevice) : Prop :=
  let manufacturer := dev.manufacturer
  let productAnswer := dev.product
  let vendorDeceives :=
    Deceives stack.devVendor (vendorReplies vendor product pre) manufacturer vendorName
  let productDeceives :=
    Deceives stack.devProduct (productReplies vendor product pre) productAnswer productName
  Visited vendor product dev ∧ 0 ≤ manufacturer.count ∧ 0 ≤ productAnswer.count ∧
    ((vendorDeceives ∧ (Carries productAnswer productName ∨ productDeceives)) ∨
      (Carries manufacturer vendorName ∧ productDeceives))

instance (stack : Memory) (replies : List Reply) (name : List UInt8) :
    Decidable (Shows stack replies name) :=
  match h : replies.reverse.find? (fun r => r.Stored) with
  | some reply => decidable_of_iff (reply.text = name) (by simp [Shows, h])
  | none => decidable_of_iff (strcmpEqual stack 0 name = true) (by simp [Shows, h])

instance (stack : Buffers) (pre : List UsbDevice) (dev : UsbDevice) :
    Decidable (Accepted vendor vendorName product productName stack pre dev) :=
  inferInstanceAs (Decidable (_ ∧ _ ∧ _ ∧ _ ∧ _))

instance (stack : Memory) (replies : List Reply) (reply : Reply) (name : List UInt8) :
    Decidable (Deceives stack replies reply name) :=
  inferInstanceAs (Decidable ((_ ∧ _) ∨ (_ ∧ _ ∧ _)))

instance (stack : Buffers) (pre : List UsbDevice) (dev : UsbDevice) :
    Decidable (Misleading vendor vendorName product productName stack pre dev) :=
  inferInstanceAs (Decidable (_ ∧ _ ∧ _ ∧ ((_ ∧ (_ ∨ _)) ∨ (_ ∧ _))))

end Decision

theorem shows_nil (stack : Memory) (name : List UInt8) :
    Shows stack [] name ↔ strcmpEqual stack 0 name = true := Iff.rfl

theorem shows_append (stack : Memory) (replies : List Reply) (reply : Reply) (name : List UInt8) :
    Shows stack (replies ++ [reply]) name ↔
      if reply.Stored then reply.text = name else Shows stack replies name := by
  unfold Shows
  rw [List.reverse_append, List.reverse_singleton, List.singleton_append, List.find?_cons]
  by_cases h : reply.Stored <;> simp [h]

/-- An answer that carries the name shows it, whatever came before. -/
theorem Carries.shows {reply : Reply} {name : List UInt8} (h : Carries reply name) (stack : Memory)
    (replies : List Reply) : Shows stack (replies ++ [reply]) name := by
  obtain ⟨hcount, htype, htext⟩ := h
  have hstored : reply.Stored := ⟨by omega, htype⟩
  rw [shows_append, if_pos hstored]
  exact htext

section Replies
variable {vendor product : Int} {dev : UsbDevice} (pre : List UsbDevice)

theorem vendorReplies_append : vendorReplies vendor product (pre ++ [dev]) =
    vendorReplies vendor product pre ++
      if Visited vendor product dev then [dev.manufacturer] else [] := by
  by_cases h : Visited vendor product dev <;> simp [vendorReplies, h]

theorem productReplies_append : productReplies vendor product (pre ++ [dev]) =
    productReplies vendor product pre ++
      if Visited vendor product dev ∧ 0 ≤ dev.manufacturer.count then [dev.product]
      else [] := by
  by_cases h : Visited vendor product dev ∧ 0 ≤ dev.manufacturer.count <;>
    simp [productReplies, h]

theorem Genuine.accepted {vendorName productName : List UInt8}
    (h : Genuine vendor vendorName product productName dev) (stack : Buffers) :
    Accepted vendor vendorName product productName stack pre dev := by
  obtain ⟨hvisited, hvendor, hproduct⟩ := h
  have hcount : 0 ≤ dev.manufacturer.count := Int.le_trans (by decide) hvendor.1
  refine ⟨hvisited, hcount, Int.le_trans (by decide) hproduct.1, ?_, ?_⟩
  · rw [vendorReplies_append, if_pos hvisited]
    exact hvendor.shows _ _
  · rw [productReplies_append, if_pos ⟨hvisited, hcount⟩]
    exact hproduct.shows _ _

end Replies

section Misled
variable {vendor product : Int} {vendorName productName : List UInt8}

/-- Fewer than two bytes hold no characters. -/
theorem Reply.text_of_short {reply : Reply} (h : reply.count < 2) : reply.text = [] := by
  have hunits : reply.units = 0 := by
    unfold Reply.units
    omega
  simp [Reply.text, Reply.chars, hunits]

theorem shows_append_iff (stack : Memory) (replies : List Reply) {reply : Reply}
    (name : List UInt8) (hcount : 0 ≤ reply.count) : Shows stack (replies ++ [reply]) name ↔
      Carries reply name ∨ Deceives stack replies reply name := by
  rw [shows_append]
  unfold Carries Deceives
  by_cases htype : reply.bytes 1 = usbDtString
  · have hstored : reply.Stored := ⟨hcount, htype⟩
    by_cases hlen : reply.count < 2
    · simp [hstored, hlen, Reply.text_of_short hlen, eq_comm]
    · simp [hstored, htype, hlen, Int.not_lt.mp hlen]
  · have hstored : ¬ reply.Stored := fun h => htype h.2
    simp [hstored, htype]

theorem not_carries_of_deceives {stack : Memory} {replies : List Reply} {reply : Reply}
    {name : List UInt8} (h : Deceives stack replies reply name) : ¬ Carries reply name := by
  intro hcarries
  obtain ⟨hcount, htype, -⟩ := hcarries
  rcases h with ⟨hstored, -⟩ | ⟨-, hlen, -⟩
  · exact hstored ⟨by omega, htype⟩
  · omega

/-- What the search accepts wrongly. -/
theorem misleading_iff (stack : Buffers) (pre : List UsbDevice) (dev : UsbDevice) :
    Misleading vendor vendorName product productName stack pre dev ↔
      Accepted vendor vendorName product productName stack pre dev ∧
        ¬ Genuine vendor vendorName product productName dev := by
  unfold Misleading Accepted Genuine
  by_cases hvisited : Visited vendor product dev
  · by_cases hm : 0 ≤ dev.manufacturer.count
    · by_cases hp : 0 ≤ dev.product.count
      · rw [vendorReplies_append, if_pos hvisited, productReplies_append, if_pos ⟨hvisited, hm⟩,
          shows_append_iff _ _ _ hm, shows_append_iff _ _ _ hp]
        have hvendor := @not_carries_of_deceives stack.devVendor (vendorReplies vendor product pre)
          dev.manufacturer vendorName
        have hproduct := @not_carries_of_deceives stack.devProduct
          (productReplies vendor product pre) dev.product productName
        simp only [hvisited, hm, hp, true_and]
        tauto
      · simp [hp]
    · simp [hm]
  · simp [hvisited]

end Misled

section Run
variable {vendor product : Int} {vendorName productName : List UInt8} {env : Surroundings}

/-- The arrays compare as the answers so far say. -/
structure Relates (vendor product : Int) (stack : Buffers) (pre : List UsbDevice) (b : Buffers) :
    Prop where
  devVendor : ∀ name, (∀ c ∈ name, c ≠ 0) → (strcmpEqual b.devVendor 0 name = true ↔
    Shows stack.devVendor (vendorReplies vendor product pre) name)
  devProduct : ∀ name, (∀ c ∈ name, c ≠ 0) → (strcmpEqual b.devProduct 0 name = true ↔
    Shows stack.devProduct (productReplies vendor product pre) name)

theorem strcmpEqual_storeString {stack buf : Memory} {replies : List Reply} (reply : Reply)
    {name : List UInt8} (hname : ∀ c ∈ name, c ≠ 0)
    (h : strcmpEqual buf 0 name = true ↔ Shows stack replies name) :
    strcmpEqual (storeString reply buf 256).2 0 name = true ↔
      Shows stack (replies ++ [reply]) name := by
  rw [shows_append]
  by_cases hstored : reply.Stored
  · rw [if_pos hstored, strcmpEqual_stored hstored buf hname]
  · rw [if_neg hstored, storeString_of_not_stored hstored, h]

@[simp] theorem exec_usbGetDescriptorString (handle : UsbDevice) (index langid : Nat) (buf : Memory)
    (buflen : Nat) (s : Progress) :
    Prog.exec (answer env) (usbGetDescriptorString handle index langid buf buflen) s =
      (.ok (storeString (handle.node.answers s.requests (getDescriptor index langid)) buf buflen),
        { s with requests := s.requests + 1 }) := rfl

theorem answers_manufacturer (dev : UsbDevice) :
    dev.node.answers 0 (getDescriptor dev.descriptor.iManufacturer.toNat 0x0409) =
      dev.manufacturer := rfl

theorem answers_product (dev : UsbDevice) :
    dev.node.answers 1 (getDescriptor dev.descriptor.iProduct.toNat 0x0409) = dev.product := rfl

@[simp] theorem exec_usbOpen (dev : UsbDevice) (s : Progress) :
    Prog.exec (answer env) (usbOpen dev) s =
      (.ok (if dev.node.opens then some dev else none), { s with requests := 0 }) := rfl

@[simp] theorem exec_usbClose (handle : UsbDevice) (s : Progress) :
    Prog.exec (answer env) (usbClose handle) s = (.ok (), s) := rfl

@[simp] theorem exec_usbStrerror (s : Progress) :
    Prog.exec (answer env) usbStrerror s = (.ok env.strerror, s) := rfl

@[simp] theorem exec_fprintf (stream : Stream) (text : String) (s : Progress) :
    Prog.exec (answer env) (fprintf stream text) s = (.ok (), s) := rfl

section Visit
variable {pre : List UsbDevice} {b : Buffers} {dev : UsbDevice}

theorem Relates.skipped (h : Relates vendor product env.stack pre b)
    (hskip : ¬ Visited vendor product dev) : Relates vendor product env.stack (pre ++ [dev]) b where
  devVendor := by
    rw [vendorReplies_append, if_neg hskip, List.append_nil]
    exact h.devVendor
  devProduct := by
    rw [productReplies_append, if_neg (fun hv => hskip hv.1), List.append_nil]
    exact h.devProduct

/-- The vendor name has been asked for, and that request failed. -/
theorem Relates.failed (h : Relates vendor product env.stack pre b)
    (hvisited : Visited vendor product dev) (hfailed : dev.manufacturer.count < 0) :
    Relates vendor product env.stack (pre ++ [dev])
      { b with devVendor := (storeString dev.manufacturer b.devVendor 256).2 } where
  devVendor := by
    intro name hname
    rw [vendorReplies_append, if_pos hvisited]
    exact strcmpEqual_storeString _ hname (h.devVendor name hname)
  devProduct := by
    rw [productReplies_append, if_neg (by omega), List.append_nil]
    exact h.devProduct

/-- Both names have been asked for. -/
theorem Relates.answered (h : Relates vendor product env.stack pre b)
    (hvisited : Visited vendor product dev) (hanswered : 0 ≤ dev.manufacturer.count) :
    Relates vendor product env.stack (pre ++ [dev])
      ⟨(storeString dev.manufacturer b.devVendor 256).2,
        (storeString dev.product b.devProduct 256).2⟩ where
  devVendor := by
    intro name hname
    rw [vendorReplies_append, if_pos hvisited]
    exact strcmpEqual_storeString _ hname (h.devVendor name hname)
  devProduct := by
    intro name hname
    rw [productReplies_append, if_pos ⟨hvisited, hanswered⟩]
    exact strcmpEqual_storeString _ hname (h.devProduct name hname)

theorem visitDevice_skipped (hskip : ¬ Visited vendor product dev) (s : Progress) : ∃ s',
    Prog.exec (answer env) (visitDevice vendor vendorName product productName dev b) s =
      (.ok (none, b), s') := by
  unfold visitDevice
  by_cases hids : (dev.descriptor.idVendor.toNat : Int) ≠ vendor ∨
      (dev.descriptor.idProduct.toNat : Int) ≠ product
  · rw [if_pos hids]
    exact ⟨s, rfl⟩
  · have hclosed : dev.node.opens = false := by
      simp only [not_or, ne_eq, not_not] at hids
      cases hopens : dev.node.opens with
      | false => rfl
      | true => exact absurd ⟨hids.1, hids.2, hopens⟩ hskip
    rw [if_neg hids]
    simp only [Prog.exec_bind, exec_usbOpen, hclosed, Bool.false_eq_true, ↓reduceIte,
      exec_usbStrerror, exec_fprintf, Prog.exec_pure]
    exact ⟨_, rfl⟩

/-- One device: it ends the search exactly if it is accepted, and the arrays take part in
what its answers show. -/
theorem visitDevice_spec (hvendor : ∀ c ∈ vendorName, c ≠ 0) (hproduct : ∀ c ∈ productName, c ≠ 0)
    (h : Relates vendor product env.stack pre b) (dev : UsbDevice) (s : Progress) : ∃ b' s',
      Prog.exec (answer env) (visitDevice vendor vendorName product productName dev b) s =
        (.ok (if Accepted vendor vendorName product productName env.stack pre dev then some dev
          else none, b'), s') ∧
      Relates vendor product env.stack (pre ++ [dev]) b' := by
  by_cases hvisited : Visited vendor product dev
  · have hids : ¬ ((dev.descriptor.idVendor.toNat : Int) ≠ vendor ∨
        (dev.descriptor.idProduct.toNat : Int) ≠ product) := by simp [hvisited.1, hvisited.2.1]
    have hopens : dev.node.opens = true := hvisited.2.2
    unfold visitDevice
    rw [if_neg hids]
    simp only [Prog.exec_bind, exec_usbOpen, hopens, ↓reduceIte, exec_usbGetDescriptorString,
      answers_manufacturer, storeString_neg_iff]
    by_cases hmanufacturer : dev.manufacturer.count < 0
    · have hnot : ¬ Accepted vendor vendorName product productName env.stack pre dev :=
        fun hacc => by have := hacc.2.1; omega
      simp only [hmanufacturer, hnot, ↓reduceIte, Prog.exec_bind, exec_usbStrerror, exec_fprintf,
        exec_usbClose, Prog.exec_pure]
      exact ⟨_, _, rfl, h.failed hvisited hmanufacturer⟩
    · have hrel := h.answered hvisited (Int.not_lt.mp hmanufacturer)
      simp only [hmanufacturer, ↓reduceIte, Prog.exec_bind, exec_usbGetDescriptorString,
        Nat.zero_add, answers_product, storeString_neg_iff]
      by_cases hanswer : dev.product.count < 0
      · have hnot : ¬ Accepted vendor vendorName product productName env.stack pre dev :=
          fun hacc => by have := hacc.2.2.1; omega
        simp only [hanswer, hnot, ↓reduceIte, Prog.exec_bind, exec_usbStrerror, exec_fprintf,
          exec_usbClose, Prog.exec_pure]
        exact ⟨_, _, rfl, hrel⟩
      · have hboth : (strcmpEqual (storeString dev.manufacturer b.devVendor 256).2 0 vendorName &&
            strcmpEqual (storeString dev.product b.devProduct 256).2 0 productName) = true ↔
            Accepted vendor vendorName product productName env.stack pre dev := by
          rw [Bool.and_eq_true, hrel.devVendor _ hvendor, hrel.devProduct _ hproduct]
          exact ⟨fun hshows => ⟨hvisited, by omega, by omega, hshows⟩, fun hacc => hacc.2.2.2⟩
        simp only [hanswer, ↓reduceIte, hboth]
        by_cases hacc : Accepted vendor vendorName product productName env.stack pre dev
        · simp only [hacc, ↓reduceIte, Prog.exec_pure]
          exact ⟨_, _, rfl, hrel⟩
        · simp only [hacc, ↓reduceIte, Prog.exec_bind, exec_usbClose, Prog.exec_pure]
          exact ⟨_, _, rfl, hrel⟩
  · have hnot : ¬ Accepted vendor vendorName product productName env.stack pre dev :=
      fun hacc => hvisited hacc.1
    obtain ⟨s', hrun⟩ := visitDevice_skipped hvisited s
    rw [if_neg hnot]
    exact ⟨b, s', hrun, h.skipped hvisited⟩

end Visit

theorem visitDevices_spec (hvendor : ∀ c ∈ vendorName, c ≠ 0) (hproduct : ∀ c ∈ productName, c ≠ 0)
    {pre : List UsbDevice} {b : Buffers} (h : Relates vendor product env.stack pre b)
    (devs : List UsbDevice) (s : Progress) : ∃ handle b' s',
      Prog.exec (answer env) (visitDevices vendor vendorName product productName devs b) s =
        (.ok (handle, b'), s') ∧
      handle = search (Accepted vendor vendorName product productName env.stack) pre devs ∧
      (handle = none → Relates vendor product env.stack (pre ++ devs) b') := by
  induction devs generalizing pre b s with
  | nil => exact ⟨none, b, s, rfl, rfl, fun _ => by simpa using h⟩
  | cons dev devs ih =>
    obtain ⟨b₁, s₁, hrun, hrel⟩ := visitDevice_spec hvendor hproduct h dev s
    unfold visitDevices
    rw [Prog.exec_bind, hrun]
    by_cases hacc : Accepted vendor vendorName product productName env.stack pre dev
    · simp only [hacc, ↓reduceIte, Prog.exec_pure, search]
      exact ⟨some dev, b₁, s₁, rfl, rfl, fun hnone => absurd hnone (Option.some_ne_none dev)⟩
    · simp only [hacc, ↓reduceIte, search]
      obtain ⟨handle, b₂, s₂, hrest, hhandle, hrel₂⟩ := ih hrel s₁
      exact ⟨handle, b₂, s₂, hrest, hhandle, fun hnone => by simpa using hrel₂ hnone⟩

theorem visitBusses_spec (hvendor : ∀ c ∈ vendorName, c ≠ 0) (hproduct : ∀ c ∈ productName, c ≠ 0)
    {pre : List UsbDevice} {b : Buffers} (h : Relates vendor product env.stack pre b)
    (busses : List (List UsbDevice)) (s : Progress) : ∃ b' s',
      Prog.exec (answer env) (visitBusses vendor vendorName product productName busses b) s =
        (.ok (search (Accepted vendor vendorName product productName env.stack) pre busses.flatten,
          b'), s') := by
  induction busses generalizing pre b s with
  | nil => exact ⟨b, s, rfl⟩
  | cons bus busses ih =>
    obtain ⟨handle, b₁, s₁, hrun, hhandle, hrel⟩ := visitDevices_spec hvendor hproduct h bus s
    unfold visitBusses
    rw [Prog.exec_bind, hrun, List.flatten_cons, search_append, ← hhandle]
    cases handle with
    | some dev => exact ⟨b₁, s₁, rfl⟩
    | none => simpa using ih (hrel rfl) s₁

/-- The whole search, by what the devices answer. -/
theorem usbOpenDevice_eq (hvendor : ∀ c ∈ vendorName, c ≠ 0) (hproduct : ∀ c ∈ productName, c ≠ 0) :
    (Prog.exec (answer env) (usbOpenDevice vendor vendorName product productName) ⟨0, 0⟩).1 =
      .ok (search (Accepted vendor vendorName product productName env.stack) []
        env.busses.flatten) := by
  have hstart : Relates vendor product env.stack [] env.stack :=
    ⟨fun name _ => (shows_nil _ name).symm, fun name _ => (shows_nil _ name).symm⟩
  obtain ⟨b, s, hrun⟩ := visitBusses_spec hvendor hproduct hstart env.busses ⟨2, 0⟩
  have hbusses : Prog.exec (answer env) (usbOpenDevice vendor vendorName product productName) ⟨0, 0⟩ =
      Prog.exec (answer env) (do
        let (handle, _) ← visitBusses vendor vendorName product productName env.busses env.stack
        pure handle) ⟨2, 0⟩ := rfl
  rw [hbusses, Prog.exec_bind, hrun]
  rfl

end Run

/-- `usbOpenDevice` opens the first device that answers with both names itself exactly if no
device on the way to it is misleading. -/
theorem opens_own_device_iff {vendor product : Int} {vendorName productName : List UInt8}
    (hvendor : ∀ c ∈ vendorName, c ≠ 0) (hproduct : ∀ c ∈ productName, c ≠ 0) (env : Surroundings) :
    (Prog.exec (answer env) (usbOpenDevice vendor vendorName product productName) ⟨0, 0⟩).1 =
        .ok (env.busses.flatten.find? fun dev => Genuine vendor vendorName product productName dev) ↔
      ∀ pre dev post, env.busses.flatten = pre ++ dev :: post →
        (∀ d ∈ pre, ¬ Genuine vendor vendorName product productName d) →
          ¬ Misleading vendor vendorName product productName env.stack pre dev := by
  rw [usbOpenDevice_eq hvendor hproduct, Except.ok.injEq,
    search_eq_find?_iff _ (fun pre dev h => h.accepted pre env.stack)]
  unfold Faithful
  simp only [misleading_iff, not_and_not_right, List.nil_append]

/-- The complete string descriptor of a Latin-1 name. -/
def Reply.ofName (name : List UInt8) : Reply where
  count := 2 + 2 * name.length
  bytes i :=
    if i = 0 then (2 + 2 * name.length).toUInt8
    else if i = 1 then usbDtString
    else if i % 2 = 0 then name.getD (i / 2 - 1) 0
    else 0

/-- A device under the ids the controller is searched by, with the descriptors of two strings;
what else it is asked for it answers with nothing. -/
def sharedId (manufacturer product : Reply) : UsbDevice where
  descriptor := ⟨0x16C0, 0x05DC, 1, 2⟩
  node := ⟨true, fun _ message =>
    if message = getDescriptor 1 0x0409 then manufacturer
    else if message = getDescriptor 2 0x0409 then product
    else ⟨0, fun _ => 0⟩⟩

/-- Another device of the same vendor. -/
def sibling : UsbDevice :=
  sharedId (.ofName (literal "Krzysztof Walach")) (.ofName (literal "Something Else"))

def controller : UsbDevice :=
  sharedId (.ofName (literal "Krzysztof Walach")) (.ofName (literal "Something's Wrong!"))

/-- A device that answers the request for its manufacturer with two zero bytes. -/
def nameless : UsbDevice :=
  sharedId ⟨2, fun _ => 0⟩ (.ofName (literal "Something's Wrong!"))

def surroundings (busses : List (List UsbDevice)) : Surroundings :=
  ⟨busses, ⟨fun _ => 0, fun _ => 0⟩, "error"⟩

theorem opens_own_device_sibling :
    (Prog.exec (answer (surroundings [[sibling], [controller]])) (usbOpenDevice 0x16C0
      (literal "Krzysztof Walach") 0x05DC (literal "Something's Wrong!")) ⟨0, 0⟩).1 =
        .ok ([sibling, controller].find? fun dev => Genuine 0x16C0 (literal "Krzysztof Walach") 0x05DC
          (literal "Something's Wrong!") dev) := by
  refine (opens_own_device_iff (by simp [literal]) (by simp [literal])
    (surroundings [[sibling], [controller]])).mpr ?_
  intro pre dev post hsplit _
  rcases pre with _ | ⟨d, _ | ⟨d', pre⟩⟩
  · obtain ⟨rfl, -⟩ := List.cons.inj hsplit
    decide
  · obtain ⟨rfl, hrest⟩ := List.cons.inj hsplit
    obtain ⟨rfl, -⟩ := List.cons.inj hrest
    decide
  · simp [surroundings] at hsplit

/-- The vendor name read from the sibling lets the nameless device pass. -/
theorem nameless_device_opened :
    (Prog.exec (answer (surroundings [[sibling, nameless]])) (usbOpenDevice 0x16C0
      (literal "Krzysztof Walach") 0x05DC (literal "Something's Wrong!")) ⟨0, 0⟩).1 =
        .ok (some nameless) ∧
      [sibling, nameless].find? (fun dev => Genuine 0x16C0 (literal "Krzysztof Walach") 0x05DC
        (literal "Something's Wrong!") dev) = none :=
  ⟨rfl, by decide⟩

end SomethingsWrong.Controller
