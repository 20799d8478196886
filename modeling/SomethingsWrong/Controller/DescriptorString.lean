import SomethingsWrong.Controller.Libusb

/-! `usbGetDescriptorString`: one transfer, and the decoding of its answer into the
caller's array. Of an answer whose type byte is wrong nothing is stored. -/
namespace SomethingsWrong.Controller
open Program

variable {ν H : Type}

/-- One UTF-16 code unit; a question mark outside of the Latin-1 range. -/
def latin1 (low high : UInt8) : UInt8 := if high = 0 then low else 63

/-- The decoding loop from index `i` on, with `n` iterations to go. -/
def copyLoop (buffer : Memory) : Nat → Nat → Memory → Memory
  | _, 0, buf => buf
  | i, n + 1, buf =>
    copyLoop buffer (i + 1) n (buf.set (i - 1) (latin1 (buffer (2 * i)) (buffer (2 * i + 1))))

/-- What `usbGetDescriptorString` does with the answer to its request. -/
def storeString (reply : Reply) (buf : Memory) (buflen : Nat) : Int × Memory :=
  let buffer := reply.bytes
  if reply.count < 0 then (reply.count, buf)
  else
    let rval : Int := if (buffer 0).toNat < reply.count then (buffer 0).toNat else reply.count
    if buffer 1 ≠ usbDtString then (0, buf)
    else
      let rval := (rval / 2).toNat
      -- the value of `i` after the loop
      let i := 1 + (min rval buflen - 1)
      ((i - 1 : Nat), (copyLoop buffer 1 (i - 1) buf).set (i - 1) 0)

def getDescriptor (index langid : Nat) : ControlMsg where
  requesttype := usbTypeStandard ||| usbRecipDevice ||| usbEndpointIn
  request := usbReqGetDescriptor
  value := (usbDtString.toNat <<< 8) + index
  index := langid
  size := 256
  timeout := 1000

/-- `usbGetDescriptorString`, which also returns the new contents of `buf`. -/
def usbGetDescriptorString (dev : H) (index langid : Nat) (buf : Memory) (buflen : Nat) :
    UsbM ν H (Int × Memory) := do
  let reply ← usbControlMsg dev (getDescriptor index langid)
  pure (storeString reply buf buflen)

/-- The number of characters of the answer: half of the bytes that are both received and
announced by the length byte, without the header. -/
def Reply.units (r : Reply) : Nat := (min (r.bytes 0).toNat r.count.toNat) / 2 - 1

def Reply.chars (r : Reply) : List UInt8 :=
  (List.range r.units).map fun j => latin1 (r.bytes (2 * j + 2)) (r.bytes (2 * j + 3))

/-- The string that the answer carries, cut at its first NUL. -/
def Reply.text (r : Reply) : List UInt8 := r.chars.takeWhile (· != 0)

/-- The array is written: no error, and the type byte, received or not, is right. -/
def Reply.Stored (r : Reply) : Prop := 0 ≤ r.count ∧ r.bytes 1 = usbDtString

instance (r : Reply) : Decidable r.Stored := inferInstanceAs (Decidable (_ ∧ _))

theorem copyLoop_apply (buffer buf : Memory) {i : Nat} (hi : 0 < i) (n k : Nat) :
    copyLoop buffer i n buf k =
      if i ≤ k + 1 ∧ k + 1 < i + n then latin1 (buffer (2 * (k + 1))) (buffer (2 * (k + 1) + 1))
      else buf k := by
  induction n generalizing i buf with
  | zero =>
    rw [if_neg (by omega)]
    rfl
  | succ n ih =>
    rw [copyLoop, ih _ (Nat.succ_pos i)]
    by_cases hk : k + 1 = i
    · rw [if_neg (by omega), if_pos (by omega)]
      simp [Memory.set, ← hk]
    · by_cases hin : i + 1 ≤ k + 1 ∧ k + 1 < i + 1 + n
      · rw [if_pos hin, if_pos (by omega)]
      · rw [if_neg hin, if_neg (by omega)]
        simp [Memory.set, show k ≠ i - 1 by omega]

theorem storeString_of_not_stored {reply : Reply} (h : ¬ reply.Stored) (buf : Memory)
    (buflen : Nat) : (storeString reply buf buflen).2 = buf := by
  unfold storeString
  by_cases hneg : reply.count < 0
  · simp [hneg]
  · have htype : reply.bytes 1 ≠ usbDtString := fun ht => h ⟨by omega, ht⟩
    simp [hneg, htype]

/-- Whether the transfer fails is all the caller learns. -/
theorem storeString_neg_iff (reply : Reply) (buf : Memory) (buflen : Nat) :
    (storeString reply buf buflen).1 < 0 ↔ reply.count < 0 := by
  unfold storeString
  by_cases hneg : reply.count < 0
  · simp [hneg]
  · by_cases htype : reply.bytes 1 = usbDtString
    · simp [hneg, htype]
    · simp [hneg, htype]

/-- The characters that a stored answer puts into an array of this length. -/
def Reply.stored (r : Reply) (buflen : Nat) : Nat :=
  min ((min (r.bytes 0).toNat r.count.toNat) / 2) buflen - 1

/-- A stored answer fills the array with as many of its characters as fit, and a NUL. -/
theorem storeString_eq {reply : Reply} (h : reply.Stored) (buf : Memory) (buflen : Nat) :
    storeString reply buf buflen = ((reply.stored buflen : Int),
      (copyLoop reply.bytes 1 (reply.stored buflen) buf).set (reply.stored buflen) 0) := by
  obtain ⟨hcount, htype⟩ := h
  have hrval : ((if ((reply.bytes 0).toNat : Int) < reply.count then ((reply.bytes 0).toNat : Int)
      else reply.count) / 2).toNat = min (reply.bytes 0).toNat reply.count.toNat / 2 := by
    split <;> omega
  unfold storeString Reply.stored
  simp only [Int.not_lt.mpr hcount, ↓reduceIte, htype, ne_eq, not_true_eq_false, hrval,
    Nat.add_sub_cancel_left]

theorem storeString_stored {reply : Reply} (h : reply.Stored) (buf : Memory) (buflen k : Nat) :
    (storeString reply buf buflen).2 k =
      if k < reply.stored buflen then latin1 (reply.bytes (2 * k + 2)) (reply.bytes (2 * k + 3))
      else if k = reply.stored buflen then 0 else buf k := by
  rw [storeString_eq h]
  by_cases hk : k = reply.stored buflen
  · simp [hk, Memory.set]
  · simp only [Memory.set, hk, ↓reduceIte, copyLoop_apply _ _ Nat.one_pos]
    by_cases hlt : k < reply.stored buflen
    · rw [if_pos (by omega), if_pos hlt]
      rfl
    · rw [if_neg (by omega), if_neg hlt]

/-- Where the array is long enough, it takes the whole answer. -/
theorem storeString_apply {reply : Reply} (h : reply.Stored) (buf : Memory) {buflen : Nat}
    (hlen : reply.units < buflen) (k : Nat) : (storeString reply buf buflen).2 k =
      if k < reply.units then latin1 (reply.bytes (2 * k + 2)) (reply.bytes (2 * k + 3))
      else if k = reply.units then 0 else buf k := by
  have hstored : reply.stored buflen = reply.units := by
    unfold Reply.units at hlen ⊢
    unfold Reply.stored
    omega
  rw [storeString_stored h, hstored]

/-- The length byte bounds the string far below the size of the caller's arrays. -/
theorem Reply.units_lt (r : Reply) : r.units < 256 := by
  have hbyte := (r.bytes 0).toNat_lt
  unfold Reply.units
  omega

/-- After a stored answer the array compares as the text of that answer. -/
theorem strcmpEqual_stored {reply : Reply} (h : reply.Stored) (buf : Memory) {name : List UInt8}
    (hname : ∀ c ∈ name, c ≠ 0) :
    strcmpEqual (storeString reply buf 256).2 0 name = true ↔ reply.text = name := by
  have happly := storeString_apply h buf reply.units_lt
  have hchars : (List.range' 0 reply.units).map (storeString reply buf 256).2 = reply.chars := by
    rw [← List.range_eq_range']
    apply List.map_congr_left
    intro k hk
    rw [happly, if_pos (List.mem_range.mp hk)]
  rw [strcmpEqual_iff hname 0 reply.units (by simp [happly]), hchars]
  rfl

end SomethingsWrong.Controller
