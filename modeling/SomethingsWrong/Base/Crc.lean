import Mathlib.Data.Nat.Bitwise
import Mathlib.Logic.Function.Iterate

/-! Cyclic redundancy checks with a reflected register of any width, as a shift register
that one message bit enters at a time: that it is linear, what remains when the register
itself is sent, and which errors cannot go unnoticed. -/
namespace Crc
variable {w : Nat}

/-- One shift of the register. The least significant bit leaves it. -/
def shift (poly c : BitVec w) : BitVec w :=
  if c.getLsbD 0 then (c >>> 1) ^^^ poly else c >>> 1

/-- A bit as a register. -/
def ofBit (b : Bool) : BitVec w := (BitVec.ofBool b).setWidth w

/-- One bit of the message. -/
def feed (poly c : BitVec w) (b : Bool) : BitVec w := shift poly (c ^^^ ofBit b)

def remainder (poly c : BitVec w) (bs : List Bool) : BitVec w := bs.foldl (feed poly) c

/-- The bits of a word in the order in which they are sent. -/
def bits {n : Nat} (x : BitVec n) : List Bool := List.ofFn fun i : Fin n => x.getLsbD i

/-- The first bits of a message as a register. -/
def pack (bs : List Bool) : BitVec w := (BitVec.ofBoolListLE bs).setWidth w

@[simp] theorem remainder_nil (poly c : BitVec w) : remainder poly c [] = c := rfl

@[simp] theorem remainder_cons (poly c : BitVec w) (b : Bool) (bs : List Bool) :
    remainder poly c (b :: bs) = remainder poly (feed poly c b) bs := rfl

theorem remainder_append (poly c : BitVec w) (bs cs : List Bool) :
    remainder poly c (bs ++ cs) = remainder poly (remainder poly c bs) cs :=
  List.foldl_append

@[simp] theorem getElem_ofBit (b : Bool) {i : Nat} (hi : i < w) :
    (ofBit b : BitVec w)[i] = (decide (i = 0) && b) := by
  simp [ofBit, BitVec.getElem_setWidth, BitVec.getLsbD_ofBool]

section Linear
variable (poly : BitVec w)

theorem shift_xor (c d : BitVec w) : shift poly (c ^^^ d) = shift poly c ^^^ shift poly d := by
  apply BitVec.eq_of_getLsbD_eq
  intro i hi
  unfold shift
  cases hc : c.getLsbD 0 <;> cases hd : d.getLsbD 0 <;> simp [hc, hd] <;> grind

@[simp] theorem shift_zero : shift poly 0#w = 0#w := by simp [shift]

theorem iterate_shift_xor (n : Nat) (c d : BitVec w) :
    (shift poly)^[n] (c ^^^ d) = (shift poly)^[n] c ^^^ (shift poly)^[n] d := by
  induction n generalizing c d with
  | zero => rfl
  | succ n ih => simp only [Function.iterate_succ_apply, shift_xor, ih]

@[simp] theorem iterate_shift_zero (n : Nat) : (shift poly)^[n] 0#w = 0#w := by
  induction n with
  | zero => rfl
  | succ n ih => rw [Function.iterate_succ_apply, shift_zero, ih]

theorem ofBit_xor (a b : Bool) : (ofBit (a ^^ b) : BitVec w) = ofBit a ^^^ ofBit b := by
  cases a <;> cases b <;> simp [ofBit]

theorem feed_xor (c d : BitVec w) (a b : Bool) :
    feed poly (c ^^^ d) (a ^^ b) = feed poly c a ^^^ feed poly d b := by
  have h : c ^^^ d ^^^ ofBit (a ^^ b) = (c ^^^ ofBit a) ^^^ (d ^^^ ofBit b) := by
    rw [ofBit_xor]
    ac_rfl
  rw [feed, h, shift_xor]
  rfl

/-- What an error pattern does to the register does not depend on the message. -/
theorem remainder_xor (c d : BitVec w) (bs es : List Bool) (h : bs.length = es.length) :
    remainder poly (c ^^^ d) (List.zipWith (· ^^ ·) bs es) =
      remainder poly c bs ^^^ remainder poly d es := by
  induction bs generalizing c d es with
  | nil =>
    obtain rfl : es = [] := List.eq_nil_of_length_eq_zero h.symm
    rfl
  | cons b bs ih =>
    cases es with
    | nil => simp at h
    | cons e es =>
      rw [List.zipWith_cons_cons, remainder_cons, feed_xor]
      exact ih _ _ es (by simpa using h)

@[simp] theorem ofBit_false : (ofBit false : BitVec w) = 0#w := by simp [ofBit]

theorem remainder_replicate_false (n : Nat) (c : BitVec w) :
    remainder poly c (List.replicate n false) = (shift poly)^[n] c := by
  induction n generalizing c with
  | zero => rfl
  | succ n ih => simp [List.replicate_succ, feed, ih]

end Linear

section Pack

@[simp] theorem getElem_pack (bs : List Bool) {i : Nat} (hi : i < w) :
    (pack bs : BitVec w)[i] = bs.getD i false := by
  simp [pack, BitVec.getElem_setWidth]

@[simp] theorem pack_nil : (pack [] : BitVec w) = 0#w := by
  ext i hi
  simp

theorem pack_bits {n : Nat} (x : BitVec n) : pack (bits x) = x.setWidth w := by
  ext i hi
  by_cases hn : i < n
  · simp [bits, BitVec.getElem_setWidth, hn]
  · simp [bits, BitVec.getElem_setWidth, hn, BitVec.getLsbD_of_ge x i (by omega)]

@[simp] theorem length_bits {n : Nat} (x : BitVec n) : (bits x).length = n := by simp [bits]

@[simp] theorem getElem_bits {n : Nat} (x : BitVec n) {i : Nat} (hi : i < (bits x).length) :
    (bits x)[i] = x.getLsbD i := by
  simp only [bits, List.getElem_ofFn]

/-- A message that fits in the register can enter it at once. -/
theorem remainder_eq_iterate_pack (poly c : BitVec w) (bs : List Bool) (h : bs.length ≤ w) :
    remainder poly c bs = (shift poly)^[bs.length] (c ^^^ pack bs) := by
  induction bs generalizing c with
  | nil => simp
  | cons b bs ih =>
    have hsplit : (pack (b :: bs) : BitVec w) = ofBit b ^^^ (pack bs <<< 1) := by
      ext i hi
      cases i with
      | zero => simp
      | succ i => simp
    have hshift : shift poly (pack bs <<< 1) = pack bs := by
      ext i hi
      by_cases hlt : i + 1 < w
      · simp [shift, hlt, Nat.add_comm 1 i]
      · have hout : bs.length ≤ i := by
          simp only [List.length_cons] at h
          omega
        simp [shift, hlt, hout, Nat.add_comm 1 i]
    rw [remainder_cons, ih _ (by simp at h; omega), hsplit, List.length_cons,
      Function.iterate_succ_apply, feed, ← BitVec.xor_assoc,
      shift_xor _ (c ^^^ ofBit b), hshift]

theorem remainder_bits (poly c : BitVec w) {n : Nat} (x : BitVec n) (h : n ≤ w) :
    remainder poly c (bits x) = (shift poly)^[n] (c ^^^ x.setWidth w) := by
  rw [remainder_eq_iterate_pack _ _ _ (by simpa using h), pack_bits, length_bits]

theorem iterate_shift_of_low (poly : BitVec w) (n : Nat) {c : BitVec w}
    (h : ∀ i < n, c.getLsbD i = false) : (shift poly)^[n] c = c >>> n := by
  induction n with
  | zero => simp
  | succ n ih =>
    have hbit : (c >>> n).getLsbD 0 = false := by simpa using h n (Nat.lt_succ_self n)
    rw [Function.iterate_succ_apply', ih fun i hi => h i (by omega), shift, if_neg (by simp [hbit]),
      BitVec.shiftRight_add]

/-- A table of what the low bits turn into gives `n` shifts at once. -/
theorem remainder_bits_table (poly c : BitVec w) {n : Nat} (x : BitVec n) (h : n ≤ w) :
    remainder poly c (bits x) =
      (shift poly)^[n] ((c.setWidth n ^^^ x).setWidth w) ^^^ (c >>> n) := by
  have hsplit : c ^^^ x.setWidth w =
      (c.setWidth n ^^^ x).setWidth w ^^^ ((c >>> n) <<< n) := by
    apply BitVec.eq_of_getLsbD_eq
    intro i hi
    by_cases hlt : i < n
    · simp [hi, hlt, BitVec.getElem_setWidth]
    · have hsum : n + (i - n) = i := by omega
      simp [hi, hlt, BitVec.getElem_setWidth, hsum, BitVec.getLsbD_of_ge x i (by omega)]
  have hlow : ∀ i < n, ((c >>> n) <<< n).getLsbD i = false := by
    intro i hi
    simp [hi]
  have hback : ((c >>> n) <<< n) >>> n = c >>> n := by
    apply BitVec.eq_of_getLsbD_eq
    intro i hi
    by_cases hlt : n + i < w
    · simp [hlt]
    · simp [hlt, BitVec.getLsbD_of_ge c (n + i) (by omega)]
  rw [remainder_bits _ _ _ h, hsplit, iterate_shift_xor, iterate_shift_of_low _ _ hlow, hback]

/-- What remains once the register has been sent with a mask is the same for all messages. -/
theorem remainder_bits_self (poly c mask : BitVec w) :
    remainder poly c (bits (c ^^^ mask)) = (shift poly)^[w] mask := by
  rw [remainder_bits _ _ _ (Nat.le_refl w)]
  congr 1
  rw [BitVec.setWidth_eq, ← BitVec.xor_assoc, BitVec.xor_self, BitVec.zero_xor]

end Pack

section Errors
variable {poly : BitVec w}

/-- An error pattern that no receiver takes for a correct message. -/
def Detects (poly : BitVec w) (es : List Bool) : Prop := remainder poly 0#w es ≠ 0#w

/-- Whatever a correct message leaves in the register, the distorted one leaves something
else. -/
theorem Detects.remainder_ne {es : List Bool} (h : Detects poly es) (c : BitVec w)
    (bs : List Bool) (hlen : bs.length = es.length) :
    remainder poly c (List.zipWith (· ^^ ·) bs es) ≠ remainder poly c bs := by
  intro heq
  apply h
  have hsum := remainder_xor poly c 0#w bs es hlen
  rw [BitVec.xor_zero, heq] at hsum
  calc remainder poly 0#w es
      = remainder poly c bs ^^^ (remainder poly c bs ^^^ remainder poly 0#w es) := by
        rw [← BitVec.xor_assoc, BitVec.xor_self, BitVec.zero_xor]
    _ = 0#w := by rw [← hsum, BitVec.xor_self]

theorem eq_zero_of_shift_eq_zero (hpoly : poly.msb = true) {c : BitVec w}
    (h : shift poly c = 0#w) : c = 0#w := by
  have hw : 0 < w := by
    by_contra hw
    obtain rfl : w = 0 := by omega
    simp [BitVec.of_length_zero] at hpoly
  have hbit : ∀ i, (shift poly c).getLsbD i = false := by simp [h]
  cases hc : c.getLsbD 0 with
  | true =>
    have htop := hbit (w - 1)
    rw [shift, if_pos hc] at htop
    rw [BitVec.msb_eq_getLsbD_last] at hpoly
    simp [hpoly, BitVec.getLsbD_of_ge c (1 + (w - 1)) (by omega)] at htop
  | false =>
    apply BitVec.eq_of_getLsbD_eq
    intro i hi
    cases i with
    | zero => simpa using hc
    | succ i =>
      have hnext := hbit i
      rw [shift, if_neg (by simp [hc])] at hnext
      simpa [Nat.add_comm 1 i] using hnext

theorem iterate_shift_ne_zero (hpoly : poly.msb = true) (n : Nat) {c : BitVec w}
    (h : c ≠ 0#w) : (shift poly)^[n] c ≠ 0#w := by
  induction n generalizing c with
  | zero => exact h
  | succ n ih =>
    rw [Function.iterate_succ_apply]
    exact ih fun hzero => h (eq_zero_of_shift_eq_zero hpoly hzero)

/-- An error pattern whose wrong bits lie next to each other. -/
theorem detects_burst (hpoly : poly.msb = true) (i j : Nat) {es : List Bool}
    (hlen : es.length ≤ w) (herr : true ∈ es) :
    Detects poly (List.replicate i false ++ es ++ List.replicate j false) := by
  have hpack : (pack es : BitVec w) ≠ 0#w := by
    intro hzero
    obtain ⟨k, hk, hek⟩ := List.getElem_of_mem herr
    have hbit := congrArg (fun x => x.getLsbD k) hzero
    simp [hk, hek, Nat.lt_of_lt_of_le hk hlen] at hbit
  rw [Detects, remainder_append, remainder_append, remainder_replicate_false,
    remainder_replicate_false, iterate_shift_zero, remainder_eq_iterate_pack _ _ _ hlen,
    BitVec.zero_xor]
  exact iterate_shift_ne_zero hpoly j (iterate_shift_ne_zero hpoly _ hpack)

/-- Two wrong bits at a distance that is no period of the register. -/
theorem detects_pair (hpoly : poly.msb = true) (i d j : Nat)
    (hperiod : (shift poly)^[d + 1] 1#w ≠ 1#w) :
    Detects poly (List.replicate i false ++ true :: List.replicate d false ++
      true :: List.replicate j false) := by
  have hone : (ofBit true : BitVec w) = 1#w := by
    ext i hi
    simp [BitVec.getElem_one]
  have hne : (shift poly)^[d + 1] 1#w ^^^ 1#w ≠ 0#w := fun hzero =>
    hperiod (BitVec.xor_eq_zero_iff.mp hzero)
  rw [Detects, remainder_append, remainder_append, remainder_replicate_false, iterate_shift_zero,
    remainder_cons, remainder_replicate_false, remainder_cons, remainder_replicate_false, feed,
    feed, hone, BitVec.zero_xor, ← Function.iterate_succ_apply (shift poly) d]
  exact iterate_shift_ne_zero hpoly j fun hzero => hne (eq_zero_of_shift_eq_zero hpoly hzero)

theorem exists_first_error {es : List Bool} (h : true ∈ es) :
    ∃ i rest, es = List.replicate i false ++ true :: rest := by
  induction es with
  | nil => simp at h
  | cons e es ih =>
    cases e with
    | true => exact ⟨0, es, rfl⟩
    | false =>
      obtain ⟨i, rest, rfl⟩ := ih (by simpa using h)
      exact ⟨i + 1, rest, rfl⟩

/-- Two wrong bits anywhere in a message shorter than the register's period. -/
theorem detects_two (hpoly : poly.msb = true) {es : List Bool} (h : es.count true = 2)
    (hperiod : ∀ d, d + 2 ≤ es.length → (shift poly)^[d + 1] 1#w ≠ 1#w) : Detects poly es := by
  have hfirst : true ∈ es := List.count_pos_iff.mp (by omega)
  obtain ⟨i, rest, rfl⟩ := exists_first_error hfirst
  have hrest : rest.count true = 1 := by
    simpa [List.count_append, List.count_replicate] using h
  obtain ⟨d, tail, rfl⟩ := exists_first_error (List.count_pos_iff.mp (by omega) : true ∈ rest)
  have htail : tail.count true = 0 := by
    simpa [List.count_append, List.count_replicate] using hrest
  have hzeros : tail = List.replicate tail.length false := by
    apply List.eq_replicate_of_mem
    intro b hb
    cases b with
    | false => rfl
    | true => exact absurd hb (List.count_eq_zero.mp htail)
  have hd : d + 2 ≤ (List.replicate i false ++ true :: (List.replicate d false ++
      true :: tail)).length := by
    simp only [List.length_append, List.length_replicate, List.length_cons]
    omega
  have hpair := detects_pair hpoly i d tail.length (hperiod d hd)
  rw [← hzeros] at hpair
  simpa [List.append_assoc] using hpair

/-- Whether the number of ones is odd. -/
def odd (bs : List Bool) : Bool := bs.foldr (· ^^ ·) false

@[simp] theorem odd_nil : odd [] = false := rfl

@[simp] theorem odd_cons (b : Bool) (bs : List Bool) : odd (b :: bs) = (b ^^ odd bs) := rfl

theorem odd_append (bs cs : List Bool) : odd (bs ++ cs) = (odd bs ^^ odd cs) := by
  induction bs with
  | nil => simp
  | cons b bs ih => simp [ih]

theorem bits_xor (c d : BitVec w) :
    bits (c ^^^ d) = List.zipWith (· ^^ ·) (bits c) (bits d) := by
  apply List.ext_getElem
  · simp
  · intro i h1 h2
    simp [bits]

theorem odd_zipWith (bs cs : List Bool) (h : bs.length = cs.length) :
    odd (List.zipWith (· ^^ ·) bs cs) = (odd bs ^^ odd cs) := by
  induction bs generalizing cs with
  | nil =>
    obtain rfl : cs = [] := List.eq_nil_of_length_eq_zero h.symm
    rfl
  | cons b bs ih =>
    cases cs with
    | nil => simp at h
    | cons c cs =>
      rw [List.zipWith_cons_cons, odd_cons, ih cs (by simpa using h), odd_cons, odd_cons]
      cases b <;> cases c <;> cases odd bs <;> cases odd cs <;> rfl

theorem odd_bits_xor (c d : BitVec w) : odd (bits (c ^^^ d)) = (odd (bits c) ^^ odd (bits d)) := by
  rw [bits_xor, odd_zipWith _ _ (by simp)]

@[simp] theorem odd_replicate_false (n : Nat) : odd (List.replicate n false) = false := by
  induction n with
  | zero => rfl
  | succ n ih => simp [List.replicate_succ, ih]

theorem bits_zero : bits 0#w = List.replicate w false := by
  apply List.ext_getElem
  · simp
  · intro i h1 h2
    simp [bits]

theorem odd_bits_ofBit (hw : 0 < w) (b : Bool) : odd (bits (ofBit b : BitVec w)) = b := by
  obtain ⟨n, rfl⟩ : ∃ n, w = n + 1 := ⟨w - 1, by omega⟩
  have htail : bits (ofBit b : BitVec (n + 1)) = b :: List.replicate n false := by
    apply List.ext_getElem
    · simp
    · intro i h1 h2
      cases i with
      | zero => simp [bits]
      | succ i =>
        have hi : i + 1 < n + 1 := by simpa using h1
        simp [hi]
  simp [htail]

theorem bits_shiftRight (c : BitVec w) : c.getLsbD 0 :: bits (c >>> 1) = bits c ++ [false] := by
  apply List.ext_getElem
  · simp
  · intro i h1 h2
    cases i with
    | zero =>
      by_cases hw : 0 < w
      · simp [List.getElem_append_left, hw]
      · have hlen : (bits c).length ≤ 0 := by simpa using hw
        simp [List.getElem_append_right hlen, BitVec.getLsbD_of_ge c 0 (by omega)]
    | succ i =>
      by_cases hw : i + 1 < w
      · simp [List.getElem_append_left, hw, Nat.add_comm 1 i]
      · have hlen : (bits c).length ≤ i + 1 := by simpa using hw
        simp [List.getElem_append_right hlen, Nat.add_comm 1 i,
          BitVec.getLsbD_of_ge c (i + 1) (by omega)]

/-- A generator with an odd number of ones in its register form keeps the parity. -/
theorem odd_bits_shift (hpoly : odd (bits poly) = true) (c : BitVec w) :
    odd (bits (shift poly c)) = odd (bits c) := by
  have hright : (c.getLsbD 0 ^^ odd (bits (c >>> 1))) = odd (bits c) := by
    rw [← odd_cons, bits_shiftRight, odd_append]
    simp
  rw [← hright]
  cases hc : c.getLsbD 0 with
  | true =>
    rw [shift, if_pos hc, odd_bits_xor, hpoly]
    simp
  | false => simp [shift, hc]

theorem odd_remainder (hw : 0 < w) (hpoly : odd (bits poly) = true) (c : BitVec w)
    (bs : List Bool) : odd (bits (remainder poly c bs)) = (odd (bits c) ^^ odd bs) := by
  induction bs generalizing c with
  | nil => simp
  | cons b bs ih =>
    rw [remainder_cons, ih, feed, odd_bits_shift hpoly, odd_bits_xor, odd_bits_ofBit hw, odd_cons,
      Bool.xor_assoc]

/-- An odd number of wrong bits. -/
theorem detects_odd (hw : 0 < w) (hpoly : odd (bits poly) = true) {es : List Bool}
    (herr : odd es = true) : Detects poly es := by
  intro hzero
  have h := odd_remainder hw hpoly 0#w es
  rw [hzero, herr, bits_zero] at h
  simp at h

end Errors
end Crc
