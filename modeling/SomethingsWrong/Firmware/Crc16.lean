import SomethingsWrong.Base.Avr
import SomethingsWrong.Base.Crc
import Mathlib.Tactic.IntervalCases

/-! The checksum of a data packet: the two assembler routines of the driver, of which
`USB_USE_FAST_CRC` selects one, and `usbCrc16Append`, which calls it. -/
namespace SomethingsWrong.Crc16
open Avr Crc

/-- CRC-16 as USB has it: the complement of the register. -/
def crc16 (bs : List Byte) : BitVec 16 := ~~~remainder 0xa001#16 0xffff#16 (bs.flatMap bits)

inductive Label where
  | usbCrc16 | usbCrcByteLoop | usbCrcBitLoop | usbCrcNoXor | usbCrcLoopEntry | usbCrcReady
  | usbCrc16ByteLoop | usbCrc16LoopTest | usbCrc16Append
  deriving DecidableEq

def argLen : Reg := 22
def argPtrL : Reg := 24
def argPtrH : Reg := 25
def resCrcL : Reg := 24
def resCrcH : Reg := 25
def ptrL : Reg := 26
def ptrH : Reg := 27
def byte : Reg := 18
def bitCnt : Reg := 19
def polyL : Reg := 20
def polyH : Reg := 21
def scratch : Reg := 23

def usbCrc16Append : List (Line Label) := [
  .label .usbCrc16Append,
  .rcall .usbCrc16,
  .op (.st .x resCrcL),
  .op (.st .x resCrcH),
  .ret]

/-- The routine with `USB_USE_FAST_CRC` not set, as this firmware has it. -/
def slow : List (Line Label) := ([
  .label .usbCrc16,
  .op (.mov ptrL argPtrL),
  .op (.mov ptrH argPtrH),
  .op (.ldi resCrcL 0),
  .op (.ldi resCrcH 0),
  .op (.ldi polyL 0x01),
  .op (.ldi polyH 0xa0),
  .op (.com argLen),
  .op (.ldi bitCnt 0),
  .rjmp .usbCrcLoopEntry,
  .label .usbCrcByteLoop,
  .op (.ld byte .x),
  .op (.eor resCrcL byte),
  .label .usbCrcBitLoop,
  .op (.ror resCrcH),
  .op (.ror resCrcL),
  .branch (.carry true) .usbCrcNoXor,
  .op (.eor resCrcL polyL),
  .op (.eor resCrcH polyH),
  .label .usbCrcNoXor,
  .op (.subi bitCnt 224),
  .branch (.carry true) .usbCrcBitLoop,
  .label .usbCrcLoopEntry,
  .op (.subi argLen (-1)),
  .branch (.carry true) .usbCrcByteLoop,
  .label .usbCrcReady,
  .ret] : List (Line Label)) ++ usbCrc16Append

/-- The routine with `USB_USE_FAST_CRC` set. -/
def fast : List (Line Label) := ([
  .label .usbCrc16,
  .op (.mov ptrL argPtrL),
  .op (.mov ptrH argPtrH),
  .op (.ldi resCrcL 0xff),
  .op (.ldi resCrcH 0xff),
  .rjmp .usbCrc16LoopTest,
  .label .usbCrc16ByteLoop,
  .op (.ld byte .x),
  .op (.eor resCrcL byte),
  .op (.mov byte resCrcL),
  .op (.swap byte),
  .op (.eor byte resCrcL),
  .op (.mov scratch byte),
  .op (.lsr byte),
  .op (.lsr byte),
  .op (.eor byte scratch),
  .op (.inc byte),
  .op (.lsr byte),
  .op (.andi byte 1),
  .op (.mov scratch resCrcL),
  .op (.mov resCrcL resCrcH),
  .op (.eor resCrcL byte),
  .op (.neg byte),
  .op (.andi byte 0xc0),
  .op (.mov resCrcH byte),
  .op (.clr byte),
  .op (.lsr scratch),
  .op (.ror byte),
  .op (.eor resCrcH scratch),
  .op (.eor resCrcL byte),
  .op (.lsr scratch),
  .op (.ror byte),
  .op (.eor resCrcH scratch),
  .op (.eor resCrcL byte),
  .label .usbCrc16LoopTest,
  .op (.subi argLen 1),
  .branch (.carry false) .usbCrc16ByteLoop,
  .op (.com resCrcL),
  .op (.com resCrcH),
  .ret] : List (Line Label)) ++ usbCrc16Append

/-- The bytes in memory from an address on. -/
def bytesAt (mem : BitVec 16 → Byte) (a : BitVec 16) : Nat → List Byte
  | 0 => []
  | n + 1 => mem a :: bytesAt mem (a + 1) n

/-- The register pair of the result. -/
def res (c : Core) : BitVec 16 := c.reg resCrcH ++ c.reg resCrcL

/-- The caller's pointer. -/
def argPtr (c : Core) : BitVec 16 := c.reg argPtrH ++ c.reg argPtrL

/-- The registers that the called function may change. -/
def scratches : List Reg := [18, 19, 20, 21, 22, 23, 24, 25, 26, 27]

/-- Between two states nothing has changed but those registers, the flags and the time. -/
def Keeps (c c' : Core) : Prop :=
  c'.mem = c.mem ∧ ∀ r, r ∉ scratches → c'.reg r = c.reg r

theorem Keeps.refl (c : Core) : Keeps c c := ⟨rfl, fun _ _ => rfl⟩

theorem Keeps.trans {c c' c'' : Core} (h : Keeps c c') (h' : Keeps c' c'') : Keeps c c'' :=
  ⟨h'.1.trans h.1, fun r hr => (h'.2 r hr).trans (h.2 r hr)⟩

theorem setWidth_res (c : Core) : (res c).setWidth 8 = c.reg resCrcL := by
  apply BitVec.eq_of_getLsbD_eq
  intro i hi
  rw [BitVec.getLsbD_setWidth, res, BitVec.getLsbD_append]
  simp [hi]

theorem res_shiftRight (c : Core) : res c >>> 8 = (c.reg resCrcH).setWidth 16 := by
  apply BitVec.eq_of_getLsbD_eq
  intro i hi
  rw [BitVec.getLsbD_ushiftRight, res, BitVec.getLsbD_append]
  simp [hi]

/-- What the caller of `usbCrc16` relies on. -/
def IsUsbCrc16 (code : List (Line Label)) : Prop :=
  ∀ (c : Core), Core.InRam (argPtr c) (c.reg argLen).toNat → ∀ (ret : Nat) (stack : List Nat),
    ∃ c', Reaches code ⟨c, target code .usbCrc16, ret :: stack⟩ ⟨c', ret, stack⟩ ∧ Keeps c c' ∧
      res c' = crc16 (bytesAt c.mem (argPtr c) (c.reg argLen).toNat) ∧
      c'.addr .x = argPtr c + (c.reg argLen).setWidth 16

section Loop
variable {code : List (Line Label)} {test : Nat} {At : Nat → Core → Prop}
  {value : Core → BitVec 16}

/-- The shape of both routines: with `At n` at the line `test` there are `n` bytes left, one turn
takes one of them, and `value` is the register of the checksum however the routine holds it. -/
structure ByteLoop (code : List (Line Label)) (test : Nat) (At : Nat → Core → Prop)
    (value : Core → BitVec 16) : Prop where
  enter : ∀ (c : Core) (stack : List Nat), ∃ c',
    Reaches code ⟨c, target code .usbCrc16, stack⟩ ⟨c', test, stack⟩ ∧
      At (c.reg argLen).toNat c' ∧ Keeps c c' ∧ value c' = 0xffff#16 ∧ c'.addr .x = argPtr c
  turn : ∀ (n : Nat) (c : Core) (stack : List Nat), n + 1 < 256 → At (n + 1) c →
    32 ≤ (c.addr .x).toNat → ∃ c', Reaches code ⟨c, test, stack⟩ ⟨c', test, stack⟩ ∧ At n c' ∧
      Keeps c c' ∧ value c' = remainder 0xa001#16 (value c) (bits (c.mem (c.addr .x))) ∧
      c'.addr .x = c.addr .x + 1
  leave : ∀ (c : Core) (ret : Nat) (stack : List Nat), At 0 c → ∃ c',
    Reaches code ⟨c, test, ret :: stack⟩ ⟨c', ret, stack⟩ ∧ Keeps c c' ∧
      res c' = ~~~value c ∧ c'.addr .x = c.addr .x

/-- The turns of the loop, by induction on the bytes that are left. -/
theorem ByteLoop.turns (h : ByteLoop code test At value) (n : Nat) (hn : n < 256) (c : Core)
    (hat : At n c) (hram : Core.InRam (c.addr .x) n) (stack : List Nat) :
    ∃ c', Reaches code ⟨c, test, stack⟩ ⟨c', test, stack⟩ ∧ At 0 c' ∧ Keeps c c' ∧
      value c' = remainder 0xa001#16 (value c) ((bytesAt c.mem (c.addr .x) n).flatMap bits) ∧
      c'.addr .x = c.addr .x + BitVec.ofNat 16 n := by
  induction n generalizing c with
  | zero => exact ⟨c, .refl _, hat, .refl c, rfl, (BitVec.add_zero _).symm⟩
  | succ n ih =>
    have hhead : 32 ≤ (c.addr .x).toNat := by
      simpa using hram 0 (Nat.succ_pos n)
    obtain ⟨d, hturn, hat', hkeeps, hvalue, hptr⟩ := h.turn n c stack hn hat hhead
    have htail : Core.InRam (d.addr .x) n := by
      rw [hptr]
      exact hram.tail
    obtain ⟨e, hturns, hat'', hkeeps', hvalue', hptr'⟩ := ih (by omega) d hat' htail
    refine ⟨e, hturn.trans hturns, hat'', hkeeps.trans hkeeps', ?_, ?_⟩
    · rw [hvalue', hvalue, hptr, hkeeps.1, bytesAt, List.flatMap_cons, remainder_append]
    · rw [hptr', hptr]
      bv_omega

/-- Such a routine as a function: wherever it is called from and whatever the memory holds, it
comes back with the checksum of the bytes, and the memory and the registers of the caller are as
before. -/
theorem ByteLoop.isUsbCrc16 (h : ByteLoop code test At value) : IsUsbCrc16 code := by
  intro c hram ret stack
  obtain ⟨entered, henter, hat, hkeeps, hvalue, hptr⟩ := h.enter c (ret :: stack)
  rw [← hptr] at hram
  obtain ⟨d, hturns, hat', hkeeps', hvalue', hptr'⟩ :=
    h.turns _ (c.reg argLen).isLt entered hat hram (ret :: stack)
  obtain ⟨e, hleave, hkeeps'', hres, hptr''⟩ := h.leave d ret stack hat'
  refine ⟨e, henter.trans (hturns.trans hleave), (hkeeps.trans hkeeps').trans hkeeps'', ?_, ?_⟩
  · rw [hres, hvalue', hvalue, hkeeps.1, hptr, crc16]
  · rw [hptr'', hptr', hptr, BitVec.ofNat_toNat]

/-- The core after the loop has counted a byte. -/
def counted (k : Byte) (t : Nat) (c : Core) : Core := (Op.apply (.subi argLen k) c).tick t

theorem reg_counted (k : Byte) (t : Nat) (c : Core) {r : Reg} (hr : r ≠ argLen) :
    (counted k t c).reg r = c.reg r := by
  simp [counted, Op.apply, hr]

theorem left_counted (k : Byte) (t : Nat) (c : Core) :
    (counted k t c).reg argLen = c.reg argLen - k := by
  simp [counted, Op.apply]

theorem keeps_counted (k : Byte) (t : Nat) (c : Core) : Keeps c (counted k t c) := by
  refine ⟨rfl, fun r hr => reg_counted k t c ?_⟩
  rintro rfl
  exact hr (by decide)

theorem res_counted (k : Byte) (t : Nat) (c : Core) : res (counted k t c) = res c := by
  rw [res, res, reg_counted _ _ _ (by decide), reg_counted _ _ _ (by decide)]

theorem addr_counted (k : Byte) (t : Nat) (c : Core) : (counted k t c).addr .x = c.addr .x :=
  Core.addr_congr .x (reg_counted _ _ _ (by decide)) (reg_counted _ _ _ (by decide))

end Loop

section Slow

/-- A rotation of both bytes to the right that brings in a one. -/
theorem rotate_pair (hi lo : Byte) :
    (BitVec.cons true hi >>> 1).setWidth 8 ++ (BitVec.cons (hi.getLsbD 0) lo >>> 1).setWidth 8 =
      (~~~(~~~(hi ++ lo) >>> 1) : BitVec 16) := by
  apply BitVec.eq_of_getLsbD_eq
  intro i hi
  simp only [BitVec.getLsbD_append, BitVec.getLsbD_not, BitVec.getLsbD_ushiftRight,
    BitVec.getLsbD_setWidth, BitVec.getLsbD_cons]
  interval_cases i <;> simp

/-- Two rotations and the exclusive or that follows a zero: one bit of the complemented
register. -/
theorem slow_bit (c : Core) (hcarry : c.flags.carry = true) (hL : c.reg polyL = 0x01)
    (hH : c.reg polyH = 0xa0) (stack : List Nat) :
    ∃ c', Reaches slow ⟨c, 13, stack⟩ ⟨c', 19, stack⟩ ∧
      res c' = ~~~shift 0xa001#16 (~~~res c) ∧ c'.mem = c.mem ∧
      ∀ r, r ≠ resCrcL → r ≠ resCrcH → c'.reg r = c.reg r := by
  let rotated := applyAll [.ror resCrcH, .ror resCrcL] c
  have hrot : Reaches slow ⟨c, 13, stack⟩ ⟨rotated, 16, stack⟩ :=
    .head rfl (.block [.ror resCrcH, .ror resCrcL] rfl)
  have hres : res rotated = ~~~(~~~res c >>> 1) := by
    rw [res, res, ← rotate_pair]
    simp [rotated, applyAll, Op.apply, resCrcH, resCrcL, hcarry]
  have hout : rotated.flags.carry = (res c).getLsbD 0 := by
    rw [res, BitVec.getLsbD_append]
    simp [rotated, applyAll, Op.apply, resCrcH, resCrcL]
  have hframe : ∀ r, r ≠ resCrcL → r ≠ resCrcH → rotated.reg r = c.reg r := by
    intro r h1 h2
    simp [rotated, applyAll, Op.apply, h1, h2]
  have hlow : (~~~res c).getLsbD 0 = !(res c).getLsbD 0 := by simp
  rw [shift, hlow]
  cases hbit : (res c).getLsbD 0 with
  | true =>
    have hbranch : Reaches slow ⟨rotated, 16, stack⟩ ⟨rotated.tick 2, 19, stack⟩ :=
      .taken rfl rfl (by rw [Test.holds, hout, hbit, beq_self_eq_true])
    exact ⟨rotated.tick 2, hrot.trans hbranch, hres, rfl, hframe⟩
  | false =>
    let xored := applyAll [.eor resCrcL polyL, .eor resCrcH polyH] (rotated.tick 1)
    have hbranch : Reaches slow ⟨rotated, 16, stack⟩ ⟨rotated.tick 1, 17, stack⟩ :=
      .passed rfl (by rw [Test.holds, hout, hbit]; rfl)
    have hxor : Reaches slow ⟨rotated.tick 1, 17, stack⟩ ⟨xored, 19, stack⟩ :=
      .block [.eor resCrcL polyL, .eor resCrcH polyH] rfl
    refine ⟨xored, hrot.trans (hbranch.trans hxor), ?_, rfl, ?_⟩
    · have hpair : res xored = res rotated ^^^ 0xa001#16 := by
        have hL' : rotated.reg polyL = 0x01 := (hframe _ (by decide) (by decide)).trans hL
        have hH' : rotated.reg polyH = 0xa0 := (hframe _ (by decide) (by decide)).trans hH
        have hpoly : (0xa001#16 : BitVec (8 + 8)) = 0xa0#8 ++ 0x01#8 := by decide
        rw [res, res, hpoly, BitVec.xor_append]
        simp [xored, applyAll, Op.apply, resCrcH, resCrcL, polyL, polyH] at *
        simp [hL', hH']
      rw [hpair, hres, Bool.not_false, if_pos rfl, BitVec.not_xor_left]
    · intro r h1 h2
      simp [xored, applyAll, Op.apply, h1, h2, hframe r h1 h2]

/-- One round of the bit loop up to its branch. -/
theorem slow_round (c : Core) (hcarry : c.flags.carry = true) (hL : c.reg polyL = 0x01)
    (hH : c.reg polyH = 0xa0) (stack : List Nat) :
    ∃ c', Reaches slow ⟨c, 13, stack⟩ ⟨c', 21, stack⟩ ∧
      res c' = ~~~shift 0xa001#16 (~~~res c) ∧ c'.reg bitCnt = c.reg bitCnt - 224 ∧
      c'.flags.carry = (c.reg bitCnt).ult 224 ∧ c'.mem = c.mem ∧
      ∀ r, r ≠ resCrcL → r ≠ resCrcH → r ≠ bitCnt → c'.reg r = c.reg r := by
  obtain ⟨d, hreach, hres, hmem, hframe⟩ := slow_bit c hcarry hL hH stack
  have hcnt : d.reg bitCnt = c.reg bitCnt := hframe bitCnt (by decide) (by decide)
  have hsub : Reaches slow ⟨d, 19, stack⟩ ⟨Op.apply (.subi bitCnt 224) d, 21, stack⟩ :=
    .head rfl (.block [.subi bitCnt 224] rfl)
  refine ⟨_, hreach.trans hsub, ?_, ?_, ?_, hmem, ?_⟩
  · simpa [Op.apply, res, bitCnt, resCrcH, resCrcL] using hres
  · simp [Op.apply, hcnt]
  · simp [Op.apply, hcnt]
  · intro r h1 h2 h3
    simp [Op.apply, h3, hframe r h1 h2]

/-- What the rest of the bit loop does from a counter that has `k + 1` rounds left. -/
theorem slow_bits (k : Nat) (hk : k < 8) (c : Core) (hcarry : c.flags.carry = true)
    (hL : c.reg polyL = 0x01) (hH : c.reg polyH = 0xa0)
    (hcnt : c.reg bitCnt = BitVec.ofNat 8 (256 - 32 * (k + 1))) (stack : List Nat) :
    ∃ c', Reaches slow ⟨c, 13, stack⟩ ⟨c', 22, stack⟩ ∧
      res c' = ~~~(shift 0xa001#16)^[k + 1] (~~~res c) ∧ c'.reg bitCnt = 0 ∧ c'.mem = c.mem ∧
      ∀ r, r ≠ resCrcL → r ≠ resCrcH → r ≠ bitCnt → c'.reg r = c.reg r := by
  induction k generalizing c with
  | zero =>
    obtain ⟨d, hreach, hres, hleft, hborrow, hmem, hframe⟩ := slow_round c hcarry hL hH stack
    rw [hcnt] at hleft hborrow
    have hbranch : Reaches slow ⟨d, 21, stack⟩ ⟨d.tick 1, 22, stack⟩ :=
      .passed rfl (by rw [Test.holds, hborrow]; rfl)
    exact ⟨d.tick 1, hreach.trans hbranch, hres, hleft, hmem, hframe⟩
  | succ k ih =>
    obtain ⟨d, hreach, hres, hleft, hborrow, hmem, hframe⟩ := slow_round c hcarry hL hH stack
    have hlt : k < 7 := by omega
    have hborrow' : d.flags.carry = true := by
      rw [hborrow, hcnt]
      interval_cases k <;> rfl
    have hleft' : d.reg bitCnt = BitVec.ofNat 8 (256 - 32 * (k + 1)) := by
      rw [hleft, hcnt]
      interval_cases k <;> rfl
    have hbranch : Reaches slow ⟨d, 21, stack⟩ ⟨d.tick 2, 13, stack⟩ :=
      .taken rfl rfl (by rw [Test.holds, hborrow', beq_self_eq_true])
    obtain ⟨e, hreach', hres', hzero, hmem', hframe'⟩ := ih (by omega) (d.tick 2) hborrow'
      ((hframe _ (by decide) (by decide) (by decide)).trans hL)
      ((hframe _ (by decide) (by decide) (by decide)).trans hH) hleft'
    refine ⟨e, hreach.trans (hbranch.trans hreach'), ?_, hzero, hmem'.trans hmem, ?_⟩
    · change res e = ~~~(shift 0xa001#16)^[k + 1] (~~~res d) at hres'
      rw [hres', hres, BitVec.not_not, ← Function.iterate_succ_apply]
    · intro r h1 h2 h3
      rw [hframe' r h1 h2 h3, Core.reg_tick, hframe r h1 h2 h3]

/-- The slow routine with `n` bytes left: `argLen` holds the complement of their number. -/
structure SlowAt (n : Nat) (c : Core) : Prop where
  poly_low : c.reg polyL = 0x01
  poly_high : c.reg polyH = 0xa0
  counter : c.reg bitCnt = 0
  left : c.reg argLen = ~~~BitVec.ofNat 8 n

/-- One byte, from the load on. -/
theorem slow_byte {n : Nat} (c : Core) (h : SlowAt n c) (hcarry : c.flags.carry = true)
    (hram : 32 ≤ (c.addr .x).toNat) (stack : List Nat) :
    ∃ c', Reaches slow ⟨c, 10, stack⟩ ⟨c', 22, stack⟩ ∧ SlowAt n c' ∧ Keeps c c' ∧
      ~~~res c' = remainder 0xa001#16 (~~~res c) (bits (c.mem (c.addr .x))) ∧
      c'.addr .x = c.addr .x + 1 := by
  let loaded := applyAll [.ld byte .x, .eor resCrcL byte] c
  have hload : Reaches slow ⟨c, 10, stack⟩ ⟨loaded, 13, stack⟩ :=
    .head rfl (.block [.ld byte .x, .eor resCrcL byte] rfl)
  have hfirst : ((c.mem (c.addr .x)).setWidth 16 : BitVec (8 + 8)) =
      0#8 ++ c.mem (c.addr .x) := by
    simp [BitVec.setWidth_eq_append]
  have hres : ~~~res loaded = ~~~res c ^^^ (c.mem (c.addr .x)).setWidth 16 := by
    rw [← BitVec.not_xor_left, hfirst, res, res, BitVec.xor_append]
    simp [loaded, applyAll, Op.apply, resCrcL, resCrcH, byte, Core.load_ram c hram]
  have hframe : ∀ r, r ≠ byte → r ≠ resCrcL → r ≠ 26 → r ≠ 27 → loaded.reg r = c.reg r := by
    intro r h1 h2 h3 h4
    simp [loaded, applyAll, Op.apply, h1, h2, h3, h4]
  have hptr : loaded.addr .x = c.addr .x + 1 := by
    rw [← Core.addr_setAddr c .x (c.addr .x + 1)]
    apply Core.addr_congr <;> simp [loaded, applyAll, Op.apply, resCrcL]
  obtain ⟨d, hreach, hres', hzero, hmem, hframe'⟩ := slow_bits 7 (by omega) loaded hcarry
    ((hframe _ (by decide) (by decide) (by decide) (by decide)).trans h.poly_low)
    ((hframe _ (by decide) (by decide) (by decide) (by decide)).trans h.poly_high)
    ((hframe _ (by decide) (by decide) (by decide) (by decide)).trans h.counter) stack
  have hothers : ∀ r, r ∉ [resCrcL, resCrcH, bitCnt, byte, 26, 27] → d.reg r = c.reg r := by
    intro r hr
    simp only [List.mem_cons, List.not_mem_nil, or_false, not_or] at hr
    obtain ⟨h1, h2, h3, h4, h5, h6⟩ := hr
    rw [hframe' r h1 h2 h3, hframe r h4 h1 h5 h6]
  have hat : SlowAt n d :=
    ⟨(hothers _ (by decide)).trans h.poly_low, (hothers _ (by decide)).trans h.poly_high, hzero,
      (hothers _ (by decide)).trans h.left⟩
  have hkeeps : Keeps c d := by
    refine ⟨hmem, fun r hr => hothers r fun hmem => hr ?_⟩
    revert hmem
    revert r
    decide
  refine ⟨d, hload.trans hreach, hat, hkeeps, ?_, ?_⟩
  · rw [hres', BitVec.not_not, hres, remainder_bits _ _ _ (by decide)]
  · rw [← hptr]
    exact Core.addr_congr _ (hframe' _ (by decide) (by decide) (by decide))
      (hframe' _ (by decide) (by decide) (by decide))

theorem slow_enter (c : Core) (stack : List Nat) :
    ∃ c', Reaches slow ⟨c, target slow .usbCrc16, stack⟩ ⟨c', 22, stack⟩ ∧
      SlowAt (c.reg argLen).toNat c' ∧ Keeps c c' ∧ ~~~res c' = 0xffff#16 ∧
      c'.addr .x = argPtr c := by
  let entered := (applyAll [.mov ptrL argPtrL, .mov ptrH argPtrH, .ldi resCrcL 0,
    .ldi resCrcH 0, .ldi polyL 0x01, .ldi polyH 0xa0, .com argLen, .ldi bitCnt 0] c).tick 2
  have henter : Reaches slow ⟨c, 0, stack⟩ ⟨entered, 22, stack⟩ :=
    .head rfl ((Reaches.block [.mov ptrL argPtrL, .mov ptrH argPtrH, .ldi resCrcL 0,
      .ldi resCrcH 0, .ldi polyL 0x01, .ldi polyH 0xa0, .com argLen, .ldi bitCnt 0] rfl).trans
      (.step rfl))
  have hleft : entered.reg argLen = ~~~BitVec.ofNat 8 (c.reg argLen).toNat := by
    rw [BitVec.ofNat_toNat, BitVec.setWidth_eq]
    rfl
  have hzero : ~~~res entered = 0xffff#16 := by
    change ~~~(0#8 ++ 0#8 : BitVec (8 + 8)) = 0xffff#16
    decide
  refine ⟨entered, henter, ⟨rfl, rfl, rfl, hleft⟩, ⟨rfl, fun r hr => ?_⟩, hzero, rfl⟩
  simp only [scratches, List.mem_cons, List.not_mem_nil, or_false, not_or] at hr
  simp [entered, applyAll, Op.apply, ptrL, ptrH, resCrcL, resCrcH, polyL, polyH, argLen, bitCnt,
    hr]

/-- The test counts up to no borrow, and with a borrow the carry that the bit loop rotates in is
set. -/
theorem slow_turn (n : Nat) (c : Core) (stack : List Nat) (hn : n + 1 < 256)
    (h : SlowAt (n + 1) c) (hram : 32 ≤ (c.addr .x).toNat) :
    ∃ c', Reaches slow ⟨c, 22, stack⟩ ⟨c', 22, stack⟩ ∧ SlowAt n c' ∧ Keeps c c' ∧
      ~~~res c' = remainder 0xa001#16 (~~~res c) (bits (c.mem (c.addr .x))) ∧
      c'.addr .x = c.addr .x + 1 := by
  have hborrow : (counted (-1) 0 c).flags.carry = true := by
    simp only [counted, Op.apply, Core.flags_tick, Core.flags_set, Core.flags_compare, h.left,
      BitVec.ult, decide_eq_true_eq]
    bv_omega
  have htest : Reaches slow ⟨c, 22, stack⟩ ⟨counted (-1) 2 c, 10, stack⟩ :=
    .head rfl ((Reaches.block [.subi argLen (-1)] rfl).trans
      (.taken rfl rfl (show ((counted (-1) 0 c).flags.carry == true) = true by rw [hborrow]; rfl)))
  have hat : SlowAt n (counted (-1) 2 c) := by
    refine ⟨(reg_counted _ _ _ (by decide)).trans h.poly_low,
      (reg_counted _ _ _ (by decide)).trans h.poly_high,
      (reg_counted _ _ _ (by decide)).trans h.counter, ?_⟩
    rw [left_counted, h.left]
    bv_omega
  rw [← addr_counted (-1) 2] at hram
  obtain ⟨d, hbyte, hat', hkeeps, hres, hptr⟩ := slow_byte _ hat hborrow hram stack
  refine ⟨d, htest.trans hbyte, hat', (keeps_counted _ _ c).trans hkeeps, ?_, ?_⟩
  · rw [hres, res_counted, addr_counted, (keeps_counted _ _ c).1]
  · rw [hptr, addr_counted]

theorem slow_leave (c : Core) (ret : Nat) (stack : List Nat) (h : SlowAt 0 c) :
    ∃ c', Reaches slow ⟨c, 22, ret :: stack⟩ ⟨c', ret, stack⟩ ∧ Keeps c c' ∧
      res c' = ~~~~~~res c ∧ c'.addr .x = c.addr .x := by
  have hborrow : (counted (-1) 0 c).flags.carry = false := by
    simp [counted, Op.apply, h.left]
  have htest : Reaches slow ⟨c, 22, ret :: stack⟩ ⟨counted (-1) 1 c, 25, ret :: stack⟩ :=
    .head rfl ((Reaches.block [.subi argLen (-1)] rfl).trans
      (.passed rfl (show ((counted (-1) 0 c).flags.carry == true) = false by rw [hborrow]; rfl)))
  have hret : Reaches slow ⟨counted (-1) 1 c, 25, ret :: stack⟩ ⟨counted (-1) 5 c, ret, stack⟩ :=
    .head rfl (.step rfl)
  refine ⟨_, htest.trans hret, keeps_counted _ _ c, ?_, addr_counted _ _ c⟩
  rw [res_counted, BitVec.not_not]

/-- The slow routine works on the complement of the register. -/
theorem slow_loop : ByteLoop slow 22 SlowAt fun c => ~~~res c := ⟨slow_enter, slow_turn, slow_leave⟩

theorem slow_isUsbCrc16 : IsUsbCrc16 slow := slow_loop.isUsbCrc16

end Slow

section Fast

/-- `parity` of the pseudo-code above the fast routine. -/
def parity (x : Byte) : Bool := odd (bits x)

/-- `table` of the pseudo-code above the fast routine. -/
def table (x : Byte) : BitVec 16 :=
  let value := (x.setWidth 16 <<< 6) ^^^ (x.setWidth 16 <<< 7)
  if parity x then value ^^^ 0xc001 else value

/-- The parity trick: two shifts and a correction stand for eight steps of the register. -/
theorem table_eq : ∀ x : Byte, table x = (shift 0xa001#16)^[8] (x.setWidth 16) := by
  decide +kernel

/-- The fast loop's body after the load. -/
def fastBody : List Op := [
  .mov byte resCrcL, .swap byte, .eor byte resCrcL, .mov scratch byte, .lsr byte, .lsr byte,
  .eor byte scratch, .inc byte, .lsr byte, .andi byte 1, .mov scratch resCrcL,
  .mov resCrcL resCrcH, .eor resCrcL byte, .neg byte, .andi byte 0xc0, .mov resCrcH byte,
  .clr byte, .lsr scratch, .ror byte, .eor resCrcH scratch, .eor resCrcL byte, .lsr scratch,
  .ror byte, .eor resCrcH scratch, .eor resCrcL byte]

theorem res_fastBody (c : Core) :
    res (applyAll fastBody c) = table (c.reg resCrcL) ^^^ (c.reg resCrcH).setWidth 16 := by
  -- how the code computes the parity of a byte: two folds and an addition
  let par (x : Byte) : Byte :=
    (((x.rotateLeft 4 ^^^ x) >>> 2 ^^^ (x.rotateLeft 4 ^^^ x)) + 1#8) >>> 1 &&& 1#8
  let low (x : Byte) : Byte := (BitVec.cons x[0] 0#8 >>> 1).setWidth 8
  have hhigh : (applyAll fastBody c).reg resCrcH =
      -par (c.reg resCrcL) &&& 192#8 ^^^ c.reg resCrcL >>> 1 ^^^ c.reg resCrcL >>> 2 := by
    simp [applyAll, fastBody, Op.apply, byte, resCrcL, resCrcH, scratch, Op.clr, par]
  have hlow : (applyAll fastBody c).reg resCrcL =
      c.reg resCrcH ^^^ (par (c.reg resCrcL) ^^^ low (c.reg resCrcL) ^^^
        (BitVec.cons (c.reg resCrcL)[1] (low (c.reg resCrcL)) >>> 1).setWidth 8) := by
    simp [applyAll, fastBody, Op.apply, byte, resCrcL, resCrcH, scratch, Op.clr, par, low,
      BitVec.xor_assoc]
  have htable : ∀ x : Byte, table x = ((-par x &&& 192#8 ^^^ x >>> 1 ^^^ x >>> 2) ++
      (par x ^^^ low x ^^^ (BitVec.cons x[1] (low x) >>> 1).setWidth 8) : BitVec (8 + 8)) := by
    decide +kernel
  have hwide : ((c.reg resCrcH).setWidth 16 : BitVec (8 + 8)) = 0#8 ++ c.reg resCrcH := by
    simp [BitVec.setWidth_eq_append]
  rw [res, hhigh, hlow, htable, hwide, BitVec.xor_append, BitVec.xor_zero,
    BitVec.xor_comm (c.reg resCrcH)]

theorem reg_fastBody (c : Core) (r : Reg) (h1 : r ≠ byte) (h2 : r ≠ resCrcL) (h3 : r ≠ resCrcH)
    (h4 : r ≠ scratch) : (applyAll fastBody c).reg r = c.reg r := by
  simp [applyAll, fastBody, Op.apply, Op.clr, h1, h2, h3, h4]

/-- The fast routine with `n` bytes left. -/
def FastAt (n : Nat) (c : Core) : Prop := c.reg argLen = BitVec.ofNat 8 n

/-- One byte, from the load on. -/
theorem fast_byte (c : Core) (hram : 32 ≤ (c.addr .x).toNat) (stack : List Nat) :
    ∃ c', Reaches fast ⟨c, 6, stack⟩ ⟨c', 34, stack⟩ ∧ Keeps c c' ∧
      res c' = remainder 0xa001#16 (res c) (bits (c.mem (c.addr .x))) ∧
      c'.addr .x = c.addr .x + 1 ∧ c'.reg argLen = c.reg argLen := by
  let loaded := applyAll [.ld byte .x, .eor resCrcL byte] c
  have hload : Reaches fast ⟨c, 6, stack⟩ ⟨loaded, 9, stack⟩ :=
    .head rfl (.block [.ld byte .x, .eor resCrcL byte] rfl)
  have hbody : Reaches fast ⟨loaded, 9, stack⟩ ⟨applyAll fastBody loaded, 34, stack⟩ :=
    .block fastBody rfl
  have hlow : loaded.reg resCrcL = (res c).setWidth 8 ^^^ c.mem (c.addr .x) := by
    rw [setWidth_res]
    simp [loaded, applyAll, Op.apply, resCrcL, byte, Core.load_ram c hram]
  have hhigh : (loaded.reg resCrcH).setWidth 16 = res c >>> 8 := by
    rw [res_shiftRight]
    simp [loaded, applyAll, Op.apply, resCrcL, resCrcH, byte]
  have hframe : ∀ r, r ≠ byte → r ≠ resCrcL → r ≠ 26 → r ≠ 27 → loaded.reg r = c.reg r := by
    intro r h1 h2 h3 h4
    simp [loaded, applyAll, Op.apply, h1, h2, h3, h4]
  refine ⟨applyAll fastBody loaded, hload.trans hbody, ⟨rfl, ?_⟩, ?_, ?_, ?_⟩
  · intro r hr
    simp only [scratches, List.mem_cons, List.not_mem_nil, or_false, not_or] at hr
    rw [reg_fastBody, hframe] <;> simp [byte, resCrcL, resCrcH, scratch, hr]
  · rw [res_fastBody, hlow, hhigh, table_eq, remainder_bits_table _ _ _ (by decide)]
  · have hptr : loaded.addr .x = c.addr .x + 1 := by
      rw [← Core.addr_setAddr c .x (c.addr .x + 1)]
      apply Core.addr_congr <;> simp [loaded, applyAll, Op.apply, resCrcL]
    rw [← hptr]
    exact Core.addr_congr _ (reg_fastBody _ _ (by decide) (by decide) (by decide) (by decide))
      (reg_fastBody _ _ (by decide) (by decide) (by decide) (by decide))
  · rw [reg_fastBody _ _ (by decide) (by decide) (by decide) (by decide),
      hframe _ (by decide) (by decide) (by decide) (by decide)]

theorem fast_enter (c : Core) (stack : List Nat) :
    ∃ c', Reaches fast ⟨c, target fast .usbCrc16, stack⟩ ⟨c', 34, stack⟩ ∧
      FastAt (c.reg argLen).toNat c' ∧ Keeps c c' ∧ res c' = 0xffff#16 ∧
      c'.addr .x = argPtr c := by
  let entered := (applyAll [.mov ptrL argPtrL, .mov ptrH argPtrH, .ldi resCrcL 0xff,
    .ldi resCrcH 0xff] c).tick 2
  have henter : Reaches fast ⟨c, 0, stack⟩ ⟨entered, 34, stack⟩ :=
    .head rfl ((Reaches.block [.mov ptrL argPtrL, .mov ptrH argPtrH, .ldi resCrcL 0xff,
      .ldi resCrcH 0xff] rfl).trans (.step rfl))
  have hleft : entered.reg argLen = BitVec.ofNat 8 (c.reg argLen).toNat := by
    rw [BitVec.ofNat_toNat, BitVec.setWidth_eq]
    rfl
  have hones : res entered = 0xffff#16 := by
    change (0xff#8 ++ 0xff#8 : BitVec (8 + 8)) = 0xffff#16
    decide
  refine ⟨entered, henter, hleft, ⟨rfl, fun r hr => ?_⟩, hones, rfl⟩
  simp only [scratches, List.mem_cons, List.not_mem_nil, or_false, not_or] at hr
  simp [entered, applyAll, Op.apply, ptrL, ptrH, resCrcL, resCrcH, hr]

theorem fast_turn (n : Nat) (c : Core) (stack : List Nat) (hn : n + 1 < 256)
    (h : FastAt (n + 1) c) (hram : 32 ≤ (c.addr .x).toNat) :
    ∃ c', Reaches fast ⟨c, 34, stack⟩ ⟨c', 34, stack⟩ ∧ FastAt n c' ∧ Keeps c c' ∧
      res c' = remainder 0xa001#16 (res c) (bits (c.mem (c.addr .x))) ∧
      c'.addr .x = c.addr .x + 1 := by
  rw [FastAt] at h
  have hborrow : (counted 1 0 c).flags.carry = false := by
    simp only [counted, Op.apply, Core.flags_tick, Core.flags_set, Core.flags_compare, h,
      BitVec.ult, decide_eq_false_iff_not]
    bv_omega
  have htest : Reaches fast ⟨c, 34, stack⟩ ⟨counted 1 2 c, 6, stack⟩ :=
    .head rfl ((Reaches.block [.subi argLen 1] rfl).trans
      (.taken rfl rfl (show ((counted 1 0 c).flags.carry == false) = true by rw [hborrow]; rfl)))
  rw [← addr_counted 1 2] at hram
  obtain ⟨d, hbyte, hkeeps, hres, hptr, hlen⟩ := fast_byte _ hram stack
  refine ⟨d, htest.trans hbyte, ?_, (keeps_counted _ _ c).trans hkeeps, ?_, ?_⟩
  · rw [FastAt, hlen, left_counted, h]
    bv_omega
  · rw [hres, res_counted, addr_counted, (keeps_counted _ _ c).1]
  · rw [hptr, addr_counted]

/-- The register is complemented on the way out. -/
theorem fast_leave (c : Core) (ret : Nat) (stack : List Nat) (h : FastAt 0 c) :
    ∃ c', Reaches fast ⟨c, 34, ret :: stack⟩ ⟨c', ret, stack⟩ ∧ Keeps c c' ∧
      res c' = ~~~res c ∧ c'.addr .x = c.addr .x := by
  rw [FastAt] at h
  have hborrow : (counted 1 0 c).flags.carry = true := by
    simp [counted, Op.apply, h]
  have htest : Reaches fast ⟨c, 34, ret :: stack⟩ ⟨counted 1 1 c, 37, ret :: stack⟩ :=
    .head rfl ((Reaches.block [.subi argLen 1] rfl).trans
      (.passed rfl (show ((counted 1 0 c).flags.carry == false) = false by rw [hborrow]; rfl)))
  let ended := (applyAll [.com resCrcL, .com resCrcH] (counted 1 1 c)).tick 4
  have hend : Reaches fast ⟨counted 1 1 c, 37, ret :: stack⟩ ⟨ended, ret, stack⟩ :=
    (Reaches.block [.com resCrcL, .com resCrcH] rfl).trans (.step rfl)
  have hframe : ∀ r, r ≠ resCrcL → r ≠ resCrcH → ended.reg r = (counted 1 1 c).reg r := by
    intro r h1 h2
    simp [ended, applyAll, Op.apply, h1, h2]
  have hkeeps : Keeps (counted 1 1 c) ended := by
    refine ⟨rfl, fun r hr => hframe r ?_ ?_⟩ <;> · rintro rfl; exact hr (by decide)
  have hres : res ended = ~~~res (counted 1 1 c) := by
    rw [res, res, BitVec.not_append]
    simp [ended, applyAll, Op.apply, resCrcL, resCrcH]
  refine ⟨ended, htest.trans hend, (keeps_counted _ _ c).trans hkeeps, ?_, ?_⟩
  · rw [hres, res_counted]
  · rw [← addr_counted 1 1 c]
    exact Core.addr_congr .x (hframe _ (by decide) (by decide)) (hframe _ (by decide) (by decide))

theorem fast_loop : ByteLoop fast 34 FastAt res := ⟨fast_enter, fast_turn, fast_leave⟩

theorem fast_isUsbCrc16 : IsUsbCrc16 fast := fast_loop.isUsbCrc16

end Fast

section Append

theorem length_bytesAt (mem : BitVec 16 → Byte) (a : BitVec 16) (n : Nat) :
    (bytesAt mem a n).length = n := by
  induction n generalizing a with
  | zero => rfl
  | succ n ih => simp [bytesAt, ih]

theorem bytesAt_add (mem : BitVec 16 → Byte) (a : BitVec 16) (n k : Nat) :
    bytesAt mem a (n + k) = bytesAt mem a n ++ bytesAt mem (a + BitVec.ofNat 16 n) k := by
  induction n generalizing a with
  | zero => simp [bytesAt]
  | succ n ih =>
    have hnext : a + 1 + BitVec.ofNat 16 n = a + BitVec.ofNat 16 (n + 1) := by bv_omega
    rw [Nat.add_right_comm, bytesAt, ih, hnext, bytesAt, List.cons_append]

/-- Bytes that no store has touched. -/
theorem bytesAt_congr {mem mem' : BitVec 16 → Byte} (a : BitVec 16) (n : Nat)
    (h : ∀ i < n, mem' (a + BitVec.ofNat 16 i) = mem (a + BitVec.ofNat 16 i)) :
    bytesAt mem' a n = bytesAt mem a n := by
  induction n generalizing a with
  | zero => rfl
  | succ n ih =>
    have hhead : mem' a = mem a := by simpa using h 0 (by omega)
    have htail := ih (a + 1) fun i hi => by
      have hnext : a + 1 + BitVec.ofNat 16 i = a + BitVec.ofNat 16 (i + 1) := by bv_omega
      rw [hnext]
      exact h (i + 1) (by omega)
    rw [bytesAt, hhead, htail, bytesAt]

/-- The bytes of a checksum in the order in which they are sent. -/
def bytesOf (crc : BitVec 16) : List Byte := [crc.setWidth 8, (crc >>> 8).setWidth 8]

theorem bits_bytesOf (crc : BitVec 16) : (bytesOf crc).flatMap bits = bits crc := by
  apply List.ext_getElem
  · simp [bytesOf]
  · intro i h1 h2
    simp only [bytesOf, List.flatMap_cons, List.flatMap_nil, List.append_nil, length_bits] at h1 h2 ⊢
    by_cases hlt : i < 8
    · rw [List.getElem_append_left (by simpa using hlt), getElem_bits, getElem_bits]
      simp [hlt]
    · have hsum : 8 + (i - 8) = i := by omega
      rw [List.getElem_append_right (by simpa using hlt), getElem_bits, getElem_bits]
      simp only [length_bits, BitVec.getLsbD_setWidth, BitVec.getLsbD_ushiftRight, hsum]
      simp [show i - 8 < 8 by omega]

/-- What a receiver that checks the packet expects in its register. -/
def Accepted (bs : List Bool) : Prop := remainder 0xa001#16 0xffff#16 bs = 0xb001#16

instance (bs : List Bool) : Decidable (Accepted bs) := inferInstanceAs (Decidable (_ = _))

theorem accepted_append (payload : List Byte) :
    Accepted ((payload ++ bytesOf (crc16 payload)).flatMap bits) := by
  have hcrc : crc16 payload =
      remainder 0xa001#16 0xffff#16 (payload.flatMap bits) ^^^ 0xffff#16 := by
    have hones : 0xffff#16 = BitVec.allOnes 16 := by decide
    rw [crc16, hones, BitVec.xor_allOnes]
  rw [Accepted, List.flatMap_append, bits_bytesOf, remainder_append, hcrc, remainder_bits_self]
  decide +kernel

/-- The core after the two stores behind the call. -/
def stored (d : Core) : Core := applyAll [.st .x resCrcL, .st .x resCrcH] d

section Stored
variable {d : Core} (hfirst : 32 ≤ (d.addr .x).toNat) (hsecond : 32 ≤ (d.addr .x + 1).toNat)
include hfirst hsecond

theorem stored_ram :
    stored d = ((((((d.store (d.addr .x) (d.reg resCrcL)).setAddr .x (d.addr .x + 1)).tick 2).store
      (d.addr .x + 1) (d.reg resCrcH)).setAddr .x (d.addr .x + 1 + 1)).tick 2) := by
  have hnext : 32 ≤ (d.addr .x + 1#16).toNat := hsecond
  simp [stored, applyAll, Op.apply, resCrcL, resCrcH, Core.write_ram _ hfirst,
    Core.write_ram _ hnext]

theorem mem_stored (a : BitVec 16) : (stored d).mem a =
    if a = d.addr .x + 1 then d.reg resCrcH else if a = d.addr .x then d.reg resCrcL
    else d.mem a := by
  rw [stored_ram hfirst hsecond]
  simp

theorem reg_stored {r : Reg} (hr : r ∉ scratches) : (stored d).reg r = d.reg r := by
  simp only [scratches, List.mem_cons, List.not_mem_nil, or_false, not_or] at hr
  rw [stored_ram hfirst hsecond]
  simp [hr]

/-- Bytes that end where the stores begin, and the result behind them. -/
theorem bytesAt_stored (a : BitVec 16) (n : Nat) (hn : n < 256)
    (hend : a + BitVec.ofNat 16 n = d.addr .x) :
    bytesAt (stored d).mem a (n + 2) = bytesAt d.mem a n ++ bytesOf (res d) := by
  have hbefore : bytesAt (stored d).mem a n = bytesAt d.mem a n := by
    apply bytesAt_congr
    intro i hi
    rw [mem_stored hfirst hsecond, if_neg, if_neg]
    · rw [← hend]
      bv_omega
    · rw [← hend]
      bv_omega
  have hlow : d.reg resCrcL = (res d).setWidth 8 := (setWidth_res d).symm
  have hhigh : d.reg resCrcH = (res d >>> 8).setWidth 8 := by
    rw [res_shiftRight, BitVec.setWidth_setWidth_of_le _ (by decide), BitVec.setWidth_eq]
  have hne : d.addr .x ≠ d.addr .x + 1 := by bv_omega
  rw [bytesAt_add, hbefore, hend, bytesOf, bytesAt, bytesAt, bytesAt,
    mem_stored hfirst hsecond, mem_stored hfirst hsecond, if_neg hne, if_pos rfl, if_pos rfl, hlow,
    hhigh]

end Stored

/-- The lines of `usbCrc16Append` around the call. -/
theorem append_reaches {code : List (Line Label)} {pc : Nat} (hcode : code.drop pc = usbCrc16Append)
    {c d : Core} {ret : Nat} {stack : List Nat}
    (hcalled : Reaches code ⟨c.tick 3, target code .usbCrc16, (pc + 2) :: ret :: stack⟩
      ⟨d, pc + 2, ret :: stack⟩) :
    Reaches code ⟨c, pc, ret :: stack⟩ ⟨(stored d).tick 4, ret, stack⟩ := by
  have hline : ∀ i, code[pc + i]? = usbCrc16Append[i]? := by
    intro i
    rw [← hcode, List.getElem?_drop]
  have hlabel : step code ⟨c, pc, ret :: stack⟩ = some ⟨c, pc + 1, ret :: stack⟩ := by
    have hat : code[pc]? = some (.label .usbCrc16Append) := hline 0
    rw [step_eq hat]
    rfl
  have hcall : step code ⟨c, pc + 1, ret :: stack⟩ =
      some ⟨c.tick 3, target code .usbCrc16, (pc + 2) :: ret :: stack⟩ := by
    have hat : code[pc + 1]? = some (.rcall .usbCrc16) := hline 1
    rw [step_eq hat]
    rfl
  have hstore : Reaches code ⟨d, pc + 2, ret :: stack⟩ ⟨stored d, pc + 4, ret :: stack⟩ :=
    .block [.st .x resCrcL, .st .x resCrcH] (by rw [← List.drop_drop, hcode]; rfl)
  have hret : step code ⟨stored d, pc + 4, ret :: stack⟩ =
      some ⟨(stored d).tick 4, ret, stack⟩ := by
    have hat : code[pc + 4]? = some .ret := hline 4
    rw [step_eq hat]
    rfl
  exact .head hlabel (.head hcall (hcalled.trans (hstore.trans (.step hret))))

/-- `usbCrc16Append` at the line `pc` of a listing: behind the bytes it is given it writes their
checksum, low byte first, and changes no other byte of the memory. -/
theorem append_of_isUsbCrc16 {code : List (Line Label)} (h : IsUsbCrc16 code) {pc : Nat}
    (hcode : code.drop pc = usbCrc16Append) (c : Core)
    (hram : Core.InRam (argPtr c) ((c.reg argLen).toNat + 2)) (ret : Nat) (stack : List Nat) :
    ∃ c', Reaches code ⟨c, pc, ret :: stack⟩ ⟨c', ret, stack⟩ ∧
      bytesAt c'.mem (argPtr c) ((c.reg argLen).toNat + 2) =
        bytesAt c.mem (argPtr c) (c.reg argLen).toNat ++
          bytesOf (crc16 (bytesAt c.mem (argPtr c) (c.reg argLen).toNat)) ∧
      (∀ a, a ≠ argPtr c + (c.reg argLen).setWidth 16 →
        a ≠ argPtr c + (c.reg argLen).setWidth 16 + 1 → c'.mem a = c.mem a) ∧
      ∀ r, r ∉ scratches → c'.reg r = c.reg r := by
  obtain ⟨d, hcalled, hkeeps, hres, hptr⟩ :=
    h (c.tick 3) (fun i hi => hram i (Nat.lt_add_right 2 hi)) (pc + 2) (ret :: stack)
  change res d = crc16 (bytesAt c.mem (argPtr c) (c.reg argLen).toNat) at hres
  change d.addr .x = argPtr c + (c.reg argLen).setWidth 16 at hptr
  have hmem : d.mem = c.mem := hkeeps.1
  have hend : argPtr c + BitVec.ofNat 16 (c.reg argLen).toNat = d.addr .x := by
    rw [hptr, BitVec.ofNat_toNat]
  have hfirst : 32 ≤ (d.addr .x).toNat := by
    rw [← hend]
    exact hram _ (by omega)
  have hsecond : 32 ≤ (d.addr .x + 1).toNat := by
    have hlast := hram ((c.reg argLen).toNat + 1) (by omega)
    rwa [BitVec.ofNat_add, ← BitVec.add_assoc, hend] at hlast
  refine ⟨(stored d).tick 4, append_reaches hcode hcalled, ?_, ?_, ?_⟩
  · rw [Core.mem_tick, bytesAt_stored hfirst hsecond _ _ (c.reg argLen).isLt hend, hmem, hres]
  · intro a h1 h2
    rw [Core.mem_tick, mem_stored hfirst hsecond, hptr, if_neg h2, if_neg h1, hmem]
  · intro r hr
    rw [Core.reg_tick, reg_stored hfirst hsecond hr, hkeeps.2 r hr, Core.reg_tick]

/-- `USB_USE_FAST_CRC` changes only the time that the checksum takes: from any state both
routines come back with it in the result registers, the pointer behind the bytes, and the
memory and the registers of the caller as before. -/
theorem fast_agrees_with_slow (c : Core) (hram : Core.InRam (argPtr c) (c.reg argLen).toNat)
    (ret : Nat) (stack : List Nat) :
    ∃ s f, Reaches slow ⟨c, target slow .usbCrc16, ret :: stack⟩ ⟨s, ret, stack⟩ ∧
      Reaches fast ⟨c, target fast .usbCrc16, ret :: stack⟩ ⟨f, ret, stack⟩ ∧
      Keeps c s ∧ Keeps c f ∧ res s = crc16 (bytesAt c.mem (argPtr c) (c.reg argLen).toNat) ∧
      res f = res s ∧ s.addr .x = argPtr c + (c.reg argLen).setWidth 16 ∧
      f.addr .x = s.addr .x := by
  obtain ⟨s, hs, hkeep, hres, hptr⟩ := slow_isUsbCrc16 c hram ret stack
  obtain ⟨f, hf, hkeep', hres', hptr'⟩ := fast_isUsbCrc16 c hram ret stack
  exact ⟨s, f, hs, hf, hkeep, hkeep', hres, hres'.trans hres.symm, hptr, hptr'.trans hptr.symm⟩

/-- A core that is about to send eight bytes from address `0x61` on. -/
def asked : Core where
  reg r := if r = argPtrL then 0x61 else if r = argLen then 8 else 0
  flags := ⟨false, false, false, false⟩
  mem a := a.setWidth 8
  cycle := 0

theorem fast_agrees_with_slow_asked :
    ∃ s f, Reaches slow ⟨asked, target slow .usbCrc16, [0]⟩ ⟨s, 0, []⟩ ∧
      Reaches fast ⟨asked, target fast .usbCrc16, [0]⟩ ⟨f, 0, []⟩ ∧
      Keeps asked s ∧ Keeps asked f ∧
      res s = crc16 (bytesAt asked.mem (argPtr asked) (asked.reg argLen).toNat) ∧
      res f = res s ∧ s.addr .x = argPtr asked + (asked.reg argLen).setWidth 16 ∧
      f.addr .x = s.addr .x :=
  fast_agrees_with_slow asked
    (show ∀ i < 8, 32 ≤ (0x61#16 + BitVec.ofNat 16 i).toNat by decide) 0 []

/-- The packet that `usbCrc16Append` leaves in memory is one that the receiver accepts, and no
other byte of the memory has changed. -/
theorem usbCrc16Append_completes (c : Core)
    (hram : Core.InRam (argPtr c) ((c.reg argLen).toNat + 2)) (ret : Nat) (stack : List Nat) :
    ∃ c', Reaches slow ⟨c, target slow .usbCrc16Append, ret :: stack⟩ ⟨c', ret, stack⟩ ∧
      bytesAt c'.mem (argPtr c) (c.reg argLen).toNat =
        bytesAt c.mem (argPtr c) (c.reg argLen).toNat ∧
      Accepted ((bytesAt c'.mem (argPtr c) ((c.reg argLen).toNat + 2)).flatMap bits) ∧
      (∀ a, a ≠ argPtr c + (c.reg argLen).setWidth 16 →
        a ≠ argPtr c + (c.reg argLen).setWidth 16 + 1 → c'.mem a = c.mem a) ∧
      ∀ r, r ∉ scratches → c'.reg r = c.reg r := by
  have happend : slow.drop (target slow .usbCrc16Append) = usbCrc16Append := rfl
  obtain ⟨c', hreach, hbytes, hmem, hreg⟩ :=
    append_of_isUsbCrc16 slow_isUsbCrc16 happend c hram ret stack
  refine ⟨c', hreach, ?_, ?_, hmem, hreg⟩
  · rw [bytesAt_add] at hbytes
    exact (List.append_inj hbytes (by rw [length_bytesAt, length_bytesAt])).1
  · rw [hbytes]
    exact accepted_append _

theorem usbCrc16Append_completes_asked :
    ∃ c', Reaches slow ⟨asked, target slow .usbCrc16Append, [0]⟩ ⟨c', 0, []⟩ ∧
      bytesAt c'.mem (argPtr asked) (asked.reg argLen).toNat =
        bytesAt asked.mem (argPtr asked) (asked.reg argLen).toNat ∧
      Accepted ((bytesAt c'.mem (argPtr asked) ((asked.reg argLen).toNat + 2)).flatMap bits) ∧
      (∀ a, a ≠ argPtr asked + (asked.reg argLen).setWidth 16 →
        a ≠ argPtr asked + (asked.reg argLen).setWidth 16 + 1 → c'.mem a = asked.mem a) ∧
      ∀ r, r ∉ scratches → c'.reg r = asked.reg r :=
  usbCrc16Append_completes asked
    (show ∀ i < 10, 32 ≤ (0x61#16 + BitVec.ofNat 16 i).toNat by decide) 0 []

/-- A data packet of at most eight bytes that arrives with up to three wrong bits, with any odd
number of them, or with wrong bits only among sixteen in a row, is never accepted. -/
theorem damaged_not_accepted (payload : List Byte) (hlen : payload.length ≤ 8) (es : List Bool)
    (hes : es.length = 8 * (payload.length + 2))
    (herr : es.count true = 2 ∨ odd es = true ∨
      ∃ i j burst, es = List.replicate i false ++ burst ++ List.replicate j false ∧
        burst.length ≤ 16 ∧ true ∈ burst) :
    ¬Accepted (List.zipWith (· ^^ ·) ((payload ++ bytesOf (crc16 payload)).flatMap bits) es) := by
  have hpoly : (0xa001#16 : BitVec 16).msb = true := by decide
  have hperiod : ∀ d < 80, (shift 0xa001#16)^[d + 1] 1#16 ≠ 1#16 := by decide +kernel
  have hdetects : Detects 0xa001#16 es := by
    obtain htwo | hodd | ⟨i, j, burst, rfl, hburst, hone⟩ := herr
    · exact detects_two hpoly htwo fun d hd => hperiod d (by omega)
    · exact detects_odd (by decide) (by decide) hodd
    · exact detects_burst hpoly i j hburst hone
  have hsize : ((payload ++ bytesOf (crc16 payload)).flatMap bits).length = es.length := by
    have hbits : ∀ bs : List Byte, (bs.flatMap bits).length = 8 * bs.length := by
      intro bs
      induction bs with
      | nil => rfl
      | cons b bs ih =>
        rw [List.flatMap_cons, List.length_append, length_bits, ih, List.length_cons]
        omega
    rw [hes, hbits, List.length_append]
    rfl
  intro hbad
  exact hdetects.remainder_ne _ _ hsize (hbad.trans (accepted_append payload).symm)

/-- The answer of one byte to a request: two bits of the byte are wrong. -/
theorem damaged_byte_packet :
    ¬Accepted (List.zipWith (· ^^ ·) (([0x12] ++ bytesOf (crc16 [0x12])).flatMap bits)
      (true :: List.replicate 6 false ++ true :: List.replicate 16 false)) :=
  damaged_not_accepted [0x12] (by decide)
    (true :: List.replicate 6 false ++ true :: List.replicate 16 false) (by decide)
    (.inl (by decide))

end Append
end SomethingsWrong.Crc16
