import Mathlib.Logic.Relation
import Mathlib.Data.List.Basic

/-! The part of an eight-bit AVR core that a routine computing on bytes in memory needs: registers,
the flags that branches read, the data memory and the count of clock cycles. A program is its
listing, labels included, and branches name labels as the assembler source does. The return
addresses are kept beside the data memory. -/
namespace Avr

abbrev Byte := BitVec 8
abbrev Reg := Fin 32

scoped instance regs_pos : @NeZero Nat Zero.ofOfNat0 32 := Nat.instNeZeroSucc

/-- The pointer registers. -/
inductive Ptr where
  | x | y | z
  deriving DecidableEq

@[simp] def Ptr.low : Ptr → Reg
  | .x => 26
  | .y => 28
  | .z => 30

@[simp] def Ptr.high : Ptr → Reg
  | .x => 27
  | .y => 29
  | .z => 31

/-- Carry, zero, negative, and the sign of a comparison (negative unless it overflowed). -/
structure Flags where
  carry : Bool
  zero : Bool
  negative : Bool
  sign : Bool

structure Core where
  reg : Reg → Byte
  flags : Flags
  mem : BitVec 16 → Byte
  cycle : Nat

/-- The instructions that do not jump. `ld` and `st` are the ones with post-increment. -/
inductive Op where
  | mov (d r : Reg)
  | ldi (d : Reg) (k : Byte)
  | eor (d r : Reg)
  | andi (d : Reg) (k : Byte)
  | com (d : Reg)
  | neg (d : Reg)
  | inc (d : Reg)
  | swap (d : Reg)
  | lsr (d : Reg)
  | ror (d : Reg)
  | subi (d : Reg) (k : Byte)
  | ld (d : Reg) (p : Ptr)
  | st (p : Ptr) (r : Reg)
  deriving DecidableEq

/-- An alias of the assembler. -/
def Op.clr (d : Reg) : Op := .eor d d

namespace Core

def set (c : Core) (d : Reg) (v : Byte) : Core :=
  { c with reg := fun r => if r = d then v else c.reg r }

def tick (c : Core) (n : Nat) : Core := { c with cycle := c.cycle + n }

/-- The address in a pointer register. -/
def addr (c : Core) (p : Ptr) : BitVec 16 := c.reg p.high ++ c.reg p.low

def setAddr (c : Core) (p : Ptr) (a : BitVec 16) : Core :=
  (c.set p.low (a.setWidth 8)).set p.high ((a >>> 8).setWidth 8)

def store (c : Core) (a : BitVec 16) (v : Byte) : Core :=
  { c with mem := fun b => if b = a then v else c.mem b }

/-- The first addresses of the data space are the registers. -/
def load (c : Core) (a : BitVec 16) : Byte :=
  if h : a.toNat < 32 then c.reg ⟨a.toNat, h⟩ else c.mem a

def write (c : Core) (a : BitVec 16) (v : Byte) : Core :=
  if h : a.toNat < 32 then c.set ⟨a.toNat, h⟩ v else c.store a v

/-- A result of which zero and the sign are tested. -/
def logic (c : Core) (d : Reg) (v : Byte) (carry : Bool) : Core :=
  { c.set d v with flags := ⟨carry, v == 0, v.msb, v.msb⟩ }

/-- A shift to the right. -/
def shifted (c : Core) (d : Reg) (v : Byte) (out : Bool) : Core :=
  { c.set d v with flags := ⟨out, v == 0, v.msb, out⟩ }

/-- The flags of `a - b`. -/
def compare (c : Core) (a b : Byte) : Core :=
  { c with flags := ⟨a.ult b, a == b, (a - b).msb, a.slt b⟩ }

end Core

/-- What an instruction does besides going on to the next one. -/
def Op.apply : Op → Core → Core
  | mov d r, c => (c.set d (c.reg r)).tick 1
  | ldi d k, c => (c.set d k).tick 1
  | eor d r, c => (c.logic d (c.reg d ^^^ c.reg r) c.flags.carry).tick 1
  | andi d k, c => (c.logic d (c.reg d &&& k) c.flags.carry).tick 1
  | com d, c => (c.logic d (~~~c.reg d) true).tick 1
  | neg d, c => ((c.compare 0 (c.reg d)).set d (-c.reg d)).tick 1
  | inc d, c =>
    let v := c.reg d + 1
    let overflow := v == 0x80
    { c.set d v with flags := ⟨c.flags.carry, v == 0, v.msb, v.msb ^^ overflow⟩ }.tick 1
  | swap d, c => (c.set d ((c.reg d).rotateLeft 4)).tick 1
  | lsr d, c => (c.shifted d (c.reg d >>> 1) ((c.reg d).getLsbD 0)).tick 1
  | ror d, c =>
    (c.shifted d ((BitVec.cons c.flags.carry (c.reg d) >>> 1).setWidth 8)
      ((c.reg d).getLsbD 0)).tick 1
  | subi d k, c => ((c.compare (c.reg d) k).set d (c.reg d - k)).tick 1
  | ld d p, c => ((c.set d (c.load (c.addr p))).setAddr p (c.addr p + 1)).tick 2
  | st p r, c => ((c.write (c.addr p) (c.reg r)).setAddr p (c.addr p + 1)).tick 2

/-- What a conditional branch asks for. -/
inductive Test where
  | carry (b : Bool)
  | zero (b : Bool)
  | negative (b : Bool)
  | sign (b : Bool)
  deriving DecidableEq

def Test.holds : Test → Flags → Bool
  | carry b, f => f.carry == b
  | zero b, f => f.zero == b
  | negative b, f => f.negative == b
  | sign b, f => f.sign == b

/-- A line of the listing. -/
inductive Line (L : Type) where
  | label (l : L)
  | op (o : Op)
  | rjmp (l : L)
  | branch (t : Test) (l : L)
  | rcall (l : L)
  | ret
  deriving DecidableEq

structure Machine where
  core : Core
  pc : Nat
  stack : List Nat

variable {L : Type} [DecidableEq L]

/-- The line that a label stands on. -/
def target (code : List (Line L)) (l : L) : Nat := code.idxOf (.label l)

/-- One line of the listing. A return with no address on the stack stops the machine. -/
def exec (code : List (Line L)) (m : Machine) : Line L → Option Machine
  | .label _ => some ⟨m.core, m.pc + 1, m.stack⟩
  | .op o => some ⟨o.apply m.core, m.pc + 1, m.stack⟩
  | .rjmp l => some ⟨m.core.tick 2, target code l, m.stack⟩
  | .branch t l =>
    if t.holds m.core.flags then some ⟨m.core.tick 2, target code l, m.stack⟩
    else some ⟨m.core.tick 1, m.pc + 1, m.stack⟩
  | .rcall l => some ⟨m.core.tick 3, target code l, (m.pc + 1) :: m.stack⟩
  | .ret =>
    match m.stack with
    | [] => none
    | a :: rest => some ⟨m.core.tick 4, a, rest⟩

def step (code : List (Line L)) (m : Machine) : Option Machine :=
  (code[m.pc]?).bind (exec code m)

theorem step_eq {code : List (Line L)} {m : Machine} {line : Line L}
    (h : code[m.pc]? = some line) : step code m = exec code m line := by
  rw [step, h, Option.bind_some]

/-- The machine gets from the first state to the second. -/
def Reaches (code : List (Line L)) : Machine → Machine → Prop :=
  Relation.ReflTransGen fun m m' => step code m = some m'

/-- The instructions of a stretch without jumps. -/
def applyAll (os : List Op) (c : Core) : Core := os.foldl (fun c o => o.apply c) c

namespace Reaches
variable {code : List (Line L)} {m m' m'' : Machine}

theorem refl (m : Machine) : Reaches code m m := Relation.ReflTransGen.refl

theorem trans (h : Reaches code m m') (h' : Reaches code m' m'') : Reaches code m m'' :=
  Relation.ReflTransGen.trans h h'

theorem step (h : Avr.step code m = some m') : Reaches code m m' := .single h

theorem head (h : Avr.step code m = some m') (h' : Reaches code m' m'') : Reaches code m m'' :=
  Relation.ReflTransGen.head h h'

/-- A branch that is taken. -/
theorem taken {t : Test} {l : L} {c : Core} {pc line : Nat} {stack : List Nat}
    (h : code[pc]? = some (.branch t l)) (hl : target code l = line)
    (ht : t.holds c.flags = true) : Reaches code ⟨c, pc, stack⟩ ⟨c.tick 2, line, stack⟩ := by
  apply step
  rw [step_eq (m := ⟨c, pc, stack⟩) h, exec, if_pos ht, hl]

/-- A branch that is not taken. -/
theorem passed {t : Test} {l : L} {c : Core} {pc : Nat} {stack : List Nat}
    (h : code[pc]? = some (.branch t l)) (ht : t.holds c.flags = false) :
    Reaches code ⟨c, pc, stack⟩ ⟨c.tick 1, pc + 1, stack⟩ := by
  apply step
  rw [step_eq (m := ⟨c, pc, stack⟩) h, exec, if_neg (Bool.eq_false_iff.mp ht)]

/-- A stretch without jumps. -/
theorem block {c : Core} {pc : Nat} {stack : List Nat} (os : List Op)
    (h : (code.drop pc).take os.length = os.map .op) :
    Reaches code ⟨c, pc, stack⟩ ⟨applyAll os c, pc + os.length, stack⟩ := by
  induction os generalizing c pc with
  | nil => exact refl _
  | cons o os ih =>
    cases hcode : code.drop pc with
    | nil => simp [hcode] at h
    | cons line rest =>
      rw [hcode, List.length_cons, List.take_succ_cons, List.map_cons] at h
      obtain ⟨hline, hrest⟩ := List.cons.inj h
      have hget : code[pc]? = some line := by
        rw [← List.head?_drop, hcode, List.head?_cons]
      have hdrop : code.drop (pc + 1) = rest := by
        rw [← List.drop_drop, hcode, List.drop_one, List.tail_cons]
      have hstep : Avr.step code ⟨c, pc, stack⟩ = some ⟨o.apply c, pc + 1, stack⟩ := by
        rw [step_eq hget, hline]
        rfl
      have htail := @ih (o.apply c) (pc + 1) (by rw [hdrop, hrest])
      have hpc : pc + 1 + os.length = pc + (os.length + 1) := by omega
      rw [hpc] at htail
      exact head hstep htail

end Reaches

/-! What the instructions leave in a register, the flags and the memory. -/
namespace Core
variable (c : Core) (d r : Reg) (v w : Byte) (b : Bool) (n : Nat) (p : Ptr) (a : BitVec 16)

@[simp] theorem reg_set : (c.set d v).reg r = if r = d then v else c.reg r := rfl
@[simp] theorem flags_set : (c.set d v).flags = c.flags := rfl
@[simp] theorem mem_set : (c.set d v).mem = c.mem := rfl
@[simp] theorem reg_tick : (c.tick n).reg = c.reg := rfl
@[simp] theorem flags_tick : (c.tick n).flags = c.flags := rfl
@[simp] theorem mem_tick : (c.tick n).mem = c.mem := rfl
@[simp] theorem reg_logic : (c.logic d v b).reg r = if r = d then v else c.reg r := rfl
@[simp] theorem flags_logic : (c.logic d v b).flags = ⟨b, v == 0, v.msb, v.msb⟩ := rfl
@[simp] theorem mem_logic : (c.logic d v b).mem = c.mem := rfl
@[simp] theorem reg_shifted : (c.shifted d v b).reg r = if r = d then v else c.reg r := rfl
@[simp] theorem flags_shifted : (c.shifted d v b).flags = ⟨b, v == 0, v.msb, b⟩ := rfl
@[simp] theorem mem_shifted : (c.shifted d v b).mem = c.mem := rfl
@[simp] theorem reg_compare : (c.compare v w).reg = c.reg := rfl
@[simp] theorem flags_compare :
    (c.compare v w).flags = ⟨v.ult w, v == w, (v - w).msb, v.slt w⟩ := rfl
@[simp] theorem mem_compare : (c.compare v w).mem = c.mem := rfl
@[simp] theorem reg_store : (c.store a v).reg = c.reg := rfl
@[simp] theorem flags_store : (c.store a v).flags = c.flags := rfl
@[simp] theorem mem_store (a' : BitVec 16) :
    (c.store a v).mem a' = if a' = a then v else c.mem a' := rfl
@[simp] theorem flags_setAddr : (c.setAddr p a).flags = c.flags := rfl
@[simp] theorem mem_setAddr : (c.setAddr p a).mem = c.mem := rfl

@[simp] theorem reg_setAddr : (c.setAddr p a).reg r =
    if r = p.high then (a >>> 8).setWidth 8 else if r = p.low then a.setWidth 8 else c.reg r := rfl

theorem load_ram {a : BitVec 16} (h : 32 ≤ a.toNat) : c.load a = c.mem a :=
  dif_neg (Nat.not_lt.mpr h)

theorem write_ram {a : BitVec 16} (h : 32 ≤ a.toNat) (v : Byte) : c.write a v = c.store a v :=
  dif_neg (Nat.not_lt.mpr h)

/-- So many cells from an address on, none of which is a register. The input and output registers
behind these are not kept out: that the cells are plain memory, and lie apart from the stack, is for
the caller to see to. -/
def InRam (a : BitVec 16) (n : Nat) : Prop := ∀ i < n, 32 ≤ (a + BitVec.ofNat 16 i).toNat

theorem InRam.tail {a : BitVec 16} {n : Nat} (h : InRam a (n + 1)) : InRam (a + 1) n := by
  intro i hi
  have hnext := h (i + 1) (Nat.succ_lt_succ hi)
  rwa [Nat.add_comm, BitVec.ofNat_add, ← BitVec.add_assoc] at hnext

@[simp] theorem addr_tick : (c.tick n).addr p = c.addr p := rfl

theorem append_extract (a : BitVec 16) :
    ((a >>> 8).setWidth 8 ++ a.setWidth 8 : BitVec 16) = a := by
  apply BitVec.eq_of_getLsbD_eq
  intro i hi
  rw [BitVec.getLsbD_append]
  by_cases hlt : i < 8
  · simp [hlt]
  · have hi' : i - 8 < 8 := by omega
    have hsum : 8 + (i - 8) = i := by omega
    simp [hlt, hi', hsum]

@[simp] theorem addr_setAddr : (c.setAddr p a).addr p = a := by
  cases p <;> simp [addr, append_extract]

theorem addr_congr {c d : Core} (hlow : c.reg p.low = d.reg p.low)
    (hhigh : c.reg p.high = d.reg p.high) : c.addr p = d.addr p := by
  rw [addr, addr, hlow, hhigh]

end Core
end Avr
