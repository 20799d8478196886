import SomethingsWrong.Base.Transcript
import SomethingsWrong.Controller.DescriptorString

/-! Decoding undoes the encoding of a string descriptor, whatever part of it arrives and
however short the caller's array is. The decoding is given a second time, access by access,
to bound what it reads and writes. -/
namespace SomethingsWrong.Controller
open Program Prog

/-- An access to the transfer buffer, or to the array of the caller. -/
inductive Access where
  | read (i : Nat)
  | write (j : Nat) (b : UInt8)

abbrev Access.Answer : Access → Type
  | .read _ => UInt8
  | .write _ _ => Unit

abbrev AccessM := @Prog Access Access.Answer Empty

def readBuffer (i : Nat) : AccessM UInt8 := perform (Access.read i)

def writeBuf (j : Nat) (b : UInt8) : AccessM Unit := perform (Access.write j b)

/-- The body of the decoding loop. -/
def copyUnit (i : Nat) : AccessM Unit := do
  if (← readBuffer (2 * i + 1)) = 0 then
    writeBuf (i - 1) (← readBuffer (2 * i))
  else
    writeBuf (i - 1) 63

/-- The decoding loop from index `i` on, with `n` indices left below `buflen`; it returns
the index at which it stops. -/
def copyUnits (rval : Nat) : Nat → Nat → AccessM Nat
  | i, 0 => pure i
  | i, n + 1 => do
    if i < rval then
      copyUnit i
      copyUnits rval (i + 1) n
    else
      pure i

/-- The smaller of the received count and the length byte, which is read again to store it. -/
def answerLength (count : Int) : AccessM Int := do
  if ((← readBuffer 0).toNat : Int) < count then
    pure ((← readBuffer 0).toNat : Int)
  else
    pure count

/-- `usbGetDescriptorString` after the transfer. -/
def storeAccesses (count : Int) (buflen : Nat) : AccessM Int := do
  if count < 0 then
    pure count
  else
    let rval ← answerLength count
    if (← readBuffer 1) ≠ usbDtString then
      pure 0
    else
      let i ← copyUnits (rval / 2).toNat 1 (buflen - 1)
      writeBuf (i - 1) 0
      pure (i - 1 : Nat)

/-- The two arrays, of which the transfer buffer is only read. -/
def access (buffer buf : Memory) : (a : Access) → a.Answer × Memory
  | .read i => (buffer i, buf)
  | .write j b => ((), buf.set j b)

/-- Reads stay within the received bytes, writes below the terminator or at it. -/
def InBounds (received stored : Nat) : Access → Prop
  | .read i => i < received
  | .write j _ => j ≤ stored

section Accesses
variable (buffer buf : Memory)

theorem exec_readBuffer (i : Nat) :
    exec (access buffer) (readBuffer i) buf = (.ok (buffer i), buf) := rfl

theorem exec_copyUnit (i : Nat) : exec (access buffer) (copyUnit i) buf =
    (.ok (), buf.set (i - 1) (latin1 (buffer (2 * i)) (buffer (2 * i + 1)))) := by
  unfold copyUnit latin1
  rw [exec_bind]
  by_cases hhigh : buffer (2 * i + 1) = 0
  · simp [readBuffer, writeBuf, access, hhigh, exec_bind]
  · simp [readBuffer, writeBuf, access, hhigh]

theorem exec_copyUnits (rval i n : Nat) : exec (access buffer) (copyUnits rval i n) buf =
    (.ok (i + min (rval - i) n), copyLoop buffer i (min (rval - i) n) buf) := by
  induction n generalizing i buf with
  | zero => simp [copyUnits, copyLoop]
  | succ n ih =>
    by_cases hi : i < rval
    · have hcount : min (rval - i) (n + 1) = min (rval - (i + 1)) n + 1 := by omega
      simp only [copyUnits, hi, ↓reduceIte, exec_bind, exec_copyUnit, ih, hcount, copyLoop]
      congr 2
      omega
    · have hcount : min (rval - i) (n + 1) = 0 := by omega
      simp [copyUnits, hi, hcount, copyLoop]

theorem exec_answerLength (count : Int) : exec (access buffer) (answerLength count) buf =
    (.ok (if (buffer 0).toNat < count then ((buffer 0).toNat : Int) else count), buf) := by
  unfold answerLength
  rw [exec_bind]
  by_cases hlt : ((buffer 0).toNat : Int) < count
  · simp [readBuffer, access, hlt, Except.map]
  · simp [readBuffer, access, hlt]

/-- Access by access the decoding is `storeString`. -/
theorem exec_storeAccesses (reply : Reply) (buflen : Nat) :
    exec (access reply.bytes) (storeAccesses reply.count buflen) buf =
      (.ok (storeString reply buf buflen).1, (storeString reply buf buflen).2) := by
  unfold storeAccesses storeString
  by_cases hneg : reply.count < 0
  · simp [hneg]
  · by_cases htype : reply.bytes 1 = usbDtString
    · have hcount (n : Nat) : min (n - 1) (buflen - 1) = min n buflen - 1 := by omega
      simp [hneg, htype, exec_bind, exec_answerLength, exec_copyUnits, readBuffer, writeBuf, access,
        hcount, Except.map]
    · simp [hneg, htype, exec_bind, exec_answerLength, readBuffer, access]

end Accesses

section Bounds
variable {received stored : Nat}

theorem within_readBuffer {i : Nat} (h : i < received) :
    Within (InBounds received stored) (readBuffer i) :=
  within_perform h

theorem within_writeBuf {j : Nat} (h : j ≤ stored) (b : UInt8) :
    Within (InBounds received stored) (writeBuf j b) :=
  within_perform h

theorem within_copyUnit {i : Nat} (hread : 2 * i + 1 < received) (hwrite : i - 1 ≤ stored) :
    Within (InBounds received stored) (copyUnit i) := by
  apply Within.bind (within_readBuffer hread)
  intro high
  split
  · exact .bind (within_readBuffer (Nat.lt_of_succ_lt hread)) (within_writeBuf hwrite)
  · exact within_writeBuf hwrite 63

/-- However the loop is entered, its last index bounds what it reads and writes. -/
theorem within_copyUnits {rval : Nat} (hread : 2 * rval ≤ received) {i n : Nat}
    (hwrite : i + min (rval - i) n ≤ stored + 1) :
    Within (InBounds received stored) (copyUnits rval i n) := by
  induction n generalizing i with
  | zero => exact within_pure i
  | succ n ih =>
    unfold copyUnits
    by_cases hi : i < rval
    · rw [if_pos hi]
      apply Within.bind (within_copyUnit (by omega) (by omega))
      intro _
      exact ih (by omega)
    · rw [if_neg hi]
      exact within_pure i

/-- The decoding of an answer that begins with the type byte reads what was received, and
writes up to the terminator. -/
theorem storeAccesses_inBounds {reply : Reply} (h : reply.Stored) (hcount : 2 ≤ reply.count)
    (buf : Memory) (buflen : Nat) :
    Obeys (access reply.bytes) (InBounds reply.count.toNat (reply.stored buflen))
      (storeAccesses reply.count buflen) buf := by
  have hlength : Within (InBounds reply.count.toNat (reply.stored buflen))
      (answerLength reply.count) := by
    apply Within.bind (within_readBuffer (by omega))
    intro length
    split
    · exact .bind (within_readBuffer (by omega)) fun _ => within_pure _
    · exact within_pure _
  have hrval : ((if ((reply.bytes 0).toNat : Int) < reply.count then ((reply.bytes 0).toNat : Int)
      else reply.count) / 2).toNat = min (reply.bytes 0).toNat reply.count.toNat / 2 := by
    split <;> omega
  have hstored : 1 + min (min (reply.bytes 0).toNat reply.count.toNat / 2 - 1) (buflen - 1) =
      reply.stored buflen + 1 := by
    unfold Reply.stored
    omega
  have hloop : Within (InBounds reply.count.toNat (reply.stored buflen)) (copyUnits
      (min (reply.bytes 0).toNat reply.count.toNat / 2) 1 (buflen - 1)) :=
    within_copyUnits (by omega) (by omega)
  unfold storeAccesses
  rw [if_neg (Int.not_lt.mpr h.1)]
  apply Obeys.bind _ (hlength.obeys _ buf) (exec_answerLength reply.bytes buf reply.count)
  apply Obeys.bind _ ((within_readBuffer (by omega)).obeys _ buf) (exec_readBuffer reply.bytes buf 1)
  rw [if_neg (not_not_intro h.2), hrval]
  apply Obeys.bind _ (hloop.obeys _ buf) (exec_copyUnits reply.bytes buf _ _ _)
  rw [hstored]
  exact (Within.bind (within_writeBuf (Nat.le_refl _) 0) fun _ => within_pure _).obeys _ _

end Bounds

/-- One UTF-16 code unit, low byte first. -/
def encodeUnit (c : UInt16) : List UInt8 := [c.toUInt8, (c >>> 8).toUInt8]

/-- The string descriptor of these units: its length, its type, the units. -/
def stringDescriptor (u : List UInt16) : List UInt8 :=
  (2 + 2 * u.length).toUInt8 :: usbDtString :: u.flatMap encodeUnit

/-- A unit as one byte, which a unit beyond Latin-1 does not have. -/
def toLatin1 (c : UInt16) : UInt8 := if c < 256 then c.toUInt8 else 63

/-- The transfer returns some bytes that begin as the descriptor does, as far as both go. -/
structure Transfers (u : List UInt16) (reply : Reply) : Prop where
  least : 2 ≤ reply.count
  most : reply.count ≤ 256
  agrees : ∀ (i : Nat) (b : UInt8), i < reply.count → (stringDescriptor u)[i]? = some b →
    reply.bytes i = b

/-- The characters that `k` received bytes of a descriptor of `n` units put into an array of
this length. -/
def decodedLength (k n buflen : Nat) : Nat := min (min k (2 + 2 * n) / 2) buflen - 1

section DecodedLength
variable {k n buflen : Nat}

theorem decodedLength_le : decodedLength k n buflen ≤ n := by
  rw [decodedLength]
  omega

theorem decodedLength_lt (hpos : 1 ≤ buflen) : decodedLength k n buflen < buflen := by
  rw [decodedLength]
  omega

/-- The units that count have arrived with both bytes. -/
theorem arrived_of_lt {j : Nat} (h : j < decodedLength k n buflen) : 2 * j + 3 < k := by
  rw [decodedLength] at h
  omega

theorem decodedLength_whole (hk : 2 + 2 * n ≤ k) (hn : n < buflen) : decodedLength k n buflen = n := by
  rw [decodedLength]
  omega

end DecodedLength

/-- What the array holds afterwards, `buf` being what it held before. -/
structure Decoded (u : List UInt16) (r : Nat) (buf buf' : Memory) : Prop where
  text : (List.range r).map buf' = (u.take r).map toLatin1
  terminated : buf' r = 0
  untouched : ∀ j, r < j → buf' j = buf j

theorem latin1_unit (c : UInt16) : latin1 c.toUInt8 (c >>> 8).toUInt8 = toLatin1 c := by
  have hhigh : (c >>> 8).toUInt8 = 0 ↔ c < 256 := by
    have hbound := c.toNat_lt
    rw [← UInt8.toNat_inj, UInt16.lt_iff_toNat_lt]
    simp [Nat.shiftRight_eq_div_pow]
    omega
  unfold latin1 toLatin1
  by_cases hc : c < 256
  · rw [if_pos (hhigh.mpr hc), if_pos hc]
  · rw [if_neg (fun h => hc (hhigh.mp h)), if_neg hc]

theorem flatMap_encodeUnit (u : List UInt16) (j : Nat) :
    (u.flatMap encodeUnit)[2 * j]? = u[j]?.map UInt16.toUInt8 ∧
      (u.flatMap encodeUnit)[2 * j + 1]? = u[j]?.map fun c : UInt16 => (c >>> 8).toUInt8 := by
  induction u generalizing j with
  | nil => simp
  | cons c u ih =>
    cases j with
    | zero => simp [encodeUnit]
    | succ j =>
      have hrest := ih j
      simp only [List.flatMap_cons, encodeUnit, List.cons_append, List.nil_append, Nat.mul_succ,
        List.getElem?_cons_succ]
      exact hrest

variable {u : List UInt16} {reply : Reply}

theorem Transfers.length (h : Transfers u reply) (hn : u.length ≤ 126) :
    (reply.bytes 0).toNat = 2 + 2 * u.length := by
  have hleast := h.least
  rw [h.agrees 0 _ (by omega) rfl]
  simp
  omega

theorem Transfers.stored (h : Transfers u reply) : reply.Stored := by
  have hleast := h.least
  exact ⟨by omega, h.agrees 1 _ (by omega) rfl⟩

/-- A unit that has arrived whole. -/
theorem Transfers.unit (h : Transfers u reply) {j : Nat} {c : UInt16} (hc : u[j]? = some c)
    (hj : ((2 * j + 3 : Nat) : Int) < reply.count) :
    latin1 (reply.bytes (2 * j + 2)) (reply.bytes (2 * j + 3)) = toLatin1 c := by
  obtain ⟨hlow, hhigh⟩ := flatMap_encodeUnit u j
  rw [hc] at hlow hhigh
  rw [h.agrees (2 * j + 2) _ (by omega) hlow, h.agrees (2 * j + 3) _ hj hhigh, latin1_unit]

theorem Transfers.decodedLength (h : Transfers u reply) (hn : u.length ≤ 126) (buflen : Nat) :
    reply.stored buflen = decodedLength reply.count.toNat u.length buflen := by
  unfold Reply.stored Controller.decodedLength
  rw [h.length hn, Nat.min_comm (2 + 2 * u.length)]

/-- What is stored of a transfer. -/
theorem Transfers.decoded (h : Transfers u reply) (hn : u.length ≤ 126) (buf : Memory)
    (buflen : Nat) : Decoded u (Controller.decodedLength reply.count.toNat u.length buflen) buf
      (storeString reply buf buflen).2 := by
  have happly := storeString_stored h.stored buf buflen
  rw [h.decodedLength hn] at happly
  refine ⟨?_, by simp [happly], ?_⟩
  · have hfits : Controller.decodedLength reply.count.toNat u.length buflen ≤ u.length :=
      decodedLength_le
    apply List.ext_getElem
    · simp [hfits]
    · intro j hj _
      have hlt : j < Controller.decodedLength reply.count.toNat u.length buflen := by simpa using hj
      have hc : u[j]? = some u[j] := List.getElem?_eq_getElem (by omega)
      simp only [List.getElem_map, List.getElem_range, List.getElem_take, happly, if_pos hlt]
      have harrived := arrived_of_lt hlt
      exact h.unit hc (by omega)
  · intro j hj
    rw [happly, if_neg (by omega), if_neg (by omega)]

theorem toLatin1_toUInt16 (b : UInt8) : toLatin1 b.toUInt16 = b := by
  have hbound : b.toUInt16 < 256 := by
    rw [UInt16.lt_iff_toNat_lt]
    exact b.toNat_lt
  rw [toLatin1, if_pos hbound, UInt8.toUInt8_toUInt16]

theorem usbGetDescriptorString_stores {ν H σ : Type} (libusb : σ → (op : Op ν H) → op.Answer × σ)
    (dev : H) (index langid : Nat) (buf : Memory) (buflen : Nat) (s : σ) :
    (exec libusb (usbGetDescriptorString dev index langid buf buflen) s).1 =
      .ok (storeString (libusb s (.usbControlMsg dev (getDescriptor index langid))).1 buf buflen) :=
  rfl

/-- Whatever part of a string descriptor arrives, the array holds the units that arrived whole
and fit, as Latin-1, and a NUL; the accesses stay inside what was received and what fits. A
Latin-1 string that arrives and fits is given back. -/
theorem decodes_string_descriptor {ν H σ : Type} (libusb : σ → (op : Op ν H) → op.Answer × σ)
    (dev : H) (index langid : Nat) (s : σ) (hn : u.length ≤ 126)
    (hreply : (libusb s (.usbControlMsg dev (getDescriptor index langid))).1 = reply)
    (h : Transfers u reply) (buf : Memory) {buflen : Nat} (hpos : 1 ≤ buflen) :
    ∃ r buf', r = decodedLength reply.count.toNat u.length buflen ∧
      (exec libusb (usbGetDescriptorString dev index langid buf buflen) s).1 =
        .ok ((r : Int), buf') ∧
      exec (access reply.bytes) (storeAccesses reply.count buflen) buf = (.ok (r : Int), buf') ∧
      Decoded u r buf buf' ∧ r < buflen ∧
      Obeys (access reply.bytes) (InBounds reply.count.toNat r)
        (storeAccesses reply.count buflen) buf ∧
      ∀ name, u = name.map UInt8.toUInt16 → 2 + 2 * u.length ≤ reply.count → u.length < buflen →
        r = name.length ∧ (List.range name.length).map buf' = name := by
  have hstored := h.decodedLength hn buflen
  have hresult : storeString reply buf buflen = ((decodedLength reply.count.toNat u.length buflen : Int),
      (storeString reply buf buflen).2) := by
    rw [storeString_eq h.stored, hstored]
  have hdecoded := h.decoded hn buf buflen
  refine ⟨_, (storeString reply buf buflen).2, rfl, ?_, ?_, hdecoded, ?_, ?_, ?_⟩
  · rw [usbGetDescriptorString_stores, hreply, ← hresult]
  · rw [exec_storeAccesses, hresult]
  · exact decodedLength_lt hpos
  · rw [← hstored]
    exact storeAccesses_inBounds h.stored h.least buf buflen
  · intro name hname hcount hlen
    have hwhole : decodedLength reply.count.toNat u.length buflen = name.length := by
      rw [decodedLength_whole (by omega) hlen, hname, List.length_map]
    refine ⟨hwhole, ?_⟩
    have htext := hdecoded.text
    have htake : u.take name.length = u := by
      rw [hname]
      exact List.take_of_length_le (by simp)
    rw [hwhole, htake, hname, List.map_map] at htext
    rw [htext]
    apply List.map_id''
    exact toLatin1_toUInt16

/-- The units of a name beyond Latin-1, and a bus on which every transfer returns its first
five bytes and noise. -/
def dollarEuro : List UInt16 := [36, 0x20AC]

def fiveBytes : Reply where
  count := 5
  bytes i := if i < 5 then (stringDescriptor dollarEuro).getD i 0 else 255

def noisyBus (_ : Unit) : (op : Op Unit Unit) → op.Answer × Unit
  | .usbInit => ((), ())
  | .usbFindBusses => ((), ())
  | .usbFindDevices => ((), ())
  | .usbGetBusses => ([], ())
  | .usbOpen _ => (none, ())
  | .usbClose _ => ((), ())
  | .usbControlMsg _ _ => (fiveBytes, ())
  | .usbStrerror => ("", ())
  | .fprintf _ _ => ((), ())
  | .uninitialized => (fun _ => 0, ())

theorem decodes_string_descriptor_noisyBus : ∃ buf',
    (exec noisyBus (usbGetDescriptorString () 2 0x0409 (fun _ => 7) 256) ()).1 = .ok (1, buf') ∧
      buf' 0 = 36 ∧ buf' 1 = 0 ∧ ∀ j, 1 < j → buf' j = 7 := by
  have htransfers : Transfers dollarEuro fiveBytes := by
    refine ⟨by decide, by decide, ?_⟩
    intro i b hi hb
    have hlt : i < 5 := by
      have hcount : (i : Int) < 5 := hi
      omega
    simp [fiveBytes, hlt, List.getD_eq_getElem?_getD, hb]
  obtain ⟨r, buf', hr, hrun, -, hdecoded, -⟩ :=
    decodes_string_descriptor noisyBus () 2 0x0409 () (by decide) rfl htransfers (fun _ => 7)
      (show 1 ≤ 256 by decide)
  have hone : r = 1 := hr
  subst hone
  exact ⟨buf', hrun, (List.cons.inj hdecoded.text).1, hdecoded.terminated, hdecoded.untouched⟩

end SomethingsWrong.Controller
