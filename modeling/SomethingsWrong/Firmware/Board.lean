import SomethingsWrong.Firmware.ControlTransfer
import SomethingsWrong.Firmware.Lamp

/-! The board: the firmware of the lamp in its main loop, behind the driver. -/
namespace SomethingsWrong.Firmware
open UsbDriver LabelledRun Program Interleaving

/-- The variables as `main` finds them, with the register `PORTB` as it is set up. -/
def board (portB : UInt8) : Device UInt8 where
  driver := poweredUp
  user := portB
  usbMsgPos := 0
  usbRxBuf := fun _ => Vector.replicate usbBufsize 0
  usbInputBufOffset := .first
  usbDeviceAddr := 0
  usbCurrentTok := 0
  usbRxToken := 0
  usbRxLen := 0

theorem board_isIdle (portB : UInt8) : (board portB).IsIdle := ⟨rfl, rfl, rfl⟩

theorem usbFunctionSetup_reply (data : Vector UInt8 8) (portB : UInt8) :
    (usbFunctionSetup data portB).1 = 0 := by
  unfold usbFunctionSetup
  dsimp only
  split_ifs <;> rfl

/-- What a packet asks of the lamp. -/
def commanded (p : Packet) : Option Bool :=
  if p.token = usbPidSetup ∧ p.len = 8 ∧
      p.request.bmRequestType &&& usbRqTypeMask ≠ usbRqTypeStandard then
    if p.request.bRequest = usbPb0On then some true
    else if p.request.bRequest = usbPb0Off then some false
    else none
  else none

theorem usbProcessRx_commanded (p : Packet) (s : State UInt8) {i : Nat} (hi : i < 8) :
    bit (usbProcessRx usbFunctionSetup p s).user i =
      if i = 0 then (commanded p).getD (bit s.user 0) else bit s.user i := by
  by_cases hp : p.IsCustom
  · have hcommand : commanded p =
        if p.request.bRequest = usbPb0On then some true
        else if p.request.bRequest = usbPb0Off then some false else none :=
      if_pos ⟨hp.1.1, hp.1.2, hp.2⟩
    have hport : (usbFunctionSetup p.data s.user).2 =
        if p.request.bRequest = usbPb0On then s.user ||| 1
        else if p.request.bRequest = usbPb0Off then s.user &&& ~~~1 else s.user := by
      unfold usbFunctionSetup
      dsimp only
      rw [apply_ite Prod.snd, apply_ite Prod.snd]
      rfl
    rw [usbProcessRx_of_custom hp, hcommand, hport]
    by_cases hon : p.request.bRequest = usbPb0On
    · rw [if_pos hon, if_pos hon, bit_on]
      by_cases hzero : i = 0 <;> simp [hzero]
    · rw [if_neg hon, if_neg hon]
      by_cases hoff : p.request.bRequest = usbPb0Off
      · rw [if_pos hoff, if_pos hoff, bit_off hi]
        by_cases hzero : i = 0 <;> simp [hzero]
      · rw [if_neg hoff, if_neg hoff]
        by_cases hzero : i = 0 <;> simp [hzero]
  · have hcommand : commanded p = none := if_neg fun h => hp ⟨⟨h.1, h.2.1⟩, h.2.2⟩
    rw [usbProcessRx_of_not_custom hp, hcommand]
    by_cases hzero : i = 0 <;> simp [hzero]

/-- The last thing that these packets ask of the lamp. -/
def lastCommanded (ps : List Packet) : Option Bool := (ps.filterMap commanded).getLast?

theorem receive_bit (ps : List Packet) (s : State UInt8) {i : Nat} (hi : i < 8) :
    bit (receive usbFunctionSetup ps s).user i =
      if i = 0 then (lastCommanded ps).getD (bit s.user 0) else bit s.user i := by
  induction ps generalizing s with
  | nil => by_cases hzero : i = 0 <;> simp [receive, lastCommanded, hzero]
  | cons p ps ih =>
    have hrest := ih (usbProcessRx usbFunctionSetup p s)
    have hlamp := usbProcessRx_commanded p s (show 0 < 8 by decide)
    have hbit := usbProcessRx_commanded p s hi
    have hcons : receive usbFunctionSetup (p :: ps) s =
        receive usbFunctionSetup ps (usbProcessRx usbFunctionSetup p s) := rfl
    rw [hcons, hrest]
    by_cases hzero : i = 0
    · rw [if_pos hzero, if_pos hzero, hlamp, if_pos rfl]
      unfold lastCommanded
      cases hc : commanded p with
      | none => simp [hc]
      | some on =>
        rw [List.filterMap_cons_some hc, List.getLast?_cons, Option.getD_some, Option.getD_some]
    · rw [if_neg hzero, if_neg hzero, hbit, if_neg hzero]

theorem shows_of_free {portB : UInt8} {b : Bus UInt8}
    (h : Steady usbFunctionSetup (board portB).toState b) (hfree : b.device.usbRxLen = 0) {i : Nat}
    (hi : i < 8) : bit b.device.user i =
      if i = 0 then (lastCommanded (stored b.log)).getD (bit portB 0) else bit portB i := by
  obtain ⟨ps, hps, huser, -⟩ := h.processed
  rw [if_pos hfree, List.append_nil] at hps
  rw [hps, huser, receive_bit ps _ hi]
  rfl

/-- The lamp on the bus: between two rounds, and with nothing waiting, it shows the last command
that the device has acknowledged, whatever else has been on the bus and wherever the interrupt
routine came in. The other pins are as they were. -/
theorem lamp_shows_acknowledged (portB : UInt8) {c : Config (bus UInt8) Empty}
    (h : UsbDriver.Reaches usbFunctionSetup (board portB) c) (hbetween : c.prog = none)
    (hfree : c.state.device.usbRxLen = 0) {i : Nat} (hi : i < 8) :
    bit c.state.device.user i =
      if i = 0 then (lastCommanded (stored c.state.log)).getD (bit portB 0) else bit portB i :=
  shows_of_free (h.steady usbFunctionSetup_reply (board_isIdle portB) hbetween) hfree hi

/-- The lamp goes on with the vendor request for it, in the round after its acknowledgement. -/
theorem lamp_shows_acknowledged_on :
    bit (Device.poll usbFunctionSetup ((board 2).request [usbPidSetup, 0, 0x10]
        [usbPidData0, 0xc0, 1, 0, 0, 0, 0, 0, 0, 0, 0]).2).user 0 =
      (lastCommanded [⟨usbPidSetup, #v[0xc0, 1, 0, 0, 0, 0, 0, 0], 8⟩]).getD (bit 2 0) := by
  have hstart : UsbDriver.Reaches usbFunctionSetup (board 2) ⟨none, ⟨board 2, []⟩⟩ := Leads.refl _
  have hrun := ((hstart.interrupted [usbPidSetup, 0, 0x10]).interrupted
    [usbPidData0, 0xc0, 1, 0, 0, 0, 0, 0, 0, 0, 0]).polled
  exact lamp_shows_acknowledged 2 hrun rfl (show (Device.poll usbFunctionSetup ((board 2).request
    [usbPidSetup, 0, 0x10] [usbPidData0, 0xc0, 1, 0, 0, 0, 0, 0, 0, 0, 0]).2).usbRxLen = 0 by
      decide +kernel) (i := 0) (by decide)

section Status

/-- `GET_STATUS` on the wire: the token and the request, then the token that asks for data. -/
def statusToken : List UInt8 := [usbPidSetup, 0, 0x10]

def statusRequest : Vector UInt8 8 := getStatus.data

def statusAnswer (portB : UInt8) : Answer × Device UInt8 :=
  interrupt [usbPidIn, 0, 0x10] (Device.poll usbFunctionSetup
    ((board portB).request statusToken (usbPidData0 :: statusRequest.toList ++ [0, 0])).2)

theorem status_reaches (portB : UInt8) :
    UsbDriver.Reaches usbFunctionSetup (board portB) ⟨none, ⟨(statusAnswer portB).2,
      [.silence] ++ .stored ⟨usbPidSetup, statusRequest, 8⟩ ::
        ([(statusAnswer portB).1] ++ [])⟩⟩ := by
  have hstart : UsbDriver.Reaches usbFunctionSetup (board portB) ⟨none, ⟨board portB, []⟩⟩ :=
    Leads.refl _
  have haddress : (0 : UInt8) <<< 1 = (board portB).usbDeviceAddr := rfl
  obtain ⟨htoken, hstored⟩ := request_stored haddress rfl 0x10 statusRequest 0 0
  have hrun := ((hstart.interrupted statusToken).interrupted
    (usbPidData0 :: statusRequest.toList ++ [0, 0])).polled.interrupted [usbPidIn, 0, 0x10]
  rw [show (interrupt statusToken (board portB)).1 = _ from htoken,
    show (interrupt (usbPidData0 :: statusRequest.toList ++ [0, 0])
      (interrupt statusToken (board portB)).2).1 = _ from hstored] at hrun
  exact hrun

theorem sent_is_reply_status : dataSent [(statusAnswer 0).1] <+:
    packets usbPidData1 (Packet.reply ⟨usbPidSetup, statusRequest, 8⟩ (configured [] 0)) :=
  sent_is_reply usbFunctionSetup_reply (board_isIdle 0) (status_reaches 0) rfl ⟨rfl, rfl⟩
    fun q hq => by cases hq

theorem host_reads_reply_status :
    [0, 0] = Packet.reply ⟨usbPidSetup, statusRequest, 8⟩ (configured [] 0) :=
  host_reads_reply usbFunctionSetup_reply (board_isIdle 0) (status_reaches 0) rfl ⟨rfl, rfl⟩
    (fun q hq => by cases hq) (show assemble usbPidData1 (dataSent [(statusAnswer 0).1]) =
      some [0, 0] by decide +kernel)

theorem acknowledged_processed_status :
    ∃ ps, [⟨usbPidSetup, statusRequest, 8⟩] =
        ps ++ (if (statusAnswer 0).2.usbRxLen = 0 then [] else [(statusAnswer 0).2.pending]) ∧
      (statusAnswer 0).2.user = (receive usbFunctionSetup ps (board 0).toState).user ∧
      (statusAnswer 0).2.driver.usbConfiguration = configured ps 0 :=
  acknowledged_processed usbFunctionSetup_reply (board_isIdle 0) (status_reaches 0) rfl

/-- The status is one packet. -/
theorem transfer_completes_status :
    [(statusAnswer 0).1] =
        answersOf (packets usbPidData1 (Packet.reply ⟨usbPidSetup, statusRequest, 8⟩
          (configured [] 0))) 1 ∧
      assemble usbPidData1 (dataSent [(statusAnswer 0).1]) = some [0, 0] := by
  have hstart : UsbDriver.Reaches usbFunctionSetup (board 0) ⟨none, ⟨board 0, []⟩⟩ := Leads.refl _
  have haddress : (0 : UInt8) <<< 1 = (Device.poll usbFunctionSetup ((board 0).request statusToken
      (usbPidData0 :: statusRequest.toList ++ [0, 0])).2).usbDeviceAddr := by decide +kernel
  have hfirst : (0 : UInt8) <<< 1 = (board 0).usbDeviceAddr := rfl
  obtain ⟨hanswers, hread, -⟩ := transfer_completes usbFunctionSetup_reply (board_isIdle 0) hstart
    rfl rfl hfirst 0x10 statusRequest 0 0 (.ask 0 0x10 haddress (.done _))
  have hstatus : Packet.reply ⟨usbPidSetup, statusRequest, 8⟩ (configured [] 0) = [0, 0] := by
    decide +kernel
  have hone : (packets usbPidData1 (Packet.reply ⟨usbPidSetup, statusRequest, 8⟩
      (configured [] 0))).length ≤ 1 := by
    rw [hstatus, packets_of_short _ (by decide)]
    exact Nat.le_refl 1
  exact ⟨hanswers, (hread hone).trans (congrArg some hstatus)⟩

end Status

end SomethingsWrong.Firmware
