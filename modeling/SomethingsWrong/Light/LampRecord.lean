import SomethingsWrong.Light.TimerHandoff

/-! The flag `_isRunning` against the lamp itself. `Exec` swallows every failure, so the
flag follows the commands issued; what the lamp does depends on their processes. -/
namespace SomethingsWrong.FlashLight
open LabelledRun

/-- The lamp shows the command whose process took effect last, and an effect out of
the order of issue comes from a process that outlived its wait. -/
structure LampTrace (light : FileInfo) (s : State) : Prop where
  threadsOf : ∀ t ∈ s.threads, t.light = light
  commandsOf : ∀ c ∈ s.commands, c.light = light
  dark : s.effects = [] → s.lamp light = false
  shown : ∀ k, s.effects.getLast? = some k →
    ∃ c, s.commands[k]? = some c ∧ s.lamp light = (c.command == .on)
  waited : ∀ k ∈ s.outstanding, ∃ c, s.commands[k]? = some c ∧ c.result.isAlive = true
  caused : ∀ k ∈ s.effects, ∃ c, s.commands[k]? = some c ∧
    (c.result.succeeded = true ∨ c.result.isAlive = true)
  took : ∀ (k : Nat) (c : Issued), s.commands[k]? = some c → c.result.succeeded = true → k ∈ s.effects
  inOrder : ∀ k c, s.effects.getLast? = some k → s.commands[k]? = some c →
    c.result.succeeded = true → ∀ j ∈ s.effects, j ≤ k

theorem lampTrace_initial (light : FileInfo) (now : Int) :
    LampTrace light (State.initial now) := by
  constructor <;> simp [State.initial]

theorem succeeded_not_isAlive {r : ProcessResult} (h : r.succeeded = true) :
    r.isAlive = false := by
  cases r <;> simp_all [ProcessResult.succeeded, ProcessResult.isAlive]

/-- Only the lamp, the log of calls and their processes matter here. -/
theorem LampTrace.same {light : FileInfo} {s s' : State} (h : LampTrace light s)
    (hthreads : ∀ t ∈ s'.threads, t.light = light) (hcommands : s'.commands = s.commands)
    (houtstanding : s'.outstanding = s.outstanding) (heffects : s'.effects = s.effects)
    (hlamp : s'.lamp = s.lamp) : LampTrace light s' := by
  obtain ⟨-, h2, h3, h4, h5, h6, h7, h8⟩ := h
  constructor
  · exact hthreads
  · rwa [hcommands]
  · rwa [heffects, hlamp]
  · rwa [heffects, hcommands, hlamp]
  · rwa [houtstanding, hcommands]
  · rwa [heffects, hcommands]
  · rwa [heffects, hcommands]
  · rwa [heffects, hcommands]

theorem getElem?_snoc_eq_some {α : Type} {l : List α} {a b : α} {k : Nat} :
    (l ++ [a])[k]? = some b ↔ l[k]? = some b ∨ k = l.length ∧ a = b := by
  cases Nat.lt_trichotomy k l.length with
  | inl hlt => simp [List.getElem?_append_left hlt, Nat.ne_of_lt hlt]
  | inr hge =>
    cases hge with
    | inl heq => simp [heq]
    | inr hgt =>
      have hend : (l ++ [a]).length ≤ k := by simpa using Nat.succ_le_of_lt hgt
      simp [List.getElem?_eq_none hend, Nat.ne_of_gt hgt, Nat.le_of_lt hgt]

theorem LampTrace.lt_length {light : FileInfo} {s : State} (h : LampTrace light s) {k : Nat}
    (hk : k ∈ s.effects) : k < s.commands.length := by
  obtain ⟨c, hc, -⟩ := h.caused k hk
  exact (List.getElem?_eq_some_iff.mp hc).1

theorem LampTrace.exec {light : FileInfo} {s : State} (h : LampTrace light s) (param : Command)
    (caller : Option Nat) (r : ProcessResult) : LampTrace light (exec light param caller r s) := by
  have hold {k : Nat} {c : Issued} (hk : s.commands[k]? = some c) :
      (s.commands ++ [⟨light, param, caller, s.now, r⟩])[k]? = some c :=
    getElem?_snoc_eq_some.mpr (.inl hk)
  have hwaited : ∀ k ∈ (if r.isAlive then s.outstanding ++ [s.commands.length] else s.outstanding),
      ∃ c, (s.commands ++ [⟨light, param, caller, s.now, r⟩])[k]? = some c ∧
        c.result.isAlive = true := by
    intro k hk
    by_cases hk' : k ∈ s.outstanding
    · obtain ⟨c, hc, ha⟩ := h.waited k hk'
      exact ⟨c, hold hc, ha⟩
    · cases ha : r.isAlive with
      | true =>
        have : k = s.commands.length := by simpa [ha, hk'] using hk
        exact ⟨_, by rw [this, List.getElem?_concat_length], ha⟩
      | false => simp [ha, hk'] at hk
  have hcommands : ∀ c ∈ s.commands ++ [⟨light, param, caller, s.now, r⟩], c.light = light := by
    intro c hc
    cases List.mem_append.mp hc with
    | inl hc => exact h.commandsOf c hc
    | inr hc => rw [List.mem_singleton.mp hc]
  unfold FlashLight.exec
  cases hr : r.succeeded with
  | true =>
    refine ⟨h.threadsOf, hcommands, by simp [setLamp], ?_, hwaited, ?_, ?_, ?_⟩
    · intro k hk
      have hk' : s.commands.length = k := by simpa [setLamp] using hk
      exact ⟨_, by simp [← hk']; rfl, by simp [setLamp]⟩
    · intro k hk
      cases List.mem_append.mp hk with
      | inl hk =>
        obtain ⟨c, hc, ha⟩ := h.caused k hk
        exact ⟨c, hold hc, ha⟩
      | inr hk =>
        exact ⟨_, by rw [List.mem_singleton.mp hk]; exact List.getElem?_concat_length, .inl hr⟩
    · intro k c hc hs
      obtain hc | ⟨rfl, -⟩ := getElem?_snoc_eq_some.mp hc
      · exact List.mem_append_left _ (h.took k c hc hs)
      · exact List.mem_append_right _ (List.mem_singleton_self _)
    · intro k c hk hc hs j hj
      have hk' : s.commands.length = k := by simpa [setLamp] using hk
      cases List.mem_append.mp hj with
      | inl hj => exact hk' ▸ Nat.le_of_lt (h.lt_length hj)
      | inr hj => exact Nat.le_of_eq ((List.mem_singleton.mp hj).trans hk')
  | false =>
    refine ⟨h.threadsOf, hcommands, h.dark, ?_, hwaited, ?_, ?_, ?_⟩
    · intro k hk
      obtain ⟨c, hc, hl⟩ := h.shown k hk
      exact ⟨c, hold hc, hl⟩
    · intro k hk
      obtain ⟨c, hc, ha⟩ := h.caused k hk
      exact ⟨c, hold hc, ha⟩
    · intro k c hc hs
      obtain hc | ⟨-, rfl⟩ := getElem?_snoc_eq_some.mp hc
      · exact h.took k c hc hs
      · simp [hr] at hs
    · intro k c hk hc hs
      have hk' : s.commands[k]? = some c := by
        rwa [← List.getElem?_append_left (h.lt_length (List.mem_of_getLast? hk))]
      exact h.inOrder k c hk hk' hs

theorem lampTrace_processEnds {light : FileInfo} {s s' : State} {k : Nat} {succeeded : Bool}
    (h : LampTrace light s) (hs : processEnds k succeeded s = some s') : LampTrace light s' := by
  obtain ⟨c, hc, hk, rfl⟩ := processEnds_eq_some hs
  have hl := h.commandsOf c (List.mem_of_getElem? hc)
  obtain ⟨c', hc', halive⟩ := h.waited k hk
  obtain rfl : c = c' := Option.some.inj (hc.symm.trans hc')
  have hwaited : ∀ j ∈ s.outstanding.erase k,
      ∃ c, s.commands[j]? = some c ∧ c.result.isAlive = true :=
    fun j hj => h.waited j (List.mem_of_mem_erase hj)
  cases succeeded with
  | false => exact ⟨h.threadsOf, h.commandsOf, h.dark, h.shown, hwaited, h.caused, h.took, h.inOrder⟩
  | true =>
    refine ⟨h.threadsOf, h.commandsOf, by simp [setLamp], ?_, hwaited, ?_, ?_, ?_⟩
    · intro j hj
      have hj' : k = j := by simpa [setLamp] using hj
      exact ⟨c, hj' ▸ hc, by simp [setLamp, hl]⟩
    · intro j hj
      cases List.mem_append.mp hj with
      | inl hj => exact h.caused j hj
      | inr hj =>
        rw [List.mem_singleton.mp hj]
        exact ⟨c, hc, .inr halive⟩
    · intro j d hd hs
      exact List.mem_append_left _ (h.took j d hd hs)
    · intro j d hj hd hs
      have hj' : k = j := by simpa [setLamp] using hj
      obtain rfl : c = d := Option.some.inj (hc.symm.trans (hj' ▸ hd))
      simp [succeeded_not_isAlive hs] at halive

theorem threadsOf_setPhase {light : FileInfo} {s : State} (h : ∀ t ∈ s.threads, t.light = light)
    (i : Nat) (p : Phase) : ∀ t ∈ (setPhase i p s).threads, t.light = light := by
  intro t ht
  obtain ⟨j, hj⟩ := List.mem_iff_getElem?.mp ht
  rw [setPhase_getElem?] at hj
  obtain ⟨u, hu, rfl⟩ := Option.map_eq_some_iff.mp hj
  have := h u (List.mem_of_getElem? hu)
  split <;> exact this

theorem LampTrace.setPhase {light : FileInfo} {s : State} (h : LampTrace light s) (i : Nat)
    (p : Phase) : LampTrace light (setPhase i p s) :=
  h.same (threadsOf_setPhase h.threadsOf i p) rfl rfl rfl rfl

theorem lampTrace_start {light : FileInfo} {s : State} (m : MonitorAction) (r : ProcessResult)
    (h : LampTrace light s) : LampTrace light (start light m r s) := by
  cases hrun : s.isRunning with
  | true =>
    rw [start_running hrun]
    exact h.same h.threadsOf rfl rfl rfl rfl
  | false =>
    rw [start_idle hrun]
    refine LampTrace.exec ?_ .on none r
    refine h.same ?_ rfl rfl rfl rfl
    intro t ht
    cases List.mem_append.mp ht with
    | inl ht => exact h.threadsOf t ht
    | inr ht => rw [List.mem_singleton.mp ht]

theorem lampTrace_stop {light : FileInfo} {s : State} (r : ProcessResult) (hh : Handoff s)
    (h : LampTrace light s) : LampTrace light (stop light r s) := by
  cases hrun : s.isRunning with
  | false =>
    rw [stop_idle hrun]
    exact h.same h.threadsOf rfl rfl rfl rfl
  | true =>
    obtain ⟨i, hi, hl⟩ := hh.stored hrun
    rw [stop_running light r hrun hi hl]
    have hp := h.setPhase i .aborted
    refine LampTrace.exec ?_ .off none r
    exact hp.same hp.threadsOf rfl rfl rfl rfl

theorem lampTrace_background {light : FileInfo} {s s' : State} {b : Background}
    (h : LampTrace light s) (hs : background s b = some s') : LampTrace light s' := by
  cases b with
  | tick d =>
    cases hs
    exact h.same h.threadsOf rfl rfl rfl rfl
  | test i =>
    obtain ⟨t, -, -, rfl | ⟨-, rfl⟩⟩ := test_eq_some hs
    · exact h
    · exact h.setPhase i .expiring
  | expire i r =>
    obtain ⟨t, ht, -, rfl⟩ := expire_eq_some hs
    rw [h.threadsOf t (List.mem_of_getElem? ht)]
    have hlog : LampTrace light (logInfo "Disabling light alarm (timeout)" s) :=
      h.same h.threadsOf rfl rfl rfl rfl
    have he := hlog.exec .off (some i) r
    refine LampTrace.setPhase ?_ i .finished
    exact he.same he.threadsOf rfl rfl rfl rfl
  | processEnds k succeeded => exact lampTrace_processEnds h hs

theorem Reachable.lampTrace {light : FileInfo} {s : State} (h : Reachable light s) :
    LampTrace light s := by
  obtain ⟨now, hl⟩ := h
  refine (hl.invariant (I := fun s => Handoff s ∧ LampTrace light s)
    ⟨handoff_initial now, lampTrace_initial light now⟩ ?_).2
  intro s a s' hinv ha hs
  obtain ⟨hh, ht⟩ := hinv
  refine ⟨handoff_step hh hs, ?_⟩
  cases a with
  | start l m r =>
    cases ha
    exact Option.some.inj hs ▸ lampTrace_start m r ht
  | stop l r =>
    cases ha
    exact Option.some.inj hs ▸ lampTrace_stop r hh ht
  | background b => exact lampTrace_background ht hs

/-- As long as every process succeeds, the lamp shows the flag. -/
theorem LampTrace.follows {light : FileInfo} {s : State} (h : LampTrace light s) (hh : Handoff s)
    (hs : ∀ c ∈ s.commands, c.result.succeeded = true) : s.lamp light = s.isRunning := by
  cases he : s.effects.getLast? with
  | none =>
    have hnil := List.getLast?_eq_none_iff.mp he
    have hempty : s.commands = [] := by
      by_contra hne
      obtain ⟨c, hc⟩ := List.exists_mem_of_ne_nil _ hne
      obtain ⟨k, hk⟩ := List.mem_iff_getElem?.mp hc
      have := h.took k c hk (hs c hc)
      simp [hnil] at this
    have hidle : s.isRunning ≠ true := fun hrun => by
      simpa [State.issued, hempty] using hh.last.mp hrun
    simpa [h.dark hnil] using hidle
  | some k =>
    obtain ⟨c, hc, hlamp⟩ := h.shown k he
    -- the effects are in the order of issue, so the last of them is the last command
    have hsucc := hs c (List.mem_of_getElem? hc)
    have hk := (List.getElem?_eq_some_iff.mp hc).1
    have hn : s.commands.length - 1 < s.commands.length := by omega
    have hlast := List.getElem?_eq_getElem hn
    have hle := h.inOrder k c he hc hsucc _
      (h.took _ _ hlast (hs _ (List.mem_of_getElem? hlast)))
    have hkn : k = s.commands.length - 1 := by omega
    have hissued : s.issued.getLast? = some c.command := by
      rw [State.issued, List.getLast?_map, List.getLast?_eq_getElem?, ← hkn, hc, Option.map_some]
    have hflag := hh.last
    rw [hissued] at hflag
    rw [hlamp, Bool.eq_iff_iff, hflag]
    simp

/-- The process of the last command, an `off`, is over and did not set the lamp. -/
def LastOffFailed (s : State) : Prop :=
  ∃ n c, n + 1 = s.commands.length ∧ s.commands[n]? = some c ∧ c.command = .off ∧
    n ∉ s.outstanding ∧ n ∉ s.effects

/-- The lamp was set last by the process of an `on` that outlived its wait. -/
def OvertakenByLateOn (s : State) : Prop :=
  ∃ k c, s.effects.getLast? = some k ∧ s.commands[k]? = some c ∧ c.command = .on ∧
    c.result.isAlive = true

/-- The flag is clear exactly when the last command was not an `on`. With no process
outstanding the lamp is then off, unless the process of the last `off` failed or one
that outlived its wait switched the lamp on late. -/
theorem idle_lamp_dark {light : FileInfo} {s : State} (h : Reachable light s) :
    (s.isRunning = false ↔ s.issued.getLast? ≠ some .on) ∧
    (s.outstanding = [] → s.isRunning = false →
      s.lamp light = false ∨ LastOffFailed s ∨ OvertakenByLateOn s) := by
  have hlast := h.handoff.last
  have ht := h.lampTrace
  refine ⟨by rw [← Bool.not_eq_true, hlast], fun hout hrun => ?_⟩
  cases hlamp : s.lamp light with
  | false => exact .inl rfl
  | true =>
    cases he : s.effects.getLast? with
    | none =>
      have := ht.dark (List.getLast?_eq_none_iff.mp he)
      simp [hlamp] at this
    | some k =>
      obtain ⟨c, hc, hon⟩ := ht.shown k he
      have hon' : c.command = .on := by simpa [hlamp] using hon
      have hk : k < s.commands.length := (List.getElem?_eq_some_iff.mp hc).1
      have hn : s.commands.length - 1 < s.commands.length := by omega
      have hget := List.getElem?_eq_getElem hn
      -- the last command is not an `on`, hence not the one whose process took effect last
      have hoff : s.commands[s.commands.length - 1].command = .off := by
        cases hcmd : s.commands[s.commands.length - 1].command with
        | off => rfl
        | on =>
          have : s.issued.getLast? = some .on := by
            rw [State.issued, List.getLast?_map, List.getLast?_eq_getElem?, hget,
              Option.map_some, hcmd]
          simp [hrun] at hlast
          exact absurd this hlast
      have hne : k ≠ s.commands.length - 1 := by
        intro hk'
        rw [hk', hget] at hc
        simp [← Option.some.inj hc, hoff] at hon'
      by_cases hmem : s.commands.length - 1 ∈ s.effects
      · refine .inr (.inr ⟨k, c, he, hc, hon', ?_⟩)
        obtain ⟨c', hc', hcause⟩ := ht.caused k (List.mem_of_getLast? he)
        obtain rfl : c = c' := Option.some.inj (hc.symm.trans hc')
        apply hcause.resolve_left
        intro hs
        have := ht.inOrder k c he hc hs _ hmem
        omega
      · exact .inr (.inl ⟨_, _, by omega, hget, hoff, by simp [hout], hmem⟩)

/-- `Start` lights the lamp, and the process of the following `off` fails. -/
def failedOff : List Act :=
  [.start controllerFile ⟨0, "build", 20, [], false⟩ (.exited 0), .stop controllerFile (.exited 1)]

theorem failedOff_of : ∀ a ∈ failedOff, Act.Of controllerFile a := by simp [failedOff, Act.Of]

/-- After a failed `off` the flag is clear, nothing is outstanding, and the lamp burns. -/
theorem idle_lamp_burns : ¬ ∀ s, Reachable controllerFile s → s.outstanding = [] →
    s.isRunning = false → s.lamp controllerFile = false := by
  intro halways
  have hlamp : true = false := halways _ ⟨0, failedOff, failedOff_of, rfl⟩ rfl rfl
  cases hlamp

theorem idle_lamp_dark_failedOff : ∃ s, run step (State.initial 0) failedOff = some s ∧
    s.isRunning = false ∧ (s.lamp controllerFile = false ∨ LastOffFailed s ∨ OvertakenByLateOn s) :=
  ⟨_, rfl, rfl, (idle_lamp_dark ⟨0, failedOff, failedOff_of, rfl⟩).2 rfl rfl⟩

end SomethingsWrong.FlashLight
