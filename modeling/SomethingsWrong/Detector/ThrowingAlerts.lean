import Mathlib.Data.List.Nodup
import SomethingsWrong.Detector.EdgeTriggered

/-! Alerts that throw. A monitor is marked before its alerts are started, and an exception
ends the round: an alert that was skipped stays skipped for the whole failure episode, and
the monitors that come later are not checked in that round. `GetActionDetails` stands outside
of any `try` statement, and ends the round before the monitor is marked. -/
namespace SomethingsWrong.Rounds
open Detector

variable {A ω : Type}

section Definitions
variable (script : Script A ω) (s : State A ω) (alertActions : List A)
  (monitorActions : List MonitorAction)

def failedBefore : Nat → MonitorAction → Bool
  | 0, _ => false
  | r + 1, m => failing script r m

/-- A failure episode of `m` begins in round `r`. -/
def StartsToFail (r : Nat) (m : MonitorAction) : Prop :=
  failing script r m = true ∧ failedBefore script r m = false

/-- What round `r` adds to the checked monitors, and to the calls. -/
def newChecks (r : Nat) : List MonitorAction :=
  (after script s alertActions monitorActions (r + 1)).checks.drop
    (after script s alertActions monitorActions r).checks.length

def newCalls (r : Nat) : List (Call A) :=
  (after script s alertActions monitorActions (r + 1)).calls.drop
    (after script s alertActions monitorActions r).calls.length

/-- Every monitor is checked once in every round, and in every failure episode each alert
is started before the episode ends. -/
structure LosesNothing : Prop where
  checked : ∀ r, ∀ m ∈ monitorActions,
    (newChecks script s alertActions monitorActions r).count m = 1
  started : ∀ r, ∀ m ∈ monitorActions, StartsToFail script r m → ∀ a ∈ alertActions,
    ∃ q, r ≤ q ∧ (∀ i, r ≤ i → i ≤ q → failing script i m = true) ∧
      .start a m ∈ newCalls script s alertActions monitorActions q

/-- In the episode that begins in round `r`, round `q` is the first in which the failure of `m`
can be described. -/
structure FirstDescribed (r q : Nat) (m : MonitorAction) : Prop where
  le : r ≤ q
  failing : ∀ i, r ≤ i → i ≤ q → failing script i m = true
  described : Described script q m
  first : ∀ i, r ≤ i → i < q → ¬ Described script i m

/-- Whatever throws comes last. `details`: a call of `GetActionDetails` that throws for a failing
monitor belongs to the last monitor. `described`: it does not throw for a whole episode.
`start`: a call of `Start` that throws when the failure is first described belongs to the last
monitor, and no alert of the list is left out after it. -/
structure ThrowsLast : Prop where
  details : ∀ r, ∀ m ∈ monitorActions, failing script r m = true → ¬ Described script r m →
    monitorActions.getLast? = some m
  described : alertActions ≠ [] → ∀ r, ∀ m ∈ monitorActions, StartsToFail script r m →
    ∃ q, FirstDescribed script r q m
  start : ∀ r q, ∀ m ∈ monitorActions, StartsToFail script r m → FirstDescribed script r q m →
    ∀ j, j < alertActions.length → script.throws q m j ≠ none →
      monitorActions.getLast? = some m ∧ ∀ a ∈ alertActions, a ∈ alertActions.take (j + 1)

end Definitions

section Episodes
variable {script : Script A ω} {s : State A ω} {alertActions : List A}
  {monitorActions : List MonitorAction}

/-- A round that checks every monitor marks exactly those found failing, and starts the alerts
of those that were not marked; it is interrupted at most by the last monitor. -/
structure Complete (script : Script A ω) (s : State A ω) (alertActions : List A)
    (monitorActions : List MonitorAction) (r : Nat) : Prop where
  checks : newChecks script s alertActions monitorActions r = monitorActions
  calls : ∃ stops, (∀ c ∈ stops, ∃ a, c = Call.stop a) ∧
    newCalls script s alertActions monitorActions r =
      startsFrom script alertActions r (after script s alertActions monitorActions r).marks
        monitorActions ++ stops
  marks : ∀ m ∈ monitorActions, (after script s alertActions monitorActions (r + 1)).marks m =
    marking script r (after script s alertActions monitorActions r).marks m
  last : ∀ m ∈ monitorActions, Interrupted script alertActions r
    (after script s alertActions monitorActions r).marks m → monitorActions.getLast? = some m

/-- A round is complete unless a monitor that is not the last one is interrupted. -/
theorem complete_or_lost (hnodup : monitorActions.Nodup) (r : Nat) :
    Complete script s alertActions monitorActions r ∨
      ∃ m ∈ monitorActions, monitorActions.getLast? ≠ some m ∧
        Interrupted script alertActions r (after script s alertActions monitorActions r).marks m ∧
        ∃ m' ∈ monitorActions, m' ∉ newChecks script s alertActions monitorActions r := by
  obtain ⟨pre, post, stops, hsplit, hstops, hchecks, hcalls, hmarks, hpost, hlast⟩ :=
    round_cases script alertActions r hnodup (after script s alertActions monitorActions r)
  have hnew : newChecks script s alertActions monitorActions r = pre := by
    simp [newChecks, after, hchecks]
  cases post with
  | nil =>
    obtain rfl : monitorActions = pre := by simpa using hsplit
    refine .inl ⟨hnew, ⟨stops, hstops, by simp [newCalls, after, hcalls]⟩, fun m hm => ?_, ?_⟩
    · simp [after, hmarks, hm]
    · intro m hm hint
      obtain ⟨init, rest, hm⟩ := List.append_of_mem hm
      have hrest := hlast init m rest hm hint
      rw [hm, hrest]
      simp
  | cons m' post =>
    obtain ⟨init, m, rfl, hint⟩ := hpost (by simp)
    refine .inr ⟨m, by simp [hsplit], fun hm => ?_, hint, m', by simp [hsplit], ?_⟩
    · have hmem : m ∈ m' :: post := by
        rw [hsplit, List.getLast?_append_cons] at hm
        exact List.mem_of_getLast? hm
      rw [hsplit, List.nodup_append] at hnodup
      exact hnodup.2.2 m (by simp) m hmem rfl
    · rw [hnew]
      intro hmem
      rw [hsplit, List.nodup_append] at hnodup
      exact hnodup.2.2 m' hmem m' (by simp) rfl

section Marks
variable {m : MonitorAction} (hm : m ∈ monitorActions) {n : Nat}
  (hall : ∀ i, i < n → Complete script s alertActions monitorActions i)
include hm hall

/-- When an episode begins there is no mark. -/
theorem unmarked_of_startsToFail (hstart : ∀ m, s.marks m = false) {r : Nat} (hr : r ≤ n)
    (h : StartsToFail script r m) :
    (after script s alertActions monitorActions r).marks m = false := by
  cases r with
  | zero => exact hstart m
  | succ r =>
    have hpassed : failing script r m = false := h.2
    rw [(hall r hr).marks m hm, marking, verdict_eq, hpassed]
    rfl

/-- There is none until the failure is described. -/
theorem FirstDescribed.unmarked (hstart : ∀ m, s.marks m = false) {r q : Nat} (hq : q ≤ n)
    (h : StartsToFail script r m) (hfirst : FirstDescribed script r q m) :
    (after script s alertActions monitorActions q).marks m = false := by
  have hle := hfirst.le
  suffices hmark : ∀ k, r + k ≤ q →
      (after script s alertActions monitorActions (r + k)).marks m = false by
    have hlast := hmark (q - r) (by omega)
    rwa [Nat.add_sub_cancel' hle] at hlast
  intro k
  induction k with
  | zero => exact fun hk => unmarked_of_startsToFail hm hall hstart (Nat.le_trans hk hq) h
  | succ k ih =>
    intro hk
    obtain ⟨e, he⟩ := verdict_error_iff.mpr ⟨hfirst.failing (r + k) (by omega) (by omega),
      hfirst.first (r + k) (by omega) (by omega)⟩
    rw [← Nat.add_assoc, (hall (r + k) (by omega)).marks m hm, marking, he]
    exact ih (by omega)

/-- From then on there is one as long as the monitor fails. -/
theorem marked_of_described {i q : Nat} (hi : i < q) (hq : q ≤ n)
    (hfailing : ∀ k, i ≤ k → k < q → failing script k m = true) (h : Described script i m) :
    (after script s alertActions monitorActions q).marks m = true := by
  induction q with
  | zero => omega
  | succ q ih =>
    rw [(hall q hq).marks m hm, marking, verdict_eq, hfailing q (by omega) (by omega)]
    by_cases hiq : i = q
    · obtain ⟨text, hd⟩ := h
      rw [← hiq, hd]
      rfl
    · cases hd : script.details q m with
      | ok text => rfl
      | error e => exact ih (by omega) (by omega) fun k h1 h2 => hfailing k h1 (by omega)

end Marks

/-- A round in which the monitor fails belongs to an episode. -/
theorem exists_startsToFail {r : Nat} {m : MonitorAction} (h : failing script r m = true) :
    ∃ p, p ≤ r ∧ StartsToFail script p m ∧ ∀ i, p ≤ i → i ≤ r → failing script i m = true := by
  induction r with
  | zero =>
    refine ⟨0, Nat.le_refl 0, ⟨h, rfl⟩, fun i _ hi => ?_⟩
    rw [Nat.le_zero.mp hi]
    exact h
  | succ r ih =>
    cases hbefore : failing script r m with
    | false =>
      refine ⟨r + 1, Nat.le_refl _, ⟨h, hbefore⟩, fun i h1 h2 => ?_⟩
      rw [Nat.le_antisymm h2 h1]
      exact h
    | true =>
      obtain ⟨p, hp, hstarts, hepisode⟩ := ih hbefore
      refine ⟨p, by omega, hstarts, fun i h1 h2 => ?_⟩
      by_cases hlast : i = r + 1
      · rw [hlast]
        exact h
      · exact hepisode i h1 (by omega)

/-- An episode with a round in which the failure can be described has a first one. -/
theorem exists_firstDescribed {r q : Nat} {m : MonitorAction} (hrq : r ≤ q)
    (hepisode : ∀ i, r ≤ i → i ≤ q → failing script i m = true) (h : Described script q m) :
    ∃ p, FirstDescribed script r p m := by
  induction q using Nat.strongRecOn with
  | ind q ih =>
    by_cases hbefore : ∃ i, r ≤ i ∧ i < q ∧ Described script i m
    · obtain ⟨i, hri, hiq, hi⟩ := hbefore
      exact ih i hiq hri (fun k h1 h2 => hepisode k h1 (by omega)) hi
    · exact ⟨q, hrq, hepisode, h, fun i h1 h2 hi => hbefore ⟨i, h1, h2, hi⟩⟩

/-- If whatever throws comes last, every round is complete. -/
theorem complete_of_throwsLast (hnodup : monitorActions.Nodup)
    (h : ThrowsLast script alertActions monitorActions) (r : Nat) :
    Complete script s alertActions monitorActions r := by
  induction r using Nat.strongRecOn with
  | ind r ih =>
    apply (complete_or_lost hnodup r).resolve_right
    intro hlost
    obtain ⟨m, hm, hnotLast, hint, -⟩ := hlost
    rcases hint with herror | ⟨hverdict, hmark, e, he⟩
    · obtain ⟨hfailing, hnot⟩ := verdict_error_iff.mp herror
      exact hnotLast (h.details r m hm hfailing hnot)
    · obtain ⟨hfailing, hdescribed⟩ := verdict_false_iff.mp hverdict
      obtain ⟨p, hpr, hstarts, hepisode⟩ := exists_startsToFail hfailing
      have hfirst : FirstDescribed script p r m := by
        refine ⟨hpr, hepisode, hdescribed, fun i h1 h2 hi => ?_⟩
        rw [marked_of_described hm ih h2 (Nat.le_refl r)
          (fun k hk1 hk2 => hepisode k (by omega) (by omega)) hi] at hmark
        cases hmark
      rcases invoked_cases script r m 0 alertActions with ⟨heq, -⟩ | ⟨j, e', hj, hthrow, -, -⟩
      · simp [heq] at he
      · rw [Nat.zero_add] at hthrow
        exact hnotLast (h.start p r m hm hstarts hfirst j hj (by simp [hthrow])).1

/-- In a complete round the alerts started for `m` are those reached, if `m` is found failing
and is not marked. -/
theorem Complete.start_mem_iff {r : Nat} (h : Complete script s alertActions monitorActions r)
    {a : A} {m : MonitorAction} (hm : m ∈ monitorActions) :
    .start a m ∈ newCalls script s alertActions monitorActions r ↔
      verdict script r m = .ok false ∧
        (after script s alertActions monitorActions r).marks m = false ∧
        a ∈ (invoked script r m 0 alertActions).2 := by
  obtain ⟨stops, hstops, hcalls⟩ := h.calls
  have hstop : .start a m ∉ stops := by
    intro hmem
    obtain ⟨b, hb⟩ := hstops _ hmem
    cases hb
  have hreports (x : MonitorAction) : reports script r x = true ↔ verdict script r x = .ok false := by
    unfold reports
    cases verdict script r x with
    | ok passed => cases passed <;> simp
    | error e => simp
  rw [hcalls, List.mem_append, or_iff_left hstop]
  constructor
  · intro hcall
    obtain ⟨x, hx, hmem⟩ := List.mem_flatMap.mp hcall
    split at hmem
    · rename_i hnew
      obtain ⟨b, hb, hcall⟩ := List.mem_map.mp hmem
      cases hcall
      rw [Bool.and_eq_true, Bool.not_eq_eq_eq_not, Bool.not_true, hreports] at hnew
      exact ⟨hnew.1, hnew.2, hb⟩
    · cases hmem
  · intro hcall
    obtain ⟨hverdict, hmark, ha⟩ := hcall
    apply List.mem_flatMap.mpr ⟨m, hm, ?_⟩
    simp only [(hreports m).mpr hverdict, hmark, Bool.not_false, Bool.and_self, ↓reduceIte]
    exact List.mem_map.mpr ⟨a, ha, rfl⟩

theorem LosesNothing.complete (hnodup : monitorActions.Nodup)
    (h : LosesNothing script s alertActions monitorActions) (q : Nat) :
    Complete script s alertActions monitorActions q := by
  apply (complete_or_lost hnodup q).resolve_right
  intro hlost
  obtain ⟨-, -, -, -, m, hm, hnew⟩ := hlost
  have hcount := h.checked q m hm
  rw [List.count_eq_zero_of_not_mem hnew] at hcount
  exact Nat.zero_ne_one hcount

/-- All alerts of an episode are reached in the round in which its failure is first described:
from then on the monitor is marked to the end of the episode. -/
theorem LosesNothing.reached (hnodup : monitorActions.Nodup)
    (h : LosesNothing script s alertActions monitorActions) {r q : Nat} {m : MonitorAction}
    (hm : m ∈ monitorActions) (hfail : StartsToFail script r m)
    (hfirst : FirstDescribed script r q m) {a : A} (ha : a ∈ alertActions) :
    a ∈ (invoked script q m 0 alertActions).2 := by
  have hcomplete := h.complete hnodup
  obtain ⟨q', hrq', hepisode, hcall⟩ := h.started r m hm hfail a ha
  obtain ⟨hverdict, hmark, hreached⟩ := ((hcomplete q').start_mem_iff hm).mp hcall
  have hle : q ≤ q' := by
    by_contra hlt
    exact hfirst.first q' hrq' (by omega) (verdict_false_iff.mp hverdict).2
  obtain rfl : q = q' := by
    by_contra hne
    rw [marked_of_described hm (fun i _ => hcomplete i) (Nat.lt_of_le_of_ne hle hne)
      (Nat.le_refl q') (fun k h1 h2 => hepisode k (Nat.le_trans hfirst.le h1) (by omega))
      hfirst.described] at hmark
    cases hmark
  exact hreached

theorem LosesNothing.throwsLast (hnodup : monitorActions.Nodup) (hstart : ∀ m, s.marks m = false)
    (h : LosesNothing script s alertActions monitorActions) :
    ThrowsLast script alertActions monitorActions := by
  have hcomplete := h.complete hnodup
  refine ⟨fun r m hm hfailing hnot => ?_, fun hne r m hm hfail => ?_, ?_⟩
  · exact (hcomplete r).last m hm (.inl (verdict_error_iff.mpr ⟨hfailing, hnot⟩))
  · obtain ⟨a, ha⟩ := List.exists_mem_of_ne_nil _ hne
    obtain ⟨q, hrq, hepisode, hcall⟩ := h.started r m hm hfail a ha
    have hdescribed := (verdict_false_iff.mp ((hcomplete q).start_mem_iff hm |>.mp hcall).1).2
    exact exists_firstDescribed hrq hepisode hdescribed
  · intro r q m hm hfail hfirst j hj hthrow
    have hmark := hfirst.unmarked hm (fun i _ => hcomplete i) hstart (Nat.le_refl q) hfail
    have hverdict := verdict_false_iff.mpr
      ⟨hfirst.failing q hfirst.le (Nat.le_refl q), hfirst.described⟩
    rcases invoked_cases script q m 0 alertActions with ⟨-, hnone⟩ | ⟨i, e, hi, he, hbefore, heq⟩
    · exact absurd (by simpa using hnone j hj) hthrow
    · have hij : i ≤ j := by
        by_contra hlt
        exact hthrow (by simpa using hbefore j (by omega))
      refine ⟨(hcomplete q).last m hm (.inr ⟨hverdict, hmark, e, by rw [heq]⟩), fun a ha => ?_⟩
      have hreached := h.reached hnodup hm hfail hfirst ha
      rw [heq] at hreached
      exact List.take_subset_take_left alertActions (by omega) hreached

theorem ThrowsLast.losesNothing (hnodup : monitorActions.Nodup) (hstart : ∀ m, s.marks m = false)
    (h : ThrowsLast script alertActions monitorActions) :
    LosesNothing script s alertActions monitorActions := by
  have hcomplete := complete_of_throwsLast (s := s) hnodup h
  refine ⟨fun r m hm => ?_, fun r m hm hfail a ha => ?_⟩
  · rw [(hcomplete r).checks]
    exact List.count_eq_one_of_mem hnodup hm
  · obtain ⟨q, hfirst⟩ := h.described (List.ne_nil_of_mem ha) r m hm hfail
    have hreached : a ∈ (invoked script q m 0 alertActions).2 := by
      rcases invoked_cases script q m 0 alertActions with ⟨heq, -⟩ | ⟨j, e, hj, he, -, heq⟩
      · rwa [heq]
      · rw [Nat.zero_add] at he
        rw [heq]
        exact (h.start r q m hm hfail hfirst j hj (by simp [he])).2 a ha
    refine ⟨q, hfirst.le, hfirst.failing, ((hcomplete q).start_mem_iff hm).mpr ⟨?_, ?_, hreached⟩⟩
    · exact verdict_false_iff.mpr
        ⟨hfirst.failing q hfirst.le (Nat.le_refl q), hfirst.described⟩
    · exact hfirst.unmarked hm (fun i _ => hcomplete i) hstart (Nat.le_refl q) hfail

/-- The program loses nothing exactly when whatever throws comes last. -/
theorem losesNothing_iff_throwsLast (hnodup : monitorActions.Nodup)
    (hstart : ∀ m, s.marks m = false) :
    LosesNothing script s alertActions monitorActions ↔
      ThrowsLast script alertActions monitorActions :=
  ⟨fun h => h.throwsLast hnodup hstart, fun h => h.losesNothing hnodup hstart⟩

end Episodes

/-- The sound comes first in the list, and throws for want of a file. -/
def missingWav : Script String Bool :=
  { plainScript fun _ _ => .ok false with
    throws := fun _ _ j => if j = 0 then some (.exception "Index was out of range.") else none }

/-- The second monitor is not checked in the first round, and the light never starts. -/
theorem missing_wav_loses :
    ¬ LosesNothing missingWav idle ["sound", "light"] [monitor 0, monitor 1] := by
  intro h
  have hcount := h.checked 0 (monitor 1) (by decide)
  exact absurd hcount (by decide)

/-- The sound comes last, and throws for the last monitor only. -/
def lastWav : Script String Bool :=
  { plainScript fun _ _ => .ok false with
    throws := fun _ m j =>
      if m.ref = 1 ∧ j = 1 then some (.exception "Index was out of range.") else none }

theorem losesNothing_iff_throwsLast_lastWav :
    LosesNothing lastWav idle ["light", "sound"] [monitor 0, monitor 1] := by
  have hdescribed (r : Nat) (m : MonitorAction) : Described lastWav r m := ⟨"", rfl⟩
  refine (losesNothing_iff_throwsLast (by decide) fun _ => rfl).mpr
    ⟨fun r m _ _ hnot => absurd (hdescribed r m) hnot, fun _ r m _ hfail => ?_, ?_⟩
  · exact exists_firstDescribed (Nat.le_refl r)
      (fun i h1 h2 => by rw [Nat.le_antisymm h2 h1]; exact hfail.1) (hdescribed r m)
  · intro r q m hm _ _ j hj hthrow
    by_cases hlast : m.ref = 1 ∧ j = 1
    · obtain ⟨href, rfl⟩ := hlast
      have hm' : m = monitor 1 := by
        cases List.mem_pair.mp hm with
        | inl heq =>
          subst heq
          simp [monitor] at href
        | inr heq =>
          subst heq
          rfl
      exact ⟨by simp [hm'], by simp⟩
    · simp [lastWav, hlast] at hthrow

end SomethingsWrong.Rounds
