import Mathlib.Data.List.Basic

/-! Runs of a deterministic labelled step function. Every choice a system makes
(a schedule, an answer from outside, a duration) stands in the label of the step,
so one run is one list of labels. -/
namespace LabelledRun
variable {σ ι : Type*}

/-- The state after all labels, or `none` as soon as one of them is not enabled. -/
def run (step : σ → ι → Option σ) : σ → List ι → Option σ
  | s, [] => some s
  | s, l :: ls => (step s l).bind fun s' => run step s' ls

/-- Some run over admitted labels leads from the first state to the second. -/
def Leads (step : σ → ι → Option σ) (admits : ι → Prop) (s s' : σ) : Prop :=
  ∃ ls, (∀ l ∈ ls, admits l) ∧ run step s ls = some s'

variable {step : σ → ι → Option σ} {admits : ι → Prop}

theorem run_append (s : σ) (ls ks : List ι) :
    run step s (ls ++ ks) = (run step s ls).bind fun s' => run step s' ks := by
  induction ls generalizing s with
  | nil => rfl
  | cons l ls ih =>
    cases h : step s l with
    | none => simp [run, h]
    | some s' => simp [run, h, ih]

namespace Leads

theorem refl (s : σ) : Leads step admits s s := ⟨[], by simp, rfl⟩

theorem single {s s' : σ} {l : ι} (hl : admits l) (h : step s l = some s') :
    Leads step admits s s' :=
  ⟨[l], by simpa using hl, by simp [run, h]⟩

theorem trans {s s' s'' : σ} (h : Leads step admits s s') (h' : Leads step admits s' s'') :
    Leads step admits s s'' := by
  obtain ⟨ls, hls, hrun⟩ := h
  obtain ⟨ks, hks, hrun'⟩ := h'
  refine ⟨ls ++ ks, ?_, by simp [run_append, hrun, hrun']⟩
  intro l hl
  exact (List.mem_append.mp hl).elim (hls l) (hks l)

theorem tail {s s' s'' : σ} {l : ι} (h : Leads step admits s s') (hl : admits l)
    (hs : step s' l = some s'') : Leads step admits s s'' :=
  h.trans (single hl hs)

/-- What one admitted step preserves, a whole run preserves. -/
theorem invariant {I : σ → Prop} {s s' : σ} (h : Leads step admits s s') (hI : I s)
    (hstep : ∀ t l t', I t → admits l → step t l = some t' → I t') : I s' := by
  obtain ⟨ls, hls, hrun⟩ := h
  induction ls generalizing s with
  | nil =>
    simp only [run, Option.some.injEq] at hrun
    exact hrun ▸ hI
  | cons l ls ih =>
    obtain ⟨t, ht, hrest⟩ := Option.bind_eq_some_iff.mp hrun
    exact ih (hstep s l t hI (hls l (by simp)) ht) (fun k hk => hls k (by simp [hk])) hrest

theorem mono {admits' : ι → Prop} {s s' : σ} (h : Leads step admits s s')
    (himp : ∀ l, admits l → admits' l) : Leads step admits' s s' := by
  obtain ⟨ls, hls, hrun⟩ := h
  exact ⟨ls, fun l hl => himp l (hls l hl), hrun⟩

end Leads
end LabelledRun
