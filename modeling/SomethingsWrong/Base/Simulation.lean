import SomethingsWrong.Base.LabelledRun

/-! What is seen of a run, and simulations that leave out steps nobody sees. -/
namespace LabelledRun
variable {σ τ ι ω : Type*}

/-- Only the steps that are allowed where they are taken. -/
def restrict (allowed : σ → ι → Bool) (step : σ → ι → Option σ) (s : σ) (l : ι) : Option σ :=
  if allowed s l then step s l else none

/-- Everything the steps of a run show. -/
def trace (step : σ → ι → Option σ) (observe : σ → ι → List ω) : σ → List ι → List ω
  | _, [] => []
  | s, l :: ls => observe s l ++ (step s l).elim [] fun s' => trace step observe s' ls

/-- Every step of the first system is also one of the second, with the same label and the
same look, or it shows nothing and the second system stays where it is. -/
def Simulates (step : σ → ι → Option σ) (observe : σ → ι → List ω) (step' : τ → ι → Option τ)
    (observe' : τ → ι → List ω) (R : σ → τ → Prop) : Prop :=
  ∀ s t l s', R s t → step s l = some s' →
    (∃ t', step' t l = some t' ∧ observe' t l = observe s l ∧ R s' t') ∨
      (observe s l = [] ∧ R s' t)

variable {step : σ → ι → Option σ} {observe : σ → ι → List ω} {step' : τ → ι → Option τ}
  {observe' : τ → ι → List ω} {R : σ → τ → Prop} {allowed : σ → ι → Bool}

theorem restrict_eq_some {s s' : σ} {l : ι} (h : restrict allowed step s l = some s') :
    allowed s l = true ∧ step s l = some s' := by
  cases hl : allowed s l with
  | true => exact ⟨rfl, by simpa [restrict, hl] using h⟩
  | false => simp [restrict, hl] at h

theorem restrict_of_allowed {s : σ} {l : ι} (h : allowed s l = true) :
    restrict allowed step s l = step s l := by
  simp [restrict, h]

/-- A restricted run is a run. -/
theorem leads_of_restrict {s s' : σ} {ls : List ι} (h : run (restrict allowed step) s ls = some s') :
    Leads step (fun _ => True) s s' := by
  induction ls generalizing s with
  | nil =>
    cases h
    exact Leads.refl _
  | cons l ls ih =>
    obtain ⟨t, ht, hrest⟩ := Option.bind_eq_some_iff.mp h
    have hone : Leads step (fun _ => True) s t := Leads.single trivial (restrict_eq_some ht).2
    exact hone.trans (ih hrest)

/-- Whole runs: the second system has a run that shows the same. -/
theorem Simulates.run (h : Simulates step observe step' observe' R) {s s' : σ} {t : τ}
    {ls : List ι} (hR : R s t) (hrun : run step s ls = some s') :
    ∃ ks t', LabelledRun.run step' t ks = some t' ∧
      trace step' observe' t ks = trace step observe s ls ∧ R s' t' := by
  induction ls generalizing s t with
  | nil =>
    cases hrun
    exact ⟨[], t, rfl, rfl, hR⟩
  | cons l ls ih =>
    obtain ⟨u, hu, hrest⟩ := Option.bind_eq_some_iff.mp hrun
    cases h s t l u hR hu with
    | inl hstep =>
      obtain ⟨v, hv, hseen, hR'⟩ := hstep
      obtain ⟨ks, t', hks, htrace, hend⟩ := ih hR' hrest
      refine ⟨l :: ks, t', ?_, ?_, hend⟩
      · rw [LabelledRun.run, hv]
        exact hks
      · simp [trace, hv, hu, hseen, htrace]
    | inr hskip =>
      obtain ⟨hseen, hR'⟩ := hskip
      obtain ⟨ks, t', hks, htrace, hend⟩ := ih hR' hrest
      refine ⟨ks, t', hks, ?_, hend⟩
      simp [trace, hu, hseen, htrace]

end LabelledRun
