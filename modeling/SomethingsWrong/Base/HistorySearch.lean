import Mathlib.Data.List.Basic

/-! A linear search whose decision on an element may depend on the elements visited before.
When every genuine element would be accepted, the search finds the first genuine one exactly
if nothing else is accepted on the way to it. -/
namespace HistorySearch
variable {α : Type*} (accepts : List α → α → Prop) [∀ pre x, Decidable (accepts pre x)]

/-- The first element accepted after those before it; `pre` has been visited already. -/
def search : List α → List α → Option α
  | _, [] => none
  | pre, x :: xs => if accepts pre x then some x else search (pre ++ [x]) xs

theorem search_append (pre xs ys : List α) : search accepts pre (xs ++ ys) =
    (search accepts pre xs).or (search accepts (pre ++ xs) ys) := by
  induction xs generalizing pre with
  | nil => simp [search]
  | cons x xs ih =>
    by_cases hx : accepts pre x
    · simp [search, hx]
    · simp [search, hx, ih, List.append_assoc]

section Faithful
omit [∀ pre x, Decidable (accepts pre x)]
variable {accepts} (genuine : α → Prop)

/-- Nothing but a genuine element is accepted before a genuine one has been visited. -/
def Faithful (accepts : List α → α → Prop) (pre l : List α) : Prop :=
  ∀ mid x post, l = mid ++ x :: post → (∀ y ∈ mid, ¬ genuine y) → accepts (pre ++ mid) x → genuine x

theorem faithful_cons {pre l : List α} {x : α} : Faithful genuine accepts pre (x :: l) ↔
    (accepts pre x → genuine x) ∧ (¬ genuine x → Faithful genuine accepts (pre ++ [x]) l) := by
  constructor
  · intro h
    refine ⟨fun hx => h [] x l rfl (by simp) (by simpa using hx), fun hx => ?_⟩
    intro mid y post hl hmid hy
    subst hl
    refine h (x :: mid) y post rfl ?_ (by simpa using hy)
    intro z hz
    cases List.mem_cons.mp hz with
    | inl heq =>
      subst heq
      exact hx
    | inr hz => exact hmid z hz
  · intro h mid y post hl hmid hy
    obtain ⟨hfirst, hrest⟩ := h
    cases mid with
    | nil =>
      obtain ⟨rfl, rfl⟩ := List.cons.inj hl
      exact hfirst (by simpa using hy)
    | cons z mid =>
      obtain ⟨rfl, htail⟩ := List.cons.inj hl
      refine hrest (hmid x (by simp)) mid y post htail (fun w hw => hmid w (by simp [hw])) ?_
      simpa using hy

end Faithful

theorem search_eq_find?_iff {genuine : α → Prop} [DecidablePred genuine]
    (h : ∀ pre x, genuine x → accepts pre x) (pre l : List α) :
    search accepts pre l = l.find? (fun x => genuine x) ↔ Faithful genuine accepts pre l := by
  induction l generalizing pre with
  | nil => simp [search, Faithful]
  | cons x l ih =>
    rw [faithful_cons]
    by_cases hx : genuine x
    · simp [search, h pre x hx, hx]
    · by_cases hacc : accepts pre x
      · have hne : some x ≠ l.find? fun x => genuine x := by
          intro heq
          exact hx (by simpa using List.find?_some heq.symm)
        simp [search, hacc, hx, hne]
      · simp [search, hacc, hx, ih]

end HistorySearch
