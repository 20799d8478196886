import Mathlib.Data.List.Basic

/-! Lists that go back and forth between two values. -/
namespace Alternating
variable {α : Type*}

/-- `a, b, a, b, …` of any length. -/
def Alternates (a b : α) : List α → Prop
  | [] => True
  | x :: xs => x = a ∧ Alternates b a xs

theorem alternates_last {a b : α} {l : List α} (h : Alternates a b l) :
    l.getLast? = none ∨ l.getLast? = some a ∨ l.getLast? = some b := by
  induction l generalizing a b with
  | nil => exact .inl rfl
  | cons x xs ih =>
    cases xs with
    | nil => exact .inr (.inl (by simp [h.1]))
    | cons y ys =>
      rw [List.getLast?_cons_cons]
      exact (ih h.2).imp_right Or.symm

/-- Either value extends the list exactly where the other one stands last;
only the first may start it. -/
theorem alternates_snoc {a b : α} {l : List α} (hab : a ≠ b) (h : Alternates a b l) :
    (l.getLast? = some a → Alternates a b (l ++ [b])) ∧
    (l.getLast? ≠ some a → Alternates a b (l ++ [a])) := by
  induction l generalizing a b with
  | nil => exact ⟨by simp, fun _ => ⟨rfl, trivial⟩⟩
  | cons x xs ih =>
    obtain ⟨rfl, ht⟩ := h
    cases xs with
    | nil => exact ⟨fun _ => ⟨rfl, rfl, trivial⟩, fun hne => absurd rfl hne⟩
    | cons y ys =>
      obtain ⟨hfirst, hsecond⟩ := ih hab.symm ht
      rw [List.getLast?_cons_cons]
      constructor
      · intro hl
        exact ⟨rfl, hsecond (by simp [hl, hab])⟩
      · intro hl
        have hb : (y :: ys).getLast? = some b := by
          have := alternates_last ht
          simpa [hl] using this
        exact ⟨rfl, hfirst hb⟩

end Alternating
