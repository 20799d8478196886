import SomethingsWrong.Base.Transcript

/-! Programs that hold at most one resource at a time. The discipline is an automaton over
the events of a run; a program keeps it whatever answers it gets, and what the discipline
means for acquisitions, uses and releases is read off the automaton. -/
namespace Custody
open Program

/-- What an operation does with a resource. -/
inductive Event (H : Type) where
  | acquire (h : H)
  | use (h : H)
  | release (h : H)
  | other

variable {H : Type}

/-- The resource held before and after an event that is in order. -/
inductive Step : Option H → Event H → Option H → Prop where
  | acquire (h : H) : Step none (.acquire h) (some h)
  | use (h : H) : Step (some h) (.use h) (some h)
  | release (h : H) : Step (some h) (.release h) none
  | other (s : Option H) : Step s .other s

inductive Follows : Option H → List (Event H) → Option H → Prop where
  | nil (s : Option H) : Follows s [] s
  | cons {s t u : Option H} {e : Event H} {es : List (Event H)} (h : Step s e t)
      (hrest : Follows t es u) : Follows s (e :: es) u

def Event.isAcquire : Event H → Bool
  | acquire _ => true
  | _ => false

def Event.isRelease : Event H → Bool
  | release _ => true
  | _ => false

/-- While `h` is held: nothing is acquired or released, and nothing else is used. -/
def Holding (h : H) (es : List (Event H)) : Prop := ∀ e ∈ es, e = .use h ∨ e = .other

/-- Every resource acquired is released later, once, and before the next one is acquired;
it is used only in between. -/
structure Disciplined (es : List (Event H)) : Prop where
  released : ∀ pre h post, es = pre ++ .acquire h :: post →
    ∃ mid rest, post = mid ++ .release h :: rest ∧ Holding h mid
  acquired : ∀ pre h post, es = pre ++ .release h :: post →
    ∃ before mid, pre = before ++ .acquire h :: mid ∧ Holding h mid
  used : ∀ pre h post, es = pre ++ .use h :: post →
    ∃ before mid, pre = before ++ .acquire h :: mid ∧ Holding h mid
  one : ∀ pre post, es = pre ++ post →
    pre.countP Event.isAcquire ≤ pre.countP Event.isRelease + 1
  balanced : es.countP Event.isAcquire = es.countP Event.isRelease

theorem Holding.cons {h : H} {e : Event H} {es : List (Event H)} (he : e = .use h ∨ e = .other)
    (hes : Holding h es) : Holding h (e :: es) := by
  intro x hx
  cases List.mem_cons.mp hx with
  | inl heq =>
    rw [heq]
    exact he
  | inr hx => exact hes x hx

namespace Follows
variable {s t : Option H} {h : H} {es : List (Event H)}

theorem split {xs ys : List (Event H)} (hf : Follows s (xs ++ ys) t) :
    ∃ u, Follows s xs u ∧ Follows u ys t := by
  induction xs generalizing s with
  | nil => exact ⟨s, .nil s, hf⟩
  | cons e xs ih =>
    cases hf with
    | cons hstep hrest =>
      obtain ⟨u, hxs, hys⟩ := ih hrest
      exact ⟨u, .cons hstep hxs, hys⟩

/-- What is held is released before anything else happens to it. -/
theorem released (hf : Follows (some h) es none) :
    ∃ mid rest, es = mid ++ .release h :: rest ∧ Holding h mid := by
  induction es with
  | nil => cases hf
  | cons e es ih =>
    cases hf with
    | cons hstep hrest =>
      cases hstep with
      | use =>
        obtain ⟨mid, rest, heq, hmid⟩ := ih hrest
        exact ⟨.use h :: mid, rest, by rw [heq]; rfl, hmid.cons (.inl rfl)⟩
      | release => exact ⟨[], es, rfl, by simp [Holding]⟩
      | other =>
        obtain ⟨mid, rest, heq, hmid⟩ := ih hrest
        exact ⟨.other :: mid, rest, by rw [heq]; rfl, hmid.cons (.inr rfl)⟩

/-- What is held has been held all the time, or was acquired. -/
theorem acquired (hf : Follows s es (some h)) : (s = some h ∧ Holding h es) ∨
    ∃ before mid, es = before ++ .acquire h :: mid ∧ Holding h mid := by
  induction es generalizing s with
  | nil =>
    cases hf
    exact .inl ⟨rfl, by simp [Holding]⟩
  | cons e es ih =>
    cases hf with
    | cons hstep hrest =>
      cases ih hrest with
      | inl hheld =>
        obtain ⟨ht, hmid⟩ := hheld
        cases hstep with
        | acquire g =>
          cases ht
          exact .inr ⟨[], es, rfl, hmid⟩
        | use g =>
          cases ht
          exact .inl ⟨rfl, hmid.cons (.inl rfl)⟩
        | release g => cases ht
        | other => exact .inl ⟨ht, hmid.cons (.inr rfl)⟩
      | inr hbefore =>
        obtain ⟨before, mid, heq, hmid⟩ := hbefore
        exact .inr ⟨e :: before, mid, by rw [heq]; rfl, hmid⟩

theorem acquired_of_none (hf : Follows none es (some h)) :
    ∃ before mid, es = before ++ .acquire h :: mid ∧ Holding h mid := by
  apply hf.acquired.resolve_left
  intro hheld
  cases hheld.1

/-- Acquisitions and releases keep step. -/
theorem count (hf : Follows s es t) : s.toList.length + es.countP Event.isAcquire =
    es.countP Event.isRelease + t.toList.length := by
  induction hf with
  | nil s => simp
  | cons hstep hrest ih =>
    cases hstep with
    | acquire h =>
      simp [List.countP_cons, Event.isAcquire, Event.isRelease] at ih ⊢
      omega
    | use h => simpa [Event.isAcquire, Event.isRelease] using ih
    | release h =>
      simp [List.countP_cons, Event.isAcquire, Event.isRelease] at ih ⊢
      omega
    | other s => simpa [Event.isAcquire, Event.isRelease] using ih

theorem disciplined (hf : Follows none es none) : Disciplined es := by
  constructor
  · intro pre h post heq
    subst heq
    obtain ⟨u, -, hrest⟩ := hf.split
    cases hrest with
    | cons hstep hrest =>
      cases hstep
      exact hrest.released
  · intro pre h post heq
    subst heq
    obtain ⟨u, hpre, hrest⟩ := hf.split
    cases hrest with
    | cons hstep hrest =>
      cases hstep
      exact hpre.acquired_of_none
  · intro pre h post heq
    subst heq
    obtain ⟨u, hpre, hrest⟩ := hf.split
    cases hrest with
    | cons hstep hrest =>
      cases hstep
      exact hpre.acquired_of_none
  · intro pre post heq
    subst heq
    obtain ⟨u, hpre, -⟩ := hf.split
    have hcount := hpre.count
    cases u with
    | none =>
      simp only [Option.toList_none, List.length_nil] at hcount
      omega
    | some h =>
      simp only [Option.toList_none, Option.toList_some, List.length_nil, List.length_cons] at hcount
      omega
  · simpa using hf.count

end Follows

section Programs
variable {Op : Type} {Ans : Op → Type} {ε α β : Type} (event : (op : Op) → Ans op → Event H)

/-- Starting with `s` in hand, the program keeps the discipline whatever the answers are;
what it holds where it returns or raises meets `Q` or `E`. -/
def Keeps : Prog Ans ε α → (α → Option H → Prop) → (ε → Option H → Prop) → Option H → Prop
  | .ret a, Q, _, s => Q a s
  | .raise e, _, E, s => E e s
  | .call op k, Q, E, s => ∀ x, ∃ t, Step s (event op x) t ∧ Keeps (k x) Q E t

/-- The events of a run. -/
def events (t : List (Σ op, Ans op)) : List (Event H) := t.map fun e => event e.1 e.2

variable {event} {Q : α → Option H → Prop} {E : ε → Option H → Prop} {s : Option H}

namespace Keeps

theorem pure {a : α} (h : Q a s) : Keeps event (Pure.pure a : Prog Ans ε α) Q E s := h

theorem perform {op : Op} {Q : Ans op → Option H → Prop}
    (h : ∀ x, ∃ t, Step s (event op x) t ∧ Q x t) :
    Keeps event (Prog.perform op : Prog Ans ε _) Q E s := h

theorem bind {p : Prog Ans ε α} {f : α → Prog Ans ε β} {Q : β → Option H → Prop}
    (R : α → Option H → Prop) (hp : Keeps event p R E s)
    (hf : ∀ a t, R a t → Keeps event (f a) Q E t) : Keeps event (p >>= f) Q E s := by
  induction p generalizing s with
  | ret a => exact hf a s hp
  | raise e => exact hp
  | call op k ih =>
    intro x
    obtain ⟨t, hstep, hk⟩ := hp x
    exact ⟨t, hstep, ih x hk⟩

/-- The events of any run follow the automaton. -/
theorem follows {σ : Type} (h : σ → (op : Op) → Ans op × σ) {p : Prog Ans ε α}
    (hp : Keeps event p Q E s) (w : σ) : ∃ t, Follows s (events event (p.transcript h w)) t ∧
      (∀ a, (p.exec h w).1 = .ok a → Q a t) ∧ ∀ e, (p.exec h w).1 = .error e → E e t := by
  induction p generalizing s w with
  | ret a =>
    refine ⟨s, .nil s, ?_, ?_⟩
    · intro b hb
      cases hb
      exact hp
    · intro e he
      cases he
  | raise e =>
    refine ⟨s, .nil s, ?_, ?_⟩
    · intro b hb
      cases hb
    · intro e' he
      cases he
      exact hp
  | call op k ih =>
    obtain ⟨t, hstep, hk⟩ := hp (h w op).1
    obtain ⟨u, hrest, hpost⟩ := ih (h w op).1 hk (h w op).2
    exact ⟨u, .cons hstep hrest, hpost⟩

/-- A program that begins and ends with nothing in hand. -/
theorem disciplined {σ : Type} (h : σ → (op : Op) → Ans op × σ) {p : Prog Ans ε α}
    (hp : Keeps event p (fun _ t => t = none) (fun _ t => t = none) none) (w : σ) :
    Disciplined (events event (p.transcript h w)) := by
  obtain ⟨t, hf, hok, herror⟩ := hp.follows h w
  have ht : t = none := by
    cases hend : (p.exec h w).1 with
    | ok a => exact hok a hend
    | error e => exact herror e hend
  subst ht
  exact hf.disciplined

end Keeps
end Programs
end Custody
