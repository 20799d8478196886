import SomethingsWrong.Base.Interleaving
import SomethingsWrong.Base.Simulation

/-! Programs with some operations taken out. If nothing but the program itself notices an
operation, a run of the thread that performs it is also a run without it. -/
namespace Program.Prog
variable {Op : Type} {Ans : Op → Type} {ε α β γ : Type}

/-- `q` is `p` without some operations of the kind `skip`, as long as these are answered as
`ok` says. -/
inductive Erases (skip : Op → Prop) (ok : (op : Op) → Ans op → Prop) :
    Prog Ans ε α → Prog Ans ε α → Prop where
  | ret (a : α) : Erases skip ok (.ret a) (.ret a)
  | raise (e : ε) : Erases skip ok (.raise e) (.raise e)
  | keep (op : Op) {k k' : Ans op → Prog Ans ε α} (h : ∀ x, Erases skip ok (k x) (k' x)) :
      Erases skip ok (.call op k) (.call op k')
  | skip {op : Op} {k : Ans op → Prog Ans ε α} {q : Prog Ans ε α} (hop : skip op)
      (h : ∀ x, ok op x → Erases skip ok (k x) q) : Erases skip ok (.call op k) q

namespace Erases
variable {skip : Op → Prop} {ok : (op : Op) → Ans op → Prop} {p q : Prog Ans ε α}

theorem refl (p : Prog Ans ε α) : Erases skip ok p p := by
  induction p with
  | ret a => exact .ret a
  | raise e => exact .raise e
  | call op k ih => exact .keep op ih

theorem bind {f g : α → Prog Ans ε β} (h : Erases skip ok p q)
    (hf : ∀ a, Erases skip ok (f a) (g a)) : Erases skip ok (p >>= f) (q >>= g) := by
  induction h with
  | ret a => exact hf a
  | raise e => exact .raise e
  | keep op h ih => exact .keep op ih
  | skip hop h ih => exact .skip hop ih

theorem tryCatch {f g : ε → Prog Ans ε α} (h : Erases skip ok p q)
    (hf : ∀ e, Erases skip ok (f e) (g e)) :
    Erases skip ok (tryCatchThe ε p f) (tryCatchThe ε q g) := by
  induction h with
  | ret a => exact .ret a
  | raise e => exact hf e
  | keep op h ih => exact .keep op ih
  | skip hop h ih => exact .skip hop ih

/-- A loop over the elements that count does what the loop over all of them does. -/
theorem forIn (l : List γ) (counts : γ → Bool) (f g : γ → β → Prog Ans ε (ForInStep β)) (b : β)
    (hkeep : ∀ x ∈ l, counts x = true → ∀ b, Erases skip ok (f x b) (g x b))
    (hskip : ∀ x ∈ l, counts x = false → ∀ b, Erases skip ok (f x b) (pure (.yield b))) :
    Erases skip ok (ForIn.forIn l b f : Prog Ans ε β) (ForIn.forIn (l.filter counts) b g) := by
  induction l generalizing b with
  | nil => exact refl _
  | cons x l ih =>
    have hrest (b : β) := ih b (fun y hy => hkeep y (List.mem_cons_of_mem x hy))
      fun y hy => hskip y (List.mem_cons_of_mem x hy)
    have hnext (r : ForInStep β) : Erases skip ok
        (match r with
          | .done b => pure b
          | .yield b => ForIn.forIn l b f : Prog Ans ε β)
        (match r with
          | .done b => pure b
          | .yield b => ForIn.forIn (l.filter counts) b g) := by
      cases r with
      | done b => exact refl _
      | yield b => exact hrest b
    rw [List.forIn_cons]
    cases hx : counts x with
    | true =>
      rw [List.filter_cons_of_pos hx, List.forIn_cons]
      exact (hkeep x (List.mem_cons_self ..) hx b).bind hnext
    | false =>
      rw [List.filter_cons_of_neg (by simp [hx])]
      exact (hskip x (List.mem_cons_self ..) hx b).bind hnext

/-- A loop over all elements, with operations taken out of its body. -/
theorem forIn_body (l : List γ) {f g : γ → β → Prog Ans ε (ForInStep β)} (b : β)
    (h : ∀ x b, Erases skip ok (f x b) (g x b)) :
    Erases skip ok (ForIn.forIn l b f : Prog Ans ε β) (ForIn.forIn l b g) := by
  have hloop := Erases.forIn l (fun _ => true) f g b (fun x _ _ b => h x b) fun _ _ hno => by cases hno
  rwa [List.filter_true] at hloop

end Erases
end Program.Prog

namespace Interleaving
open LabelledRun Program Prog
variable {Op : Type} {Ans : Op → Type} {ε ω : Type} (W : World Ans)

/-- What is allowed to happen, and what is seen of it: the beginning of a round, and the
operations with their answers. -/
structure View (ω : Type) where
  allowed : W.State → Op → W.Choice → Bool
  allowedEnv : W.Env → Bool
  begins : W.State → List ω
  sees : W.State → (op : Op) → Ans op → List ω

variable {W}

def View.allows (V : View W ω) (c : Config W ε) : Label W → Bool
  | .perform x => match c.prog with
    | some (.call op _) => V.allowed c.state op x
    | _ => true
  | .env e => V.allowedEnv e
  | _ => true

def View.observe (V : View W ω) (c : Config W ε) : Label W → List ω
  | .begin => V.begins c.state
  | .perform x => match c.prog with
    | some (.call op _) => V.sees c.state op (W.handle c.state op x).1
    | _ => []
  | _ => []

/-- The steps that are allowed. -/
def View.step (V : View W ω) (round : Prog Ans ε Unit) : Config W ε → Label W → Option (Config W ε) :=
  restrict V.allows (Interleaving.step W round)

/-- Nobody notices the operations of the kind `skip`: related states cannot be told apart,
and such an operation leads to a related state unseen. -/
structure View.Ignores (V : View W ω) (skip : Op → Prop) (ok : (op : Op) → Ans op → Prop)
    (R : W.State → W.State → Prop) : Prop where
  answer : ∀ {s t} op x, R s t → (W.handle s op x).1 = (W.handle t op x).1
  kept : ∀ {s t} op x, R s t → R (W.handle s op x).2 (W.handle t op x).2
  allowed : ∀ {s t} op x, R s t → V.allowed s op x = V.allowed t op x
  begins : ∀ {s t}, R s t → V.begins s = V.begins t
  sees : ∀ {s t} op a, R s t → V.sees s op a = V.sees t op a
  skipped : ∀ {s t op} x, skip op → V.allowed s op x = true → R s t →
    ok op (W.handle s op x).1 ∧ V.sees s op (W.handle s op x).1 = [] ∧ R (W.handle s op x).2 t
  env : ∀ {s t s'} e, R s t → W.interfere s e = some s' →
    ∃ t', W.interfere t e = some t' ∧ R s' t'

/-- Related states, and the second thread without the operations that it skips. -/
def Matches (skip : Op → Prop) (ok : (op : Op) → Ans op → Prop) (R : W.State → W.State → Prop)
    (c d : Config W ε) : Prop :=
  R c.state d.state ∧ Option.Rel (Erases skip ok) c.prog d.prog

/-- The thread that skips the operations simulates the one that performs them. -/
theorem View.Ignores.simulates {V : View W ω} {skip : Op → Prop} {ok : (op : Op) → Ans op → Prop}
    {R : W.State → W.State → Prop} (h : V.Ignores skip ok R) {round round' : Prog Ans ε Unit}
    (hround : Erases skip ok round round') :
    Simulates (V.step round) V.observe (V.step round') V.observe (Matches skip ok R) := by
  intro c d l c' hmatch hs
  obtain ⟨hallow, hs⟩ := restrict_eq_some hs
  obtain ⟨prog, s⟩ := c
  obtain ⟨prog', t⟩ := d
  obtain ⟨hR, hprog⟩ := hmatch
  obtain ⟨rfl, rfl, rfl⟩ | ⟨x, op, k, rfl, rfl, rfl⟩ | ⟨rfl, rfl, rfl⟩ | ⟨e, s', rfl, hs', rfl⟩ :=
    step_cases hs
  · cases hprog
    exact .inl ⟨⟨some round', t⟩, rfl, (h.begins hR).symm, hR, .some hround⟩
  · cases hprog with
    | some hp =>
      cases hp with
      | keep op hk =>
        have hsame := h.answer op x hR
        refine .inl ⟨⟨some _, (W.handle t op x).2⟩, ?_, ?_, h.kept op x hR, .some (hk _)⟩
        · have hallow' : V.allowed t op x = true := (h.allowed op x hR).symm.trans hallow
          rw [hsame]
          exact restrict_of_allowed hallow'
        · exact (congrArg _ hsame.symm).trans (h.sees op _ hR).symm
      | skip hop hk =>
        obtain ⟨hok, hseen, hR'⟩ := h.skipped x hop hallow hR
        exact .inr ⟨hseen, hR', .some (hk _ hok)⟩
  · cases hprog with
    | some hp =>
      cases hp
      exact .inl ⟨⟨none, t⟩, rfl, rfl, hR, .none⟩
  · obtain ⟨t', ht', hR'⟩ := h.env e hR hs'
    refine .inl ⟨⟨prog', t'⟩, ?_, rfl, hR', hprog⟩
    have hallow' : V.allows (⟨prog', t⟩ : Config W ε) (.env e) = true := hallow
    rw [View.step, restrict_of_allowed hallow']
    simp [Interleaving.step, ht']

end Interleaving
