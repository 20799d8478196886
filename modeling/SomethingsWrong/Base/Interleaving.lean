import SomethingsWrong.Base.LabelledRun
import SomethingsWrong.Base.Program

/-! A program that one thread runs over and over, beside an environment that may step
between any two of its operations: the labelled system this gives, and the rules to
prove what holds whenever the thread is between two rounds and what holds when it
performs an operation. -/
namespace Interleaving
open LabelledRun Program

/-- What surrounds the program: the state, the answers to operations, in which `Choice`
is what comes from outside, and the steps of the environment. -/
structure World {Op : Type} (Ans : Op → Type) where
  State : Type
  Choice : Type
  handle : State → (op : Op) → Choice → Ans op × State
  Env : Type
  interfere : State → Env → Option State

variable {Op : Type} {Ans : Op → Type} {ε α β : Type}

/-- `prog` is what remains of the current round; between two rounds it is `none`. -/
structure Config (W : World Ans) (ε : Type) where
  prog : Option (Prog Ans ε Unit)
  state : W.State

inductive Label (W : World Ans) where
  | begin
  | perform (c : W.Choice)
  | finish
  | env (e : W.Env)

/-- One step of the thread that repeats `round`, or of the environment. -/
def step (W : World Ans) (round : Prog Ans ε Unit) (c : Config W ε) :
    Label W → Option (Config W ε)
  | .begin => match c.prog with
    | none => some { c with prog := some round }
    | some _ => none
  | .perform x => match c.prog with
    | some (.call op k) =>
      let (a, s) := W.handle c.state op x
      some ⟨some (k a), s⟩
    | _ => none
  | .finish => match c.prog with
    | some (.ret ()) => some { c with prog := none }
    | _ => none
  | .env e => (W.interfere c.state e).map fun s => { c with state := s }

/-- What one step can do: begin a round, perform its next operation, finish it, or let the
environment step in. -/
theorem step_cases {W : World Ans} {round : Prog Ans ε Unit} {c c' : Config W ε} {l : Label W}
    (hs : step W round c l = some c') :
    (l = .begin ∧ c.prog = none ∧ c' = ⟨some round, c.state⟩) ∨
    (∃ x op k, l = .perform x ∧ c.prog = some (.call op k) ∧
      c' = ⟨some (k (W.handle c.state op x).1), (W.handle c.state op x).2⟩) ∨
    (l = .finish ∧ c.prog = some (.ret ()) ∧ c' = ⟨none, c.state⟩) ∨
    ∃ e s', l = .env e ∧ W.interfere c.state e = some s' ∧ c' = ⟨c.prog, s'⟩ := by
  obtain ⟨prog, s⟩ := c
  cases l with
  | begin =>
    cases prog with
    | none =>
      cases hs
      exact .inl ⟨rfl, rfl, rfl⟩
    | some p => cases hs
  | perform x =>
    match prog, hs with
    | some (.call op k), hs =>
      cases hs
      exact .inr (.inl ⟨x, op, k, rfl, rfl, rfl⟩)
  | finish =>
    match prog, hs with
    | some (.ret ()), hs =>
      cases hs
      exact .inr (.inr (.inl ⟨rfl, rfl, rfl⟩))
  | env e =>
    obtain ⟨s', hs', rfl⟩ := Option.map_eq_some_iff.mp hs
    exact .inr (.inr (.inr ⟨e, s', rfl, hs', rfl⟩))

/-- The answers admitted by `adm` are the only ones used. -/
def Admits {W : World Ans} (adm : W.Choice → Prop) : Label W → Prop
  | .perform x => adm x
  | _ => True

section Rules
variable (W : World Ans) (adm : W.Choice → Prop) (req : W.State → Op → Prop)

/-- The environment cannot invalidate the assertion. -/
def Stable (P : W.State → Prop) : Prop :=
  ∀ s e s', P s → W.interfere s e = some s' → P s'

/-- Any number of steps of the environment. -/
def Drift (s s' : W.State) : Prop := Leads W.interfere (fun _ => True) s s'

/-- However the environment steps in and answers, the program performs an operation only
where `req` allows it, returns only with `Q` and raises only with `E`. -/
def Ensures : Prog Ans ε α → (α → W.State → Prop) → (ε → W.State → Prop) → W.State → Prop
  | .ret a, Q, _, s => ∀ s', Drift W s s' → Q a s'
  | .raise e, _, E, s => ∀ s', Drift W s s' → E e s'
  | .call op k, Q, E, s => ∀ s', Drift W s s' → req s' op ∧
      ∀ x, adm x → Ensures (k (W.handle s' op x).1) Q E (W.handle s' op x).2

def Triple (P : W.State → Prop) (p : Prog Ans ε α) (Q : α → W.State → Prop)
    (E : ε → W.State → Prop) : Prop :=
  ∀ s, P s → Ensures W adm req p Q E s

end Rules

variable {W : World Ans} {adm : W.Choice → Prop} {req : W.State → Op → Prop}

theorem Stable.drift {P : W.State → Prop} (h : Stable W P) {s s' : W.State}
    (hd : Drift W s s') (hs : P s) : P s' :=
  hd.invariant hs fun t e t' ht _ hstep => h t e t' ht hstep

theorem Ensures.drift {p : Prog Ans ε α} {Q : α → W.State → Prop} {E : ε → W.State → Prop}
    {s s' : W.State} (h : Ensures W adm req p Q E s) (hd : Drift W s s') :
    Ensures W adm req p Q E s' := by
  cases p with
  | ret a => exact fun t ht => h t (hd.trans ht)
  | raise e => exact fun t ht => h t (hd.trans ht)
  | call op k => exact fun t ht => h t (hd.trans ht)

theorem Ensures.mono {p : Prog Ans ε α} {Q Q' : α → W.State → Prop} {E E' : ε → W.State → Prop}
    {s : W.State} (h : Ensures W adm req p Q E s) (hQ : ∀ a s, Q a s → Q' a s)
    (hE : ∀ e s, E e s → E' e s) : Ensures W adm req p Q' E' s := by
  induction p generalizing s with
  | ret a => exact fun t ht => hQ a t (h t ht)
  | raise e => exact fun t ht => hE e t (h t ht)
  | call op k ih =>
    intro t ht
    obtain ⟨hr, hk⟩ := h t ht
    exact ⟨hr, fun x hx => ih _ (hk x hx)⟩

theorem Ensures.bind {p : Prog Ans ε α} {f : α → Prog Ans ε β} {R : α → W.State → Prop}
    {Q : β → W.State → Prop} {E : ε → W.State → Prop} {s : W.State}
    (h : Ensures W adm req p R E s) (hf : ∀ a s, R a s → Ensures W adm req (f a) Q E s) :
    Ensures W adm req (p >>= f) Q E s := by
  induction p generalizing s with
  | ret a => exact hf a s (h s (Leads.refl s))
  | raise e => exact h
  | call op k ih =>
    intro t ht
    obtain ⟨hr, hk⟩ := h t ht
    exact ⟨hr, fun x hx => ih _ (hk x hx)⟩

theorem Ensures.tryCatch {p : Prog Ans ε α} {f : ε → Prog Ans ε α} {Q : α → W.State → Prop}
    {E R : ε → W.State → Prop} {s : W.State} (h : Ensures W adm req p Q R s)
    (hf : ∀ e s, R e s → Ensures W adm req (f e) Q E s) :
    Ensures W adm req (tryCatchThe ε p f) Q E s := by
  induction p generalizing s with
  | ret a => exact h
  | raise e => exact hf e s (h s (Leads.refl s))
  | call op k ih =>
    intro t ht
    obtain ⟨hr, hk⟩ := h t ht
    exact ⟨hr, fun x hx => ih _ (hk x hx)⟩

namespace Triple
variable {P R : W.State → Prop} {Q : α → W.State → Prop} {E : ε → W.State → Prop}

theorem pure (a : α) (hQ : Stable W (Q a)) (h : ∀ s, P s → Q a s) :
    Triple W adm req P (Pure.pure a : Prog Ans ε α) Q E :=
  fun s hs _ hd => hQ.drift hd (h s hs)

/-- One operation: its precondition survives interference before it, its postcondition after. -/
theorem perform {op : Op} {Q : Ans op → W.State → Prop} (hP : Stable W P)
    (hQ : ∀ a, Stable W (Q a))
    (h : ∀ s, P s → req s op ∧ ∀ x, adm x → Q (W.handle s op x).1 (W.handle s op x).2) :
    Triple W adm req P (Prog.perform op : Prog Ans ε (Ans op)) Q E := by
  intro s hs t hd
  obtain ⟨hr, hx⟩ := h t (hP.drift hd hs)
  exact ⟨hr, fun x hadm u hu => (hQ _).drift hu (hx x hadm)⟩

theorem ofExcept {r : Except ε α} (hok : ∀ a, r = .ok a → Stable W (Q a) ∧ ∀ s, P s → Q a s)
    (herror : ∀ e, r = .error e → Stable W (E e) ∧ ∀ s, P s → E e s) :
    Triple W adm req P (Prog.ofExcept r : Prog Ans ε α) Q E := by
  cases r with
  | ok a => exact fun s hs t hd => (hok a rfl).1.drift hd ((hok a rfl).2 s hs)
  | error e => exact fun s hs t hd => (herror e rfl).1.drift hd ((herror e rfl).2 s hs)

theorem bind {p : Prog Ans ε α} {f : α → Prog Ans ε β} {Q : β → W.State → Prop}
    (R : α → W.State → Prop) (h : Triple W adm req P p R E)
    (hf : ∀ a, Triple W adm req (R a) (f a) Q E) : Triple W adm req P (p >>= f) Q E :=
  fun s hs => (h s hs).bind hf

theorem tryCatch {p : Prog Ans ε α} {f : ε → Prog Ans ε α} (R : ε → W.State → Prop)
    (h : Triple W adm req P p Q R) (hf : ∀ e, Triple W adm req (R e) (f e) Q E) :
    Triple W adm req P (tryCatchThe ε p f) Q E :=
  fun s hs => (h s hs).tryCatch hf

theorem conseq {P' : W.State → Prop} {Q' : α → W.State → Prop} {E' : ε → W.State → Prop}
    {p : Prog Ans ε α} (h : Triple W adm req P' p Q' E') (hP : ∀ s, P s → P' s)
    (hQ : ∀ a s, Q' a s → Q a s) (hE : ∀ e s, E' e s → E e s) : Triple W adm req P p Q E :=
  fun s hs => (h s (hP s hs)).mono hQ hE

/-- The end of a loop body that goes on. -/
theorem yield {I : β → W.State → Prop} (b : β) (hI : ∀ b, Stable W (I b)) (h : ∀ s, P s → I b s) :
    Triple W adm req P (Pure.pure (ForInStep.yield b) : Prog Ans ε (ForInStep β))
      (fun r s => ∃ b', r = ForInStep.yield b' ∧ I b' s) E := by
  refine Triple.pure _ ?_ fun s hs => ⟨b, rfl, h s hs⟩
  intro s e s' hs hstep
  obtain ⟨b', hb, hs⟩ := hs
  exact ⟨b', hb, hI b' s e s' hs hstep⟩

theorem pre {P' : W.State → Prop} {p : Prog Ans ε α} (h : Triple W adm req P' p Q E)
    (hP : ∀ s, P s → P' s) : Triple W adm req P p Q E :=
  fun s hs => h s (hP s hs)

theorem post {Q' : α → W.State → Prop} {p : Prog Ans ε α} (h : Triple W adm req P p Q' E)
    (hQ : ∀ a s, Q' a s → Q a s) : Triple W adm req P p Q E :=
  h.conseq (fun _ hs => hs) hQ (fun _ _ hs => hs)

theorem raises {E' : ε → W.State → Prop} {p : Prog Ans ε α} (h : Triple W adm req P p Q E')
    (hE : ∀ e s, E' e s → E e s) : Triple W adm req P p Q E :=
  h.conseq (fun _ hs => hs) (fun _ _ hs => hs) hE

/-- A `for` loop that never breaks: `I` relates the elements already visited, the
loop's variable and the state. -/
theorem forIn {γ : Type} (l : List γ) (f : γ → β → Prog Ans ε (ForInStep β))
    (I : List γ → β → W.State → Prop) (b : β) {E : ε → W.State → Prop}
    (h : ∀ done x rest b, l = done ++ x :: rest →
      Triple W adm req (I done b) (f x b)
        (fun r s => ∃ b', r = .yield b' ∧ I (done ++ [x]) b' s) E)
    (hend : ∀ b, Stable W (I l b)) :
    Triple W adm req (I [] b) (ForIn.forIn l b f : Prog Ans ε β) (I l) E := by
  suffices hs : ∀ rest done b, l = done ++ rest →
      Triple W adm req (I done b) (ForIn.forIn rest b f : Prog Ans ε β) (I l) E from
    hs l [] b rfl
  intro rest
  induction rest with
  | nil =>
    intro done b hl
    obtain rfl : l = done := by simpa using hl
    exact pure b (hend b) fun _ hs => hs
  | cons x rest ih =>
    intro done b hl
    rw [List.forIn_cons]
    apply bind _ (h done x rest b hl)
    intro r s hr
    obtain ⟨b', rfl, hI'⟩ := hr
    exact ih (done ++ [x]) b' (by simp [hl]) s hI'

end Triple

section Rounds
variable {κ : Type} (W : World Ans) (adm : W.Choice → Prop) (req : κ → W.State → Op → Prop)
  (J : κ → W.State → Prop) (I : W.State → Prop)

/-- `I` between two rounds; in the middle of one, an index chosen at its beginning that
still satisfies `J` and under which the rest of the round is safe and ends in `I`. -/
def Sound (c : Config W ε) : Prop :=
  match c.prog with
  | none => I c.state
  | some p => ∃ i, J i c.state ∧ Ensures W adm (req i) p (fun _ => I) (fun _ _ => False) c.state

variable {W adm req J I}

/-- One step. What a round guarantees is only used where one begins. -/
theorem Sound.step {round : Prog Ans ε Unit} {c c' : Config W ε} {l : Label W}
    (hI : Stable W I) (hJ : ∀ i, Stable W (J i))
    (hperform : ∀ i s op x, J i s → adm x → J i (W.handle s op x).2)
    (hround : c.prog = none → I c.state → ∃ i, J i c.state ∧
      Ensures W adm (req i) round (fun _ => I) (fun _ _ => False) c.state)
    (h : Sound W adm req J I c) (hl : Admits adm l)
    (hs : step W round c l = some c') : Sound W adm req J I c' := by
  obtain ⟨prog, s⟩ := c
  obtain ⟨rfl, rfl, rfl⟩ | ⟨x, op, k, rfl, rfl, rfl⟩ | ⟨rfl, rfl, rfl⟩ | ⟨e, s', rfl, hs', rfl⟩ :=
    step_cases hs
  · exact hround rfl h
  · obtain ⟨i, hj, h⟩ := h
    exact ⟨i, hperform i s op x hj hl, (h s (Leads.refl s)).2 x hl⟩
  · obtain ⟨i, -, h⟩ := h
    exact h s (Leads.refl s)
  · cases prog with
    | none => exact hI s e s' h hs'
    | some p =>
      obtain ⟨i, hj, h⟩ := h
      exact ⟨i, hJ i s e s' hj hs', Ensures.drift h (Leads.single trivial hs')⟩

theorem Sound.leads {round : Prog Ans ε Unit} (hI : Stable W I) (hJ : ∀ i, Stable W (J i))
    (hperform : ∀ i s op x, J i s → adm x → J i (W.handle s op x).2)
    (hround : ∀ s, I s → ∃ i, J i s ∧
      Ensures W adm (req i) round (fun _ => I) (fun _ _ => False) s)
    {c c' : Config W ε} (h : Sound W adm req J I c)
    (hl : Leads (Interleaving.step W round) (Admits adm) c c') : Sound W adm req J I c' :=
  hl.invariant h fun t _ _ ht ha hs => ht.step hI hJ hperform (fun _ => hround t.state) ha hs

/-- The next operation of a sound configuration is one that its index allows. -/
theorem Sound.next {c : Config W ε} {op : Op} {k : Ans op → Prog Ans ε Unit}
    (h : Sound W adm req J I c) (hp : c.prog = some (.call op k)) :
    ∃ i, J i c.state ∧ req i c.state op := by
  unfold Sound at h
  rw [hp] at h
  obtain ⟨i, hj, h⟩ := h
  exact ⟨i, hj, (h c.state (Leads.refl _)).1⟩

end Rounds
end Interleaving
