import SomethingsWrong.Base.Erasure

/-! Operations that a program cannot leave out: once one of some kind is performed, one of
another kind follows, and nothing in between gets in its way. -/
namespace Program.Prog
variable {Op : Type} {Ans : Op → Type} {ε α β γ : Type}

/-- A `target` operation comes next, or comes after some that only `pass`, as long as these
are answered as `ok` says. -/
inductive Heads (pass target : Op → Prop) (ok : (op : Op) → Ans op → Prop) :
    Prog Ans ε α → Prop where
  | now {op : Op} {k : Ans op → Prog Ans ε α} (hop : target op) : Heads pass target ok (.call op k)
  | later {op : Op} {k : Ans op → Prog Ans ε α} (hop : pass op)
      (h : ∀ x, ok op x → Heads pass target ok (k x)) : Heads pass target ok (.call op k)

/-- After every `trigger` operation the program heads for a `target` operation. -/
def Responds (trigger pass target : Op → Prop) (ok : (op : Op) → Ans op → Prop) :
    Prog Ans ε α → Prop
  | .ret _ => True
  | .raise _ => True
  | .call op k => ∀ x, (trigger op → Heads pass target ok (k x)) ∧
      Responds trigger pass target ok (k x)

section Rules
variable {trigger pass target : Op → Prop} {ok : (op : Op) → Ans op → Prop}

theorem Heads.bind {p : Prog Ans ε α} (h : Heads pass target ok p) (f : α → Prog Ans ε β) :
    Heads pass target ok (p >>= f) := by
  induction h with
  | now hop => exact .now hop
  | later hop h ih => exact .later hop ih

theorem Heads.tryCatch {p : Prog Ans ε α} (h : Heads pass target ok p) (f : ε → Prog Ans ε α) :
    Heads pass target ok (tryCatchThe ε p f) := by
  induction h with
  | now hop => exact .now hop
  | later hop h ih => exact .later hop ih

namespace Responds

theorem ofExcept (r : Except ε α) : Responds trigger pass target ok (Prog.ofExcept r) := by
  cases r <;> trivial

theorem perform {op : Op} (hop : ¬ trigger op) :
    Responds trigger pass target ok (Prog.perform op : Prog Ans ε (Ans op)) :=
  fun _ => ⟨fun h => absurd h hop, trivial⟩

theorem bind {p : Prog Ans ε α} {f : α → Prog Ans ε β} (h : Responds trigger pass target ok p)
    (hf : ∀ a, Responds trigger pass target ok (f a)) :
    Responds trigger pass target ok (p >>= f) := by
  induction p with
  | ret a => exact hf a
  | raise e => trivial
  | call op k ih => exact fun x => ⟨fun hop => ((h x).1 hop).bind f, ih x (h x).2⟩

theorem tryCatch {p : Prog Ans ε α} {f : ε → Prog Ans ε α} (h : Responds trigger pass target ok p)
    (hf : ∀ e, Responds trigger pass target ok (f e)) :
    Responds trigger pass target ok (tryCatchThe ε p f) := by
  induction p with
  | ret a => trivial
  | raise e => exact hf e
  | call op k ih => exact fun x => ⟨fun hop => ((h x).1 hop).tryCatch f, ih x (h x).2⟩

theorem forIn (l : List γ) {f : γ → β → Prog Ans ε (ForInStep β)} (b : β)
    (h : ∀ x ∈ l, ∀ b, Responds trigger pass target ok (f x b)) :
    Responds trigger pass target ok (ForIn.forIn l b f : Prog Ans ε β) := by
  induction l generalizing b with
  | nil => trivial
  | cons x l ih =>
    rw [List.forIn_cons]
    apply bind (h x (List.mem_cons_self ..) b)
    intro r
    cases r with
    | done b => trivial
    | yield b => exact ih b fun y hy => h y (List.mem_cons_of_mem x hy)

end Responds
end Rules
end Program.Prog

namespace Interleaving
open LabelledRun Program Prog
variable {Op : Type} {Ans : Op → Type} {ε ω : Type} {W : World Ans}

/-- Until a `target` operation the guard stays up, and from then on the goal is reached. -/
structure View.Secures (V : View W ω) (pass target : Op → Prop) (ok : (op : Op) → Ans op → Prop)
    (guard goal : W.State → Prop) : Prop where
  passes : ∀ {s op} x, pass op → V.allowed s op x = true → guard s →
    ok op (W.handle s op x).1 ∧ guard (W.handle s op x).2
  hits : ∀ {s op} x, target op → guard s → goal (W.handle s op x).2
  keeps : ∀ {s} op x, goal s → goal (W.handle s op x).2
  waits : Stable W guard
  lasts : Stable W goal

/-- The goal is reached, or the thread heads for it behind the guard. -/
def Nears (pass target : Op → Prop) (ok : (op : Op) → Ans op → Prop) (guard goal : W.State → Prop)
    (c : Config W ε) : Prop :=
  goal c.state ∨ guard c.state ∧ ∃ p, c.prog = some p ∧ Heads pass target ok p

variable {V : View W ω} {trigger pass target : Op → Prop} {ok : (op : Op) → Ans op → Prop}
  {guard goal : W.State → Prop} {round : Prog Ans ε Unit}

theorem View.Secures.step (h : V.Secures pass target ok guard goal) {c c' : Config W ε} {l : Label W}
    (hc : Nears pass target ok guard goal c) (hs : V.step round c l = some c') :
    Nears pass target ok guard goal c' := by
  obtain ⟨hallow, hs⟩ := restrict_eq_some hs
  obtain ⟨prog, s⟩ := c
  obtain ⟨rfl, rfl, rfl⟩ | ⟨x, op, k, rfl, rfl, rfl⟩ | ⟨rfl, rfl, rfl⟩ | ⟨e, s', rfl, hs', rfl⟩ :=
    step_cases hs
  · obtain hgoal | ⟨-, p, hp, -⟩ := hc
    · exact .inl hgoal
    · cases hp
  · obtain hgoal | ⟨hguard, p, hp, hheads⟩ := hc
    · exact .inl (h.keeps op x hgoal)
    · cases hp
      cases hheads with
      | now hop => exact .inl (h.hits x hop hguard)
      | later hop hk =>
        obtain ⟨hok, hguard'⟩ := h.passes x hop hallow hguard
        exact .inr ⟨hguard', _, rfl, hk _ hok⟩
  · obtain hgoal | ⟨-, p, hp, hheads⟩ := hc
    · exact .inl hgoal
    · cases hp
      cases hheads
  · obtain hgoal | ⟨hguard, hp⟩ := hc
    · exact .inl (h.lasts s e s' hgoal hs')
    · exact .inr ⟨h.waits s e s' hguard hs', hp⟩

/-- What remains of a round responds as the whole round does. -/
theorem responds_step (hround : Responds trigger pass target ok round) {c c' : Config W ε}
    {l : Label W} (hc : ∀ p, c.prog = some p → Responds trigger pass target ok p)
    (hs : Interleaving.step W round c l = some c') :
    ∀ p, c'.prog = some p → Responds trigger pass target ok p := by
  obtain ⟨rfl, -, rfl⟩ | ⟨x, op, k, rfl, hp, rfl⟩ | ⟨rfl, -, rfl⟩ | ⟨e, s', rfl, -, rfl⟩ :=
    step_cases hs
  · intro p hp
    exact Option.some.inj hp ▸ hround
  · intro q hq
    exact Option.some.inj hq ▸ (hc _ hp _).2
  · intro p hp
    cases hp
  · exact hc

/-- A trigger performed with the guard up: at the end of the round the goal is reached. -/
theorem View.Secures.response (h : V.Secures pass target ok guard goal)
    (hround : Responds trigger pass target ok round) (htrigger : ∀ op, trigger op → pass op)
    {c₀ c c' : Config W ε} {ls ks : List (Label W)} {op : Op} {k : Ans op → Prog Ans ε Unit}
    (hidle : c₀.prog = none) (hrun : run (V.step round) c₀ ls = some c)
    (hcall : c.prog = some (.call op k)) (hop : trigger op) (hguard : guard c.state)
    (hrest : run (V.step round) c ks = some c') (hend : c'.prog = none) : goal c'.state := by
  have hresponds : ∀ p, c.prog = some p → Responds trigger pass target ok p := by
    apply (leads_of_restrict hrun).invariant
    · intro p hp
      rw [hidle] at hp
      cases hp
    · intro d l d' hd _ hs
      exact responds_step hround hd hs
  have hheads : Heads pass target ok (.call op k) :=
    .later (htrigger op hop) fun x _ => (hresponds _ hcall x).1 hop
  have hnears : Nears pass target ok guard goal c' := by
    have hleads : Leads (V.step round) (fun _ => True) c c' := ⟨ks, fun _ _ => trivial, hrest⟩
    apply hleads.invariant (I := Nears pass target ok guard goal)
    · exact .inr ⟨hguard, _, hcall, hheads⟩
    · intro d l d' hd _ hs
      exact h.step hd hs
  cases hnears with
  | inl hgoal => exact hgoal
  | inr hwait =>
    obtain ⟨-, p, hp, -⟩ := hwait
    rw [hend] at hp
    cases hp

end Interleaving
