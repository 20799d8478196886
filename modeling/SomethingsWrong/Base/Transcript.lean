import SomethingsWrong.Base.Program

/-! The operations of an execution, with their answers, and a bound on them that is read off
the program: `Within P` says that it performs operations of the kind `P` only and raises
nothing, whatever the answers are. -/
namespace Program.Prog
variable {Op : Type} {Ans : Op → Type} {ε α β σ : Type} (h : σ → (op : Op) → Ans op × σ)

/-- The operations performed, oldest first. -/
def transcript : Prog Ans ε α → σ → List (Σ op, Ans op)
  | ret _, _ => []
  | raise _, _ => []
  | call op k, s => ⟨op, (h s op).1⟩ :: transcript (k (h s op).1) (h s op).2

def Within (P : Op → Prop) : Prog Ans ε α → Prop
  | ret _ => True
  | raise _ => False
  | call op k => P op ∧ ∀ a, Within P (k a)

theorem transcript_bind (p : Prog Ans ε α) (f : α → Prog Ans ε β) (s : σ) :
    transcript h (p >>= f) s = transcript h p s ++ match exec h p s with
      | (.ok a, s') => transcript h (f a) s'
      | (.error _, _) => [] := by
  induction p generalizing s with
  | ret a => rfl
  | raise e => rfl
  | call op k ih => exact congrArg (_ :: ·) (ih (h s op).1 (h s op).2)

variable {P : Op → Prop} {p : Prog Ans ε α}

theorem within_pure (a : α) : Within P (pure a : Prog Ans ε α) := trivial

theorem within_perform {op : Op} (hop : P op) : Within P (perform op : Prog Ans ε _) :=
  ⟨hop, fun _ => trivial⟩

theorem Within.bind {f : α → Prog Ans ε β} (hp : Within P p) (hf : ∀ a, Within P (f a)) :
    Within P (p >>= f) := by
  induction p with
  | ret a => exact hf a
  | raise e => exact hp.elim
  | call op k ih => exact ⟨hp.1, fun a => ih a (hp.2 a)⟩

theorem Within.exec_ok (hp : Within P p) (s : σ) : ∃ a s', exec h p s = (.ok a, s') := by
  induction p generalizing s with
  | ret a => exact ⟨a, s, rfl⟩
  | raise e => exact hp.elim
  | call op k ih => exact ih _ (hp.2 _) _

theorem Within.of_mem_transcript (hp : Within P p) (s : σ) :
    ∀ e ∈ transcript h p s, P e.1 := by
  induction p generalizing s with
  | ret a => simp [transcript]
  | raise e => exact hp.elim
  | call op k ih =>
    intro e he
    cases List.mem_cons.mp he with
    | inl heq =>
      subst heq
      exact hp.1
    | inr he => exact ih _ (hp.2 _) _ e he

theorem Within.mono {Q : Op → Prop} (hp : Within P p) (h : ∀ op, P op → Q op) : Within Q p := by
  induction p with
  | ret a => trivial
  | raise e => exact hp
  | call op k ih => exact ⟨h op hp.1, fun a => ih a (hp.2 a)⟩

/-- What every operation of the kind `P` preserves, the program does. -/
theorem Within.exec_invariant {I : σ → Prop} (hp : Within P p)
    (hI : ∀ s op, P op → I s → I (h s op).2) {s : σ} (hs : I s) : I (exec h p s).2 := by
  induction p generalizing s with
  | ret a => exact hs
  | raise e => exact hp.elim
  | call op k ih => exact ih _ (hp.2 _) (hI s op hp.1 hs)

/-- Under this handler the program performs operations of the kind `P` only. -/
def Obeys (P : Op → Prop) (p : Prog Ans ε α) (s : σ) : Prop := ∀ e ∈ transcript h p s, P e.1

theorem Within.obeys (hp : Within P p) (s : σ) : Obeys h P p s := hp.of_mem_transcript h s

theorem Obeys.bind {f : α → Prog Ans ε β} {s s' : σ} {a : α} (hp : Obeys h P p s)
    (hrun : exec h p s = (.ok a, s')) (hf : Obeys h P (f a) s') : Obeys h P (p >>= f) s := by
  intro e he
  rw [transcript_bind, hrun] at he
  cases List.mem_append.mp he with
  | inl he => exact hp e he
  | inr he => exact hf e he

/-- So it is with every operation of the execution and its answer. -/
def Throughout (φ : (Σ op, Ans op) → Prop) (p : Prog Ans ε α) (s : σ) : Prop :=
  ∀ e ∈ transcript h p s, φ e

variable {h} {φ : (Σ op, Ans op) → Prop} {f : α → Prog Ans ε β} {s s' : σ} {a : α}

theorem Throughout.left (hφ : Throughout h φ (p >>= f) s) : Throughout h φ p s := by
  intro e he
  apply hφ
  rw [transcript_bind]
  exact List.mem_append_left _ he

theorem Throughout.right (hφ : Throughout h φ (p >>= f) s) (hrun : exec h p s = (.ok a, s')) :
    Throughout h φ (f a) s' := by
  intro e he
  apply hφ
  rw [transcript_bind, hrun]
  exact List.mem_append_right _ he

end Program.Prog
