import Mathlib.Control.Basic

/-! Sequential programs over atomic operations whose answers come from outside, with
exceptions. A program is a tree: at each operation it waits for the answer. The same
program can be executed by a handler or run beside other threads. -/
namespace Program

/-- Programs that perform operations `Op`, wait for answers `Ans op`, and return an
`α` or raise an `ε`. -/
inductive Prog {Op : Type} (Ans : Op → Type) (ε α : Type) where
  | ret (a : α)
  | raise (e : ε)
  | call (op : Op) (k : Ans op → Prog Ans ε α)

namespace Prog
variable {Op : Type} {Ans : Op → Type} {ε α β σ : Type}

def bind : Prog Ans ε α → (α → Prog Ans ε β) → Prog Ans ε β
  | ret a, f => f a
  | raise e, _ => raise e
  | call op k, f => call op fun x => bind (k x) f

def tryCatch : Prog Ans ε α → (ε → Prog Ans ε α) → Prog Ans ε α
  | ret a, _ => ret a
  | raise e, f => f e
  | call op k, f => call op fun x => tryCatch (k x) f

instance : Monad (Prog Ans ε) where
  pure := ret
  bind := bind

instance : MonadExceptOf ε (Prog Ans ε) where
  throw := raise
  tryCatch := tryCatch

/-- Perform one operation and return its answer. -/
def perform (op : Op) : Prog Ans ε (Ans op) := call op ret

/-- An answer that is itself a return or an exception, as the callee's. -/
def ofExcept : Except ε α → Prog Ans ε α
  | .ok a => ret a
  | .error e => raise e

theorem bind_ret (p : Prog Ans ε α) : bind p ret = p := by
  induction p with
  | ret a => rfl
  | raise e => rfl
  | call op k ih => exact congrArg (call op) (funext ih)

theorem bind_bind (p : Prog Ans ε α) (f : α → Prog Ans ε β) {γ : Type} (g : β → Prog Ans ε γ) :
    bind (bind p f) g = bind p fun a => bind (f a) g := by
  induction p with
  | ret a => rfl
  | raise e => rfl
  | call op k ih => exact congrArg (call op) (funext ih)

instance : LawfulMonad (Prog Ans ε) :=
  LawfulMonad.mk' _ bind_ret (fun _ _ => rfl) fun p f g => bind_bind p f g

/-- Execute against a deterministic handler; the state survives an exception. -/
def exec (h : σ → (op : Op) → Ans op × σ) : Prog Ans ε α → σ → Except ε α × σ
  | ret a, s => (.ok a, s)
  | raise e, s => (.error e, s)
  | call op k, s => exec h (k (h s op).1) (h s op).2

variable (h : σ → (op : Op) → Ans op × σ)

@[simp] theorem exec_pure (a : α) (s : σ) : exec h (pure a : Prog Ans ε α) s = (.ok a, s) := rfl

@[simp] theorem exec_perform (op : Op) (s : σ) :
    exec h (perform op : Prog Ans ε _) s = (.ok (h s op).1, (h s op).2) := rfl

@[simp] theorem exec_ofExcept (r : Except ε α) (s : σ) :
    exec h (ofExcept r : Prog Ans ε α) s = (r, s) := by
  cases r <;> rfl

theorem exec_bind (p : Prog Ans ε α) (f : α → Prog Ans ε β) (s : σ) :
    exec h (p >>= f) s = match exec h p s with
      | (.ok a, s') => exec h (f a) s'
      | (.error e, s') => (.error e, s') := by
  induction p generalizing s with
  | ret a => rfl
  | raise e => rfl
  | call op k ih => exact ih (h s op).1 (h s op).2

theorem exec_bind_ok {p : Prog Ans ε α} {f : α → Prog Ans ε β} {s s' : σ} {a : α}
    (hp : exec h p s = (.ok a, s')) : exec h (p >>= f) s = exec h (f a) s' := by
  rw [exec_bind, hp]

@[simp] theorem exec_map (f : α → β) (p : Prog Ans ε α) (s : σ) :
    exec h (f <$> p) s = ((exec h p s).1.map f, (exec h p s).2) := by
  induction p generalizing s with
  | ret a => rfl
  | raise e => rfl
  | call op k ih => exact ih (h s op).1 (h s op).2

theorem exec_tryCatch (p : Prog Ans ε α) (f : ε → Prog Ans ε α) (s : σ) :
    exec h (MonadExcept.tryCatch p f) s = match exec h p s with
      | (.ok a, s') => (.ok a, s')
      | (.error e, s') => exec h (f e) s' := by
  induction p generalizing s with
  | ret a => rfl
  | raise e => rfl
  | call op k ih => exact ih (h s op).1 (h s op).2

end Prog
end Program
