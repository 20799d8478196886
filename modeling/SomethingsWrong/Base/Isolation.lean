import SomethingsWrong.Base.Interleaving

/-! A stretch of a thread whose operations touch nothing that the environment changes
meanwhile. It does beside the environment what it does alone. -/
namespace Program.Prog
variable {Op : Type} {Ans : Op → Type} {ε α β : Type}

/-- All operations that the program can come to are of the kind `ok`. -/
def Uses (ok : Op → Prop) : Prog Ans ε α → Prop
  | ret _ => True
  | raise _ => True
  | call op k => ok op ∧ ∀ x, Uses ok (k x)

namespace Uses
variable {ok : Op → Prop}

theorem perform {op : Op} (h : ok op) : Uses ok (Prog.perform op : Prog Ans ε (Ans op)) :=
  ⟨h, fun _ => trivial⟩

theorem ite {c : Prop} [Decidable c] {p q : Prog Ans ε α} (hp : Uses ok p) (hq : Uses ok q) :
    Uses ok (if c then p else q) := by
  split_ifs
  · exact hp
  · exact hq

theorem bind {p : Prog Ans ε α} {f : α → Prog Ans ε β} (hp : Uses ok p)
    (hf : ∀ a, Uses ok (f a)) : Uses ok (p >>= f) := by
  induction p with
  | ret a => exact hf a
  | raise e => trivial
  | call op k ih => exact ⟨hp.1, fun x => ih x (hp.2 x)⟩

end Uses
end Program.Prog

namespace Interleaving
open LabelledRun Program Prog
variable {Op : Type} {Ans : Op → Type} {ε α τ : Type}

/-- `R` relates the state beside the environment to the state that the thread would have
alone. The environment keeps it, and operations of the kind `calm` cannot tell the two
apart. -/
structure Isolates (W : World Ans) (alone : τ → (op : Op) → Ans op × τ) (calm : Op → Prop)
    (R : W.State → τ → Prop) : Prop where
  env : ∀ {s t e s'}, R s t → W.interfere s e = some s' → R s' t
  answer : ∀ {s t op} x, calm op → R s t → (W.handle s op x).1 = (alone t op).1
  kept : ∀ {s t op} x, calm op → R s t → R (W.handle s op x).2 (alone t op).2

variable {W : World Ans} {alone : τ → (op : Op) → Ans op × τ} {calm : Op → Prop}
  {R : W.State → τ → Prop} {adm : W.Choice → Prop} {req : W.State → Op → Prop}

theorem Isolates.drift (h : Isolates W alone calm R) {s s' : W.State} {t : τ} (hR : R s t)
    (hd : Drift W s s') : R s' t :=
  hd.invariant hR fun _ _ _ hu _ hs => h.env hu hs

/-- What the stretch returns and leaves behind is what it returns and leaves behind alone. -/
theorem Isolates.ensures (h : Isolates W alone calm R) {p : Prog Ans ε α} (hp : p.Uses calm)
    {s : W.State} {t : τ} (hR : R s t) {Q : α → W.State → Prop} {E : ε → W.State → Prop}
    (hreq : ∀ s t op, calm op → R s t → req s op)
    (hok : ∀ a t', exec alone p t = (.ok a, t') → ∀ s', R s' t' → Q a s')
    (herror : ∀ e t', exec alone p t = (.error e, t') → ∀ s', R s' t' → E e s') :
    Ensures W adm req p Q E s := by
  induction p generalizing s t with
  | ret a => exact fun s' hd => hok a t rfl s' (h.drift hR hd)
  | raise e => exact fun s' hd => herror e t rfl s' (h.drift hR hd)
  | call op k ih =>
    intro s' hd
    have hR' := h.drift hR hd
    refine ⟨hreq s' t op hp.1 hR', fun x _ => ?_⟩
    rw [h.answer x hp.1 hR']
    exact ih _ (hp.2 _) (h.kept x hp.1 hR') hok herror

/-- A run in which the environment stays away is one of those that `Ensures` speaks of. -/
theorem Ensures.exec {p : Prog Ans ε α} {s s' : W.State} {a : α} {Q : α → W.State → Prop}
    {E : ε → W.State → Prop} (h : Ensures W adm req p Q E s) {x : W.Choice} (hx : adm x)
    (hexec : exec (fun s op => W.handle s op x) p s = (.ok a, s')) : Q a s' := by
  induction p generalizing s with
  | ret b =>
    obtain ⟨hb, rfl⟩ := Prod.mk.inj hexec
    exact Except.ok.inj hb ▸ h s (Leads.refl s)
  | raise e => cases hexec
  | call op k ih => exact ih _ ((h s (Leads.refl s)).2 x hx) hexec

theorem leads_of_exec {round p : Prog Ans ε Unit} {s s' : W.State} {x : W.Choice} (hx : adm x)
    (hexec : exec (fun s op => W.handle s op x) p s = (.ok (), s')) :
    Leads (step W round) (Admits adm) ⟨some p, s⟩ ⟨some (.ret ()), s'⟩ := by
  induction p generalizing s with
  | ret _ =>
    obtain ⟨-, rfl⟩ := Prod.mk.inj hexec
    exact Leads.refl _
  | raise e => cases hexec
  | call op k ih =>
    have hstep : step W round ⟨some (.call op k), s⟩ (.perform x) =
        some ⟨some (k (W.handle s op x).1), (W.handle s op x).2⟩ := rfl
    exact (Leads.single (show Admits adm (.perform x) from hx) hstep).trans (ih _ hexec)

/-- And so is a whole round. -/
theorem leads_round {round : Prog Ans ε Unit} {s s' : W.State} {x : W.Choice} (hx : adm x)
    (hexec : exec (fun s op => W.handle s op x) round s = (.ok (), s')) :
    Leads (step W round) (Admits adm) ⟨none, s⟩ ⟨none, s'⟩ := by
  have hbegin : step W round ⟨none, s⟩ .begin = some ⟨some round, s⟩ := rfl
  have hfinish : step W round ⟨some (.ret ()), s'⟩ .finish = some ⟨none, s'⟩ := rfl
  have hmiddle : Leads (step W round) (Admits adm) ⟨some round, s⟩ ⟨some (.ret ()), s'⟩ :=
    leads_of_exec hx hexec
  have hlast : Admits adm (.finish : Label W) := trivial
  exact ((Leads.single (l := .begin) trivial hbegin).trans hmiddle).tail hlast hfinish

end Interleaving
