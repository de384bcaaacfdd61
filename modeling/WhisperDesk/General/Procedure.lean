import WhisperDesk.General.Reverting

/-!
# Procedures that write in place

A procedure over `EStateM` writes its state as it goes, and an early return keeps
what was written by then. `Commits x f` says that all of `x` happens or none of
it: where the function `f` of the starting state succeeds, `x` ends with its
value in its state; where `f` fails, `x` fails alike in the state it started
from. The rules follow the statements: whatever may fail comes first, and what
is written stays.
-/
namespace Procedure

variable {ε δ σ τ α β : Type}

/-- Something read off the state, or worked out beside it: an early return writes
nothing. -/
def consult (r : σ → Except ε α) : EStateM ε σ α := fun s =>
  match r s with
  | .ok a => .ok a s
  | .error e => .error e s

/-- A procedure on a part of a larger state, with its errors reworded. -/
def within (get : τ → σ) (put : σ → τ → τ) (word : ε → δ) (x : EStateM ε σ α) : EStateM δ τ α :=
  fun t =>
    match x.run (get t) with
    | .ok a s => .ok a (put s t)
    | .error e s => .error (word e) (put s t)

def Commits (x : EStateM ε σ α) (f : σ → Except ε (α × σ)) : Prop :=
  ∀ s, x.run s = match f s with
    | .ok (a, s') => .ok a s'
    | .error e => .error e s

namespace Commits

theorem consult {r : σ → Except ε α} {k : α → EStateM ε σ β} {f : α → σ → Except ε (β × σ)}
    (hk : ∀ a, Commits (k a) (f a)) :
    Commits (consult r >>= k) (fun s => r s >>= fun a => f a s) := by
  intro s
  cases hr : r s with
  | error e =>
    simp only [Procedure.consult, EStateM.run, bind, EStateM.bind, hr, Except.bind]
  | ok a =>
    simp only [Procedure.consult, EStateM.run, bind, EStateM.bind, hr, Except.bind]
    exact hk a s

/-- Writes, once nothing can fail any more. -/
theorem writes {x : EStateM ε σ α} {a : σ → α} {t : σ → σ} (h : ∀ s, x.run s = .ok (a s) (t s)) :
    Commits x (fun s => pure (a s, t s)) := h

/-- A procedure on a part, followed by writes. -/
theorem within {x : EStateM ε σ α} {f : σ → Except ε (α × σ)} {get : τ → σ} {put : σ → τ → τ}
    {word : ε → δ} (hput : ∀ t, put (get t) t = t) (hx : Commits x f) {k : α → EStateM δ τ β}
    {b : α → β} {t : σ → τ → τ} (hk : ∀ a s u, (k a).run (put s u) = .ok (b a) (t s u)) :
    Commits (within get put word x >>= k)
      (fun u => (f (get u)).mapError word >>= fun p => pure (b p.1, t p.2 u)) := by
  intro u
  have hrun := hx (get u)
  cases hf : f (get u) with
  | error e =>
    rw [hf] at hrun
    simp only [Procedure.within, EStateM.run, bind, EStateM.bind, Except.mapError, Except.bind] at hrun ⊢
    simp only [hrun, hf, hput]
  | ok p =>
    rw [hf] at hrun
    simp only [Procedure.within, EStateM.run, bind, EStateM.bind, Except.mapError, Except.bind] at hrun ⊢
    simp only [hrun, hf]
    exact hk p.1 p.2 u

end Commits

end Procedure
