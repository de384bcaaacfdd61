import WhisperDesk.General.Reverting

/-!
# Calls that commute with a change of the state

A call that acts alike on a state and on its image under `g`: it reverts with
one error on both, or leaves a state and its image. The rules follow the shape
of a call. Below them, two rewrites of a mapping in either order.
-/
namespace Reverting

variable {ε α β σ τ : Type}

theorem map_bind (g : β → τ) (x : Except ε α) (f : α → Except ε β) :
    (x >>= f).map g = x >>= fun a => (f a).map g := by
  cases x <;> rfl

theorem bind_of_map (g : α → β) (x : Except ε α) (f : β → Except ε τ) :
    (x.map g) >>= f = x >>= fun a => f (g a) := by
  cases x <;> rfl

@[simp] theorem map_pure (g : α → β) (a : α) : (pure a : Except ε α).map g = pure (g a) := rfl

def Commutes (g : σ → σ) (f : σ → Except ε σ) : Prop := ∀ s, f (g s) = (f s).map g

namespace Commutes

variable {g : σ → σ} {f : σ → Except ε σ}

theorem ok (hf : Commutes g f) {s s' : σ} (h : f s = .ok s') : f (g s) = .ok (g s') := by
  rw [hf, h]
  rfl

theorem settle (hf : Commutes g f) (s : σ) :
    Reverting.settle (g s) (f (g s)) = g (Reverting.settle s (f s)) := by
  rw [hf]
  cases f s <;> rfl

/-- A call that commutes at the front of two bodies. -/
theorem next (hf : Commutes g f) {s t : σ} (ht : t = g s) {k k' : σ → Except ε σ}
    (hk : ∀ v, k' (g v) = (k v).map g) : (f t >>= k') = (f s >>= k).map g := by
  rw [ht, hf, bind_of_map, map_bind]
  exact bind_congr hk

end Commutes

end Reverting

namespace Mapping

open Function (update)

variable {K V : Type*} [DecidableEq K]

/-- Rewrites one entry of a mapping. -/
def modify (m : K → V) (k : K) (f : V → V) : K → V := update m k (f (m k))

/-- Rewrites that commute, of two entries or of one. -/
theorem modify_comm (m : K → V) (j k : K) {f g : V → V} (h : ∀ v, f (g v) = g (f v)) :
    modify (modify m j f) k g = modify (modify m k g) j f := by
  funext i
  unfold modify
  by_cases hjk : j = k
  · subst k
    by_cases hi : i = j
    · subst i; simp only [Function.update_self, h]
    · simp only [Function.update_of_ne hi]
  · by_cases hj : i = j
    · subst i; simp only [Function.update_self, Function.update_of_ne hjk]
    · by_cases hk : i = k
      · subst i; simp only [Function.update_self, Function.update_of_ne (Ne.symm hjk)]
      · simp only [Function.update_of_ne hj, Function.update_of_ne hk]

end Mapping
