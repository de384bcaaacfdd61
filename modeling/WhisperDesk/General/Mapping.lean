import Mathlib.Algebra.BigOperators.Group.Finset.Basic
import Mathlib.Algebra.BigOperators.Fin
import Mathlib.Algebra.Order.BigOperators.Group.Finset

/-!
# Totals over finite mappings

A contract mapping is a total function on a finite key type, written one key at
a time. `total` adds up a weight over every key; the update rule says how one
write moves the total.
-/
namespace Mapping

open Function (update)

variable {K V : Type*} [Fintype K]

/-- The sum of `weigh` over every entry of the mapping. -/
def total (m : K → V) (weigh : V → Nat) : Nat := ∑ k, weigh (m k)

/-- One write exchanges the old entry's weight for the new entry's. -/
theorem total_update [DecidableEq K] (m : K → V) (k : K) (v : V) (weigh : V → Nat) :
    total (update m k v) weigh + weigh (m k) = total m weigh + weigh v := by
  have hnew := Finset.add_sum_erase Finset.univ (fun i => weigh (update m k v i)) (Finset.mem_univ k)
  have hold := Finset.add_sum_erase Finset.univ (fun i => weigh (m i)) (Finset.mem_univ k)
  have hrest : ∑ i ∈ Finset.univ.erase k, weigh (update m k v i) =
      ∑ i ∈ Finset.univ.erase k, weigh (m i) :=
    Finset.sum_congr rfl (by
      intro i hi
      rw [Function.update_of_ne (Finset.ne_of_mem_erase hi)])
  simp only [Function.update_self] at hnew
  unfold total
  omega

theorem total_update_of_eq [DecidableEq K] (m : K → V) (k : K) (v : V) (weigh : V → Nat)
    (h : weigh v = weigh (m k)) : total (update m k v) weigh = total m weigh := by
  have := total_update m k v weigh
  omega

theorem weigh_le_total (m : K → V) (k : K) (weigh : V → Nat) : weigh (m k) ≤ total m weigh :=
  Finset.single_le_sum (f := fun i => weigh (m i)) (fun _ _ => Nat.zero_le _) (Finset.mem_univ k)

theorem total_eq_zero (m : K → V) (weigh : V → Nat) (h : ∀ k, weigh (m k) = 0) :
    total m weigh = 0 :=
  Finset.sum_eq_zero (fun k _ => h k)

omit [Fintype K] in
/-- A view of a mapping, entry by entry, is written where the mapping is. -/
theorem view_update {W : Type*} [DecidableEq K] {m : K → V} {view : V → W} {seen : K → W} {k : K}
    {v : V} {x : W} (h : seen = fun k => view (m k)) (hv : view v = x) :
    update seen k x = fun j => view (update m k v j) := by
  subst h hv
  exact (Function.comp_update view m k v).symm

omit [Fintype K] in
theorem update_add_apply [DecidableEq K] (m : K → Nat) (k : K) (x : Nat) (j : K) :
    update m k (m k + x) j = m j + if k = j then x else 0 := by
  by_cases hj : k = j
  · subst hj
    rw [Function.update_self, if_pos rfl]
  · rw [Function.update_of_ne (Ne.symm hj), if_neg hj]
    rfl

end Mapping
