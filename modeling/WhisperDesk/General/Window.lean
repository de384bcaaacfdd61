import Mathlib.Data.List.Induction

/-!
# Sliding windows

Times that are let in one after the other, each while fewer than `limit` of those before it are
less than `window` old. Any stretch of `window` then holds at most `limit` of them. A list of times
may be pruned to the recent ones at any moment: later moments do not see it.
-/
namespace Window

variable {window limit now later : Nat} {times : List Nat}

/-- The times less than `window` before `now`. -/
def recent (window now : Nat) (times : List Nat) : List Nat :=
  times.filter fun t => now - t < window

theorem recent_append (more : List Nat) :
    recent window now (times ++ more) = recent window now times ++ recent window now more :=
  List.filter_append ..

/-- Pruned now or not, it is the same later. -/
theorem recent_recent (hlater : now ≤ later) :
    recent window later (recent window now times) = recent window later times := by
  unfold recent
  rw [List.filter_filter]
  refine List.filter_congr ?_
  intro t _
  rw [Bool.and_eq_left_iff_imp]
  simp only [decide_eq_true_eq]
  intro hage
  omega

/-- Fewer are recent later on, once one of them has gone out of the window. -/
theorem length_recent_lt {t : Nat} (hrecent : t ∈ recent window now times) (hlater : now ≤ later)
    (hgone : t + window ≤ later) :
    (recent window later times).length < (recent window now times).length := by
  rw [← recent_recent hlater]
  refine List.length_filter_lt_length_iff_exists.mpr ⟨t, hrecent, ?_⟩
  simp only [decide_eq_true_eq]
  omega

/-- Each time finds room when it is let in. -/
inductive Admitted (window limit : Nat) : List Nat → Prop
  | nil : Admitted window limit []
  | concat {times : List Nat} {now : Nat} (h : Admitted window limit times)
      (hlatest : ∀ t ∈ times, t ≤ now) (hroom : (recent window now times).length < limit) :
      Admitted window limit (times ++ [now])

/-- How many of the times are in the window that starts there. -/
def within (window start : Nat) (times : List Nat) : Nat :=
  times.countP fun t => start ≤ t ∧ t < start + window

theorem within_concat (start : Nat) :
    within window start (times ++ [now]) =
      within window start times + if start ≤ now ∧ now < start + window then 1 else 0 := by
  simp [within, List.countP_append, List.countP_singleton]

/-- In the window that a new time falls in, those before it are recent. -/
theorem within_le_recent {start : Nat} (hlatest : ∀ t ∈ times, t ≤ now)
    (hnow : now < start + window) : within window start times ≤ (recent window now times).length := by
  rw [within, recent, ← List.countP_eq_length_filter]
  refine List.countP_mono_left ?_
  intro t ht hwithin
  have hle := hlatest t ht
  simp only [decide_eq_true_eq] at hwithin ⊢
  omega

theorem Admitted.within_le (h : Admitted window limit times) (start : Nat) :
    within window start times ≤ limit := by
  induction h with
  | nil => exact Nat.zero_le _
  | @concat times now _ hlatest hroom ih =>
    rw [within_concat]
    by_cases hnow : start ≤ now ∧ now < start + window
    · rw [if_pos hnow]
      have hrecent := within_le_recent hlatest hnow.2
      omega
    · rw [if_neg hnow]
      exact ih

/-- What is recent at any moment is one window of them. -/
theorem Admitted.length_recent_le (h : Admitted window limit times) (hlatest : ∀ t ∈ times, t ≤ now) :
    (recent window now times).length ≤ limit := by
  refine Nat.le_trans ?_ (h.within_le (now + 1 - window))
  rw [within, recent, ← List.countP_eq_length_filter]
  refine List.countP_mono_left ?_
  intro t ht hage
  have hle := hlatest t ht
  simp only [decide_eq_true_eq] at hage ⊢
  omega

end Window
