import Mathlib.Data.List.Basic

/-!
# Unwinding

Runs of a state machine in which some events are hidden from an observer. An
unwinding relation is kept by a hidden event on one side alone and by a visible
event on both sides, which then shows the observer the same; so a run shows what
is left of it once its hidden events are purged, and two runs that leave the
same show the same.
-/
namespace Unwinding

variable {σ ε ω : Type*} (step : ε → σ → σ) (out : ε → σ → Option ω) (hidden : ε → Bool)

def run (s : σ) (events : List ε) : σ := events.foldl (fun s e => step e s) s

@[simp] theorem run_nil (s : σ) : run step s [] = s := rfl

@[simp] theorem run_cons (s : σ) (e : ε) (events : List ε) :
    run step s (e :: events) = run step (step e s) events := rfl

/-- Everything the observer is shown, in order. -/
def shown (s : σ) : List ε → List ω
  | [] => []
  | e :: events => (out e s).toList ++ shown (step e s) events

/-- What is left of a run without its hidden events. -/
def purge (events : List ε) : List ε := events.filter fun e => !hidden e

/-- `R` is an unwinding for the events in `allowed`. -/
structure Unwinds (allowed : ε → Prop) (R : σ → σ → Prop) : Prop where
  silent : ∀ e s, hidden e = true → out e s = none
  hides : ∀ e s t, hidden e = true → R s t → R (step e s) t
  keeps : ∀ e s t, allowed e → hidden e = false → R s t → R (step e s) (step e t)
  shows : ∀ e s t, hidden e = false → R s t → out e s = out e t

namespace Unwinds

variable {step out hidden} {allowed : ε → Prop} {R : σ → σ → Prop}

theorem purged (h : Unwinds step out hidden allowed R) {s t : σ} (hR : R s t) {events : List ε}
    (hallowed : ∀ e ∈ events, allowed e) :
    R (run step s events) (run step t (purge hidden events)) ∧
      shown step out s events = shown step out t (purge hidden events) := by
  induction events generalizing s t with
  | nil => exact ⟨hR, rfl⟩
  | cons e events ih =>
    rw [List.forall_mem_cons] at hallowed
    replace ih := fun {s t} hst => @ih s t hst hallowed.2
    cases he : hidden e with
    | true =>
      obtain ⟨hrun, hshown⟩ := ih (h.hides e s t he hR)
      have hpurge : purge hidden (e :: events) = purge hidden events := by simp [purge, he]
      rw [hpurge, run_cons, shown, h.silent e s he]
      exact ⟨hrun, hshown⟩
    | false =>
      obtain ⟨hrun, hshown⟩ := ih (h.keeps e s t hallowed.1 he hR)
      have hpurge : purge hidden (e :: events) = e :: purge hidden events := by simp [purge, he]
      rw [hpurge, run_cons, run_cons, shown, shown, h.shows e s t he hR, hshown]
      exact ⟨hrun, rfl⟩

/-- Runs that differ in hidden events only look alike, and so do their last states. -/
theorem two_runs (h : Unwinds step out hidden allowed R) {s : σ} (hs : R s s)
    (hR : ∀ u v w, R u w → R v w → R u v) {xs ys : List ε} (hxs : ∀ e ∈ xs, allowed e)
    (hys : ∀ e ∈ ys, allowed e) (hpurge : purge hidden xs = purge hidden ys) :
    R (run step s xs) (run step s ys) ∧ shown step out s xs = shown step out s ys := by
  obtain ⟨hrunx, hshownx⟩ := h.purged hs hxs
  obtain ⟨hruny, hshowny⟩ := h.purged hs hys
  rw [hpurge] at hrunx hshownx
  exact ⟨hR _ _ _ hrunx hruny, hshownx.trans hshowny.symm⟩

end Unwinds

end Unwinding
