import Mathlib

/-!
# Replaying an event log

A system appends events to a log, newest first; an observer folds the same
events into a view. The log tells everything the view shows when every change
of the view is the fold of the events the change appended. That property
composes, so one lemma per operation gives it for whole runs and from any
checkpoint.
-/
namespace EventLog

variable {ε σ ω : Type*}

/-- Fold a log, oldest event first, into a view. -/
def replay (apply : ε → σ → σ) (view : σ) (log : List ε) : σ := log.foldr apply view

@[simp] theorem replay_nil (apply : ε → σ → σ) (view : σ) : replay apply view [] = view := rfl

@[simp] theorem replay_cons (apply : ε → σ → σ) (view : σ) (e : ε) (log : List ε) :
    replay apply view (e :: log) = apply e (replay apply view log) := rfl

theorem replay_append (apply : ε → σ → σ) (view : σ) (new old : List ε) :
    replay apply view (new ++ old) = replay apply (replay apply view old) new := by
  induction new with
  | nil => rfl
  | cons e new ih => rw [List.cons_append, replay_cons, ih, replay_cons]

/-- An observer: how a state shows, what its log holds and what an event changes. -/
structure Observer (ε σ ω : Type*) where
  view : ω → σ
  log : ω → List ε
  apply : ε → σ → σ

namespace Observer

variable (o : Observer ε σ ω) {u v w : ω}

/-- The log grew by events that account for the whole change of the view. -/
def Tells (v w : ω) : Prop :=
  ∃ new, o.log w = new ++ o.log v ∧ o.view w = replay o.apply (o.view v) new

variable {o}

theorem Tells.refl (w : ω) : o.Tells w w := ⟨[], rfl, rfl⟩

/-- A change that neither shows nor is logged. -/
theorem Tells.quiet (hlog : o.log w = o.log v) (hview : o.view w = o.view v) : o.Tells v w :=
  ⟨[], hlog, hview⟩

theorem Tells.trans (h : o.Tells u v) (h' : o.Tells v w) : o.Tells u w := by
  obtain ⟨new, hlog, hview⟩ := h
  obtain ⟨new', hlog', hview'⟩ := h'
  refine ⟨new' ++ new, ?_, ?_⟩
  · rw [hlog', hlog, List.append_assoc]
  · rw [hview', hview, replay_append]

/-- From an empty log, the view is the replay of everything that was logged. -/
theorem Tells.replayed (h : o.Tells v w) (hempty : o.log v = []) :
    o.view w = replay o.apply (o.view v) (o.log w) := by
  obtain ⟨new, hlog, hview⟩ := h
  rw [hview, hlog, hempty, List.append_nil]

end Observer

end EventLog
