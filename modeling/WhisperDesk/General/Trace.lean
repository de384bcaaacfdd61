import Mathlib.Data.List.Basic
import Mathlib.Data.List.Induction

/-!
# Traces

What has happened in a run so far: some event of it had a property when it
came, judged by the event and those before it, or every event of it had one. What
each such event keeps holds after every such run.
-/
namespace Trace

variable {ε : Type} {Q R : List ε → ε → Prop} {events : List ε}

/-- An event of the run that has the property after the events before it. -/
def Occurred (Q : List ε → ε → Prop) (events : List ε) : Prop :=
  ∃ before e rest, events = before ++ e :: rest ∧ Q before e

theorem Occurred.concat (h : Occurred Q events) (e : ε) : Occurred Q (events ++ [e]) := by
  obtain ⟨before, e', rest, rfl, hQ⟩ := h
  exact ⟨before, e', rest ++ [e], by simp, hQ⟩

theorem Occurred.last {e : ε} (h : Q events e) : Occurred Q (events ++ [e]) :=
  ⟨events, e, [], rfl, h⟩

/-- Every event has the property after those before it, the first of which are given. -/
def AlwaysFrom (Q : List ε → ε → Prop) : List ε → List ε → Prop
  | _, [] => True
  | before, e :: rest => Q before e ∧ AlwaysFrom Q (before ++ [e]) rest

def Always (Q : List ε → ε → Prop) (events : List ε) : Prop := AlwaysFrom Q [] events

theorem alwaysFrom_append {before rest : List ε} :
    AlwaysFrom Q before (events ++ rest) ↔
      AlwaysFrom Q before events ∧ AlwaysFrom Q (before ++ events) rest := by
  induction events generalizing before with
  | nil => simp [AlwaysFrom]
  | cons e events ih => simp [AlwaysFrom, ih, and_assoc]

theorem always_concat {e : ε} : Always Q (events ++ [e]) ↔ Always Q events ∧ Q events e := by
  simp [Always, alwaysFrom_append, AlwaysFrom]

theorem Always.left {rest : List ε} (h : Always Q (events ++ rest)) : Always Q events :=
  (alwaysFrom_append.mp h).1

theorem Always.at {before rest : List ε} {e : ε} (h : Always Q events)
    (hevents : events = before ++ e :: rest) : Q before e := by
  rw [hevents, List.append_cons] at h
  exact (always_concat.mp h.left).2

/-- What the empty run has, and every event with the property keeps, holds after the run. -/
theorem Always.run {holds : List ε → Prop} (h : Always Q events) (start : holds [])
    (step : ∀ before e, holds before → Q before e → holds (before ++ [e])) : holds events := by
  induction events using List.reverseRecOn with
  | nil => exact start
  | append_singleton events e ih =>
    obtain ⟨hevents, hlast⟩ := always_concat.mp h
    exact step events e (ih hevents) hlast

end Trace
