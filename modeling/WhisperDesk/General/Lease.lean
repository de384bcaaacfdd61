import Mathlib.Data.Option.Basic
import Mathlib.Tactic.Common

/-!
# Leases

One slot that an owner takes for a bounded time. It can be taken when nobody
holds it or the holder's time is up, and a holder can give it back before that.
Until then nobody else takes it.
-/
namespace Lease

/-- Who took the slot, and when. -/
structure Holding (ι : Type) where
  owner : ι
  since : Nat
  deriving DecidableEq

inductive Move (ι : Type) where
  | take (i : ι) (now : Nat)
  | giveBack (i : ι)

variable {ι : Type} (ttl : Nat)

/-- The holder whose time is not up. -/
def live (now : Nat) (slot : Option (Holding ι)) : Option ι :=
  slot.bind fun h => if now < h.since + ttl then some h.owner else none

variable {ttl} {slot : Option (Holding ι)} {i : ι} {t now : Nat}

@[simp] theorem live_none : live ttl now (none : Option (Holding ι)) = none := rfl

theorem live_some : live ttl now (some ⟨i, t⟩) = some i ↔ now < t + ttl := by
  simp [live]

theorem live_some_eq_none : live ttl now (some ⟨i, t⟩) = none ↔ t + ttl ≤ now := by
  simp [live]

theorem live_eq_some (h : live ttl now slot = some i) :
    ∃ since, slot = some ⟨i, since⟩ ∧ now < since + ttl := by
  obtain ⟨⟨owner, since⟩, hslot, hlive⟩ := Option.bind_eq_some_iff.mp h
  obtain ⟨hlt, howner⟩ := Option.ite_none_right_eq_some.mp hlive
  cases howner
  exact ⟨since, hslot, hlt⟩

/-- Time that is up stays up. -/
theorem live_mono {later : Nat} (hle : now ≤ later) (h : live ttl now slot = none) :
    live ttl later slot = none := by
  cases slot with
  | none => rfl
  | some held =>
    simp only [live, Option.bind_some, ite_eq_right_iff, reduceCtorEq, imp_false, Nat.not_lt] at h ⊢
    omega

variable [DecidableEq ι] {moves : List (Move ι)}

/-- A move that its maker is not entitled to changes nothing. -/
def step (ttl : Nat) (slot : Option (Holding ι)) : Move ι → Option (Holding ι)
  | .take i now => if live ttl now slot = none then some ⟨i, now⟩ else slot
  | .giveBack i => if slot.map Holding.owner = some i then none else slot

def run (ttl : Nat) (slot : Option (Holding ι)) (moves : List (Move ι)) : Option (Holding ι) :=
  moves.foldl (step ttl) slot

@[simp] theorem run_nil : run ttl slot [] = slot := rfl

@[simp] theorem run_cons (move : Move ι) :
    run ttl slot (move :: moves) = run ttl (step ttl slot move) moves := rfl

theorem run_append (more : List (Move ι)) :
    run ttl slot (moves ++ more) = run ttl (run ttl slot moves) more := List.foldl_append

theorem take_free (h : live ttl now slot = none) : step ttl slot (.take i now) = some ⟨i, now⟩ :=
  if_pos h

@[simp] theorem giveBack_own : step ttl (some ⟨i, t⟩) (.giveBack i) = none := if_pos rfl

/-- A holder that gives nothing back keeps the slot for its time. -/
theorem run_held (htakes : ∀ j u, .take j u ∈ moves → u < t + ttl)
    (hkeeps : .giveBack i ∉ moves) : run ttl (some ⟨i, t⟩) moves = some ⟨i, t⟩ := by
  induction moves with
  | nil => rfl
  | cons move moves ih =>
    have hstep : step ttl (some ⟨i, t⟩) move = some ⟨i, t⟩ := by
      cases move with
      | take j u =>
        have hlt : u < t + ttl := htakes j u List.mem_cons_self
        rw [step, live_some.mpr hlt, if_neg (Option.some_ne_none i)]
      | giveBack j =>
        have hne : i ≠ j := by
          intro h
          subst j
          exact hkeeps List.mem_cons_self
        rw [step, if_neg (by simpa using hne)]
    rw [run_cons, hstep]
    apply ih
    · intro j u hmem
      exact htakes j u (List.mem_cons_of_mem move hmem)
    · intro hmem
      exact hkeeps (List.mem_cons_of_mem move hmem)

/-- A slot that is free again before its time was given back by its holder. -/
theorem exclusive (htakes : ∀ j u, .take j u ∈ moves → u ≤ now) (hnow : now < t + ttl)
    (hfree : live ttl now (run ttl (some ⟨i, t⟩) moves) = none) : .giveBack i ∈ moves := by
  by_contra hkeeps
  have hlt : ∀ j u, .take j u ∈ moves → u < t + ttl := by
    intro j u hmem
    exact Nat.lt_of_le_of_lt (htakes j u hmem) hnow
  rw [run_held hlt hkeeps, live_some.mpr hnow] at hfree
  cases hfree

end Lease
