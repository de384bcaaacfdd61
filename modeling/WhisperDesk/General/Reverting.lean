import Mathlib

/-!
# Calls that revert

A call returns the next state or reverts with an error; a reverted call leaves
the state as it was. The inversion lemmas below peel a successful call apart
one guard at a time, and the run rules lift a fact about one call to every
finite sequence of calls.
-/
namespace Reverting

variable {ε α β σ : Type}

/-- `if (c) revert e`. -/
def revertIf (c : Prop) [Decidable c] (e : ε) : Except ε Unit :=
  if c then .error e else .ok ()

@[simp] theorem revertIf_eq_ok {c : Prop} [Decidable c] {e : ε} {u : Unit} :
    revertIf c e = .ok u ↔ ¬ c := by
  unfold revertIf
  split <;> simp_all

@[simp] theorem bind_eq_ok {x : Except ε α} {f : α → Except ε β} {b : β} :
    (x >>= f) = .ok b ↔ ∃ a, x = .ok a ∧ f a = .ok b := by
  cases x with
  | error e => simp [bind, Except.bind]
  | ok a => simp [bind, Except.bind]

@[simp] theorem pure_eq_ok {a b : α} : (pure a : Except ε α) = .ok b ↔ a = b := by
  simp [pure, Except.pure]

@[simp] theorem mapError_eq_ok {ε' : Type} {f : ε → ε'} {x : Except ε α} {a : α} :
    x.mapError f = .ok a ↔ x = .ok a := by
  cases x with
  | error e => simp [Except.mapError]
  | ok b => simp [Except.mapError]

theorem exists_ok_of_isOk {x : Except ε α} (h : x.isOk = true) : ∃ a, x = .ok a := by
  cases x with
  | error e => cases h
  | ok a => exact ⟨a, rfl⟩

/-- Two calls that end alike: with one error, or with related values. -/
inductive Alike (Q : α → β → Prop) : Except ε α → Except ε β → Prop
  | error (e : ε) : Alike Q (.error e) (.error e)
  | ok {a : α} {b : β} (h : Q a b) : Alike Q (.ok a) (.ok b)

/-- The value a callee returned, or its revert. -/
def orRevert (x : Option α) (e : ε) : Except ε α :=
  match x with
  | some a => .ok a
  | none => .error e

@[simp] theorem orRevert_eq_ok {x : Option α} {e : ε} {a : α} :
    orRevert x e = .ok a ↔ x = some a := by
  cases x <;> simp [orRevert]

/-- Checked arithmetic on `bits`-wide unsigned integers. -/
def checkedAdd (bits a b : Nat) (e : ε) : Except ε Nat :=
  if a + b < 2 ^ bits then .ok (a + b) else .error e

def checkedMul (bits a b : Nat) (e : ε) : Except ε Nat :=
  if a * b < 2 ^ bits then .ok (a * b) else .error e

def checkedSub (a b : Nat) (e : ε) : Except ε Nat :=
  if b ≤ a then .ok (a - b) else .error e

@[simp] theorem checkedAdd_eq_ok {bits a b c : Nat} {e : ε} :
    checkedAdd bits a b e = .ok c ↔ a + b < 2 ^ bits ∧ a + b = c := by
  unfold checkedAdd
  split <;> simp <;> omega

@[simp] theorem checkedMul_eq_ok {bits a b c : Nat} {e : ε} :
    checkedMul bits a b e = .ok c ↔ a * b < 2 ^ bits ∧ a * b = c := by
  unfold checkedMul
  split <;> simp <;> omega

@[simp] theorem checkedSub_eq_ok {a b c : Nat} {e : ε} :
    checkedSub a b e = .ok c ↔ b ≤ a ∧ a - b = c := by
  unfold checkedSub
  split <;> simp <;> omega

/-- An explicit narrowing cast keeps the low bits. -/
def narrow (bits n : Nat) : Nat := n % 2 ^ bits

theorem narrow_of_lt {bits n : Nat} (h : n < 2 ^ bits) : narrow bits n = n := Nat.mod_eq_of_lt h

/-- The state after a call: the call's result, or the state before it when it reverts. -/
def settle (s : σ) : Except ε σ → σ
  | .ok s' => s'
  | .error _ => s

@[simp] theorem settle_ok (s s' : σ) : settle s (.ok s' : Except ε σ) = s' := rfl

theorem settle_cases (s : σ) (r : Except ε σ) : r = .ok (settle s r) ∨ settle s r = s := by
  cases r with
  | error e => exact .inr rfl
  | ok s' => exact .inl rfl

/-- A fact that successful calls preserve is preserved by every call. -/
theorem settle_preserves {P : σ → Prop} {s : σ} {r : Except ε σ} (hs : P s)
    (h : ∀ s', r = .ok s' → P s') : P (settle s r) := by
  rcases settle_cases s r with hr | hr
  · exact h _ hr
  · rw [hr]; exact hs

section Alike

variable {α' β' : Type} {Q : α → β → Prop} {Q' : α' → β' → Prop}

theorem Alike.bind {x : Except ε α} {y : Except ε β} {f : α → Except ε α'} {g : β → Except ε β'}
    (h : Alike Q x y) (hnext : ∀ a b, Q a b → Alike Q' (f a) (g b)) :
    Alike Q' (x >>= f) (y >>= g) := by
  cases h with
  | error e => exact .error e
  | ok hab => exact hnext _ _ hab

/-- The same call first, and then what it returned on both sides. -/
theorem alike_bind {x : Except ε α} {f : α → Except ε α'} {g : α → Except ε β'}
    (hnext : ∀ a, x = .ok a → Alike Q' (f a) (g a)) : Alike Q' (x >>= f) (x >>= g) := by
  cases x with
  | error e => exact .error e
  | ok a => exact hnext a rfl

theorem Alike.mapError {ε' : Type} {x : Except ε α} {y : Except ε β} (h : Alike Q x y) (f : ε → ε') :
    Alike Q (x.mapError f) (y.mapError f) := by
  cases h with
  | error e => exact .error (f e)
  | ok hab => exact .ok hab

end Alike

section Runs

variable {τ : Type} (exec : τ → σ → Except ε σ)

/-- Run a list of calls in order. -/
def run (s : σ) (calls : List τ) : σ := calls.foldl (fun s c => settle s (exec c s)) s

@[simp] theorem run_cons (s : σ) (c : τ) (calls : List τ) :
    run exec s (c :: calls) = run exec (settle s (exec c s)) calls := rfl

theorem run_append (s : σ) (xs ys : List τ) :
    run exec s (xs ++ ys) = run exec (run exec s xs) ys := by
  simp [run]

theorem run_concat (s : σ) (xs : List τ) (c : τ) :
    run exec s (xs ++ [c]) = settle (run exec s xs) (exec c (run exec s xs)) := by
  simp [run]

/-- An invariant of single successful calls holds after every run. -/
theorem run_invariant {P : σ → Prop} {s : σ} (calls : List τ) (hs : P s)
    (hstep : ∀ c ∈ calls, ∀ s s', P s → exec c s = .ok s' → P s') : P (run exec s calls) := by
  induction calls generalizing s with
  | nil => exact hs
  | cons c calls ih =>
    rw [run_cons]
    apply ih
    · exact settle_preserves hs (fun s' h => hstep c (by simp) s s' hs h)
    · intro c' hc'
      exact hstep c' (by simp [hc'])

/-- The history form: the fact may also mention the calls made so far. -/
theorem run_history {P : List τ → σ → Prop} {s : σ} (calls : List τ) (hs : P [] s)
    (hok : ∀ pre c s', P pre (run exec s pre) → exec c (run exec s pre) = .ok s' →
      P (pre ++ [c]) s')
    (hrevert : ∀ pre c, P pre (run exec s pre) → P (pre ++ [c]) (run exec s pre)) :
    P calls (run exec s calls) := by
  induction calls using List.reverseRecOn with
  | nil => exact hs
  | append_singleton pre c ih =>
    rw [run_concat]
    rcases settle_cases (run exec s pre) (exec c (run exec s pre)) with h | h
    · exact hok pre c _ ih h
    · rw [h]; exact hrevert pre c ih

end Runs

end Reverting
