import Mathlib

/-!
# Sieving a list and keeping its best item

A sieve rejects some items of a list, each under one label, and keeps the rest
in order; a scan of the kept items ends at one of maximal rank. Both are told
by counts, filters and `List.argmax`, which no reordering of the items changes
when ranks are distinct.
-/
namespace Selection

open Function (update)

section Sieve

variable {α ρ : Type*} (classify : α → Option ρ)

def kept (l : List α) : List α := l.filter (fun a => (classify a).isNone)

@[simp] theorem mem_kept {l : List α} {a : α} : a ∈ kept classify l ↔ a ∈ l ∧ classify a = none := by
  simp [kept]

theorem kept_perm {l₁ l₂ : List α} (h : l₁.Perm l₂) :
    (kept classify l₁).Perm (kept classify l₂) :=
  h.filter _

variable [DecidableEq ρ]

/-- Count the item under the label it is rejected with, or keep it. -/
def sift (acc : (ρ → Nat) × List α) (a : α) : (ρ → Nat) × List α :=
  match classify a with
  | some r => (update acc.1 r (acc.1 r + 1), acc.2)
  | none => (acc.1, acc.2 ++ [a])

def sieve (l : List α) : (ρ → Nat) × List α := l.foldl (sift classify) (fun _ => 0, [])

/-- How many items are rejected under `r`. -/
def rejected (l : List α) (r : ρ) : Nat := l.countP (fun a => classify a = some r)

theorem sieve_concat (l : List α) (a : α) :
    sieve classify (l ++ [a]) = sift classify (sieve classify l) a := by
  simp [sieve]

theorem sieve_eq (l : List α) : sieve classify l = (rejected classify l, kept classify l) := by
  induction l using List.reverseRecOn with
  | nil => rfl
  | append_singleton l a ih =>
    rw [sieve_concat, ih, sift]
    cases h : classify a with
    | none =>
      have hcount : rejected classify (l ++ [a]) = rejected classify l := by
        funext r
        simp [rejected, List.countP_append, h]
      have hkept : kept classify (l ++ [a]) = kept classify l ++ [a] := by
        simp [kept, h]
      rw [hcount, hkept]
    | some r =>
      have hcount : rejected classify (l ++ [a]) =
          update (rejected classify l) r (rejected classify l r + 1) := by
        funext r'
        by_cases hr : r' = r
        · subst r'; simp [rejected, List.countP_append, h]
        · simp [rejected, List.countP_append, h, hr, Ne.symm hr]
      have hkept : kept classify (l ++ [a]) = kept classify l := by
        simp [kept, h]
      rw [hcount, hkept]

theorem rejected_perm {l₁ l₂ : List α} (h : l₁.Perm l₂) :
    rejected classify l₁ = rejected classify l₂ := by
  funext r
  exact h.countP_eq _

/-- The counts add up to the items that were not kept. -/
theorem sum_rejected [Fintype ρ] (l : List α) :
    ∑ r, rejected classify l r = l.countP (fun a => (classify a).isSome) := by
  induction l with
  | nil => simp [rejected]
  | cons a l ih =>
    simp only [rejected, List.countP_cons, Finset.sum_add_distrib] at ih ⊢
    rw [ih]
    congr 1
    cases h : classify a with
    | none => simp
    | some r => simp

end Sieve

section Best

variable {α β : Type*} [LinearOrder β] (rank : α → β)

/-- Scan for an item of maximal rank; the earlier of two equal ones stays. -/
def best (first : α) (rest : List α) : α :=
  rest.foldl (fun a b => if rank a < rank b then b else a) first

theorem best_eq_argmax (first : α) (rest : List α) :
    some (best rank first rest) = (first :: rest).argmax rank := by
  induction rest using List.reverseRecOn with
  | nil => rfl
  | append_singleton rest b ih =>
    rw [← List.cons_append, List.argmax_concat, ← ih]
    simp only [best, List.foldl_append, List.foldl_cons, List.foldl_nil]
    exact apply_ite some _ _ _

/-- Keep the item at hand unless the next one ranks above it. -/
def upgrade (current : Option α) (a : α) : Option α :=
  match current with
  | none => some a
  | some c => if rank c < rank a then some a else some c

theorem foldl_upgrade (l l' : List α) :
    l'.foldl (upgrade rank) (l.argmax rank) = (l ++ l').argmax rank := by
  induction l' using List.reverseRecOn with
  | nil => simp
  | append_singleton l' a ih =>
    rw [List.foldl_append, ih, ← List.append_assoc, List.argmax_concat]
    cases (l ++ l').argmax rank <;> rfl

theorem foldl_upgrade_option (current : Option α) (l : List α) :
    l.foldl (upgrade rank) current = (current.toList ++ l).argmax rank := by
  cases current with
  | none => exact foldl_upgrade rank [] l
  | some a => exact foldl_upgrade rank [a] l

variable {rank}

theorem argmax_concat_of_lt {l : List α} {b : α} (h : ∀ a ∈ l, rank a < rank b) :
    (l ++ [b]).argmax rank = some b := by
  rw [List.argmax_concat]
  cases hmax : l.argmax rank with
  | none => rfl
  | some c => exact if_pos (h c (List.argmax_mem (by rw [hmax]; rfl)))

/-- An item that some other item outranks does not influence the scan. -/
theorem argmax_insert {xs ys : List α} {a m : α} (hm : m ∈ xs ++ ys) (h : rank a < rank m) :
    (xs ++ a :: ys).argmax rank = (xs ++ ys).argmax rank := by
  induction ys using List.reverseRecOn generalizing m with
  | nil =>
    rw [List.append_nil] at hm ⊢
    rw [List.argmax_concat]
    cases hmax : xs.argmax rank with
    | none =>
      rw [List.argmax_eq_none] at hmax
      subst hmax
      cases hm
    | some b =>
      have hle : rank m ≤ rank b := List.le_of_mem_argmax hm (by rw [hmax]; rfl)
      exact if_neg (not_lt.mpr (le_of_lt (lt_of_lt_of_le h hle)))
  | append_singleton ys b ih =>
    rw [← List.cons_append, ← List.append_assoc, ← List.append_assoc]
    by_cases hmem : ∃ n ∈ xs ++ ys, rank a < rank n
    · obtain ⟨n, hn, hlt⟩ := hmem
      rw [List.argmax_concat, List.argmax_concat, ih hn hlt]
    · -- only the last item outranks `a`, so it outranks everything before it
      have hmb : m = b := by
        rw [← List.append_assoc, List.mem_append, List.mem_singleton] at hm
        exact hm.resolve_left (fun hn => hmem ⟨m, hn, h⟩)
      subst m
      have hlt : ∀ n ∈ xs ++ ys, rank n < rank b := by
        intro n hn
        have hle : rank n ≤ rank a := not_lt.mp (fun hlt => hmem ⟨n, hn, hlt⟩)
        exact lt_of_le_of_lt hle h
      rw [argmax_concat_of_lt hlt, argmax_concat_of_lt]
      intro n hn
      rcases List.mem_append.mp hn with hn | hn
      · exact hlt n (List.mem_append_left _ hn)
      · rcases List.mem_cons.mp hn with rfl | hn
        · exact h
        · exact hlt n (List.mem_append_right _ hn)

/-- With distinct ranks the maximal item is the only one the scan can find. -/
theorem argmax_eq_some {l : List α} {m : α} (hinj : ∀ a ∈ l, ∀ b ∈ l, rank a = rank b → a = b)
    (hm : m ∈ l) (hmax : ∀ a ∈ l, rank a ≤ rank m) : l.argmax rank = some m := by
  cases h : l.argmax rank with
  | none =>
    rw [List.argmax_eq_none] at h
    subst h
    cases hm
  | some b =>
    have hb : b ∈ l := List.argmax_mem (by rw [h]; rfl)
    have hle : rank m ≤ rank b := List.le_of_mem_argmax hm (by rw [h]; rfl)
    rw [hinj m hm b hb (le_antisymm hle (hmax b hb))]

/-- The same items in any order, however often each of them comes. -/
theorem argmax_of_mem_iff {l₁ l₂ : List α} (hinj : ∀ a ∈ l₁, ∀ b ∈ l₁, rank a = rank b → a = b)
    (h : ∀ a, a ∈ l₁ ↔ a ∈ l₂) : l₁.argmax rank = l₂.argmax rank := by
  cases hmax : l₂.argmax rank with
  | none =>
    rw [List.argmax_eq_none] at hmax ⊢
    subst hmax
    exact List.eq_nil_iff_forall_not_mem.mpr fun a ha => by cases (h a).mp ha
  | some m =>
    have hm : m ∈ l₂ := List.argmax_mem (by rw [hmax]; rfl)
    apply argmax_eq_some hinj ((h m).mpr hm)
    intro a ha
    exact List.le_of_mem_argmax ((h a).mp ha) (by rw [hmax]; rfl)

theorem argmax_perm {l₁ l₂ : List α} (hinj : ∀ a ∈ l₁, ∀ b ∈ l₁, rank a = rank b → a = b)
    (h : l₁.Perm l₂) : l₁.argmax rank = l₂.argmax rank :=
  argmax_of_mem_iff hinj fun _ => h.mem_iff

end Best

end Selection
