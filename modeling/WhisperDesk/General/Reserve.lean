import Mathlib.Logic.Relation
import Mathlib.Algebra.BigOperators.Group.Finset.Piecewise
import WhisperDesk.General.Mapping

/-!
# Reserve pools

What a custody contract is for, over arbitrary account and claim types: an
account's money is free, reserved under a claim, paid out on a settled claim or
taken back by its owner, and the pool holds at least everything it still owes.
Both facts are fields, so a pool that loses track of a unit cannot be built.
-/
namespace Reserve

open Function (update)

/-- A reservation: whose money it is, and how much. -/
structure Claim (A : Type) where
  owner : A
  amount : Nat
  deriving DecidableEq

variable {A I : Type}

def amountOf : Option (Claim A) → Nat
  | none => 0
  | some c => c.amount

/-- The part of a reservation that belongs to account `a`. -/
def shareOf [DecidableEq A] (a : A) : Option (Claim A) → Nat
  | none => 0
  | some c => if c.owner = a then c.amount else 0

@[simp] theorem amountOf_none : amountOf (none : Option (Claim A)) = 0 := rfl
@[simp] theorem amountOf_some (c : Claim A) : amountOf (some c) = c.amount := rfl

variable [DecidableEq A]

@[simp] theorem shareOf_none (a : A) : shareOf a none = 0 := rfl
@[simp] theorem shareOf_some (a : A) (c : Claim A) :
    shareOf a (some c) = if c.owner = a then c.amount else 0 := rfl

variable [Fintype I]

/-- The reservations standing against account `a`. -/
def reservedBy (r : I → Option (Claim A)) (a : A) : Nat := Mapping.total r (shareOf a)

theorem reservedBy_update [DecidableEq I] (r : I → Option (Claim A)) (i : I) (c : Option (Claim A)) (a : A) :
    reservedBy (update r i c) a + shareOf a (r i) = reservedBy r a + shareOf a c :=
  Mapping.total_update r i c (shareOf a)

variable [Fintype A]

theorem sum_shareOf (c : Option (Claim A)) : ∑ a, shareOf a c = amountOf c := by
  cases c with
  | none => simp
  | some c => simp

/-- Every reserved unit is reserved against exactly one account. -/
theorem sum_reservedBy (r : I → Option (Claim A)) :
    ∑ a, reservedBy r a = Mapping.total r amountOf := by
  unfold reservedBy Mapping.total
  rw [Finset.sum_comm]
  exact Finset.sum_congr rfl (fun i _ => sum_shareOf (r i))

structure Pool (A I : Type) [Fintype A] [DecidableEq A] [Fintype I] where
  free : A → Nat
  reserved : I → Option (Claim A)
  credited : A → Nat
  debited : A → Nat
  paid : A → Nat
  held : Nat
  balanced : ∀ a, free a + reservedBy reserved a + debited a + paid a = credited a
  solvent : (∑ a, free a) + Mapping.total reserved amountOf ≤ held

namespace Pool

theorem reserved_le (p : Pool A I) (i : I) (c : Claim A) (h : p.reserved i = some c) :
    c.amount ≤ reservedBy p.reserved c.owner := by
  have hle := Mapping.weigh_le_total p.reserved i (shareOf c.owner)
  rw [h, shareOf_some, if_pos rfl] at hle
  exact hle

theorem free_le_held (p : Pool A I) (a : A) : p.free a ≤ p.held := by
  have hle := Finset.single_le_sum (f := p.free) (fun _ _ => Nat.zero_le _) (Finset.mem_univ a)
  have := p.solvent
  omega

theorem claim_le_held (p : Pool A I) (i : I) (c : Claim A) (h : p.reserved i = some c) :
    c.amount ≤ p.held := by
  have hle := Mapping.weigh_le_total p.reserved i amountOf
  rw [h, amountOf_some] at hle
  have := p.solvent
  omega

/-- A free balance and a standing claim are backed side by side. -/
theorem free_add_claim_le_held (p : Pool A I) (a : A) (i : I) (c : Claim A)
    (h : p.reserved i = some c) : p.free a + c.amount ≤ p.held := by
  have hfree := Finset.single_le_sum (f := p.free) (fun _ _ => Nat.zero_le _) (Finset.mem_univ a)
  have hle := Mapping.weigh_le_total p.reserved i amountOf
  rw [h, amountOf_some] at hle
  have := p.solvent
  omega

/-- What the pool owes, account by account. -/
theorem sum_position_le_held (p : Pool A I) :
    ∑ a, (p.free a + reservedBy p.reserved a) ≤ p.held := by
  rw [Finset.sum_add_distrib, sum_reservedBy]
  exact p.solvent

theorem position_le_held (p : Pool A I) (a : A) : p.free a + reservedBy p.reserved a ≤ p.held :=
  Nat.le_trans (Finset.single_le_sum (f := fun a => p.free a + reservedBy p.reserved a)
    (fun _ _ => Nat.zero_le _) (Finset.mem_univ a)) p.sum_position_le_held

/-- The pool of a fresh contract; `held` is whatever was sent there beforehand. -/
def fresh (A I : Type) [Fintype A] [DecidableEq A] [Fintype I] (held : Nat) : Pool A I where
  free := fun _ => 0
  reserved := fun _ => none
  credited := fun _ => 0
  debited := fun _ => 0
  paid := fun _ => 0
  held := held
  balanced := by
    intro a
    simp [reservedBy, Mapping.total]
  solvent := by simp [Mapping.total]

omit [Fintype I] in
theorem sum_update (f : A → Nat) (a : A) (n : Nat) :
    ∑ b, update f a n b + f a = (∑ b, f b) + n :=
  Mapping.total_update f a n id

variable [DecidableEq I]

/-- The owner pays in. -/
def credit (p : Pool A I) (a : A) (x : Nat) : Pool A I where
  free := update p.free a (p.free a + x)
  reserved := p.reserved
  credited := update p.credited a (p.credited a + x)
  debited := p.debited
  paid := p.paid
  held := p.held + x
  balanced := by
    intro b
    have := p.balanced b
    by_cases hb : b = a
    · subst b; simp only [Function.update_self]; omega
    · simpa only [Function.update_of_ne hb] using this
  solvent := by
    have hs := p.solvent
    have hf := sum_update p.free a (p.free a + x)
    omega

/-- The owner takes free money back. -/
def debit (p : Pool A I) (a : A) (x : Nat) (hx : x ≤ p.free a) : Pool A I where
  free := update p.free a (p.free a - x)
  reserved := p.reserved
  credited := p.credited
  debited := update p.debited a (p.debited a + x)
  paid := p.paid
  held := p.held - x
  balanced := by
    intro b
    have := p.balanced b
    by_cases hb : b = a
    · subst b; simp only [Function.update_self]; omega
    · simpa only [Function.update_of_ne hb] using this
  solvent := by
    have hs := p.solvent
    have hf := sum_update p.free a (p.free a - x)
    omega

/-- Free money is set aside under an unused claim. -/
def reserve (p : Pool A I) (i : I) (c : Claim A) (hx : c.amount ≤ p.free c.owner)
    (hi : p.reserved i = none) : Pool A I where
  free := update p.free c.owner (p.free c.owner - c.amount)
  reserved := update p.reserved i (some c)
  credited := p.credited
  debited := p.debited
  paid := p.paid
  held := p.held
  balanced := by
    intro b
    have hp := p.balanced b
    have hr := reservedBy_update p.reserved i (some c) b
    rw [hi, shareOf_none, shareOf_some] at hr
    by_cases hb : b = c.owner
    · subst b; simp only [Function.update_self, if_true] at hr ⊢; omega
    · rw [if_neg (Ne.symm hb)] at hr
      simp only [Function.update_of_ne hb]; omega
  solvent := by
    have hs := p.solvent
    have hf := sum_update p.free c.owner (p.free c.owner - c.amount)
    have hr := Mapping.total_update p.reserved i (some c) amountOf
    rw [hi, amountOf_none, amountOf_some] at hr
    omega

/-- A claim is dropped and its money is free again. -/
def giveBack (p : Pool A I) (i : I) (c : Claim A) (hi : p.reserved i = some c) : Pool A I where
  free := update p.free c.owner (p.free c.owner + c.amount)
  reserved := update p.reserved i none
  credited := p.credited
  debited := p.debited
  paid := p.paid
  held := p.held
  balanced := by
    intro b
    have hp := p.balanced b
    have hr := reservedBy_update p.reserved i none b
    rw [hi, shareOf_none, shareOf_some] at hr
    by_cases hb : b = c.owner
    · subst b; simp only [Function.update_self, if_true] at hr ⊢; omega
    · rw [if_neg (Ne.symm hb)] at hr
      simp only [Function.update_of_ne hb]; omega
  solvent := by
    have hs := p.solvent
    have hf := sum_update p.free c.owner (p.free c.owner + c.amount)
    have hr := Mapping.total_update p.reserved i none amountOf
    rw [hi, amountOf_none, amountOf_some] at hr
    omega

/-- A claim is settled: its money leaves the pool. -/
def payOut (p : Pool A I) (i : I) (c : Claim A) (hi : p.reserved i = some c) : Pool A I where
  free := p.free
  reserved := update p.reserved i none
  credited := p.credited
  debited := p.debited
  paid := update p.paid c.owner (p.paid c.owner + c.amount)
  held := p.held - c.amount
  balanced := by
    intro b
    have hp := p.balanced b
    have hr := reservedBy_update p.reserved i none b
    rw [hi, shareOf_none, shareOf_some] at hr
    by_cases hb : b = c.owner
    · subst b; simp only [Function.update_self, if_true] at hr ⊢; omega
    · rw [if_neg (Ne.symm hb)] at hr
      simp only [Function.update_of_ne hb]; omega
  solvent := by
    have hs := p.solvent
    have hr := Mapping.total_update p.reserved i none amountOf
    rw [hi, amountOf_none, amountOf_some] at hr
    omega

/-- Money arrives that nobody is owed. -/
def receive (p : Pool A I) (x : Nat) : Pool A I where
  __ := p
  held := p.held + x
  balanced := p.balanced
  solvent := by have := p.solvent; omega

theorem reservedBy_reserve (p : Pool A I) (i : I) (c : Claim A) (hx : c.amount ≤ p.free c.owner)
    (hi : p.reserved i = none) :
    reservedBy (p.reserve i c hx hi).reserved c.owner = reservedBy p.reserved c.owner + c.amount := by
  have hr := reservedBy_update p.reserved i (some c) c.owner
  rw [hi, shareOf_none, shareOf_some, if_pos rfl] at hr
  exact hr

theorem reservedBy_payOut (p : Pool A I) (i : I) (c : Claim A) (hi : p.reserved i = some c) :
    reservedBy (p.payOut i c hi).reserved c.owner + c.amount = reservedBy p.reserved c.owner := by
  have hr := reservedBy_update p.reserved i none c.owner
  rw [hi, shareOf_none, shareOf_some, if_pos rfl] at hr
  exact hr

/-- Nobody but `a` has anything else free or reserved in `q` than in `p`. -/
structure Frame (a : A) (p q : Pool A I) : Prop where
  free : ∀ b, b ≠ a → q.free b = p.free b
  reserved : ∀ b, b ≠ a → reservedBy q.reserved b = reservedBy p.reserved b

omit [DecidableEq I] in
theorem frame_credit (p : Pool A I) (a : A) (x : Nat) : Frame a p (p.credit a x) where
  free _ hb := Function.update_of_ne hb ..
  reserved _ _ := rfl

omit [DecidableEq I] in
theorem frame_debit (p : Pool A I) (a : A) (x : Nat) (hx : x ≤ p.free a) :
    Frame a p (p.debit a x hx) where
  free _ hb := Function.update_of_ne hb ..
  reserved _ _ := rfl

theorem frame_reserve (p : Pool A I) (i : I) (c : Claim A) (hx : c.amount ≤ p.free c.owner)
    (hi : p.reserved i = none) : Frame c.owner p (p.reserve i c hx hi) where
  free _ hb := Function.update_of_ne hb ..
  reserved b hb := by
    have hr := reservedBy_update p.reserved i (some c) b
    rw [hi, shareOf_none, shareOf_some, if_neg (Ne.symm hb)] at hr
    exact hr

/-- Dropped or settled, only its owner's reservation goes. -/
theorem reservedBy_drop {p : Pool A I} {i : I} {c : Claim A} {b : A} (hi : p.reserved i = some c)
    (hb : b ≠ c.owner) : reservedBy (update p.reserved i none) b = reservedBy p.reserved b := by
  have hr := reservedBy_update p.reserved i none b
  rw [hi, shareOf_none, shareOf_some, if_neg (Ne.symm hb)] at hr
  exact hr

theorem frame_giveBack (p : Pool A I) (i : I) (c : Claim A) (hi : p.reserved i = some c) :
    Frame c.owner p (p.giveBack i c hi) where
  free _ hb := Function.update_of_ne hb ..
  reserved _ hb := reservedBy_drop hi hb

theorem frame_payOut (p : Pool A I) (i : I) (c : Claim A) (hi : p.reserved i = some c) :
    Frame c.owner p (p.payOut i c hi) where
  free _ _ := rfl
  reserved _ hb := reservedBy_drop hi hb

omit [DecidableEq I] in
theorem Frame.receive {a : A} {p q : Pool A I} (h : Frame a p q) (x : Nat) : Frame a p (q.receive x) :=
  ⟨h.free, h.reserved⟩

end Pool

/-- One move of the abstract pool. -/
inductive Move [DecidableEq I] : Pool A I → Pool A I → Prop
  | credit (p : Pool A I) (a : A) (x : Nat) : Move p (p.credit a x)
  | debit (p : Pool A I) (a : A) (x : Nat) (hx : x ≤ p.free a) : Move p (p.debit a x hx)
  | reserve (p : Pool A I) (i : I) (c : Claim A) (hx : c.amount ≤ p.free c.owner)
      (hi : p.reserved i = none) : Move p (p.reserve i c hx hi)
  | giveBack (p : Pool A I) (i : I) (c : Claim A) (hi : p.reserved i = some c) :
      Move p (p.giveBack i c hi)
  | payOut (p : Pool A I) (i : I) (c : Claim A) (hi : p.reserved i = some c) :
      Move p (p.payOut i c hi)
  | receive (p : Pool A I) (x : Nat) : Move p (p.receive x)

/-- Any finite sequence of moves. -/
abbrev Moves [DecidableEq I] : Pool A I → Pool A I → Prop := Relation.ReflTransGen Move

end Reserve
