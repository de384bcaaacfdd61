import WhisperDesk.Contracts.Chain

/-!
# BondLedger

Maker bond in FXRP. Every operation is the contract's own, with `msg.sender`
and the contract's address as arguments; each comes with the exact condition
under which it succeeds and the state it then leaves.
-/
namespace WhisperDesk.BondLedger

open Function (update)
open Reverting

/-- The transient-storage guard around the maker-facing functions. -/
def nonReentrant (body : World → Except Revert World) (w : World) : Except Revert World := do
  revertIf (w.ledger.entered = true) .reentrantCall
  let w ← body { w with ledger.entered := true }
  pure { w with ledger.entered := false }

theorem nonReentrant_eq_ok {body : World → Except Revert World} {w w' : World} :
    nonReentrant body w = .ok w' ↔ w.ledger.entered = false ∧
      ∃ v, body { w with ledger.entered := true } = .ok v ∧
        { v with ledger.entered := false } = w' := by
  simp only [nonReentrant, bind_eq_ok, revertIf_eq_ok, pure_eq_ok, Bool.not_eq_true]
  constructor
  · rintro ⟨_, he, v, hv, hw⟩
    exact ⟨he, v, hv, hw⟩
  · rintro ⟨he, v, hv, hw⟩
    exact ⟨(), he, v, hv, hw⟩

def constructor (fxrp sender : Address) : Except Revert LedgerState := do
  revertIf (fxrp = 0) (.ledger .zeroAddress)
  pure { owner := sender, escrow := 0, freeBond := fun _ => 0,
         lockedBonds := fun _ => ⟨0, 0, false⟩, entered := false }

/-- Deposits `amount` FXRP into the caller's free bond balance. -/
def depositBond (this : Address) (env : Env) (sender : Address) (amount : Nat) :
    World → Except Revert World :=
  nonReentrant fun w => do
    let newFree ← checkedAdd 256 (w.ledger.freeBond sender) amount .panic
    let w := { w with ledger.freeBond := update w.ledger.freeBond sender newFree }
    let w ← fxrpTransfer env sender this amount (.ledger .transferFailed) w
    pure (w.emit (.bondDeposited sender amount))

/-- Withdraws `amount` from the caller's free bond balance only. -/
def withdrawBond (this : Address) (env : Env) (sender : Address) (amount : Nat) :
    World → Except Revert World :=
  nonReentrant fun w => do
    let free := w.ledger.freeBond sender
    revertIf (amount > free) (.ledger (.insufficientFreeBond amount free))
    let w := { w with ledger.freeBond := update w.ledger.freeBond sender (free - amount) }
    let w ← fxrpTransfer env this sender amount (.ledger .transferFailed) w
    pure (w.emit (.bondWithdrawn sender amount))

/-- Reserves `amount` of `maker`'s free bond for `matchId`. -/
def lockBond (sender : Address) (matchId : Bytes32) (maker : Address) (amount : Nat) (w : World) :
    Except Revert World := do
  revertIf (sender ≠ w.ledger.escrow) (.ledger .notEscrow)
  let free := w.ledger.freeBond maker
  revertIf (amount > free) (.ledger (.insufficientFreeBond amount free))
  revertIf (amount ≥ 2 ^ 128) (.ledger .amountOverflow)
  let w := { w with
    ledger.freeBond := update w.ledger.freeBond maker (free - amount)
    ledger.lockedBonds := update w.ledger.lockedBonds matchId ⟨maker, narrow 128 amount, true⟩ }
  pure (w.emit (.bondLocked matchId maker amount))

/-- Returns a locked bond to the maker's free balance. -/
def releaseBond (sender : Address) (matchId : Bytes32) (w : World) : Except Revert World := do
  revertIf (sender ≠ w.ledger.escrow) (.ledger .notEscrow)
  let lb := w.ledger.lockedBonds matchId
  revertIf (lb.active = false) (.ledger (.bondNotActive matchId))
  let newFree ← checkedAdd 256 (w.ledger.freeBond lb.maker) lb.amount .panic
  let w := { w with
    ledger.lockedBonds := update w.ledger.lockedBonds matchId { lb with active := false }
    ledger.freeBond := update w.ledger.freeBond lb.maker newFree }
  pure (w.emit (.bondReleased matchId lb.maker lb.amount))

/-- Transfers a locked bond to `recipient` on default. -/
def slashBond (this : Address) (env : Env) (sender : Address) (matchId : Bytes32)
    (recipient : Address) (w : World) : Except Revert World := do
  revertIf (sender ≠ w.ledger.escrow) (.ledger .notEscrow)
  let lb := w.ledger.lockedBonds matchId
  revertIf (lb.active = false) (.ledger (.bondNotActive matchId))
  let w := { w with
    ledger.lockedBonds := update w.ledger.lockedBonds matchId { lb with active := false } }
  let w ← fxrpTransfer env this recipient lb.amount (.ledger .transferFailed) w
  pure (w.emit (.bondSlashed matchId lb.maker recipient lb.amount))

/-- One-shot binding of the escrow. -/
def setEscrow (sender e : Address) (w : World) : Except Revert World := do
  revertIf (sender ≠ w.ledger.owner) (.ledger .notOwner)
  revertIf (w.ledger.escrow ≠ 0) (.ledger .escrowAlreadySet)
  revertIf (e = 0) (.ledger .zeroAddress)
  pure { w with ledger.escrow := e }

section Specs

variable {this sender maker recipient e : Address} {env : Env} {matchId : Bytes32} {amount : Nat}
  {w w' : World}

theorem depositBond_eq_ok :
    depositBond this env sender amount w = .ok w' ↔ w.ledger.entered = false ∧
      w.ledger.freeBond sender + amount < 2 ^ 256 ∧ env.fxrp sender this amount = .accepts ∧
      ∃ h : amount ≤ w.fxrp.balanceOf sender,
        w' = { w with
          ledger.freeBond := update w.ledger.freeBond sender (w.ledger.freeBond sender + amount)
          ledger.entered := false
          fxrp := w.fxrp.move sender this amount h
          log := .bondDeposited sender amount :: .transfer sender this amount :: w.log } := by
  simp only [depositBond, nonReentrant_eq_ok, bind_eq_ok, checkedAdd_eq_ok, fxrpTransfer_eq_ok,
    pure_eq_ok, World.emit]
  constructor
  · rintro ⟨he, v, ⟨n, ⟨hlt, rfl⟩, u, ⟨hacc, hle, rfl⟩, rfl⟩, rfl⟩
    exact ⟨he, hlt, hacc, hle, rfl⟩
  · rintro ⟨he, hlt, hacc, hle, rfl⟩
    exact ⟨he, _, ⟨_, ⟨hlt, rfl⟩, _, ⟨hacc, hle, rfl⟩, rfl⟩, rfl⟩

theorem withdrawBond_eq_ok :
    withdrawBond this env sender amount w = .ok w' ↔ w.ledger.entered = false ∧
      amount ≤ w.ledger.freeBond sender ∧ env.fxrp this sender amount = .accepts ∧
      ∃ h : amount ≤ w.fxrp.balanceOf this,
        w' = { w with
          ledger.freeBond := update w.ledger.freeBond sender (w.ledger.freeBond sender - amount)
          ledger.entered := false
          fxrp := w.fxrp.move this sender amount h
          log := .bondWithdrawn sender amount :: .transfer this sender amount :: w.log } := by
  simp only [withdrawBond, nonReentrant_eq_ok, bind_eq_ok, revertIf_eq_ok, fxrpTransfer_eq_ok,
    pure_eq_ok, World.emit, Nat.not_lt, gt_iff_lt]
  constructor
  · rintro ⟨he, v, ⟨_, hfree, u, ⟨hacc, hle, rfl⟩, rfl⟩, rfl⟩
    exact ⟨he, hfree, hacc, hle, rfl⟩
  · rintro ⟨he, hfree, hacc, hle, rfl⟩
    exact ⟨he, _, ⟨(), hfree, _, ⟨hacc, hle, rfl⟩, rfl⟩, rfl⟩

/-- An accepted amount fits in `uint128`, so the cast stores it unchanged. -/
theorem lockBond_eq_ok :
    lockBond sender matchId maker amount w = .ok w' ↔ sender = w.ledger.escrow ∧
      amount ≤ w.ledger.freeBond maker ∧ amount < 2 ^ 128 ∧
      w' = { w with
        ledger.freeBond := update w.ledger.freeBond maker (w.ledger.freeBond maker - amount)
        ledger.lockedBonds := update w.ledger.lockedBonds matchId ⟨maker, amount, true⟩
        log := .bondLocked matchId maker amount :: w.log } := by
  simp only [lockBond, bind_eq_ok, revertIf_eq_ok, pure_eq_ok, World.emit, ne_eq,
    Decidable.not_not, gt_iff_lt, ge_iff_le, Nat.not_lt, Nat.not_le]
  constructor
  · rintro ⟨_, hs, _, hfree, _, hlt, rfl⟩
    rw [narrow_of_lt hlt]
    exact ⟨hs, hfree, hlt, rfl⟩
  · rintro ⟨hs, hfree, hlt, rfl⟩
    refine ⟨(), hs, (), hfree, (), hlt, ?_⟩
    rw [narrow_of_lt hlt]

theorem releaseBond_eq_ok :
    releaseBond sender matchId w = .ok w' ↔ sender = w.ledger.escrow ∧
      (w.ledger.lockedBonds matchId).active = true ∧
      w.ledger.freeBond (w.ledger.lockedBonds matchId).maker +
        (w.ledger.lockedBonds matchId).amount < 2 ^ 256 ∧
      w' = { w with
        ledger.lockedBonds := update w.ledger.lockedBonds matchId
          { w.ledger.lockedBonds matchId with active := false }
        ledger.freeBond := update w.ledger.freeBond (w.ledger.lockedBonds matchId).maker
          (w.ledger.freeBond (w.ledger.lockedBonds matchId).maker +
            (w.ledger.lockedBonds matchId).amount)
        log := .bondReleased matchId (w.ledger.lockedBonds matchId).maker
          (w.ledger.lockedBonds matchId).amount :: w.log } := by
  simp only [releaseBond, bind_eq_ok, revertIf_eq_ok, checkedAdd_eq_ok, pure_eq_ok, World.emit,
    ne_eq, Decidable.not_not, Bool.not_eq_false]
  constructor
  · rintro ⟨_, hs, _, hactive, n, ⟨hlt, rfl⟩, rfl⟩
    exact ⟨hs, hactive, hlt, rfl⟩
  · rintro ⟨hs, hactive, hlt, rfl⟩
    exact ⟨(), hs, (), hactive, _, ⟨hlt, rfl⟩, rfl⟩

theorem slashBond_eq_ok :
    slashBond this env sender matchId recipient w = .ok w' ↔ sender = w.ledger.escrow ∧
      (w.ledger.lockedBonds matchId).active = true ∧
      env.fxrp this recipient (w.ledger.lockedBonds matchId).amount = .accepts ∧
      ∃ h : (w.ledger.lockedBonds matchId).amount ≤ w.fxrp.balanceOf this,
        w' = { w with
          ledger.lockedBonds := update w.ledger.lockedBonds matchId
            { w.ledger.lockedBonds matchId with active := false }
          fxrp := w.fxrp.move this recipient (w.ledger.lockedBonds matchId).amount h
          log := .bondSlashed matchId (w.ledger.lockedBonds matchId).maker recipient
              (w.ledger.lockedBonds matchId).amount ::
            .transfer this recipient (w.ledger.lockedBonds matchId).amount :: w.log } := by
  simp only [slashBond, bind_eq_ok, revertIf_eq_ok, fxrpTransfer_eq_ok, pure_eq_ok, World.emit,
    ne_eq, Decidable.not_not, Bool.not_eq_false]
  constructor
  · rintro ⟨_, hs, _, hactive, u, ⟨hacc, hle, rfl⟩, rfl⟩
    exact ⟨hs, hactive, hacc, hle, rfl⟩
  · rintro ⟨hs, hactive, hacc, hle, rfl⟩
    exact ⟨(), hs, (), hactive, _, ⟨hacc, hle, rfl⟩, rfl⟩

theorem setEscrow_eq_ok :
    setEscrow sender e w = .ok w' ↔ sender = w.ledger.owner ∧ w.ledger.escrow = 0 ∧ e ≠ 0 ∧
      w' = { w with ledger.escrow := e } := by
  simp only [setEscrow, bind_eq_ok, revertIf_eq_ok, pure_eq_ok, ne_eq, Decidable.not_not]
  constructor
  · rintro ⟨_, hs, _, hzero, _, he, rfl⟩
    exact ⟨hs, hzero, he, rfl⟩
  · rintro ⟨hs, hzero, he, rfl⟩
    exact ⟨(), hs, (), hzero, (), he, rfl⟩

end Specs

end WhisperDesk.BondLedger
