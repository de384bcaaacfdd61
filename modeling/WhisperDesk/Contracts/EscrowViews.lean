import WhisperDesk.Contracts.System
import WhisperDesk.General.Commuting

/-!
# Changes of the escrow the ledger cannot see

A change of the escrow's own storage and native balance, which keeps the log but
for the escrow's announcements of a signer. The ledger's functions and the
token's commute with every such change: they read nothing of the escrow.
-/
namespace WhisperDesk

open Reverting

def Event.announcesSigner : Event → Bool
  | .teeSignerUpdated .. => true
  | _ => false

structure EscrowView where
  escrow : EscrowState → EscrowState
  native : Nat → Nat
  log : List Event → List Event
  log_cons : ∀ (e : Event) (l : List Event), e.announcesSigner = false → log (e :: l) = e :: log l

namespace EscrowView

def apply (g : EscrowView) (w : World) : World :=
  { w with escrow := g.escrow w.escrow, native := g.native w.native, log := g.log w.log }

variable (g : EscrowView)

theorem emit (w : World) (e : Event) (he : e.announcesSigner = false) :
    (g.apply w).emit e = g.apply (w.emit e) := by
  simp only [apply, World.emit, g.log_cons e w.log he]

/-- The last step of most calls. -/
theorem finish {u w : World} (hu : u = g.apply w) (e : Event) (he : e.announcesSigner = false) :
    (pure (u.emit e) : Except Revert World) = (pure (w.emit e) : Except Revert World).map g.apply := by
  rw [map_pure, hu, g.emit w e he]

theorem fxrpTransfer (env : Env) (src dst : Address) (amount : Nat) (failed : Revert) :
    Commutes g.apply (fxrpTransfer env src dst amount failed) := by
  intro w
  unfold WhisperDesk.fxrpTransfer
  cases env.fxrp src dst amount with
  | reverts => rfl
  | returnsFalse => rfl
  | accepts =>
    by_cases h : amount ≤ w.fxrp.balanceOf src
    · rw [dif_pos h, dif_pos (show amount ≤ (g.apply w).fxrp.balanceOf src from h)]
      exact congrArg Except.ok (g.emit { w with fxrp := w.fxrp.move src dst amount h } _ rfl)
    · rw [dif_neg h, dif_neg (show ¬ amount ≤ (g.apply w).fxrp.balanceOf src from h)]
      rfl

theorem fxrpMint (dst : Address) (amount : Nat) : Commutes g.apply (fxrpMint dst amount) := by
  intro w
  unfold WhisperDesk.fxrpMint
  by_cases h : w.fxrp.totalSupply + amount < 2 ^ 256
  · rw [dif_pos h, dif_pos (show (g.apply w).fxrp.totalSupply + amount < 2 ^ 256 from h)]
    exact congrArg Except.ok (g.emit { w with fxrp := w.fxrp.mint dst amount h } _ rfl)
  · rw [dif_neg h, dif_neg (show ¬ (g.apply w).fxrp.totalSupply + amount < 2 ^ 256 from h)]
    rfl

/-- A transfer and then its event. -/
theorem pay {u w : World} (hu : u = g.apply w) (env : Env) (src dst : Address) (amount : Nat)
    (failed : Revert) (e : Event) (he : e.announcesSigner = false) :
    (WhisperDesk.fxrpTransfer env src dst amount failed u >>= fun v => pure (v.emit e)) =
      (WhisperDesk.fxrpTransfer env src dst amount failed w >>= fun v => pure (v.emit e)).map
        g.apply := by
  exact (g.fxrpTransfer env src dst amount failed).next hu fun v => g.finish rfl e he

theorem nonReentrant {body : World → Except Revert World} (hbody : Commutes g.apply body) :
    Commutes g.apply (BondLedger.nonReentrant body) := by
  intro w
  unfold BondLedger.nonReentrant
  rw [map_bind]
  refine bind_congr fun _ => ?_
  exact hbody.next (s := { w with ledger.entered := true }) rfl fun _ => rfl

theorem depositBond (this : Address) (env : Env) (sender : Address) (amount : Nat) :
    Commutes g.apply (BondLedger.depositBond this env sender amount) := by
  refine g.nonReentrant fun w => ?_
  rw [map_bind]
  refine bind_congr fun newFree => ?_
  apply g.pay <;> rfl

theorem withdrawBond (this : Address) (env : Env) (sender : Address) (amount : Nat) :
    Commutes g.apply (BondLedger.withdrawBond this env sender amount) := by
  refine g.nonReentrant fun w => ?_
  rw [map_bind]
  refine bind_congr fun _ => ?_
  apply g.pay <;> rfl

theorem lockBond (sender : Address) (matchId : Bytes32) (maker : Address) (amount : Nat) :
    Commutes g.apply (BondLedger.lockBond sender matchId maker amount) := by
  intro w
  unfold BondLedger.lockBond
  simp only [map_bind]
  refine bind_congr fun _ => bind_congr fun _ => bind_congr fun _ => ?_
  apply g.finish <;> rfl

theorem releaseBond (sender : Address) (matchId : Bytes32) :
    Commutes g.apply (BondLedger.releaseBond sender matchId) := by
  intro w
  unfold BondLedger.releaseBond
  simp only [map_bind]
  refine bind_congr fun _ => bind_congr fun _ => bind_congr fun newFree => ?_
  apply g.finish <;> rfl

theorem slashBond (this : Address) (env : Env) (sender : Address) (matchId : Bytes32)
    (recipient : Address) :
    Commutes g.apply (BondLedger.slashBond this env sender matchId recipient) := by
  intro w
  unfold BondLedger.slashBond
  simp only [map_bind]
  refine bind_congr fun _ => bind_congr fun _ => ?_
  rw [← map_bind]
  apply g.pay <;> rfl

theorem setEscrow (sender e : Address) : Commutes g.apply (BondLedger.setEscrow sender e) := by
  intro w
  unfold BondLedger.setEscrow
  simp only [map_bind]
  refine bind_congr fun _ => bind_congr fun _ => bind_congr fun _ => ?_
  rfl

end EscrowView

end WhisperDesk
