import WhisperDesk.Contracts.BondAccounting
import WhisperDesk.Contracts.EscrowViews
import WhisperDesk.General.Unwinding

/-!
# What the owner can reach

The setters write three fields of the escrow that only `lock` reads, and bind
the ledger once. Every other call commutes with wiping those fields, so a run
ends as it does with its administrative calls taken out.
-/
namespace WhisperDesk

open Reverting
open DvPEscrow (Deployment)

/-- The setters of both contracts and the permissionless registry hook. -/
def Call.administers : Call → Bool
  | .setTeeSigner .. | .setFeeTreasury .. | .setLockPaused .. | .syncFromRegistry | .setEscrow .. => true
  | _ => false

def Call.setsEscrow : Call → Bool
  | .setEscrow .. => true
  | _ => false

def Call.locks : Call → Bool
  | .lock .. => true
  | _ => false

/-- Wipes what the escrow's setters write, announcements included. -/
def unadministering : EscrowView where
  escrow e := { e with teeSigner := 0, feeTreasury := 0, lockPaused := false }
  native n := n
  log l := l.filter fun e => !e.announcesSigner
  log_cons e l he := by simp [he]

/-- Every balance, match, bond, tag and used payment id of a state, without what
the setters wrote. -/
def World.unadministered (w : World) : World := unadministering.apply w

section Calls

variable {P : Primitives} {d : Deployment}

theorem nonReentrant_unadministered {body : World → Except Revert World}
    (hbody : Commutes World.unadministered body) :
    Commutes World.unadministered (DvPEscrow.nonReentrant body) := by
  intro w
  unfold DvPEscrow.nonReentrant
  rw [map_bind]
  refine bind_congr fun _ => ?_
  exact hbody.next (s := { w with escrow.entered := true }) rfl fun _ => rfl

theorem deposit_unadministered (env : Env) (sender : Address) (amount armedUntil : Nat) :
    Commutes World.unadministered (DvPEscrow.deposit d env sender amount armedUntil) := by
  refine nonReentrant_unadministered fun w => ?_
  simp only [map_bind]
  refine bind_congr fun newArmed => bind_congr fun _ => ?_
  rw [← map_bind]
  apply unadministering.pay <;> rfl

theorem withdraw_unadministered (env : Env) (sender : Address) (amount : Nat) :
    Commutes World.unadministered (DvPEscrow.withdraw d env sender amount) := by
  refine nonReentrant_unadministered fun w => ?_
  simp only [map_bind]
  refine bind_congr fun _ => bind_congr fun available => bind_congr fun _ =>
    bind_congr fun newArmed => ?_
  rw [← map_bind]
  apply unadministering.pay <;> rfl

theorem uncommit_unadministered (m : Match) : Commutes World.unadministered (DvPEscrow.uncommit m) := by
  intro w
  unfold DvPEscrow.uncommit
  simp only [map_bind]
  exact bind_congr fun committed => bind_congr fun armed => rfl

theorem release_unadministered (env : Env) (matchId : Bytes32) (proof : XRPPayment.Proof) :
    Commutes World.unadministered (DvPEscrow.release d env matchId proof) := by
  refine nonReentrant_unadministered fun w => ?_
  rw [map_bind]
  refine bind_congr fun _ => ?_
  rw [map_bind]
  refine bind_congr fun _ => ?_
  dsimp only
  refine (uncommit_unadministered _).next ?_ fun u => ?_
  · rfl
  refine (unadministering.releaseBond _ _).next ?_ fun v => ?_
  · rfl
  apply unadministering.pay <;> rfl

theorem refund_unadministered (env : Env) (matchId : Bytes32) :
    Commutes World.unadministered (DvPEscrow.refund d env matchId) := by
  refine nonReentrant_unadministered fun w => ?_
  rw [map_bind]
  refine bind_congr fun _ => ?_
  rw [map_bind]
  refine bind_congr fun refundable => ?_
  rw [map_bind]
  refine bind_congr fun _ => ?_
  dsimp only
  refine (uncommit_unadministered _).next ?_ fun u => ?_
  · rfl
  refine (unadministering.slashBond _ _ _ _ _).next ?_ fun v => ?_
  · rfl
  apply unadministering.pay <;> rfl

theorem exec_unadministered {call : Call} (hadmin : call.administers = false)
    (hlock : call.locks = false) (env : Env) (callback : World → Except Revert World)
    (sender : Account d) : Commutes World.unadministered (call.exec P d env callback sender) := by
  cases call with
  | deposit amount armedUntil => exact deposit_unadministered env _ amount _
  | withdraw amount => exact withdraw_unadministered env _ amount
  | lock value data sig => cases hlock
  | release matchId proof => exact release_unadministered env matchId proof
  | refund matchId => exact refund_unadministered env matchId
  | depositBond amount => exact unadministering.depositBond _ env _ amount
  | withdrawBond amount => exact unadministering.withdrawBond _ env _ amount
  | lockBond matchId maker amount => exact unadministering.lockBond _ matchId maker amount
  | releaseBond matchId => exact unadministering.releaseBond _ matchId
  | slashBond matchId recipient => exact unadministering.slashBond _ env _ matchId recipient
  | transferFxrp dst amount => exact unadministering.fxrpTransfer env _ dst amount _
  | mintFxrp dst amount => exact unadministering.fxrpMint dst amount
  | _ => cases hadmin

/-- An administrative call, unless it binds the ledger for the first time. -/
theorem administers_unadministered {call : Call} (hadmin : call.administers = true) {w : World}
    (hbound : call.setsEscrow = true → w.ledger.escrow ≠ 0) (env : Env)
    (callback : World → Except Revert World) (sender : Account d) :
    (settle w (call.exec P d env callback sender w)).unadministered = w.unadministered := by
  rcases settle_cases w (call.exec P d env callback sender w) with h | h
  · generalize settle w (call.exec P d env callback sender w) = w' at h
    cases call with
    | setTeeSigner newSigner =>
      obtain ⟨_, _, rfl⟩ := DvPEscrow.setTeeSigner_eq_ok.mp h
      rfl
    | setFeeTreasury t =>
      obtain ⟨_, _, rfl⟩ := DvPEscrow.setFeeTreasury_eq_ok.mp h
      rfl
    | setLockPaused p =>
      obtain ⟨_, rfl⟩ := DvPEscrow.setLockPaused_eq_ok.mp h
      rfl
    | syncFromRegistry =>
      cases h
      rfl
    | setEscrow e =>
      obtain ⟨_, hzero, _⟩ := BondLedger.setEscrow_eq_ok.mp h
      exact absurd hzero (hbound rfl)
    | _ => cases hadmin
  · rw [h]

end Calls

section Runs

variable {P : Primitives} {d : Deployment}

def Tx.step (P : Primitives) (tx : Tx d) (w : World) : World := settle w (tx.exec P w)

/-- How a call of the run ended: its revert, or the state it left but for the
owner's part. Administrative calls and `lock` are left out. -/
def Tx.ending (P : Primitives) (tx : Tx d) (w : World) : Option (Except Revert World) :=
  if tx.call.administers || tx.call.locks then none
  else some ((tx.exec P w).map World.unadministered)

def endings (P : Primitives) (w : World) (txs : List (Tx d)) : List (Except Revert World) :=
  Unwinding.shown (Tx.step P) (Tx.ending P) w txs

/-- Two states that differ by what the setters write, the first of them bound. -/
def SameButAdmin (bound : Bool) (w w' : World) : Prop :=
  w.unadministered = w'.unadministered ∧ (bound = true → w.ledger.escrow ≠ 0)

/-- A ledger that is bound keeps its escrow, so its setter is one of the hidden calls. -/
theorem administration_unwinds (P : Primitives) (bound : Bool) :
    Unwinding.Unwinds (Tx.step P) (Tx.ending P)
      (fun tx : Tx d => tx.call.administers && (bound || !tx.call.setsEscrow))
      (fun tx => tx.call.locks = false ∧ (tx.call.setsEscrow = true → bound = true))
      (SameButAdmin bound) := by
  constructor
  case silent =>
    intro tx w hhidden
    have hadmin : tx.call.administers = true := by simp_all
    simp [Tx.ending, hadmin]
  case hides =>
    intro tx w w' hhidden ⟨hsame, hbound⟩
    have hadmin : tx.call.administers = true := by simp_all
    have hset : tx.call.setsEscrow = true → w.ledger.escrow ≠ 0 := by
      intro hset
      exact hbound (by simp_all)
    have hleft := administers_unadministered (P := P) hadmin hset tx.env (tx.callback P) tx.sender
    refine ⟨hleft.trans hsame, fun hb => ?_⟩
    have hledger := congrArg World.ledger hleft
    change (Tx.step P tx w).ledger = w.ledger at hledger
    rw [hledger]
    exact hbound hb
  case keeps =>
    intro tx w w' ⟨hlock, hset⟩ hvisible ⟨hsame, hbound⟩
    have hadmin : tx.call.administers = false := by
      cases hcall : tx.call.setsEscrow <;> simp_all
    have hcomm := exec_unadministered (P := P) hadmin hlock tx.env (tx.callback P) tx.sender
    have hleft (v : World) : (Tx.step P tx v).unadministered = Tx.step P tx v.unadministered :=
      (hcomm.settle v).symm
    refine ⟨by rw [hleft, hleft, hsame], fun hb => ?_⟩
    rcases settle_cases w (tx.exec P w) with h | h
    · have hescrow := (tx_steps h).escrow (hbound hb)
      exact fun hzero => hbound hb (hescrow.symm.trans hzero)
    · have hstep : Tx.step P tx w = w := h
      rw [hstep]
      exact hbound hb
  case shows =>
    intro tx w w' _ ⟨hsame, _⟩
    unfold Tx.ending
    by_cases hout : (tx.call.administers || tx.call.locks) = true
    · rw [if_pos hout, if_pos hout]
    · rw [if_neg hout, if_neg hout]
      have hkind : tx.call.administers = false ∧ tx.call.locks = false := by simpa using hout
      have hcomm := exec_unadministered (P := P) hkind.1 hkind.2 tx.env (tx.callback P) tx.sender
      have hexec (v : World) : (tx.exec P v).map World.unadministered = tx.exec P v.unadministered :=
        (hcomm v).symm
      rw [hexec, hexec, hsame]

/-- The owner cannot censor exits: take the administrative calls out of any run
without `lock`, and every other call ends as it did, with its revert or in a state
that differs in the owner's part only. -/
theorem exits_uncensored (P : Primitives) (w : World) {xs : List (Tx d)}
    (hlock : ∀ tx ∈ xs, tx.call.locks = false)
    (hbound : ∀ tx ∈ xs, tx.call.setsEscrow = true → w.ledger.escrow ≠ 0) :
    let exits := xs.filter fun tx => !tx.call.administers
    (after P w xs).unadministered = (after P w exits).unadministered ∧
      endings P w xs = endings P w exits := by
  intro exits
  have hpurge : Unwinding.purge
      (fun tx : Tx d => tx.call.administers && (decide (w.ledger.escrow ≠ 0) || !tx.call.setsEscrow))
      xs = exits := by
    refine List.filter_congr fun tx htx => ?_
    have hor : (decide (w.ledger.escrow ≠ 0) || !tx.call.setsEscrow) = true := by
      cases hset : tx.call.setsEscrow with
      | true => rw [decide_eq_true (hbound tx htx hset), Bool.true_or]
      | false => rw [Bool.not_false, Bool.or_true]
    simp only [hor, Bool.and_true]
  have hrun := (administration_unwinds P (decide (w.ledger.escrow ≠ 0))).purged
    (s := w) (t := w) ⟨rfl, of_decide_eq_true⟩
    (fun tx htx => ⟨hlock tx htx, fun hset => decide_eq_true (hbound tx htx hset)⟩)
  rw [hpurge] at hrun
  exact ⟨hrun.1.1, hrun.2⟩

/-- A pause, a new signer and a second binding around a release and a bond withdrawal. -/
theorem exits_uncensored_opening :
    let w := after Sample.primitives Sample.world (Sample.opening 1000 7)
    let xs := [Sample.tx 1500 Sample.owner (.setLockPaused true),
      Sample.tx 1500 Sample.owner (.setTeeSigner 9),
      Sample.tx 1500 Sample.maker (.release 7 (Sample.proof 1000)),
      Sample.tx 1500 Sample.owner (.setEscrow 0xAA), Sample.tx 1500 Sample.maker (.withdrawBond 1)]
    let exits := xs.filter fun tx => !tx.call.administers
    (after Sample.primitives w xs).unadministered =
        (after Sample.primitives w exits).unadministered ∧
      endings Sample.primitives w xs = endings Sample.primitives w exits :=
  exits_uncensored Sample.primitives _ (by decide) (fun _ _ _ => by decide +kernel)

end Runs

end WhisperDesk
