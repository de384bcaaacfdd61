import WhisperDesk.Contracts.Liveness
import WhisperDesk.General.Commuting

/-!
# Settlements in either order

A settlement of a locked match touches the match's own entries, its taker's and
its maker's counters and the token. What it still has to check of another match
stands through it, so two settlements go through, or revert, alike in either
order; and their effects add up to one state.
-/
namespace WhisperDesk

open Function (update)
open Reverting
open DvPEscrow (Deployment ProofAccepted refundGrace settledBalance)

/-- What an account gains by a transfer; the payer loses. -/
def flow (src dst : Address) (amount : Nat) (a : Address) : Int :=
  (if a = dst then (amount : Int) else 0) - (if a = src then (amount : Int) else 0)

theorem Token.move_flow (t : Token) (src dst a : Address) (amount : Nat) (h : amount ≤ t.balanceOf src) :
    ((t.move src dst amount h).balanceOf a : Int) = t.balanceOf a + flow src dst amount a := by
  have hmove := t.move_apply src dst a amount h
  unfold flow
  split_ifs at hmove ⊢ <;> omega

theorem Token.eq_of_balanceOf {t t' : Token} (hbalance : ∀ a, t.balanceOf a = t'.balanceOf a)
    (hsupply : t.totalSupply = t'.totalSupply) : t = t' := by
  cases t
  cases t'
  obtain rfl := funext hbalance
  cases hsupply
  rfl

/-- The two ways to settle a match. -/
inductive Settlement where
  | release (proof : XRPPayment.Proof)
  | refund

namespace Settlement

def call (id : Bytes32) : Settlement → Call
  | .release proof => .release id proof
  | .refund => .refund id

/-- What the call checks of a match that is locked. -/
def Accepted (d : Deployment) (env : Env) (w : World) (id : Bytes32) : Settlement → Prop
  | .release proof => ProofAccepted d env w.escrow.usedTxId (w.escrow.matchOf id) proof
  | .refund => (w.escrow.matchOf id).refundAfter + refundGrace < 2 ^ 40 ∧
    (w.escrow.matchOf id).refundAfter + refundGrace < env.timestamp

def result : Settlement → MatchState
  | .release _ => .released
  | .refund => .refunded

def mark : Settlement → (Bytes32 → Bool) → Bytes32 → Bool
  | .release proof, usedTxId => Mapping.modify usedTxId proof.txId fun _ => true
  | .refund, usedTxId => usedTxId

def credit (lb : LockedBond) : Settlement → (Address → Nat) → Address → Nat
  | .release _, freeBond => Mapping.modify freeBond lb.maker (· + lb.amount)
  | .refund, freeBond => freeBond

def gain (d : Deployment) (m : Match) (lb : LockedBond) : Settlement → Address → Int
  | .release _, a => flow d.self m.maker m.amountFxrp a
  | .refund, a => flow d.bondLedger m.taker lb.amount a + flow d.self m.taker m.amountFxrp a

def events (d : Deployment) (id : Bytes32) (m : Match) (lb : LockedBond) : Settlement → List Event
  | .release proof => [.matchReleased id m.maker m.amountFxrp proof.txId,
      .transfer d.self m.maker m.amountFxrp, .bondReleased id lb.maker lb.amount]
  | .refund => [.matchRefunded id m.taker m.amountFxrp m.bondAmount,
      .transfer d.self m.taker m.amountFxrp, .bondSlashed id lb.maker m.taker lb.amount,
      .transfer d.bondLedger m.taker lb.amount]

end Settlement

/-- What a settlement of the match `m` with the bond `lb` does to a state. -/
structure Settles (d : Deployment) (k : Settlement) (id : Bytes32) (m : Match) (lb : LockedBond)
    (w w' : World) : Prop where
  escrow : w'.escrow = { w.escrow with
    matchOf := update w.escrow.matchOf id (m.settled k.result)
    usedTxId := k.mark w.escrow.usedTxId
    balances := Mapping.modify w.escrow.balances m.taker (settledBalance · m.amountFxrp) }
  ledger : w'.ledger = { w.ledger with
    lockedBonds := update w.ledger.lockedBonds id { lb with active := false }
    freeBond := k.credit lb w.ledger.freeBond }
  balanceOf : ∀ a, (w'.fxrp.balanceOf a : Int) = w.fxrp.balanceOf a + k.gain d m lb a
  totalSupply : w'.fxrp.totalSupply = w.fxrp.totalSupply
  native : w'.native = w.native
  log : w'.log = k.events d id m lb ++ w.log

/-- One state but for the order of the events. -/
structure SameState (w w' : World) : Prop where
  escrow : w.escrow = w'.escrow
  ledger : w.ledger = w'.ledger
  fxrp : w.fxrp = w'.fxrp
  native : w.native = w'.native
  log : w.log.Perm w'.log

theorem SameState.refl (w : World) : SameState w w := ⟨rfl, rfl, rfl, rfl, .refl _⟩

section Effects

variable {d : Deployment} {k k' : Settlement} {id id' : Bytes32} {m m' : Match} {lb lb' : LockedBond}
  {w u u' v v' : World}

theorem Settlement.mark_comm (used : Bytes32 → Bool) :
    k'.mark (k.mark used) = k.mark (k'.mark used) := by
  cases k <;> cases k'
  case release.release proof proof' =>
    exact Mapping.modify_comm (f := fun _ => true) (g := fun _ => true) used proof.txId proof'.txId
      fun _ => rfl
  all_goals rfl

theorem Settlement.credit_comm (free : Address → Nat) :
    k'.credit lb' (k.credit lb free) = k.credit lb (k'.credit lb' free) := by
  cases k <;> cases k'
  case release.release =>
    exact Mapping.modify_comm (f := (· + lb.amount)) (g := (· + lb'.amount)) free lb.maker lb'.maker
      fun n => Nat.add_right_comm n _ _
  all_goals rfl

/-- Two settlements of different matches, one way round and the other. -/
theorem Settles.diamond (hne : id ≠ id') (hu : Settles d k id m lb w u)
    (hv : Settles d k' id' m' lb' u v) (hu' : Settles d k' id' m' lb' w u')
    (hv' : Settles d k id m lb u' v') : SameState v v' := by
  constructor
  case escrow =>
    rw [hv.escrow, hu.escrow, hv'.escrow, hu'.escrow]
    simp only [EscrowState.mk.injEq, true_and, and_true]
    refine ⟨?_, Function.update_comm hne .., k.mark_comm _⟩
    refine Mapping.modify_comm _ _ _ fun bal => ?_
    simp only [settledBalance, TakerBalance.mk.injEq, and_true]
    constructor <;> omega
  case ledger =>
    rw [hv.ledger, hu.ledger, hv'.ledger, hu'.ledger]
    simp only [LedgerState.mk.injEq, true_and, and_true]
    exact ⟨k.credit_comm _, Function.update_comm hne ..⟩
  case fxrp =>
    apply Token.eq_of_balanceOf
    · intro a
      have h := hu.balanceOf a
      have h' := hv.balanceOf a
      have g := hu'.balanceOf a
      have g' := hv'.balanceOf a
      omega
    · rw [hv.totalSupply, hu.totalSupply, hv'.totalSupply, hu'.totalSupply]
  case native => rw [hv.native, hu.native, hv'.native, hu'.native]
  case log =>
    rw [hv.log, hu.log, hv'.log, hu'.log, ← List.append_assoc, ← List.append_assoc]
    exact List.perm_append_comm.append_right _

/-- Another match stands through a settlement with its bond. -/
theorem Settles.frame (h : Settles d k id m lb w u) (hne : id' ≠ id) :
    u.escrow.matchOf id' = w.escrow.matchOf id' ∧
      u.ledger.lockedBonds id' = w.ledger.lockedBonds id' := by
  rw [h.escrow, h.ledger]
  exact ⟨Function.update_of_ne hne .., Function.update_of_ne hne ..⟩

end Effects

section Calls

variable {P : Primitives} {d : Deployment} {w : World} {tx : Tx d} {k : Settlement} {id : Bytes32}

theorem Reachable.covered (h : Reachable P d w) (hlocked : (w.escrow.matchOf id).state = .locked) :
    Covered d w id := by
  obtain ⟨w₀, txs, hw₀, rfl⟩ := h
  exact hw₀.covered txs hlocked

theorem Reachable.tagsDistinct (h : Reachable P d w) : TagsDistinct w := by
  obtain ⟨w₀, txs, hw₀, rfl⟩ := h
  exact hw₀.tagsDistinct txs

theorem Reachable.next (h : Reachable P d w) (tx : Tx d) :
    Reachable P d (settle w (tx.exec P w)) := by
  obtain ⟨w₀, txs, hw₀, rfl⟩ := h
  exact ⟨w₀, txs ++ [tx], hw₀, after_concat P w₀ txs tx⟩

theorem release_settles {env : Env} {proof : XRPPayment.Proof} (hentered : w.escrow.entered = false)
    (hlocked : (w.escrow.matchOf id).state = .locked) (hcovered : Covered d w id)
    (htransfers : TransfersSucceed d env)
    (haccepted : (Settlement.release proof).Accepted d env w id) :
    ∃ w', DvPEscrow.release d env id proof w = .ok w' ∧
      Settles d (.release proof) id (w.escrow.matchOf id) (w.ledger.lockedBonds id) w w' := by
  refine ⟨_, DvPEscrow.release_eq_ok.mpr ⟨hentered, hlocked, haccepted, hcovered.committed,
    hcovered.armed, hcovered.bound, hcovered.active, hcovered.returnable, (htransfers _ _).1,
    hcovered.held, rfl⟩, ?_⟩
  constructor
  case balanceOf => exact fun a => w.fxrp.move_flow _ _ a _ hcovered.held
  case escrow => rw [← hentered]; rfl
  all_goals rfl

theorem refund_settles {env : Env} (hentered : w.escrow.entered = false)
    (hlocked : (w.escrow.matchOf id).state = .locked) (hcovered : Covered d w id)
    (htransfers : TransfersSucceed d env) (haccepted : Settlement.refund.Accepted d env w id) :
    ∃ w', DvPEscrow.refund d env id w = .ok w' ∧
      Settles d .refund id (w.escrow.matchOf id) (w.ledger.lockedBonds id) w w' := by
  have hheld := Nat.le_trans hcovered.held
    (w.fxrp.le_move d.bondLedger (w.escrow.matchOf id).taker d.self _ hcovered.bondHeld d.distinct)
  refine ⟨_, DvPEscrow.refund_eq_ok.mpr ⟨hentered, hlocked, haccepted.1, haccepted.2,
    hcovered.committed, hcovered.armed, hcovered.bound, hcovered.active, (htransfers _ _).2,
    hcovered.bondHeld, (htransfers _ _).1, hheld, rfl⟩, ?_⟩
  constructor
  case balanceOf =>
    intro a
    rw [Token.move_flow, Token.move_flow, Int.add_assoc]
    rfl
  case escrow => rw [← hentered]; rfl
  all_goals rfl

theorem accepted_of_exec (hcall : tx.call = k.call id) {w' : World} (h : tx.exec P w = .ok w') :
    k.Accepted d tx.env w id := by
  unfold Tx.exec at h
  rw [hcall] at h
  cases k with
  | release proof => exact (DvPEscrow.release_eq_ok.mp h).2.2.1
  | refund =>
    obtain ⟨_, _, hwidth, htime, _⟩ := DvPEscrow.refund_eq_ok.mp h
    exact ⟨hwidth, htime⟩

/-- With the money there and the token willing, a settlement of a locked match goes
through exactly when its own checks pass. -/
theorem settlement_cases (h : Reachable P d w) (htransfers : TransfersSucceed d tx.env)
    (hcall : tx.call = k.call id) (hlocked : (w.escrow.matchOf id).state = .locked) :
    (k.Accepted d tx.env w id ∧ ∃ w', tx.exec P w = .ok w' ∧
      Settles d k id (w.escrow.matchOf id) (w.ledger.lockedBonds id) w w') ∨
    (¬ k.Accepted d tx.env w id ∧ (tx.exec P w).isOk = false) := by
  by_cases haccepted : k.Accepted d tx.env w id
  · refine .inl ⟨haccepted, ?_⟩
    cases k with
    | release proof =>
      have hexec : tx.exec P w = DvPEscrow.release d tx.env id proof w := by
        unfold Tx.exec; rw [hcall]; rfl
      rw [hexec]
      exact release_settles h.entered hlocked (h.covered hlocked) htransfers haccepted
    | refund =>
      have hexec : tx.exec P w = DvPEscrow.refund d tx.env id w := by
        unfold Tx.exec; rw [hcall]; rfl
      rw [hexec]
      exact refund_settles h.entered hlocked (h.covered hlocked) htransfers haccepted
  · refine .inr ⟨haccepted, Bool.eq_false_iff.mpr fun hok => haccepted ?_⟩
    obtain ⟨w', hexec⟩ := exists_ok_of_isOk hok
    exact accepted_of_exec hcall hexec

end Calls

section Order

variable {P : Primitives} {d : Deployment} {w u : World} {tx tx' : Tx d} {k k' : Settlement}
  {id id' : Bytes32}

/-- Proofs that fit two locked matches are of two payments: one payment has one tag. -/
theorem txId_ne (h : Reachable P d w) (hfdc : FunctionalVerifier [tx, tx']) (hne : id ≠ id')
    (hlocked : (w.escrow.matchOf id).state = .locked)
    (hlocked' : (w.escrow.matchOf id').state = .locked) {used used' : Bytes32 → Bool}
    {proof proof' : XRPPayment.Proof} (hfits : ProofAccepted d tx.env used (w.escrow.matchOf id) proof)
    (hfits' : ProofAccepted d tx'.env used' (w.escrow.matchOf id') proof') :
    proof.txId ≠ proof'.txId := by
  intro htx
  have hsame := hfdc tx (by simp) tx' (by simp) proof proof' hfits.verified hfits'.verified htx
  have htag : (w.escrow.matchOf id).destinationTag = (w.escrow.matchOf id').destinationTag := by
    rw [← hfits.tag, ← hfits'.tag, hsame]
  exact hne (h.tagsDistinct.injective id id' (by rw [hlocked]; decide) (by rw [hlocked']; decide) htag)

/-- What a settlement has to check comes out as before once another match is settled. -/
theorem accepted_persists (h : Reachable P d w) (hfdc : FunctionalVerifier [tx, tx'])
    (hne : id ≠ id') (hlocked : (w.escrow.matchOf id).state = .locked)
    (hlocked' : (w.escrow.matchOf id').state = .locked) (haccepted : k'.Accepted d tx'.env w id')
    (hsettles : Settles d k' id' (w.escrow.matchOf id') (w.ledger.lockedBonds id') w u) :
    k.Accepted d tx.env u id ↔ k.Accepted d tx.env w id := by
  have hmatch := (hsettles.frame hne).1
  cases k with
  | refund => simp only [Settlement.Accepted, hmatch]
  | release proof =>
    have hused : u.escrow.usedTxId = k'.mark w.escrow.usedTxId := by rw [hsettles.escrow]
    simp only [Settlement.Accepted, hmatch, hused]
    cases k' with
    | refund => rfl
    | release proof' =>
      constructor
      case mp =>
        intro hfits
        refine { hfits with unused := ?_ }
        have hunused := hfits.unused
        by_cases htx : proof.txId = proof'.txId
        · simp only [Settlement.mark, Mapping.modify] at hunused
          rw [show proof.data.requestBody.transactionId = proof'.txId from htx,
            Function.update_self] at hunused
          cases hunused
        · exact (Function.update_of_ne htx ..).symm.trans hunused
      case mpr =>
        intro hfits
        have htx := txId_ne h hfdc hne hlocked hlocked' hfits haccepted
        exact { hfits with unused := (Function.update_of_ne htx ..).trans hfits.unused }

/-- A settlement after another one of a different match, which went through. -/
theorem settlement_after (h : Reachable P d w) (hfdc : FunctionalVerifier [tx, tx'])
    (hne : id ≠ id') (htransfers : TransfersSucceed d tx.env)
    (hlocked : (w.escrow.matchOf id).state = .locked)
    (hlocked' : (w.escrow.matchOf id').state = .locked) (hcall : tx.call = k.call id)
    (haccepted : k'.Accepted d tx'.env w id') (hexec : tx'.exec P w = .ok u)
    (hsettles : Settles d k' id' (w.escrow.matchOf id') (w.ledger.lockedBonds id') w u) :
    (k.Accepted d tx.env w id ∧ ∃ v, tx.exec P u = .ok v ∧
      Settles d k id (w.escrow.matchOf id) (w.ledger.lockedBonds id) u v) ∨
    (¬ k.Accepted d tx.env w id ∧ (tx.exec P u).isOk = false) := by
  have hu : Reachable P d u := by
    have hnext := h.next tx'
    rwa [hexec] at hnext
  obtain ⟨hmatch, hbond⟩ := hsettles.frame hne
  have hcases := settlement_cases hu htransfers hcall (by rw [hmatch, hlocked])
  rwa [hmatch, hbond, accepted_persists h hfdc hne hlocked hlocked' haccepted hsettles] at hcases

theorem settle_of_not_ok {r : Except Revert World} (h : r.isOk = false) : settle w r = w := by
  cases r with
  | error e => rfl
  | ok v => cases h

/-- Settlement order does not matter: two settlements of different locked matches,
each with what it sees of the chain, go through or revert alike in either order and
leave one state, even when both proofs are of one payment. -/
theorem settlement_order (h : Reachable P d w) (hne : id ≠ id')
    (hlocked : (w.escrow.matchOf id).state = .locked)
    (hlocked' : (w.escrow.matchOf id').state = .locked) (hcall : tx.call = k.call id)
    (hcall' : tx'.call = k'.call id') (hfdc : FunctionalVerifier [tx, tx'])
    (htransfers : TransfersSucceed d tx.env) (htransfers' : TransfersSucceed d tx'.env) :
    let first := settle w (tx.exec P w)
    let first' := settle w (tx'.exec P w)
    (tx.exec P w).isOk = (tx.exec P first').isOk ∧ (tx'.exec P w).isOk = (tx'.exec P first).isOk ∧
      SameState (settle first (tx'.exec P first)) (settle first' (tx.exec P first')) := by
  have hfdc' : FunctionalVerifier [tx', tx] := fun a ha b hb =>
    hfdc a (List.mem_pair.mpr (List.mem_pair.mp ha).symm) b (List.mem_pair.mpr (List.mem_pair.mp hb).symm)
  rcases settlement_cases h htransfers hcall hlocked with ⟨haccepted, u, hexec, hu⟩ | ⟨hnot, hfails⟩
  · have hafter' := settlement_after h hfdc' hne.symm htransfers' hlocked' hlocked hcall' haccepted
      hexec hu
    rcases settlement_cases h htransfers' hcall' hlocked' with
      ⟨haccepted', u', hexec', hu'⟩ | ⟨hnot', hfails'⟩
    · obtain ⟨v', hv', hsettles'⟩ := (hafter'.resolve_right fun hno => hno.1 haccepted').2
      obtain ⟨v, hv, hsettles⟩ := ((settlement_after h hfdc hne htransfers hlocked hlocked' hcall
        haccepted' hexec' hu').resolve_right fun hno => hno.1 haccepted).2
      simp only [hexec, hexec', settle_ok, hv, hv']
      exact ⟨rfl, rfl, hu.diamond hne hsettles' hu' hsettles⟩
    · have hreverts := (hafter'.resolve_left fun hyes => hnot' hyes.1).2
      simp only [settle_of_not_ok hfails', hexec, settle_ok, hfails', hreverts, settle_of_not_ok hreverts]
      exact ⟨trivial, trivial, .refl u⟩
  · rcases settlement_cases h htransfers' hcall' hlocked' with
      ⟨haccepted', u', hexec', hu'⟩ | ⟨hnot', hfails'⟩
    · have hreverts := ((settlement_after h hfdc hne htransfers hlocked hlocked' hcall haccepted' hexec'
        hu').resolve_left fun hyes => hnot hyes.1).2
      simp only [settle_of_not_ok hfails, hexec', settle_ok, hfails, hreverts, settle_of_not_ok hreverts]
      exact ⟨trivial, trivial, .refl u'⟩
    · simp only [settle_of_not_ok hfails, settle_of_not_ok hfails']
      exact ⟨trivial, trivial, .refl w⟩

/-- Two locked matches of one taker and one maker, and one payment shown for both. -/
theorem settlement_order_one_payment :
    let lock := Sample.tx 1000 Sample.owner (.lock 0
      (MatchInstructionLib.encode (Sample.instruction 8)) (List.replicate 65 0))
    let w := after Sample.primitives Sample.world (Sample.opening 1000 7 ++ [lock])
    let tx := Sample.tx 1500 Sample.maker (.release 7 (Sample.proof 1000))
    let tx' := Sample.tx 1500 Sample.maker (.release 8 (Sample.proof 1000))
    let first := settle w (tx.exec Sample.primitives w)
    let first' := settle w (tx'.exec Sample.primitives w)
    (tx.exec Sample.primitives w).isOk = (tx.exec Sample.primitives first').isOk ∧
      (tx'.exec Sample.primitives w).isOk = (tx'.exec Sample.primitives first).isOk ∧
      SameState (settle first (tx'.exec Sample.primitives first))
        (settle first' (tx.exec Sample.primitives first')) :=
  settlement_order ⟨_, _, Sample.deployed, rfl⟩ (show (7 : Bytes32) ≠ 8 by decide)
    (by decide +kernel) (by decide +kernel)
    (show _ = (Settlement.release (Sample.proof 1000)).call 7 from rfl)
    (show _ = (Settlement.release (Sample.proof 1000)).call 8 from rfl)
    (Sample.functionalVerifier _ (by simp [Sample.tx])) (fun _ _ => ⟨rfl, rfl⟩)
    (fun _ _ => ⟨rfl, rfl⟩)

end Order

end WhisperDesk
