import WhisperDesk.Contracts.Settlement

/-!
# Nothing gets stuck

Both pools, the bond invariant and the opening terms of a match together say
that `refund`, `withdraw`, `withdrawBond` and `release` succeed whenever their
own conditions hold: no counter underflows and both contracts hold enough.
-/
namespace WhisperDesk

open Function (update)
open Reverting
open Reserve (Pool)
open DvPEscrow (Deployment ProofAccepted refundGrace bondOf)

/-- What `lock` at time `t` wrote of times and bond. -/
structure OpenedAt (d : Deployment) (t : Nat) (m : Match) : Prop where
  lockedAt : m.lockedAt = narrow 40 t
  paymentDeadline : m.paymentDeadline = narrow 40 (t + d.paymentWindow)
  refundAfter : m.refundAfter = narrow 40 (t + d.settlementWindow.toNat)
  bondAmount : m.bondAmount = bondOf m.amountFxrp

/-- Every match was opened by some transaction of the run, by this escrow. -/
structure Opened (d : Deployment) (txs : List (Tx d)) (w : World) : Prop where
  bound : ∀ id, (w.escrow.matchOf id).state ≠ .none → w.ledger.escrow = d.self
  openedAt : ∀ id, (w.escrow.matchOf id).state ≠ .none →
    ∃ tx ∈ txs, OpenedAt d tx.env.timestamp (w.escrow.matchOf id)

section Openings

variable {P : Primitives} {d : Deployment} {w₀ w w' : World} {txs : List (Tx d)} {tx : Tx d}

theorem Opened.genesis (hw : Genesis w) : Opened d [] w where
  bound id h := absurd (by rw [hw.matchOf]; rfl) h
  openedAt id h := absurd (by rw [hw.matchOf]; rfl) h

theorem Opened.effect (ho : Opened d txs w) (h : Effect P tx w w') (hsteps : Steps P d w w') :
    Opened d (txs ++ [tx]) w' := by
  have stays (hw : w.ledger.escrow = d.self) : w'.ledger.escrow = d.self :=
    (hsteps.escrow (hw ▸ d.self_ne_zero)).trans hw
  rcases h.terms with ⟨_, _, _, mi, _, mid18, _, _, haccepted, hmatch, _⟩ | ⟨hterms, _⟩
  · refine ⟨fun _ _ => stays haccepted.bound.symm, fun id => ?_⟩
    rw [hmatch]
    by_cases hid : id = mi.matchId
    · subst hid
      rw [Function.update_self]
      exact fun _ => ⟨tx, by simp, rfl, rfl, rfl, rfl⟩
    · rw [Function.update_of_ne hid]
      intro hopen
      obtain ⟨tx', hmem, hat⟩ := ho.openedAt id hopen
      exact ⟨tx', by simp [hmem], hat⟩
  · constructor
    · intro id hopen
      exact stays (ho.bound id (mt (hterms id).opened.mpr hopen))
    · intro id hopen
      obtain ⟨tx', hmem, hat⟩ := ho.openedAt id (mt (hterms id).opened.mpr hopen)
      refine ⟨tx', by simp [hmem], ?_⟩
      rw [(hterms id).terms]
      exact ⟨hat.lockedAt, hat.paymentDeadline, hat.refundAfter, hat.bondAmount⟩

theorem Deployed.opened (hw₀ : Deployed d w₀) (txs : List (Tx d)) : Opened d txs (after P w₀ txs) :=
  after_induction (I := fun txs w => Opened d txs w) hw₀.genesis.entered (.genesis hw₀.genesis)
    (fun _ _ _ ho h hsteps => ho.effect h hsteps) txs

/-- An address that sends no transactions never gains an armed balance. -/
theorem Step.armed_le {a : Address} (ha : ∀ sender : Account d, sender.address ≠ a)
    (h : Step P d w w') : (w'.escrow.balances a).armed ≤ (w.escrow.balances a).armed := by
  have settled (m : Match) :
      (update w.escrow.balances m.taker
        (DvPEscrow.settledBalance (w.escrow.balances m.taker) m.amountFxrp) a).armed ≤
        (w.escrow.balances a).armed := by
    by_cases hm : a = m.taker
    · subst hm
      rw [Function.update_self]
      exact Nat.sub_le _ _
    · rw [Function.update_of_ne hm]
  cases h with
  | quiet h => rw [h.balances]
  | transfer => exact Nat.le_refl _
  | mint => exact Nat.le_refl _
  | deposit env sender amount armedUntil h =>
    obtain ⟨_, _, _, _, rfl⟩ := DvPEscrow.deposit_eq_ok.mp h
    simp only [Function.update_of_ne (ha sender).symm, Nat.le_refl]
  | withdraw env sender amount h =>
    obtain ⟨_, _, _, _, _, rfl⟩ := DvPEscrow.withdraw_eq_ok.mp h
    simp only [Function.update_of_ne (ha sender).symm, Nat.le_refl]
  | lock env value data sig mi fee mid18 ts h =>
    by_cases hm : a = mi.taker
    · subst hm
      simp only [DvPEscrow.lockedWorld, Function.update_self, Nat.le_refl]
    · simp only [DvPEscrow.lockedWorld, Function.update_of_ne hm, Nat.le_refl]
  | release env id proof h =>
    obtain ⟨_, _, _, _, _, _, _, _, _, _, rfl⟩ := DvPEscrow.release_eq_ok.mp h
    exact settled (w.escrow.matchOf id)
  | refund env id h =>
    obtain ⟨_, _, _, _, _, _, _, _, _, _, _, _, rfl⟩ := DvPEscrow.refund_eq_ok.mp h
    exact settled (w.escrow.matchOf id)
  | depositBond env sender amount h =>
    obtain ⟨_, _, _, _, rfl⟩ := BondLedger.depositBond_eq_ok.mp h
    exact Nat.le_refl _
  | withdrawBond env sender amount h =>
    obtain ⟨_, _, _, _, rfl⟩ := BondLedger.withdrawBond_eq_ok.mp h
    exact Nat.le_refl _
  | lockBond sender id maker amount h =>
    obtain ⟨_, _, _, rfl⟩ := BondLedger.lockBond_eq_ok.mp h
    exact Nat.le_refl _
  | releaseBond sender id h =>
    obtain ⟨_, _, _, rfl⟩ := BondLedger.releaseBond_eq_ok.mp h
    exact Nat.le_refl _
  | slashBond env sender id recipient h =>
    obtain ⟨_, _, _, _, rfl⟩ := BondLedger.slashBond_eq_ok.mp h
    exact Nat.le_refl _

theorem Deployed.idle (hw₀ : Deployed d w₀) (txs : List (Tx d)) {a : Address}
    (ha : ∀ sender : Account d, sender.address ≠ a) :
    ((after P w₀ txs).escrow.balances a).armed = 0 := by
  refine Steps.invariant (I := fun w => (w.escrow.balances a).armed = 0) ?_ (after_steps w₀ txs)
    (by rw [hw₀.genesis.balances])
  intro u v hu huv
  have := huv.armed_le ha
  omega

end Openings

/-- The token makes every transfer out of the two contracts that it could make. -/
def TransfersSucceed (d : Deployment) (env : Env) : Prop :=
  ∀ dst amount, env.fxrp d.self dst amount = .accepts ∧ env.fxrp d.bondLedger dst amount = .accepts

section Locked

variable {P : Primitives} {d : Deployment} {w₀ : World}

/-- What a locked match can count on in every reachable state. -/
structure Covered (d : Deployment) (w : World) (id : Bytes32) : Prop where
  committed : (w.escrow.matchOf id).amountFxrp ≤
    (w.escrow.balances (w.escrow.matchOf id).taker).committed
  armed : (w.escrow.matchOf id).amountFxrp ≤ (w.escrow.balances (w.escrow.matchOf id).taker).armed
  held : (w.escrow.matchOf id).amountFxrp ≤ w.fxrp.balanceOf d.self
  bound : d.self = w.ledger.escrow
  active : (w.ledger.lockedBonds id).active = true
  bond : (w.ledger.lockedBonds id).amount = (w.escrow.matchOf id).bondAmount
  bondHeld : (w.ledger.lockedBonds id).amount ≤ w.fxrp.balanceOf d.bondLedger
  returnable : w.ledger.freeBond (w.ledger.lockedBonds id).maker + (w.ledger.lockedBonds id).amount <
    2 ^ 256

theorem Deployed.covered (hw₀ : Deployed d w₀) (txs : List (Tx d)) {id : Bytes32}
    (hlocked : ((after P w₀ txs).escrow.matchOf id).state = .locked) :
    Covered d (after P w₀ txs) id := by
  have hreach : Reachable P d (after P w₀ txs) := ⟨w₀, txs, hw₀, rfl⟩
  have hbound := (hw₀.opened (P := P) txs).bound id (by rw [hlocked]; decide)
  have hbonded := hreach.bonded (.inr hbound)
  have hactive := (hbonded.active id).mp hlocked
  obtain ⟨p, hp⟩ := hreach.escrowPool
  obtain ⟨q, hq⟩ := hreach.ledgerPool
  have hclaim := hp.claim_of_locked hlocked
  have hreserved := p.reserved_le id _ hclaim
  have hcommitted := hp.committed ((after P w₀ txs).escrow.matchOf id).taker
  have hle := hp.committed_le_armed ((after P w₀ txs).escrow.matchOf id).taker
  have hbondClaim := hq.claim_of_active hactive
  have hbacked := q.free_add_claim_le_held ((after P w₀ txs).ledger.lockedBonds id).maker id _ hbondClaim
  have hsmall := (after P w₀ txs).fxrp.balanceOf_lt d.bondLedger
  simp only at hreserved hbacked
  rw [← hq.free, hq.held] at hbacked
  exact
    { committed := by omega
      armed := by omega
      held := hp.held ▸ p.claim_le_held id _ hclaim
      bound := hbound.symm
      active := hactive
      bond := (hbonded.terms id hlocked).2
      bondHeld := by omega
      returnable := by omega }

/-- A locked match of one of the two contracts is worth nothing. -/
theorem Deployed.taker_cases (hw₀ : Deployed d w₀) (txs : List (Tx d)) {id : Bytes32}
    (hlocked : ((after P w₀ txs).escrow.matchOf id).state = .locked) :
    let m := (after P w₀ txs).escrow.matchOf id
    (m.taker ≠ d.self ∧ m.taker ≠ d.bondLedger) ∨ (m.amountFxrp = 0 ∧ m.bondAmount = 0) := by
  have hcovered := hw₀.covered txs hlocked
  obtain ⟨_, _, hat⟩ := (hw₀.opened (P := P) txs).openedAt id (by rw [hlocked]; decide)
  have worthless (ha : ∀ sender : Account d,
      sender.address ≠ ((after P w₀ txs).escrow.matchOf id).taker) :
      ((after P w₀ txs).escrow.matchOf id).amountFxrp = 0 ∧
        ((after P w₀ txs).escrow.matchOf id).bondAmount = 0 := by
    have hidle := hw₀.idle (P := P) txs ha
    have hzero : ((after P w₀ txs).escrow.matchOf id).amountFxrp = 0 := by
      have := hcovered.armed
      omega
    exact ⟨hzero, by rw [hat.bondAmount, hzero]; rfl⟩
  by_cases hself : ((after P w₀ txs).escrow.matchOf id).taker = d.self
  · exact .inr (worthless (fun sender => hself ▸ sender.ne_self))
  · by_cases hledger : ((after P w₀ txs).escrow.matchOf id).taker = d.bondLedger
    · exact .inr (worthless (fun sender => hledger ▸ sender.ne_ledger))
    · exact .inl ⟨hself, hledger⟩

end Locked

section Results

variable {P : Primitives} {d : Deployment} {w₀ : World}

theorem refund_succeeds (hw₀ : Deployed d w₀) (txs : List (Tx d))
    (htimes : ∀ tx ∈ txs, tx.env.timestamp < 2 ^ 40 - 2 ^ 33) {tx : Tx d}
    (htransfers : TransfersSucceed d tx.env) {id : Bytes32} (hcall : tx.call = .refund id)
    (hlocked : ((after P w₀ txs).escrow.matchOf id).state = .locked)
    (htime : ((after P w₀ txs).escrow.matchOf id).refundAfter + refundGrace < tx.env.timestamp) :
    ∃ w', tx.exec P (after P w₀ txs) = .ok w' ∧
      w'.fxrp.balanceOf ((after P w₀ txs).escrow.matchOf id).taker =
        (after P w₀ txs).fxrp.balanceOf ((after P w₀ txs).escrow.matchOf id).taker +
          (((after P w₀ txs).escrow.matchOf id).amountFxrp +
            ((after P w₀ txs).escrow.matchOf id).bondAmount) := by
  have hcovered := hw₀.covered txs hlocked
  have htaker := hw₀.taker_cases txs hlocked
  have hentered := after_entered (P := P) hw₀.genesis.entered txs
  obtain ⟨tx', hmem, hat⟩ := (hw₀.opened (P := P) txs).openedAt id (by rw [hlocked]; decide)
  -- the lock's own timestamp is small enough that neither sum leaves uint40
  have hwidth : ((after P w₀ txs).escrow.matchOf id).refundAfter + refundGrace < 2 ^ 40 := by
    have hsmall := htimes tx' hmem
    have hwindow := d.settlementWindow.toNat_lt
    rw [hat.refundAfter, narrow_of_lt (by omega), refundGrace]
    omega
  generalize after P w₀ txs = w at *
  have hslashed := w.fxrp.le_move d.bondLedger (w.escrow.matchOf id).taker d.self _ hcovered.bondHeld
    d.distinct
  have hheld := Nat.le_trans hcovered.held hslashed
  have hbondMove := w.fxrp.move_apply d.bondLedger (w.escrow.matchOf id).taker
    (w.escrow.matchOf id).taker _ hcovered.bondHeld
  have hmove := (w.fxrp.move _ _ _ hcovered.bondHeld).move_apply d.self (w.escrow.matchOf id).taker
    (w.escrow.matchOf id).taker _ hheld
  have hexec : tx.exec P w = DvPEscrow.refund d tx.env id w := by
    unfold Tx.exec; rw [hcall]; rfl
  refine ⟨_, hexec.trans (DvPEscrow.refund_eq_ok.mpr ⟨hentered, hlocked, hwidth, htime,
    hcovered.committed, hcovered.armed, hcovered.bound, hcovered.active, (htransfers _ _).2,
    hcovered.bondHeld, (htransfers _ _).1, hheld, rfl⟩), ?_⟩
  have hbond := hcovered.bond
  rw [if_pos rfl] at hbondMove hmove
  simp only
  rcases htaker with ⟨hself, hledger⟩ | ⟨hzero, hzero'⟩
  · rw [if_neg hledger] at hbondMove
    rw [if_neg hself] at hmove
    omega
  · have hworthless := hbond.trans hzero'
    split at hbondMove <;> split at hmove <;> omega

theorem withdraw_succeeds (hw₀ : Deployed d w₀) (txs : List (Tx d)) {tx : Tx d}
    (htransfers : TransfersSucceed d tx.env) {amount : Nat} (hcall : tx.call = .withdraw amount)
    (htime : ((after P w₀ txs).escrow.balances tx.sender.address).armedUntil < tx.env.timestamp)
    (hamount : amount ≤ ((after P w₀ txs).escrow.balances tx.sender.address).armed -
      ((after P w₀ txs).escrow.balances tx.sender.address).committed) :
    ∃ w', tx.exec P (after P w₀ txs) = .ok w' ∧
      w'.fxrp.balanceOf tx.sender.address =
        (after P w₀ txs).fxrp.balanceOf tx.sender.address + amount := by
  have hentered := after_entered (P := P) hw₀.genesis.entered txs
  obtain ⟨p, hp⟩ := Reachable.escrowPool (P := P) ⟨w₀, txs, hw₀, rfl⟩
  have hle := hp.committed_le_armed tx.sender.address
  have hheld : amount ≤ (after P w₀ txs).fxrp.balanceOf d.self := by
    rw [← hp.held]
    exact Nat.le_trans (hp.free_eq tx.sender.address ▸ hamount) (p.free_le_held _)
  have hexec : tx.exec P (after P w₀ txs) =
      DvPEscrow.withdraw d tx.env tx.sender.address amount (after P w₀ txs) := by
    unfold Tx.exec; rw [hcall]; rfl
  refine ⟨_, hexec.trans (DvPEscrow.withdraw_eq_ok.mpr ⟨hentered, htime, by omega,
    (htransfers _ _).1, hheld, rfl⟩), ?_⟩
  have hmove := (after P w₀ txs).fxrp.move_apply d.self tx.sender.address tx.sender.address _ hheld
  rw [if_neg tx.sender.ne_self, if_pos rfl] at hmove
  exact hmove

theorem withdrawBond_succeeds (hw₀ : Deployed d w₀) (txs : List (Tx d)) {tx : Tx d}
    (htransfers : TransfersSucceed d tx.env) {amount : Nat} (hcall : tx.call = .withdrawBond amount)
    (hamount : amount ≤ (after P w₀ txs).ledger.freeBond tx.sender.address) :
    ∃ w', tx.exec P (after P w₀ txs) = .ok w' ∧
      w'.fxrp.balanceOf tx.sender.address =
        (after P w₀ txs).fxrp.balanceOf tx.sender.address + amount := by
  have hentered := (after_steps (P := P) w₀ txs).ledgerEntered hw₀.genesis.ledgerEntered
  obtain ⟨p, hp⟩ := Reachable.ledgerPool (P := P) ⟨w₀, txs, hw₀, rfl⟩
  have hheld : amount ≤ (after P w₀ txs).fxrp.balanceOf d.bondLedger := by
    rw [← hp.held]
    exact Nat.le_trans (hp.free _ ▸ hamount) (p.free_le_held _)
  have hexec : tx.exec P (after P w₀ txs) =
      BondLedger.withdrawBond d.bondLedger tx.env tx.sender.address amount (after P w₀ txs) := by
    unfold Tx.exec; rw [hcall]; rfl
  refine ⟨_, hexec.trans (BondLedger.withdrawBond_eq_ok.mpr ⟨hentered, hamount, (htransfers _ _).2,
    hheld, rfl⟩), ?_⟩
  have hmove := (after P w₀ txs).fxrp.move_apply d.bondLedger tx.sender.address tx.sender.address _ hheld
  rw [if_neg tx.sender.ne_ledger, if_pos rfl] at hmove
  exact hmove

/-- Whoever calls, whatever the owner did: the taker of an overdue match gets
principal and bond, a taker its free balance, a maker its free bond. -/
theorem no_stuck_funds (hw₀ : Deployed d w₀) (txs : List (Tx d))
    (htimes : ∀ tx ∈ txs, tx.env.timestamp < 2 ^ 40 - 2 ^ 33) (tx : Tx d)
    (htransfers : TransfersSucceed d tx.env) :
    let w := after P w₀ txs
    (∀ id, tx.call = .refund id → (w.escrow.matchOf id).state = .locked →
      (w.escrow.matchOf id).refundAfter + refundGrace < tx.env.timestamp →
      ∃ w', tx.exec P w = .ok w' ∧ w'.fxrp.balanceOf (w.escrow.matchOf id).taker =
        w.fxrp.balanceOf (w.escrow.matchOf id).taker +
          ((w.escrow.matchOf id).amountFxrp + (w.escrow.matchOf id).bondAmount)) ∧
    (∀ amount, tx.call = .withdraw amount →
      (w.escrow.balances tx.sender.address).armedUntil < tx.env.timestamp →
      amount ≤ (w.escrow.balances tx.sender.address).armed -
        (w.escrow.balances tx.sender.address).committed →
      ∃ w', tx.exec P w = .ok w' ∧
        w'.fxrp.balanceOf tx.sender.address = w.fxrp.balanceOf tx.sender.address + amount) ∧
    (∀ amount, tx.call = .withdrawBond amount → amount ≤ w.ledger.freeBond tx.sender.address →
      ∃ w', tx.exec P w = .ok w' ∧
        w'.fxrp.balanceOf tx.sender.address = w.fxrp.balanceOf tx.sender.address + amount) :=
  ⟨fun _ => refund_succeeds hw₀ txs htimes htransfers, fun _ => withdraw_succeeds hw₀ txs htransfers,
    fun _ => withdrawBond_succeeds hw₀ txs htransfers⟩

/-- The sample match, refunded one second after its grace period. -/
theorem no_stuck_funds_opening :
    let w := after Sample.primitives Sample.world (Sample.opening 1000 7)
    ∃ w', (Sample.tx 2921 Sample.owner (.refund 7)).exec Sample.primitives w = .ok w' ∧
      w'.fxrp.balanceOf (w.escrow.matchOf 7).taker = w.fxrp.balanceOf (w.escrow.matchOf 7).taker +
        ((w.escrow.matchOf 7).amountFxrp + (w.escrow.matchOf 7).bondAmount) :=
  (no_stuck_funds Sample.deployed (Sample.opening 1000 7) (by decide)
    (Sample.tx 2921 Sample.owner (.refund 7)) (fun _ _ => ⟨rfl, rfl⟩)).1 7 rfl (by decide +kernel)
    (by decide +kernel)

/-- The verifier never accepts two response bodies for one payment, in any of the
environments the transactions ran in. -/
def FunctionalVerifier (txs : List (Tx d)) : Prop :=
  ∀ tx ∈ txs, ∀ tx' ∈ txs, ∀ proof proof' : XRPPayment.Proof,
    tx.env.verifyXRPPayment proof = true → tx'.env.verifyXRPPayment proof' = true →
    proof.txId = proof'.txId → proof.data.responseBody = proof'.data.responseBody

/-- A payment that fits a locked match has not been used: its tag is the match's,
and a tag belongs to one match. -/
theorem txId_unused (hw₀ : Deployed d w₀) (txs : List (Tx d)) {tx : Tx d}
    (hfdc : FunctionalVerifier (txs ++ [tx])) {id : Bytes32} {proof : XRPPayment.Proof}
    (hlocked : ((after P w₀ txs).escrow.matchOf id).state = .locked)
    (hfits : ProofAccepted d tx.env (fun _ => false) ((after P w₀ txs).escrow.matchOf id) proof) :
    (after P w₀ txs).escrow.usedTxId proof.txId = false := by
  obtain ⟨proofOf, hh⟩ := hw₀.releaseHistory (P := P) txs
  refine Bool.eq_false_iff.mpr fun hused => ?_
  obtain ⟨other, hreleased, htx⟩ := (hh.used proof.txId).mp hused
  obtain ⟨before, tx', later, hsplit, _, haccepted⟩ := hh.accepted other hreleased
  have hsame := hfdc tx' (by simp [hsplit]) tx (by simp) (proofOf other) proof haccepted.verified
    hfits.verified htx
  have htag : ((after P w₀ txs).escrow.matchOf other).destinationTag =
      ((after P w₀ txs).escrow.matchOf id).destinationTag := by
    rw [← haccepted.tag, ← hfits.tag, hsame]
  have heq := (hw₀.tagsDistinct (P := P) txs).injective other id (by rw [hreleased]; decide)
    (by rw [hlocked]; decide) htag
  rw [heq, hlocked] at hreleased
  cases hreleased

theorem release_succeeds (hw₀ : Deployed d w₀) (txs : List (Tx d)) {tx : Tx d}
    (hfdc : FunctionalVerifier (txs ++ [tx])) (htransfers : TransfersSucceed d tx.env)
    {id : Bytes32} {proof : XRPPayment.Proof} (hcall : tx.call = .release id proof)
    (hlocked : ((after P w₀ txs).escrow.matchOf id).state = .locked)
    (hfits : ProofAccepted d tx.env (fun _ => false) ((after P w₀ txs).escrow.matchOf id) proof) :
    ∃ w', tx.exec P (after P w₀ txs) = .ok w' := by
  have hunused := txId_unused hw₀ txs hfdc hlocked hfits
  have hcovered := hw₀.covered txs hlocked
  have hexec : tx.exec P (after P w₀ txs) =
      DvPEscrow.release d tx.env id proof (after P w₀ txs) := by
    unfold Tx.exec; rw [hcall]; rfl
  have haccepted : ProofAccepted d tx.env (after P w₀ txs).escrow.usedTxId
      ((after P w₀ txs).escrow.matchOf id) proof := { hfits with unused := hunused }
  exact ⟨_, hexec.trans (DvPEscrow.release_eq_ok.mpr ⟨after_entered hw₀.genesis.entered txs, hlocked,
    haccepted, hcovered.committed, hcovered.armed, hcovered.bound, hcovered.active,
    hcovered.returnable, (htransfers _ _).1, hcovered.held, rfl⟩)⟩

/-- Away from the end of `uint40` the windows add up as they read. -/
theorem refund_too_early (hw₀ : Deployed d w₀) (txs : List (Tx d)) {tx : Tx d} {id : Bytes32}
    (hcall : tx.call = .refund id)
    (hwidth : ((after P w₀ txs).escrow.matchOf id).lockedAt + d.settlementWindow.toNat < 2 ^ 40)
    (htime : tx.env.timestamp ≤ ((after P w₀ txs).escrow.matchOf id).paymentDeadline +
      d.attestationBudget.toNat + refundGrace) (w' : World) :
    tx.exec P (after P w₀ txs) ≠ .ok w' := by
  intro h
  unfold Tx.exec at h
  rw [hcall] at h
  obtain ⟨_, hlocked, _, hlate, _⟩ := DvPEscrow.refund_eq_ok.mp h
  obtain ⟨tx', _, hat⟩ := (hw₀.opened (P := P) txs).openedAt id (by rw [hlocked]; decide)
  have hbudget := d.budget_lt
  have hwindow : d.paymentWindow + d.attestationBudget.toNat = d.settlementWindow.toNat :=
    Nat.sub_add_cancel (Nat.le_of_lt hbudget)
  -- both deadlines are the truncated lock time plus their window
  have hdeadline : ((after P w₀ txs).escrow.matchOf id).paymentDeadline =
      ((after P w₀ txs).escrow.matchOf id).lockedAt + d.paymentWindow := by
    rw [hat.paymentDeadline]
    rw [hat.lockedAt] at hwidth ⊢
    unfold narrow at hwidth ⊢
    omega
  have hrefund : ((after P w₀ txs).escrow.matchOf id).refundAfter =
      ((after P w₀ txs).escrow.matchOf id).lockedAt + d.settlementWindow.toNat := by
    rw [hat.refundAfter]
    rw [hat.lockedAt] at hwidth ⊢
    unfold narrow at hwidth ⊢
    omega
  omega

/-- A maker who paid in time is paid: no other match can use up the payment,
`release` goes through while the match is locked, and no refund comes first. -/
theorem maker_not_blocked (hw₀ : Deployed d w₀) (txs : List (Tx d)) (tx : Tx d)
    (hfdc : FunctionalVerifier (txs ++ [tx])) (htransfers : TransfersSucceed d tx.env)
    (id : Bytes32) (hlocked : ((after P w₀ txs).escrow.matchOf id).state = .locked) :
    let w := after P w₀ txs
    (∀ proof, ProofAccepted d tx.env (fun _ => false) (w.escrow.matchOf id) proof →
      w.escrow.usedTxId proof.txId = false ∧
      (tx.call = .release id proof → ∃ w', tx.exec P w = .ok w')) ∧
    ((w.escrow.matchOf id).lockedAt + d.settlementWindow.toNat < 2 ^ 40 → tx.call = .refund id →
      tx.env.timestamp ≤
        (w.escrow.matchOf id).paymentDeadline + d.attestationBudget.toNat + refundGrace →
      ∀ w', tx.exec P w ≠ .ok w') :=
  ⟨fun _ hfits => ⟨txId_unused hw₀ txs hfdc hlocked hfits,
      fun hcall => release_succeeds hw₀ txs hfdc htransfers hcall hlocked hfits⟩,
    fun hwidth hcall htime => refund_too_early hw₀ txs hcall hwidth htime⟩

/-- Every sample transaction asks the same verifier, which knows one payment. -/
theorem Sample.functionalVerifier (txs : List (Tx Sample.deployment))
    (h : ∀ tx ∈ txs, ∃ t, tx.env = Sample.env t) : FunctionalVerifier txs := by
  intro tx hmem tx' hmem' proof proof' hproof hproof' _
  obtain ⟨t, ht⟩ := h tx hmem
  obtain ⟨t', ht'⟩ := h tx' hmem'
  rw [ht] at hproof
  rw [ht'] at hproof'
  rw [of_decide_eq_true hproof, of_decide_eq_true hproof']

theorem maker_not_blocked_opening :
    let w := after Sample.primitives Sample.world (Sample.opening 1000 7)
    w.escrow.usedTxId (Sample.proof 1000).txId = false ∧
    ∃ w', (Sample.tx 1500 Sample.maker (.release 7 (Sample.proof 1000))).exec Sample.primitives w =
      .ok w' := by
  have hfdc := Sample.functionalVerifier
    (Sample.opening 1000 7 ++ [Sample.tx 1500 Sample.maker (.release 7 (Sample.proof 1000))])
    (by simp [Sample.opening, Sample.tx])
  have h := (maker_not_blocked (P := Sample.primitives) Sample.deployed (Sample.opening 1000 7) _ hfdc
    (fun _ _ => ⟨rfl, rfl⟩) 7 (by decide +kernel)).1 (Sample.proof 1000)
    ⟨by decide, by decide, by decide, by decide, by decide, by decide, by decide +kernel, by decide,
      by decide +kernel, by decide, by decide +kernel, by decide +kernel, by decide +kernel⟩
  exact ⟨h.1, h.2 rfl⟩

/-- Locked 25 minutes before `uint40` ends, a match has a `refundAfter` that
wrapped to 300: it is refunded in the second it was locked. -/
theorem refund_wraps :
    ¬ ∀ (P : Primitives) (d : Deployment) (w₀ : World), Deployed d w₀ →
      ∀ (txs : List (Tx d)) (tx : Tx d), FunctionalVerifier (txs ++ [tx]) →
      TransfersSucceed d tx.env → ∀ id, ((after P w₀ txs).escrow.matchOf id).state = .locked →
      let w := after P w₀ txs
      (∀ proof, ProofAccepted d tx.env (fun _ => false) (w.escrow.matchOf id) proof →
        w.escrow.usedTxId proof.txId = false ∧
        (tx.call = .release id proof → ∃ w', tx.exec P w = .ok w')) ∧
      (tx.call = .refund id →
        tx.env.timestamp ≤
          (w.escrow.matchOf id).paymentDeadline + d.attestationBudget.toNat + refundGrace →
        ∀ w', tx.exec P w ≠ .ok w') := by
  intro hclaim
  have hrefused := (hclaim Sample.primitives Sample.deployment Sample.world Sample.deployed
    (Sample.opening (2 ^ 40 - 1500) 7) (Sample.tx (2 ^ 40 - 1500) Sample.owner (.refund 7))
    (Sample.functionalVerifier _ (by simp [Sample.opening, Sample.tx])) (fun _ _ => ⟨rfl, rfl⟩) 7
    (by decide +kernel)).2 rfl (by decide +kernel)
  have hok : ((Sample.tx (2 ^ 40 - 1500) Sample.owner (.refund 7)).exec Sample.primitives
      (after Sample.primitives Sample.world (Sample.opening (2 ^ 40 - 1500) 7))).isOk = true := by
    decide +kernel
  cases hresult : (Sample.tx (2 ^ 40 - 1500) Sample.owner (.refund 7)).exec Sample.primitives
      (after Sample.primitives Sample.world (Sample.opening (2 ^ 40 - 1500) 7)) with
  | ok w' => exact hrefused w' hresult
  | error e => rw [hresult] at hok; cases hok

end Results

end WhisperDesk
