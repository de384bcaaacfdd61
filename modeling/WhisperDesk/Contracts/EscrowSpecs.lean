import WhisperDesk.Contracts.DvPEscrow

/-!
# When the escrow's calls succeed

One lemma per function of `DvPEscrow`: exactly when it succeeds, and the state
it then leaves. Everything later cites these and unfolds none of the functions.
The conditions of `lock` and of a payment proof are structures with a field per
check.
-/
namespace WhisperDesk.DvPEscrow

open Function (update)
open Reverting
open MatchInstructionLib (MatchInstruction)

structure SignatureAccepted (P : Primitives) (env : Env) (teeSigner : Address)
    (instructionData teeSignature : Bytes) : Prop where
  length : teeSignature.length = 65
  lowS : (splitSignature teeSignature).2.1.toNat ≤ secp256k1nHalf
  recovered : recoveredSigner P env.chainid instructionData teeSignature = teeSigner
  signer_ne_zero : teeSigner ≠ 0

structure InstructionAccepted (d : Deployment) (env : Env) (w : World) (mi : MatchInstruction) :
    Prop where
  fresh : (w.escrow.matchOf mi.matchId).state = .none
  unexpired : env.timestamp ≤ mi.instructionExpiresAt
  taker_ne_maker : mi.taker ≠ mi.maker
  minBlock : d.minBlockFxrp ≤ mi.amountFxrp
  address : mi.takerXrplAddress.length ≠ 0

structure BandAccepted (env : Env) (mid18 ts price : Nat) : Prop where
  mid_ne_zero : mid18 ≠ 0
  past : ts ≤ env.timestamp
  recent : env.timestamp - ts ≤ maxOracleAge
  lower : mid18 * (10000 - bandBips) ≤ price * 10000
  upper : price * 10000 ≤ mid18 * (10000 + bandBips)
  upper_lt : mid18 * (10000 + bandBips) < 2 ^ 256

def bondOf (amountFxrp : Nat) : Nat := amountFxrp * bondBips / 10000

/-- Every check `lock` makes before it hands back the surplus. -/
structure LockAccepted (P : Primitives) (d : Deployment) (env : Env) (value : Nat)
    (instructionData teeSignature : Bytes) (w : World) (mi : MatchInstruction)
    (fee mid18 ts : Nat) : Prop where
  unpaused : w.escrow.lockPaused = false
  decoded : MatchInstructionLib.decode instructionData = some mi
  forThis : mi.escrow = d.self
  signature : SignatureAccepted P env w.escrow.teeSigner instructionData teeSignature
  instruction : InstructionAccepted d env w mi
  feeRead : env.calculateFeeById = some fee
  fee_le : fee ≤ value
  feedRead : env.getFeedByIdInWei = some (mid18, ts)
  band : BandAccepted env mid18 ts mi.priceUsd18
  notional_lt : mi.amountFxrp * mi.priceUsd18 < 2 ^ 256
  drops_lt : mi.amountFxrp * mi.priceUsd18 / mid18 < 2 ^ 128
  armedUntil : env.timestamp ≤ (w.escrow.balances mi.taker).armedUntil
  armed : (w.escrow.balances mi.taker).committed + mi.amountFxrp ≤ (w.escrow.balances mi.taker).armed
  committed_lt : (w.escrow.balances mi.taker).committed + mi.amountFxrp < 2 ^ 128
  bound : d.self = w.ledger.escrow
  bond : bondOf mi.amountFxrp ≤ w.ledger.freeBond mi.maker
  tag_lt : w.escrow.nextDestinationTag + 1 < 2 ^ 32
  refundable_lt : env.timestamp + d.settlementWindow.toNat < 2 ^ 256

/-- The `Match` that `lock` writes. -/
def lockedMatch (P : Primitives) (d : Deployment) (env : Env) (mi : MatchInstruction)
    (mid18 destinationTag : Nat) : Match where
  taker := mi.taker
  destinationTag := destinationTag
  lockedAt := narrow 40 env.timestamp
  state := .locked
  maker := mi.maker
  paymentDeadline := narrow 40 (env.timestamp + d.paymentWindow)
  refundAfter := narrow 40 (env.timestamp + d.settlementWindow.toNat)
  amountFxrp := mi.amountFxrp
  xrpDrops := mi.amountFxrp * mi.priceUsd18 / mid18
  bondAmount := bondOf mi.amountFxrp
  takerXrplAddressHash := P.keccak256 mi.takerXrplAddress

/-- The state of an accepted `lock` just before it hands back the surplus. -/
def lockedWorld (P : Primitives) (d : Deployment) (env : Env) (value : Nat) (mi : MatchInstruction)
    (fee mid18 : Nat) (w : World) : World :=
  let m := lockedMatch P d env mi mid18 w.escrow.nextDestinationTag
  { w with
    native := w.native + value - fee
    escrow.balances := update w.escrow.balances mi.taker
      { w.escrow.balances mi.taker with
        committed := (w.escrow.balances mi.taker).committed + mi.amountFxrp }
    escrow.matchOf := update w.escrow.matchOf mi.matchId m
    escrow.nextDestinationTag := w.escrow.nextDestinationTag + 1
    ledger.freeBond := update w.ledger.freeBond mi.maker (w.ledger.freeBond mi.maker - m.bondAmount)
    ledger.lockedBonds := update w.ledger.lockedBonds mi.matchId ⟨mi.maker, m.bondAmount, true⟩
    log := .matchLocked mi.matchId mi.taker mi.maker mi.amountFxrp m.xrpDrops m.destinationTag
        mi.takerXrplAddress m.paymentDeadline m.refundAfter mi.priceUsd18 mid18 ::
      .bondLocked mi.matchId mi.maker m.bondAmount :: w.log }

/-- Every check `release` makes of the proof. -/
structure ProofAccepted (d : Deployment) (env : Env) (usedTxId : Bytes32 → Bool) (m : Match)
    (proof : XRPPayment.Proof) : Prop where
  owner : proof.data.requestBody.proofOwner = d.self
  unused : usedTxId proof.data.requestBody.transactionId = false
  verified : env.verifyXRPPayment proof = true
  attestationType : proof.data.attestationType = expectedAttestationType
  sourceId : proof.data.sourceId = d.expectedSourceId
  status : proof.data.responseBody.status = 0
  receiver : proof.data.responseBody.receivingAddressHash = m.takerXrplAddressHash
  hasTag : proof.data.responseBody.hasDestinationTag = true
  tag : proof.data.responseBody.destinationTag = m.destinationTag
  amount_pos : 0 < proof.data.responseBody.receivedAmount
  amount : (m.xrpDrops : Int) ≤ proof.data.responseBody.receivedAmount
  afterLock : m.lockedAt ≤ proof.data.responseBody.blockTimestamp
  beforeDeadline : proof.data.responseBody.blockTimestamp ≤ m.paymentDeadline

/-- A taker's counters after a match of `amount` left them. -/
def settledBalance (bal : TakerBalance) (amount : Nat) : TakerBalance :=
  { bal with committed := bal.committed - amount, armed := bal.armed - amount }

section Parts

variable {P : Primitives} {d : Deployment} {env : Env} {w w' : World} {mi : MatchInstruction}
  {data sig : Bytes} {signer : Address} {u : Unit}

theorem checkTeeSignature_eq_ok :
    checkTeeSignature P env signer data sig = .ok u ↔ SignatureAccepted P env signer data sig := by
  simp only [checkTeeSignature, bind_eq_ok, revertIf_eq_ok, ne_eq, Decidable.not_not, gt_iff_lt,
    Nat.not_lt]
  constructor
  · rintro ⟨_, hlen, _, hs, _, hzero, hsigner⟩
    exact ⟨hlen, hs, hsigner, fun h => hzero (hsigner.trans h)⟩
  · rintro ⟨hlen, hs, hrec, hzero⟩
    exact ⟨(), hlen, (), hs, (), fun h => hzero (hrec.symm.trans h), hrec⟩

theorem checkInstruction_eq_ok :
    checkInstruction d env w mi = .ok u ↔ InstructionAccepted d env w mi := by
  simp only [checkInstruction, bind_eq_ok, revertIf_eq_ok, ne_eq, Decidable.not_not, gt_iff_lt,
    Nat.not_lt]
  constructor
  · rintro ⟨_, hfresh, _, hexp, _, hself, _, hmin, haddr⟩
    exact ⟨hfresh, hexp, hself, hmin, haddr⟩
  · rintro ⟨hfresh, hexp, hself, hmin, haddr⟩
    exact ⟨(), hfresh, (), hexp, (), hself, (), hmin, haddr⟩

theorem checkBand_eq_ok {mid18 ts price : Nat} :
    checkBand env mid18 ts price = .ok u ↔ BandAccepted env mid18 ts price := by
  simp only [checkBand, bind_eq_ok, revertIf_eq_ok, checkedMul_eq_ok, not_or, gt_iff_lt, Nat.not_lt]
  constructor
  · rintro ⟨_, hmid, _, ⟨hpast, hrecent⟩, _, ⟨_, rfl⟩, _, ⟨_, rfl⟩, _, hlower, _, ⟨hlt, rfl⟩, hupper⟩
    exact ⟨hmid, hpast, hrecent, hlower, hupper, hlt⟩
  · rintro ⟨hmid, hpast, hrecent, hlower, hupper, hlt⟩
    have hprice := Nat.lt_of_le_of_lt hupper hlt
    exact ⟨(), hmid, (), ⟨hpast, hrecent⟩, _, ⟨hprice, rfl⟩, _,
      ⟨Nat.lt_of_le_of_lt hlower hprice, rfl⟩, (), hlower, _, ⟨hlt, rfl⟩, hupper⟩

theorem deriveDrops_eq_ok {amount price mid18 drops : Nat} :
    deriveDrops amount price mid18 = .ok drops ↔ amount * price < 2 ^ 256 ∧
      amount * price / mid18 < 2 ^ 128 ∧ amount * price / mid18 = drops := by
  simp only [deriveDrops, bind_eq_ok, revertIf_eq_ok, checkedMul_eq_ok, pure_eq_ok, ge_iff_le,
    Nat.not_le]
  constructor
  · rintro ⟨_, ⟨hlt, rfl⟩, _, hdrops, h⟩
    exact ⟨hlt, hdrops, (narrow_of_lt hdrops).symm.trans h⟩
  · rintro ⟨hlt, hdrops, h⟩
    exact ⟨_, ⟨hlt, rfl⟩, (), hdrops, (narrow_of_lt hdrops).trans h⟩

theorem bondFor_eq_ok {amount bond : Nat} :
    bondFor amount = .ok bond ↔ amount * bondBips < 2 ^ 256 ∧ bondOf amount < 2 ^ 128 ∧
      bondOf amount = bond := by
  simp only [bondFor, bind_eq_ok, revertIf_eq_ok, checkedMul_eq_ok, pure_eq_ok, ge_iff_le,
    Nat.not_le]
  constructor
  · rintro ⟨_, ⟨hlt, rfl⟩, _, hbond, h⟩
    exact ⟨hlt, hbond, (narrow_of_lt hbond).symm.trans h⟩
  · rintro ⟨hlt, hbond, h⟩
    exact ⟨_, ⟨hlt, rfl⟩, (), hbond, (narrow_of_lt hbond).trans h⟩

theorem reserveTaker_eq_ok :
    reserveTaker env mi w = .ok w' ↔ env.timestamp ≤ (w.escrow.balances mi.taker).armedUntil ∧
      (w.escrow.balances mi.taker).committed + mi.amountFxrp ≤ (w.escrow.balances mi.taker).armed ∧
      (w.escrow.balances mi.taker).committed + mi.amountFxrp < 2 ^ 128 ∧
      w' = { w with
        escrow.balances := update w.escrow.balances mi.taker
          { w.escrow.balances mi.taker with
            committed := (w.escrow.balances mi.taker).committed + mi.amountFxrp } } := by
  simp only [reserveTaker, bind_eq_ok, revertIf_eq_ok, checkedMul_eq_ok, checkedAdd_eq_ok,
    checkedSub_eq_ok, pure_eq_ok, takerFeeBips, Nat.mul_zero, ge_iff_le,
    Nat.not_le, Nat.not_lt]
  constructor
  · rintro ⟨_, ⟨_, rfl⟩, _, ⟨_, rfl⟩, _, harmed, _, ⟨hle, rfl⟩, _, havail, _, ⟨_, rfl⟩, _, hlt, rfl⟩
    have hlt' := hlt
    simp only [Nat.zero_div, Nat.add_zero] at havail
    rw [narrow_of_lt hlt']
    exact ⟨harmed, by omega, hlt', rfl⟩
  · rintro ⟨harmed, havail, hlt, rfl⟩
    have hwide : (2 : Nat) ^ 128 < 2 ^ 256 := by decide
    refine ⟨0, ⟨by omega, rfl⟩, mi.amountFxrp, ⟨by omega, by omega⟩, (), harmed, _,
      ⟨by omega, rfl⟩, (), by omega, _, ⟨by omega, rfl⟩, (), hlt, ?_⟩
    rw [narrow_of_lt hlt]

theorem openMatch_eq_ok {drops bond mid18 : Nat} :
    openMatch P d env mi drops bond mid18 w = .ok w' ↔ w.escrow.nextDestinationTag + 1 < 2 ^ 32 ∧
      env.timestamp + d.settlementWindow.toNat < 2 ^ 256 ∧
      w' = { w with
        escrow.nextDestinationTag := w.escrow.nextDestinationTag + 1
        escrow.matchOf := update w.escrow.matchOf mi.matchId
          { lockedMatch P d env mi mid18 w.escrow.nextDestinationTag with
            amountFxrp := narrow 128 mi.amountFxrp, xrpDrops := drops, bondAmount := bond }
        log := .matchLocked mi.matchId mi.taker mi.maker mi.amountFxrp drops
          w.escrow.nextDestinationTag mi.takerXrplAddress
          (narrow 40 (env.timestamp + d.paymentWindow))
          (narrow 40 (env.timestamp + d.settlementWindow.toNat)) mi.priceUsd18 mid18 :: w.log } := by
  simp only [openMatch, bind_eq_ok, checkedAdd_eq_ok, pure_eq_ok, World.emit]
  constructor
  · rintro ⟨_, ⟨htag, rfl⟩, _, ⟨_, rfl⟩, _, ⟨hlt, rfl⟩, rfl⟩
    exact ⟨htag, hlt, rfl⟩
  · rintro ⟨htag, hlt, rfl⟩
    have hwindow : d.paymentWindow ≤ d.settlementWindow.toNat := Nat.sub_le _ _
    exact ⟨_, ⟨htag, rfl⟩, _, ⟨by omega, rfl⟩, _, ⟨hlt, rfl⟩, rfl⟩

theorem refundSurplus_eq_ok {callback : World → Except Revert World} {value fee : Nat} :
    refundSurplus callback value fee w = .ok w' ↔ (value ≤ fee ∧ w = w') ∨
      (fee < value ∧ callback { w with native := w.native - (value - fee) } = .ok w') := by
  unfold refundSurplus
  by_cases hv : value > fee
  · rw [if_pos hv]
    have hnot : ¬ value ≤ fee := by omega
    cases hc : callback { w with native := w.native - (value - fee) } with
    | ok v => simp [hnot, hv]
    | error e => simp [hnot]
  · rw [if_neg hv]
    have hle : value ≤ fee := by omega
    simp [hv, hle]

theorem checkProof_eq_ok {m : Match} {proof : XRPPayment.Proof} :
    checkProof d env w m proof = .ok u ↔ ProofAccepted d env w.escrow.usedTxId m proof := by
  simp only [checkProof, bind_eq_ok, revertIf_eq_ok, ne_eq, Decidable.not_not, not_or,
    Bool.not_eq_true, Bool.not_eq_false, gt_iff_lt, Nat.not_lt, Int.not_le]
  constructor
  · rintro ⟨_, howner, _, hunused, _, hverified, _, ⟨htype, hsource⟩, _, hstatus, _, hreceiver, _,
      ⟨hhas, htag⟩, _, ⟨hpos, hamount⟩, _, hafter, hbefore⟩
    exact ⟨howner, hunused, hverified, htype, hsource, hstatus, hreceiver, hhas, htag, hpos,
      by omega, hafter, hbefore⟩
  · rintro ⟨howner, hunused, hverified, htype, hsource, hstatus, hreceiver, hhas, htag, hpos,
      hamount, hafter, hbefore⟩
    exact ⟨(), howner, (), hunused, (), hverified, (), ⟨htype, hsource⟩, (), hstatus, (), hreceiver,
      (), ⟨hhas, htag⟩, (), ⟨hpos, by omega⟩, (), hafter, hbefore⟩

theorem uncommit_eq_ok {m : Match} :
    uncommit m w = .ok w' ↔ m.amountFxrp ≤ (w.escrow.balances m.taker).committed ∧
      m.amountFxrp ≤ (w.escrow.balances m.taker).armed ∧
      w' = { w with
        escrow.balances := update w.escrow.balances m.taker
          (settledBalance (w.escrow.balances m.taker) m.amountFxrp) } := by
  simp only [uncommit, bind_eq_ok, checkedSub_eq_ok, pure_eq_ok, settledBalance]
  constructor
  · rintro ⟨_, ⟨hc, rfl⟩, _, ⟨ha, rfl⟩, rfl⟩
    exact ⟨hc, ha, rfl⟩
  · rintro ⟨hc, ha, rfl⟩
    exact ⟨_, ⟨hc, rfl⟩, _, ⟨ha, rfl⟩, rfl⟩

end Parts

section Functions

variable {P : Primitives} {d : Deployment} {env : Env} {w w' : World} {sender : Address}
  {amount : Nat} {matchId : Bytes32}

theorem deposit_eq_ok {armedUntil : Nat} :
    deposit d env sender amount armedUntil w = .ok w' ↔ w.escrow.entered = false ∧
      (w.escrow.balances sender).armed + amount < 2 ^ 128 ∧
      env.fxrp sender d.self amount = .accepts ∧
      ∃ h : amount ≤ w.fxrp.balanceOf sender,
        w' = { w with
          escrow.balances := update w.escrow.balances sender
            { w.escrow.balances sender with
              armed := (w.escrow.balances sender).armed + amount
              armedUntil := max armedUntil (w.escrow.balances sender).armedUntil }
          escrow.entered := false
          fxrp := w.fxrp.move sender d.self amount h
          log := .deposited sender amount (max armedUntil (w.escrow.balances sender).armedUntil) ::
            .transfer sender d.self amount :: w.log } := by
  simp only [deposit, nonReentrant_eq_ok, bind_eq_ok, checkedAdd_eq_ok, revertIf_eq_ok,
    fxrpTransfer_eq_ok, pure_eq_ok, World.emit, ge_iff_le, Nat.not_le]
  constructor
  · rintro ⟨he, v, ⟨n, ⟨_, rfl⟩, _, hlt, u, ⟨hacc, hle, rfl⟩, rfl⟩, rfl⟩
    refine ⟨he, hlt, hacc, hle, ?_⟩
    rw [narrow_of_lt hlt]
  · rintro ⟨he, hlt, hacc, hle, rfl⟩
    have hwide : (2 : Nat) ^ 128 < 2 ^ 256 := by decide
    refine ⟨he, _, ⟨_, ⟨by omega, rfl⟩, (), hlt, _, ⟨hacc, hle, rfl⟩, rfl⟩, ?_⟩
    rw [narrow_of_lt hlt]

/-- The narrowing cast is the identity as soon as `armed` fits its own type. -/
theorem withdraw_eq_ok :
    withdraw d env sender amount w = .ok w' ↔ w.escrow.entered = false ∧
      (w.escrow.balances sender).armedUntil < env.timestamp ∧
      (w.escrow.balances sender).committed + amount ≤ (w.escrow.balances sender).armed ∧
      env.fxrp d.self sender amount = .accepts ∧
      ∃ h : amount ≤ w.fxrp.balanceOf d.self,
        w' = { w with
          escrow.balances := update w.escrow.balances sender
            { w.escrow.balances sender with
              armed := narrow 128 ((w.escrow.balances sender).armed - amount) }
          escrow.entered := false
          fxrp := w.fxrp.move d.self sender amount h
          log := .withdrawn sender amount :: .transfer d.self sender amount :: w.log } := by
  simp only [withdraw, nonReentrant_eq_ok, bind_eq_ok, checkedSub_eq_ok, revertIf_eq_ok,
    fxrpTransfer_eq_ok, pure_eq_ok, World.emit, gt_iff_lt, Nat.not_lt, Nat.not_le]
  constructor
  · rintro ⟨he, v, ⟨_, htime, n, ⟨hc, rfl⟩, _, havail, k, ⟨_, rfl⟩, u, ⟨hacc, hle, rfl⟩, rfl⟩, rfl⟩
    exact ⟨he, htime, by omega, hacc, hle, rfl⟩
  · rintro ⟨he, htime, havail, hacc, hle, rfl⟩
    exact ⟨he, _, ⟨(), htime, _, ⟨by omega, rfl⟩, (), by omega, _, ⟨by omega, rfl⟩, _,
      ⟨hacc, hle, rfl⟩, rfl⟩, rfl⟩

theorem lock_eq_ok {callback : World → Except Revert World} {value : Nat} {data sig : Bytes} :
    lock P d env callback value data sig w = .ok w' ↔ w.escrow.entered = false ∧
      ∃ mi fee mid18 ts, LockAccepted P d env value data sig w mi fee mid18 ts ∧
        ∃ v, refundSurplus callback value fee
            { lockedWorld P d env value mi fee mid18 w with escrow.entered := true } = .ok v ∧
          { v with escrow.entered := false } = w' := by
  simp only [lock, nonReentrant_eq_ok, bind_eq_ok, revertIf_eq_ok, orRevert_eq_ok,
    checkTeeSignature_eq_ok, checkInstruction_eq_ok, checkBand_eq_ok, deriveDrops_eq_ok,
    reserveTaker_eq_ok, bondFor_eq_ok, BondLedger.lockBond_eq_ok, openMatch_eq_ok, ne_eq,
    Decidable.not_not, Bool.not_eq_true, Nat.not_lt]
  constructor
  · rintro ⟨he, v, ⟨_, hpaused, mi, hmi, _, hthis, _, hsig, _, hins, fee, hfee, _, hvalue,
      ⟨mid18, ts⟩, hfeed, _, hband, _, ⟨hnot, hdrops, rfl⟩, _, ⟨huntil, harmed, hcommitted, rfl⟩,
      _, ⟨_, _, rfl⟩, _, ⟨hbound, hbond, _, rfl⟩, _, ⟨htag, hlt, rfl⟩, hv⟩, rfl⟩
    have hamount : mi.amountFxrp < 2 ^ 128 := Nat.lt_of_le_of_lt (Nat.le_add_left _ _) hcommitted
    rw [narrow_of_lt hamount] at hv
    have hins' : InstructionAccepted d env w mi :=
      ⟨hins.fresh, hins.unexpired, hins.taker_ne_maker, hins.minBlock, hins.address⟩
    exact ⟨he, mi, fee, mid18, ts, ⟨hpaused, hmi, hthis, hsig, hins', hfee, hvalue, hfeed, hband,
      hnot, hdrops, huntil, harmed, hcommitted, hbound, hbond, htag, hlt⟩, v, hv, rfl⟩
  · rintro ⟨he, mi, fee, mid18, ts, h, v, hv, rfl⟩
    have hamount : mi.amountFxrp < 2 ^ 128 :=
      Nat.lt_of_le_of_lt (Nat.le_add_left _ _) h.committed_lt
    have hbond : bondOf mi.amountFxrp < 2 ^ 128 := by
      have : bondOf mi.amountFxrp ≤ mi.amountFxrp := by unfold bondOf bondBips; omega
      omega
    have hwide : mi.amountFxrp * bondBips < 2 ^ 256 := by
      have : (2 : Nat) ^ 128 * bondBips < 2 ^ 256 := by decide
      have hle := Nat.mul_le_mul_right bondBips (Nat.le_of_lt hamount)
      omega
    have hins : InstructionAccepted d env
        { w with escrow.entered := true, native := w.native + value } mi :=
      ⟨h.instruction.fresh, h.instruction.unexpired, h.instruction.taker_ne_maker,
        h.instruction.minBlock, h.instruction.address⟩
    refine ⟨he, v, ⟨(), h.unpaused, mi, h.decoded, (), h.forThis, (), h.signature, (), hins, fee,
      h.feeRead, (), h.fee_le, (mid18, ts), h.feedRead, (), h.band, _,
      ⟨h.notional_lt, h.drops_lt, rfl⟩, _, ⟨h.armedUntil, h.armed, h.committed_lt, rfl⟩, _,
      ⟨hwide, hbond, rfl⟩, _, ⟨h.bound, h.bond, hbond, rfl⟩, _, ⟨h.tag_lt, h.refundable_lt, rfl⟩,
      ?_⟩, rfl⟩
    rw [narrow_of_lt hamount]
    exact hv

/-- `release` pays the maker and frees the bond of the ledger's own entry. -/
theorem release_eq_ok {proof : XRPPayment.Proof} :
    release d env matchId proof w = .ok w' ↔
      let m := w.escrow.matchOf matchId
      let lb := w.ledger.lockedBonds matchId
      w.escrow.entered = false ∧ m.state = .locked ∧
      ProofAccepted d env w.escrow.usedTxId m proof ∧
      m.amountFxrp ≤ (w.escrow.balances m.taker).committed ∧
      m.amountFxrp ≤ (w.escrow.balances m.taker).armed ∧
      d.self = w.ledger.escrow ∧ lb.active = true ∧
      w.ledger.freeBond lb.maker + lb.amount < 2 ^ 256 ∧
      env.fxrp d.self m.maker m.amountFxrp = .accepts ∧
      ∃ h : m.amountFxrp ≤ w.fxrp.balanceOf d.self,
        w' = { w with
          escrow.matchOf := update w.escrow.matchOf matchId { m with state := .released }
          escrow.usedTxId := update w.escrow.usedTxId proof.data.requestBody.transactionId true
          escrow.balances := update w.escrow.balances m.taker
            (settledBalance (w.escrow.balances m.taker) m.amountFxrp)
          escrow.entered := false
          ledger.lockedBonds := update w.ledger.lockedBonds matchId { lb with active := false }
          ledger.freeBond := update w.ledger.freeBond lb.maker (w.ledger.freeBond lb.maker + lb.amount)
          fxrp := w.fxrp.move d.self m.maker m.amountFxrp h
          log := .matchReleased matchId m.maker m.amountFxrp proof.data.requestBody.transactionId ::
            .transfer d.self m.maker m.amountFxrp :: .bondReleased matchId lb.maker lb.amount ::
            w.log } := by
  simp only [release, nonReentrant_eq_ok, bind_eq_ok, revertIf_eq_ok, checkProof_eq_ok,
    uncommit_eq_ok, BondLedger.releaseBond_eq_ok, fxrpTransfer_eq_ok, pure_eq_ok, World.emit, ne_eq,
    Decidable.not_not]
  constructor
  · rintro ⟨he, v, ⟨_, hstate, _, hproof, _, ⟨hc, ha, rfl⟩, _, ⟨hbound, hactive, hlt, rfl⟩, _,
      ⟨hacc, hle, rfl⟩, rfl⟩, rfl⟩
    exact ⟨he, hstate, hproof, hc, ha, hbound, hactive, hlt, hacc, hle, rfl⟩
  · rintro ⟨he, hstate, hproof, hc, ha, hbound, hactive, hlt, hacc, hle, rfl⟩
    exact ⟨he, _, ⟨(), hstate, (), hproof, _, ⟨hc, ha, rfl⟩, _, ⟨hbound, hactive, hlt, rfl⟩, _,
      ⟨hacc, hle, rfl⟩, rfl⟩, rfl⟩

/-- `refund` moves the bond first, then the principal, both to the taker. -/
theorem refund_eq_ok :
    refund d env matchId w = .ok w' ↔
      let m := w.escrow.matchOf matchId
      let lb := w.ledger.lockedBonds matchId
      w.escrow.entered = false ∧ m.state = .locked ∧ m.refundAfter + refundGrace < 2 ^ 40 ∧
      m.refundAfter + refundGrace < env.timestamp ∧
      m.amountFxrp ≤ (w.escrow.balances m.taker).committed ∧
      m.amountFxrp ≤ (w.escrow.balances m.taker).armed ∧
      d.self = w.ledger.escrow ∧ lb.active = true ∧
      env.fxrp d.bondLedger m.taker lb.amount = .accepts ∧
      ∃ hbond : lb.amount ≤ w.fxrp.balanceOf d.bondLedger,
      env.fxrp d.self m.taker m.amountFxrp = .accepts ∧
      ∃ h : m.amountFxrp ≤ (w.fxrp.move d.bondLedger m.taker lb.amount hbond).balanceOf d.self,
        w' = { w with
          escrow.matchOf := update w.escrow.matchOf matchId { m with state := .refunded }
          escrow.balances := update w.escrow.balances m.taker
            (settledBalance (w.escrow.balances m.taker) m.amountFxrp)
          escrow.entered := false
          ledger.lockedBonds := update w.ledger.lockedBonds matchId { lb with active := false }
          fxrp := (w.fxrp.move d.bondLedger m.taker lb.amount hbond).move d.self m.taker
            m.amountFxrp h
          log := .matchRefunded matchId m.taker m.amountFxrp m.bondAmount ::
            .transfer d.self m.taker m.amountFxrp ::
            .bondSlashed matchId lb.maker m.taker lb.amount ::
            .transfer d.bondLedger m.taker lb.amount :: w.log } := by
  simp only [refund, nonReentrant_eq_ok, bind_eq_ok, revertIf_eq_ok, checkedAdd_eq_ok,
    uncommit_eq_ok, BondLedger.slashBond_eq_ok, fxrpTransfer_eq_ok, pure_eq_ok, World.emit, ne_eq,
    Decidable.not_not, Nat.not_le]
  constructor
  · rintro ⟨he, v, ⟨_, hstate, _, ⟨hlt, rfl⟩, _, htime, _, ⟨hc, ha, rfl⟩, _,
      ⟨hbound, hactive, hbacc, hbond, rfl⟩, _, ⟨hacc, hle, rfl⟩, rfl⟩, rfl⟩
    exact ⟨he, hstate, hlt, htime, hc, ha, hbound, hactive, hbacc, hbond, hacc, hle, rfl⟩
  · rintro ⟨he, hstate, hlt, htime, hc, ha, hbound, hactive, hbacc, hbond, hacc, hle, rfl⟩
    exact ⟨he, _, ⟨(), hstate, _, ⟨hlt, rfl⟩, (), htime, _, ⟨hc, ha, rfl⟩, _,
      ⟨hbound, hactive, hbacc, hbond, rfl⟩, _, ⟨hacc, hle, rfl⟩, rfl⟩, rfl⟩

theorem setTeeSigner_eq_ok {newSigner : Address} :
    setTeeSigner sender newSigner w = .ok w' ↔ sender = w.escrow.owner ∧ newSigner ≠ 0 ∧
      w' = { w with
        escrow.teeSigner := newSigner
        log := .teeSignerUpdated w.escrow.teeSigner newSigner :: w.log } := by
  simp only [setTeeSigner, bind_eq_ok, revertIf_eq_ok, pure_eq_ok, World.emit, ne_eq,
    Decidable.not_not]
  constructor
  · rintro ⟨_, hs, _, hzero, rfl⟩
    exact ⟨hs, hzero, rfl⟩
  · rintro ⟨hs, hzero, rfl⟩
    exact ⟨(), hs, (), hzero, rfl⟩

theorem setFeeTreasury_eq_ok {t : Address} :
    setFeeTreasury sender t w = .ok w' ↔ sender = w.escrow.owner ∧ t ≠ 0 ∧
      w' = { w with escrow.feeTreasury := t } := by
  simp only [setFeeTreasury, bind_eq_ok, revertIf_eq_ok, pure_eq_ok, ne_eq, Decidable.not_not]
  constructor
  · rintro ⟨_, hs, _, hzero, rfl⟩
    exact ⟨hs, hzero, rfl⟩
  · rintro ⟨hs, hzero, rfl⟩
    exact ⟨(), hs, (), hzero, rfl⟩

theorem setLockPaused_eq_ok {p : Bool} :
    setLockPaused sender p w = .ok w' ↔ sender = w.escrow.owner ∧
      w' = { w with escrow.lockPaused := p } := by
  simp only [setLockPaused, bind_eq_ok, revertIf_eq_ok, pure_eq_ok, ne_eq, Decidable.not_not]
  constructor
  · rintro ⟨_, hs, rfl⟩
    exact ⟨hs, rfl⟩
  · rintro ⟨hs, rfl⟩
    exact ⟨(), hs, rfl⟩

end Functions

end WhisperDesk.DvPEscrow
