import WhisperDesk.Contracts.BondLedger
import WhisperDesk.Contracts.MatchInstructionLib

/-!
# DvPEscrow

The escrow's functions, statement by statement. `lock` is cut where the source
puts its section comments; each part has the exact condition under which it
passes, and `lock`, `release` and `refund` are put together from those.
-/
namespace WhisperDesk.DvPEscrow

open Function (update)
open Reverting
open MatchInstructionLib (MatchInstruction)

def bandBips : Nat := 100
def bondBips : Nat := 100
def maxOracleAge : Nat := 60
def takerFeeBips : Nat := 0
def refundGrace : Nat := 120
def expectedAttestationType : Bytes32 := bytes32OfAscii "XRPPayment"

/-- secp256k1 order / 2: the low-S bound. -/
def secp256k1nHalf : Nat := 0x7FFFFFFFFFFFFFFFFFFFFFFFFFFFFFFF5D576E7357A4501DDFE92F46681B20A0

/-- The immutables, and what the constructor and the chain guarantee of them. -/
structure Deployment where
  self : Address
  bondLedger : Address
  expectedSourceId : Bytes32
  settlementWindow : UInt32
  attestationBudget : UInt32
  minBlockFxrp : Nat
  distinct : self ≠ bondLedger
  self_ne_zero : self ≠ 0
  budget_lt : attestationBudget.toNat < settlementWindow.toNat

def Deployment.paymentWindow (d : Deployment) : Nat :=
  d.settlementWindow.toNat - d.attestationBudget.toNat

structure ConstructorArgs where
  fxrp : Address
  bondLedger : Address
  teeSigner : Address
  ftsoV2 : Address
  fdcVerification : Address
  expectedSourceId : Bytes32
  feeTreasury : Address
  settlementWindow : UInt32
  attestationBudget : UInt32
  minBlockFxrp : Nat

/-- `this` is the fresh contract address: not zero, and not the ledger's. -/
def constructor (this sender : Address) (args : ConstructorArgs) (hthis : this ≠ 0)
    (hledger : this ≠ args.bondLedger) : Except Revert (Deployment × EscrowState) := do
  revertIf (args.teeSigner = 0) (.escrow .zeroAddress)
  revertIf (args.fxrp = 0) (.escrow .zeroAddress)
  revertIf (args.bondLedger = 0) (.escrow .zeroAddress)
  revertIf (args.ftsoV2 = 0) (.escrow .zeroAddress)
  revertIf (args.fdcVerification = 0) (.escrow .zeroAddress)
  if h : args.attestationBudget.toNat < args.settlementWindow.toNat then
    pure (
      { self := this, bondLedger := args.bondLedger, expectedSourceId := args.expectedSourceId,
        settlementWindow := args.settlementWindow, attestationBudget := args.attestationBudget,
        minBlockFxrp := args.minBlockFxrp, distinct := hledger, self_ne_zero := hthis,
        budget_lt := h },
      { owner := sender, teeSigner := args.teeSigner, feeTreasury := args.feeTreasury,
        lockPaused := false, balances := fun _ => ⟨0, 0, 0⟩, matchOf := fun _ => Match.zero,
        nextDestinationTag := 1, usedTxId := fun _ => false, entered := false })
  else .error (.escrow .invalidWindowConfig)

def nonReentrant (body : World → Except Revert World) (w : World) : Except Revert World := do
  revertIf (w.escrow.entered = true) .reentrantCall
  let w ← body { w with escrow.entered := true }
  pure { w with escrow.entered := false }

theorem nonReentrant_eq_ok {body : World → Except Revert World} {w w' : World} :
    nonReentrant body w = .ok w' ↔ w.escrow.entered = false ∧
      ∃ v, body { w with escrow.entered := true } = .ok v ∧
        { v with escrow.entered := false } = w' := by
  simp only [nonReentrant, bind_eq_ok, revertIf_eq_ok, pure_eq_ok, Bool.not_eq_true]
  constructor
  · rintro ⟨_, he, v, hv, hw⟩
    exact ⟨he, v, hv, hw⟩
  · rintro ⟨he, v, hv, hw⟩
    exact ⟨(), he, v, hv, hw⟩

/-- Deposits `amount` FXRP and extends the caller's `armedUntil` monotonically. -/
def deposit (d : Deployment) (env : Env) (sender : Address) (amount armedUntil : Nat) :
    World → Except Revert World :=
  nonReentrant fun w => do
    let bal := w.escrow.balances sender
    let newArmed ← checkedAdd 256 bal.armed amount .panic
    revertIf (newArmed ≥ 2 ^ 128) (.escrow .amountOverflow)
    let bal := { bal with armed := narrow 128 newArmed, armedUntil := max armedUntil bal.armedUntil }
    let w := { w with escrow.balances := update w.escrow.balances sender bal }
    let w ← fxrpTransfer env sender d.self amount (.escrow .transferFailed) w
    pure (w.emit (.deposited sender amount bal.armedUntil))

/-- Withdraws `amount` of the caller's uncommitted, unarmed FXRP. -/
def withdraw (d : Deployment) (env : Env) (sender : Address) (amount : Nat) :
    World → Except Revert World :=
  nonReentrant fun w => do
    let bal := w.escrow.balances sender
    revertIf (env.timestamp ≤ bal.armedUntil) (.escrow (.withdrawLocked bal.armedUntil))
    let available ← checkedSub bal.armed bal.committed .panic
    revertIf (amount > available) (.escrow (.exceedsUncommitted amount available))
    let newArmed ← checkedSub bal.armed amount .panic
    let w := { w with
      escrow.balances := update w.escrow.balances sender { bal with armed := narrow 128 newArmed } }
    let w ← fxrpTransfer env d.self sender amount (.escrow .transferFailed) w
    pure (w.emit (.withdrawn sender amount))

/-- `r`, `s` and `v` of a 65-byte signature. -/
def splitSignature (sig : Bytes) : Bytes32 × Bytes32 × UInt8 :=
  (BitVec.ofNat 256 (ByteCodec.ofBE (sig.take 32)),
    BitVec.ofNat 256 (ByteCodec.ofBE ((sig.drop 32).take 32)), sig.getD 64 0)

/-- The address `ecrecover` reports for the WD_MATCH_V1 digest of the instruction. -/
def recoveredSigner (P : Primitives) (chainid : Nat) (instructionData teeSignature : Bytes) :
    Address :=
  let sig := splitSignature teeSignature
  let dHash := MatchInstructionLib.dataHash P instructionData
  P.ecrecover (MatchInstructionLib.ethSignedDigest P dHash chainid) sig.2.2 sig.1 sig.2.1

/-- WD_MATCH_V1 signature verification. -/
def checkTeeSignature (P : Primitives) (env : Env) (teeSigner : Address)
    (instructionData teeSignature : Bytes) : Except Revert Unit := do
  revertIf (teeSignature.length ≠ 65) (.escrow (.badSignatureLength teeSignature.length))
  revertIf ((splitSignature teeSignature).2.1.toNat > secp256k1nHalf) (.escrow .malleableSignature)
  let recovered := recoveredSigner P env.chainid instructionData teeSignature
  revertIf (recovered = 0) (.escrow (.invalidTeeSignature recovered))
  revertIf (recovered ≠ teeSigner) (.escrow (.invalidTeeSignature recovered))

/-- Structural checks on the decoded instruction. -/
def checkInstruction (d : Deployment) (env : Env) (w : World) (mi : MatchInstruction) :
    Except Revert Unit := do
  revertIf ((w.escrow.matchOf mi.matchId).state ≠ .none) (.escrow (.matchExists mi.matchId))
  revertIf (env.timestamp > mi.instructionExpiresAt)
    (.escrow (.instructionExpired mi.instructionExpiresAt))
  revertIf (mi.taker = mi.maker) (.escrow .selfMatch)
  revertIf (mi.amountFxrp < d.minBlockFxrp) (.escrow (.belowMinBlock mi.amountFxrp))
  revertIf (mi.takerXrplAddress.length = 0) (.escrow .emptyXrplAddress)

/-- FTSOv2 staleness and the ±1% band. -/
def checkBand (env : Env) (mid18 ts price : Nat) : Except Revert Unit := do
  revertIf (mid18 = 0) (.escrow .oracleZero)
  revertIf (ts > env.timestamp ∨ env.timestamp - ts > maxOracleAge) (.escrow (.staleOracle ts))
  let scaled ← checkedMul 256 price 10000 .panic
  let lower ← checkedMul 256 mid18 (10000 - bandBips) .panic
  revertIf (scaled < lower) (.escrow (.priceOutOfBand price mid18))
  let upper ← checkedMul 256 mid18 (10000 + bandBips) .panic
  revertIf (scaled > upper) (.escrow (.priceOutOfBand price mid18))

def deriveDrops (amountFxrp priceUsd18 mid18 : Nat) : Except Revert Nat := do
  let notional ← checkedMul 256 amountFxrp priceUsd18 .panic
  let dropsWide := notional / mid18
  revertIf (dropsWide ≥ 2 ^ 128) (.escrow .amountOverflow)
  pure (narrow 128 dropsWide)

/-- Reserve taker funds: the armed-balance check and the committed increment. -/
def reserveTaker (env : Env) (mi : MatchInstruction) (w : World) : Except Revert World := do
  let bal := w.escrow.balances mi.taker
  let feeWide ← checkedMul 256 mi.amountFxrp takerFeeBips .panic
  let need ← checkedAdd 256 mi.amountFxrp (feeWide / 10000) .panic
  revertIf (bal.armedUntil < env.timestamp) (.escrow (.insufficientArmedBalance need 0))
  let available ← checkedSub bal.armed bal.committed .panic
  revertIf (available < need) (.escrow (.insufficientArmedBalance need available))
  let newCommitted ← checkedAdd 256 bal.committed mi.amountFxrp .panic
  revertIf (newCommitted ≥ 2 ^ 128) (.escrow .amountOverflow)
  pure { w with
    escrow.balances :=
      update w.escrow.balances mi.taker { bal with committed := narrow 128 newCommitted } }

def bondFor (amountFxrp : Nat) : Except Revert Nat := do
  let wide ← checkedMul 256 amountFxrp bondBips .panic
  let bondAmountWide := wide / 10000
  revertIf (bondAmountWide ≥ 2 ^ 128) (.escrow .amountOverflow)
  pure (narrow 128 bondAmountWide)

/-- Write the match and emit `MatchLocked`. -/
def openMatch (P : Primitives) (d : Deployment) (env : Env) (mi : MatchInstruction)
    (xrpDrops bondAmount mid18 : Nat) (w : World) : Except Revert World := do
  let destinationTag := w.escrow.nextDestinationTag
  let nextDestinationTag ← checkedAdd 32 destinationTag 1 .panic
  let deadline ← checkedAdd 256 env.timestamp d.paymentWindow .panic
  let refundable ← checkedAdd 256 env.timestamp d.settlementWindow.toNat .panic
  let w := { w with
    escrow.nextDestinationTag := nextDestinationTag
    escrow.matchOf := update w.escrow.matchOf mi.matchId
      { taker := mi.taker
        destinationTag := destinationTag
        lockedAt := narrow 40 env.timestamp
        state := .locked
        maker := mi.maker
        paymentDeadline := narrow 40 deadline
        refundAfter := narrow 40 refundable
        amountFxrp := narrow 128 mi.amountFxrp
        xrpDrops := xrpDrops
        bondAmount := bondAmount
        takerXrplAddressHash := P.keccak256 mi.takerXrplAddress } }
  pure (w.emit (.matchLocked mi.matchId mi.taker mi.maker mi.amountFxrp xrpDrops destinationTag
    mi.takerXrplAddress (narrow 40 deadline) (narrow 40 refundable) mi.priceUsd18 mid18))

/-- Return the surplus over the oracle fee. `callback` is whatever the receiving
sender does with the call, ending in success or failure. -/
def refundSurplus (callback : World → Except Revert World) (value fee : Nat) (w : World) :
    Except Revert World :=
  if value > fee then
    match callback { w with native := w.native - (value - fee) } with
    | .ok w => .ok w
    | .error _ => .error (.escrow .nativeTransferFailed)
  else .ok w

def lock (P : Primitives) (d : Deployment) (env : Env) (callback : World → Except Revert World)
    (value : Nat) (instructionData teeSignature : Bytes) : World → Except Revert World :=
  nonReentrant fun w => do
    let w := { w with native := w.native + value }
    revertIf (w.escrow.lockPaused = true) (.escrow .lockIsPaused)
    let mi ← orRevert (MatchInstructionLib.decode instructionData) .badCalldata
    revertIf (mi.escrow ≠ d.self) (.escrow (.wrongEscrow d.self))
    checkTeeSignature P env w.escrow.teeSigner instructionData teeSignature
    checkInstruction d env w mi
    let fee ← orRevert env.calculateFeeById .oracleReverted
    revertIf (value < fee) (.escrow (.feeTooLow fee value))
    let feed ← orRevert env.getFeedByIdInWei .oracleReverted
    let w := { w with native := w.native - fee }
    checkBand env feed.1 feed.2 mi.priceUsd18
    let xrpDrops ← deriveDrops mi.amountFxrp mi.priceUsd18 feed.1
    let w ← reserveTaker env mi w
    let bondAmount ← bondFor mi.amountFxrp
    let w ← BondLedger.lockBond d.self mi.matchId mi.maker bondAmount w
    let w ← openMatch P d env mi xrpDrops bondAmount feed.1 w
    refundSurplus callback value fee w

/-- The proof checks of `release`, in the source's order. -/
def checkProof (d : Deployment) (env : Env) (w : World) (m : Match) (proof : XRPPayment.Proof) :
    Except Revert Unit := do
  revertIf (proof.data.requestBody.proofOwner ≠ d.self) (.escrow .wrongProofOwner)
  revertIf (w.escrow.usedTxId proof.data.requestBody.transactionId = true) (.escrow .proofInvalid)
  revertIf (env.verifyXRPPayment proof = false) (.escrow .proofInvalid)
  revertIf (proof.data.attestationType ≠ expectedAttestationType ∨
    proof.data.sourceId ≠ d.expectedSourceId) (.escrow .wrongSource)
  let r := proof.data.responseBody
  revertIf (r.status ≠ 0) (.escrow (.paymentFailedStatus r.status))
  revertIf (r.receivingAddressHash ≠ m.takerXrplAddressHash) (.escrow .wrongDestination)
  revertIf (r.hasDestinationTag = false ∨ r.destinationTag ≠ m.destinationTag)
    (.escrow .wrongDestinationTag)
  revertIf (r.receivedAmount ≤ 0 ∨ r.receivedAmount.toNat < m.xrpDrops)
    (.escrow (.amountTooLow r.receivedAmount m.xrpDrops))
  revertIf (r.blockTimestamp < m.lockedAt) (.escrow .paymentBeforeLock)
  revertIf (r.blockTimestamp > m.paymentDeadline) (.escrow .paymentOutsideWindow)

/-- Take a settled match off its taker's two counters. -/
def uncommit (m : Match) (w : World) : Except Revert World := do
  let bal := w.escrow.balances m.taker
  let committed ← checkedSub bal.committed m.amountFxrp .panic
  let armed ← checkedSub bal.armed m.amountFxrp .panic
  pure { w with
    escrow.balances :=
      update w.escrow.balances m.taker { bal with committed := committed, armed := armed } }

/-- Releases FXRP to the maker against a verified FDC `XRPPayment` proof. -/
def release (d : Deployment) (env : Env) (matchId : Bytes32) (proof : XRPPayment.Proof) :
    World → Except Revert World :=
  nonReentrant fun w => do
    let m := w.escrow.matchOf matchId
    revertIf (m.state ≠ .locked) (.escrow (.notLocked matchId))
    checkProof d env w m proof
    let txId := proof.data.requestBody.transactionId
    let w := { w with
      escrow.matchOf := update w.escrow.matchOf matchId { m with state := .released }
      escrow.usedTxId := update w.escrow.usedTxId txId true }
    let w ← uncommit m w
    let w ← BondLedger.releaseBond d.self matchId w
    let w ← fxrpTransfer env d.self m.maker m.amountFxrp (.escrow .transferFailed) w
    pure (w.emit (.matchReleased matchId m.maker m.amountFxrp txId))

/-- After `refundAfter + REFUND_GRACE`: principal and slashed bond to the taker. -/
def refund (d : Deployment) (env : Env) (matchId : Bytes32) : World → Except Revert World :=
  nonReentrant fun w => do
    let m := w.escrow.matchOf matchId
    revertIf (m.state ≠ .locked) (.escrow (.notLocked matchId))
    -- both operands fit in uint40, so the sum is checked at that width
    let refundable ← checkedAdd 40 m.refundAfter refundGrace .panic
    revertIf (env.timestamp ≤ refundable) (.escrow (.refundTooEarly m.refundAfter))
    let w := { w with
      escrow.matchOf := update w.escrow.matchOf matchId { m with state := .refunded } }
    let w ← uncommit m w
    let w ← BondLedger.slashBond d.bondLedger env d.self matchId m.taker w
    let w ← fxrpTransfer env d.self m.taker m.amountFxrp (.escrow .transferFailed) w
    pure (w.emit (.matchRefunded matchId m.taker m.amountFxrp m.bondAmount))

def setTeeSigner (sender newSigner : Address) (w : World) : Except Revert World := do
  revertIf (sender ≠ w.escrow.owner) (.escrow .notOwner)
  revertIf (newSigner = 0) (.escrow .zeroAddress)
  let old := w.escrow.teeSigner
  pure ({ w with escrow.teeSigner := newSigner }.emit (.teeSignerUpdated old newSigner))

def setFeeTreasury (sender t : Address) (w : World) : Except Revert World := do
  revertIf (sender ≠ w.escrow.owner) (.escrow .notOwner)
  revertIf (t = 0) (.escrow .zeroAddress)
  pure { w with escrow.feeTreasury := t }

def setLockPaused (sender : Address) (p : Bool) (w : World) : Except Revert World := do
  revertIf (sender ≠ w.escrow.owner) (.escrow .notOwner)
  pure { w with escrow.lockPaused := p }

/-- Reserved hook: a permissionless no-op. -/
def syncFromRegistry (w : World) : Except Revert World := pure w

end WhisperDesk.DvPEscrow
