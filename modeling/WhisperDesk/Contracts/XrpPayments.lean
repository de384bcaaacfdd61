import WhisperDesk.Contracts.EscrowSpecs

/-!
# Payments on the XRP ledger

What `release` checks of a payment, apart from what it checks of the proof that
brings it; and the same of a validated transaction, as the data connector attests
it.
-/
namespace WhisperDesk

namespace DvPEscrow

/-- The checks of a proof that do not look into the attested payment. -/
structure ProofGenuine (d : Deployment) (env : Env) (usedTxId : Bytes32 → Bool)
    (proof : XRPPayment.Proof) : Prop where
  owner : proof.data.requestBody.proofOwner = d.self
  unused : usedTxId proof.data.requestBody.transactionId = false
  verified : env.verifyXRPPayment proof = true
  attestationType : proof.data.attestationType = expectedAttestationType
  sourceId : proof.data.sourceId = d.expectedSourceId

/-- The checks of the attested payment, field by field. -/
structure PaymentAccepted (m : Match) (r : XRPPayment.ResponseBody) : Prop where
  status : r.status = 0
  receiver : r.receivingAddressHash = m.takerXrplAddressHash
  hasTag : r.hasDestinationTag = true
  tag : r.destinationTag = m.destinationTag
  amount_pos : 0 < r.receivedAmount
  amount : (m.xrpDrops : Int) ≤ r.receivedAmount
  afterLock : m.lockedAt ≤ r.blockTimestamp
  beforeDeadline : r.blockTimestamp ≤ m.paymentDeadline

end DvPEscrow

open DvPEscrow (PaymentAccepted)

namespace XrpLedger

/-- What a `Payment` may deliver at most. -/
inductive Amount where
  | drops (n : Nat)
  | issued
  deriving DecidableEq

/-- A transaction of a validated ledger. -/
structure Transaction where
  hash : Bytes32
  transactionType : String
  destination : Bytes
  destinationTag : Option Nat
  amount : Amount
  transactionResult : String
  /-- What has arrived, less than `amount` for a partial payment. -/
  deliveredDrops : Nat
  closeTime : Nat
  deriving DecidableEq

/-- What the data connector attests of a `Payment`. -/
structure Attests (P : Primitives) (t : Transaction) (r : XRPPayment.ResponseBody) : Prop where
  payment : t.transactionType = "Payment"
  status : r.status = 0 ↔ t.transactionResult = "tesSUCCESS"
  receiver : r.status = 0 → r.receivingAddressHash = P.keccak256 t.destination
  hasTag : r.hasDestinationTag = t.destinationTag.isSome
  tag : r.destinationTag = t.destinationTag.getD 0
  received : r.status = 0 → r.receivedAmount = t.deliveredDrops
  time : r.blockTimestamp = t.closeTime

/-- The transaction is a payment that `release` accepts for the match. -/
structure Pays (P : Primitives) (m : Match) (t : Transaction) : Prop where
  payment : t.transactionType = "Payment"
  success : t.transactionResult = "tesSUCCESS"
  receiver : P.keccak256 t.destination = m.takerXrplAddressHash
  tag : t.destinationTag = some m.destinationTag
  amount_pos : 0 < t.deliveredDrops
  amount : m.xrpDrops ≤ t.deliveredDrops
  afterLock : m.lockedAt ≤ t.closeTime
  beforeDeadline : t.closeTime ≤ m.paymentDeadline

end XrpLedger

end WhisperDesk
