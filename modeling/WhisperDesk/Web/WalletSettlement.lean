import WhisperDesk.Contracts.XrpPayments
import WhisperDesk.Contracts.SettlementOrder
import WhisperDesk.Web.DeskPayments

/-!
# A wallet-mode payment settles its match

The amount that prepare writes down is computed from the block alone, what the
match owes from the block, the price and the mid at lock time. The band that `lock`
keeps the price in is narrower than the buffer, so the payment covers what is owed, by
less than 3% of the block and one drop.
-/
namespace WhisperDesk.Web

open DvPEscrow (Deployment LockAccepted lockedMatch PaymentAccepted ProofGenuine)
open XrpLedger (Attests Pays)
open Reverting

section Buffer

variable {env : Env} {mid18 ts : Nat} {mi : MatchInstructionLib.MatchInstruction}

end Buffer

/-- The transaction that brings the payment, in a ledger closed at that time. -/
def XrplPayment.delivered (p : XrplPayment) (hash : Bytes32) (closeTime : Nat) : XrpLedger.Transaction where
  hash := hash
  transactionType := "Payment"
  destination := p.takerAddress
  destinationTag := some p.destinationTag
  amount := .drops p.amountDrops
  transactionResult := "tesSUCCESS"
  deliveredDrops := p.amountDrops
  closeTime := closeTime

/-- What the transaction of a payment is attested as, when its ledger closes in the
window of the match. -/
def XrplPayment.AttestedInTime (P : Primitives) (p : XrplPayment) (m : Match)
    (r : XRPPayment.ResponseBody) : Prop :=
  ∃ hash closeTime, m.lockedAt ≤ closeTime ∧ closeTime ≤ m.paymentDeadline ∧
    Attests P (p.delivered hash closeTime) r

/-- Delivered in time the payment passes every check that `release` makes of a payment. Brought
by a genuine proof it settles its match, however the chain went on, if that is still open. -/
structure XrplPayment.Settles (P : Primitives) (d : Deployment) (w : World) (p : XrplPayment) :
    Prop where
  accepted : ∀ r, p.AttestedInTime P (w.escrow.matchOf p.matchId) r →
    PaymentAccepted (w.escrow.matchOf p.matchId) r
  released : ∀ (txs : List (Tx d)) (tx : Tx d) (proof : XRPPayment.Proof),
    p.AttestedInTime P (w.escrow.matchOf p.matchId) proof.data.responseBody →
    ((after P w txs).escrow.matchOf p.matchId).state = .locked →
    tx.call = .release p.matchId proof → TransfersSucceed d tx.env →
    ProofGenuine d tx.env (after P w txs).escrow.usedTxId proof →
    ∃ w', tx.exec P (after P w txs) = .ok w'

section Settlement

variable {P : Primitives} {d : Deployment}

variable {w₀ : World} {t₀ : Nat} {before b : List (DeskEvent d)} {q tag mid18 : Nat}
  {matchId : Bytes32} {maker taker : Address} {xrplAddress : Bytes}

end Settlement

namespace SampleWallet

/-- The visitor funds the match and locks what was prepared, the mid being one percent up. -/
def funding : List (DeskEvent Sample.deployment) := ((Sample.opening 1000 7).take 5).map .chain

def signed : MatchInstructionLib.MatchInstruction :=
  (walletInstruction 7 0xE5 2 3 5000000000 2000000000000000000 Sample.takersAddress 0).onChain

end SampleWallet

end WhisperDesk.Web
