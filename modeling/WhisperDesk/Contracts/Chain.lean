import Mathlib.Data.FinEnum
import WhisperDesk.General.Mapping
import WhisperDesk.General.Reverting
import WhisperDesk.General.AbiWords

/-!
# Chain data

Addresses, the FDC `XRPPayment` proof, the FXRP token, the storage of the two
contracts and the event log: everything one transaction can read or write. The
token is an exact-transfer ERC-20 whose supply is part of its state, so no
balance can leave `uint256`.
-/
namespace WhisperDesk

open Function (update)

abbrev Address := BitVec 160
abbrev Bytes32 := BitVec 256
abbrev Bytes := List UInt8

/-- The hash and the signature recovery precompile the contracts call. -/
structure Primitives where
  keccak256 : Bytes → Bytes32
  ecrecover : Bytes32 → UInt8 → Bytes32 → Bytes32 → Address

/-- `bytes32("…")`: the ASCII text at the front of a zero word. -/
def bytes32OfAscii (s : String) : Bytes32 :=
  let text := s.toList.map (fun c => UInt8.ofNat c.toNat)
  BitVec.ofNat 256 (ByteCodec.ofBE (text ++ List.replicate (32 - text.length) 0))

namespace XRPPayment

structure RequestBody where
  transactionId : Bytes32
  proofOwner : Address
  deriving DecidableEq

structure ResponseBody where
  blockNumber : Nat
  blockTimestamp : Nat
  sourceAddress : Bytes
  sourceAddressHash : Bytes32
  receivingAddressHash : Bytes32
  intendedReceivingAddressHash : Bytes32
  spentAmount : Int
  intendedSpentAmount : Int
  receivedAmount : Int
  intendedReceivedAmount : Int
  hasMemoData : Bool
  firstMemoData : Bytes
  hasDestinationTag : Bool
  destinationTag : Nat
  status : Nat
  deriving DecidableEq

structure Response where
  attestationType : Bytes32
  sourceId : Bytes32
  votingRound : Nat
  lowestUsedTimestamp : Nat
  requestBody : RequestBody
  responseBody : ResponseBody
  deriving DecidableEq

structure Proof where
  merkleProof : List Bytes32
  data : Response
  deriving DecidableEq

end XRPPayment

inductive EscrowError where
  | badSignatureLength (len : Nat)
  | malleableSignature
  | invalidTeeSignature (recovered : Address)
  | wrongEscrow (expected : Address)
  | matchExists (matchId : Bytes32)
  | instructionExpired (expiresAt : Nat)
  | belowMinBlock (amount : Nat)
  | selfMatch
  | emptyXrplAddress
  | feeTooLow (need got : Nat)
  | oracleZero
  | staleOracle (ts : Nat)
  | priceOutOfBand (price mid : Nat)
  | insufficientArmedBalance (need available : Nat)
  | withdrawLocked (armedUntil : Nat)
  | exceedsUncommitted (requested available : Nat)
  | notLocked (matchId : Bytes32)
  | proofInvalid
  | wrongSource
  | paymentFailedStatus (status : Nat)
  | wrongDestination
  | wrongDestinationTag
  | amountTooLow (got : Int) (need : Nat)
  | paymentBeforeLock
  | paymentOutsideWindow
  | refundTooEarly (refundAfter : Nat)
  | lockIsPaused
  | notOwner
  | zeroAddress
  | wrongProofOwner
  | invalidWindowConfig
  | amountOverflow
  | transferFailed
  | nativeTransferFailed
  deriving DecidableEq, Repr

inductive LedgerError where
  | notEscrow
  | notOwner
  | escrowAlreadySet
  | insufficientFreeBond (need available : Nat)
  | bondNotActive (matchId : Bytes32)
  | zeroAddress
  | transferFailed
  | amountOverflow
  deriving DecidableEq, Repr

/-- Why a transaction reverted: an error of either contract, the reentrancy
guard, a checked-arithmetic panic, calldata that does not decode, or a callee. -/
inductive Revert where
  | escrow (e : EscrowError)
  | ledger (e : LedgerError)
  | reentrantCall
  | panic
  | badCalldata
  | oracleReverted
  | fxrpReverted
  deriving DecidableEq, Repr

/-- An exact-transfer ERC-20: balances that add up to a `uint256` supply. -/
structure Token where
  balanceOf : Address → Nat
  totalSupply : Nat
  sum_balanceOf : Mapping.total balanceOf id = totalSupply
  totalSupply_lt : totalSupply < 2 ^ 256

namespace Token

theorem balanceOf_lt (t : Token) (a : Address) : t.balanceOf a < 2 ^ 256 := by
  have hle := Mapping.weigh_le_total t.balanceOf a id
  have hlt := t.totalSupply_lt
  rw [← t.sum_balanceOf] at hlt
  exact Nat.lt_of_le_of_lt hle hlt

/-- The balances after moving `amount` from `src` to `dst`, which may coincide. -/
def moved (f : Address → Nat) (src dst : Address) (amount : Nat) : Address → Nat :=
  let debited := update f src (f src - amount)
  update debited dst (debited dst + amount)

/-- Every account at once: what leaves `src` arrives at `dst`. -/
theorem moved_apply (f : Address → Nat) (src dst a : Address) (amount : Nat) (h : amount ≤ f src) :
    moved f src dst amount a + (if a = src then amount else 0) =
      f a + (if a = dst then amount else 0) := by
  unfold moved
  by_cases hs : a = src <;> by_cases hd : a = dst
  · subst src; subst dst; simp only [Function.update_self, if_true]; omega
  · subst src
    simp only [Function.update_of_ne hd, Function.update_self, if_true, if_neg hd]; omega
  · subst dst
    simp only [Function.update_self, Function.update_of_ne hs, if_neg hs, if_true]; omega
  · simp only [Function.update_of_ne hd, Function.update_of_ne hs, if_neg hs, if_neg hd]

def move (t : Token) (src dst : Address) (amount : Nat) (h : amount ≤ t.balanceOf src) : Token where
  balanceOf := moved t.balanceOf src dst amount
  totalSupply := t.totalSupply
  sum_balanceOf := by
    have hout := Mapping.total_update t.balanceOf src (t.balanceOf src - amount) id
    have hin := Mapping.total_update (update t.balanceOf src (t.balanceOf src - amount)) dst
      (update t.balanceOf src (t.balanceOf src - amount) dst + amount) id
    have hs := t.sum_balanceOf
    simp only [id_eq] at hout hin
    change Mapping.total (update (update t.balanceOf src (t.balanceOf src - amount)) dst _) id = _
    omega
  totalSupply_lt := t.totalSupply_lt

def mint (t : Token) (dst : Address) (amount : Nat) (h : t.totalSupply + amount < 2 ^ 256) :
    Token where
  balanceOf := update t.balanceOf dst (t.balanceOf dst + amount)
  totalSupply := t.totalSupply + amount
  sum_balanceOf := by
    have hin := Mapping.total_update t.balanceOf dst (t.balanceOf dst + amount) id
    have hs := t.sum_balanceOf
    simp only [id_eq] at hin
    omega
  totalSupply_lt := h

theorem move_apply (t : Token) (src dst a : Address) (amount : Nat) (h : amount ≤ t.balanceOf src) :
    (t.move src dst amount h).balanceOf a + (if a = src then amount else 0) =
      t.balanceOf a + (if a = dst then amount else 0) :=
  moved_apply t.balanceOf src dst a amount h

theorem le_move (t : Token) (src dst a : Address) (amount : Nat) (h : amount ≤ t.balanceOf src)
    (ha : a ≠ src) : t.balanceOf a ≤ (t.move src dst amount h).balanceOf a := by
  have := t.move_apply src dst a amount h
  rw [if_neg ha] at this
  omega

theorem le_move_add (t : Token) (src dst a : Address) (amount : Nat) (h : amount ≤ t.balanceOf src) :
    t.balanceOf a ≤ (t.move src dst amount h).balanceOf a + amount := by
  have := t.move_apply src dst a amount h
  split at this <;> split at this <;> omega

theorem le_mint (t : Token) (dst a : Address) (amount : Nat) (h : t.totalSupply + amount < 2 ^ 256) :
    t.balanceOf a ≤ (t.mint dst amount h).balanceOf a := by
  by_cases ha : a = dst
  · subst dst; simp [mint]
  · simp [mint, ha]

/-- A token nobody holds yet. -/
def empty : Token where
  balanceOf := fun _ => 0
  totalSupply := 0
  sum_balanceOf := Mapping.total_eq_zero _ _ (fun _ => rfl)
  totalSupply_lt := by decide

end Token

inductive Event where
  | transfer (src dst : Address) (amount : Nat)
  | deposited (taker : Address) (amount armedUntil : Nat)
  | withdrawn (taker : Address) (amount : Nat)
  | matchLocked (matchId : Bytes32) (taker maker : Address) (amountFxrp xrpDrops destinationTag : Nat)
      (takerXrplAddress : Bytes) (paymentDeadline refundAfter priceUsd18 oracleMid18 : Nat)
  | matchReleased (matchId : Bytes32) (maker : Address) (amountFxrp : Nat) (xrplTxId : Bytes32)
  | matchRefunded (matchId : Bytes32) (taker : Address) (amountFxrp bondSlashed : Nat)
  | teeSignerUpdated (oldSigner newSigner : Address)
  | bondDeposited (maker : Address) (amount : Nat)
  | bondWithdrawn (maker : Address) (amount : Nat)
  | bondLocked (matchId : Bytes32) (maker : Address) (amount : Nat)
  | bondReleased (matchId : Bytes32) (maker : Address) (amount : Nat)
  | bondSlashed (matchId : Bytes32) (maker recipient : Address) (amount : Nat)
  deriving DecidableEq

/-- What the events of a log add up to under a weight. -/
def emitted (weigh : Event → Nat) (log : List Event) : Nat := (log.map weigh).sum

@[simp] theorem emitted_nil (weigh : Event → Nat) : emitted weigh [] = 0 := rfl

@[simp] theorem emitted_cons (weigh : Event → Nat) (e : Event) (log : List Event) :
    emitted weigh (e :: log) = weigh e + emitted weigh log := by
  simp [emitted]

theorem emitted_append_of_zero {weigh : Event → Nat} {new : List Event} (log : List Event)
    (h : ∀ e ∈ new, weigh e = 0) : emitted weigh (new ++ log) = emitted weigh log := by
  induction new with
  | nil => rfl
  | cons e new ih =>
    rw [List.cons_append, emitted_cons, h e List.mem_cons_self, Nat.zero_add]
    exact ih fun e' he' => h e' (List.mem_cons_of_mem e he')

structure TakerBalance where
  armed : Nat
  committed : Nat
  armedUntil : Nat
  deriving DecidableEq

inductive MatchState where
  | none | locked | released | refunded
  deriving DecidableEq, Repr

structure Match where
  taker : Address
  destinationTag : Nat
  lockedAt : Nat
  state : MatchState
  maker : Address
  paymentDeadline : Nat
  refundAfter : Nat
  amountFxrp : Nat
  xrpDrops : Nat
  bondAmount : Nat
  takerXrplAddressHash : Bytes32
  deriving DecidableEq

/-- The zero entry of the `matches` mapping. -/
def Match.zero : Match := ⟨0, 0, 0, .none, 0, 0, 0, 0, 0, 0, 0⟩

structure EscrowState where
  owner : Address
  teeSigner : Address
  feeTreasury : Address
  lockPaused : Bool
  balances : Address → TakerBalance
  matchOf : Bytes32 → Match
  nextDestinationTag : Nat
  usedTxId : Bytes32 → Bool
  entered : Bool

structure LockedBond where
  maker : Address
  amount : Nat
  active : Bool
  deriving DecidableEq

structure LedgerState where
  owner : Address
  escrow : Address
  freeBond : Address → Nat
  lockedBonds : Bytes32 → LockedBond
  entered : Bool

/-- Everything the two contracts store, the FXRP token, the escrow's own native
balance and the events emitted so far, newest first. -/
structure World where
  escrow : EscrowState
  ledger : LedgerState
  fxrp : Token
  native : Nat
  log : List Event

def World.emit (w : World) (e : Event) : World := { w with log := e :: w.log }

/-- How the FXRP contract answers a transfer it could make: allowances, pauses
and freezes are its own business. -/
inductive TokenResponse where
  | accepts | returnsFalse | reverts
  deriving DecidableEq, Repr

/-- What a transaction sees of the rest of the chain. -/
structure Env where
  timestamp : Nat
  chainid : Nat
  calculateFeeById : Option Nat
  getFeedByIdInWei : Option (Nat × Nat)
  verifyXRPPayment : XRPPayment.Proof → Bool
  fxrp : Address → Address → Nat → TokenResponse

/-- `FXRP.transfer` and `FXRP.transferFrom`, checked as `if (!…) revert failed`. -/
def fxrpTransfer (env : Env) (src dst : Address) (amount : Nat) (failed : Revert) (w : World) :
    Except Revert World :=
  match env.fxrp src dst amount with
  | .reverts => .error .fxrpReverted
  | .returnsFalse => .error failed
  | .accepts =>
    if h : amount ≤ w.fxrp.balanceOf src then
      .ok { w with fxrp := w.fxrp.move src dst amount h, log := .transfer src dst amount :: w.log }
    else .error .fxrpReverted

@[simp] theorem fxrpTransfer_eq_ok {env : Env} {src dst : Address} {amount : Nat} {failed : Revert}
    {w w' : World} :
    fxrpTransfer env src dst amount failed w = .ok w' ↔
      env.fxrp src dst amount = .accepts ∧ ∃ h : amount ≤ w.fxrp.balanceOf src,
        w' = { w with
          fxrp := w.fxrp.move src dst amount h, log := .transfer src dst amount :: w.log } := by
  unfold fxrpTransfer
  cases env.fxrp src dst amount with
  | reverts => simp
  | returnsFalse => simp
  | accepts =>
    by_cases h : amount ≤ w.fxrp.balanceOf src
    · simp [h, eq_comm]
    · simp [h]

end WhisperDesk
