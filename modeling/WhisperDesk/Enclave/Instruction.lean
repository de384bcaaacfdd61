import WhisperDesk.Enclave.GoValues
import WhisperDesk.Contracts.MatchInstructionLib

/-!
# instruction.go

The enclave's own `MatchInstruction`, its ABI bytes, the WD_MATCH_V1 message and
digest, and `SignWithFunc`, which gets the signature from a sign port. The
digest is the one `MatchInstructionLib` computes on chain.
-/
namespace WhisperDesk.Matcher

open Go
open AbiWords
open Reverting (revertIf orRevert bind_eq_ok revertIf_eq_ok orRevert_eq_ok pure_eq_ok)

/-- Every error value of the package, and the calls that can fail inside it. -/
inductive Error where
  | belowMinBlock
  | rfqExists
  | rfqUnknown
  | windowOpen
  | emptyXrplAddr
  | priceStale
  | limitNotPositive
  | staleNonce
  | nilAmount
  | packFailed
  | signFailed
  | signatureLength (n : Nat)
  | recoverFailed
  | sign (e : Error)
  deriving DecidableEq, Repr

def Error.text : Error → String
  | .belowMinBlock => "matcher: WD_ERR_MIN_SIZE"
  | .rfqExists => "matcher: rfq already exists"
  | .rfqUnknown => "matcher: WD_ERR_RFQ_UNKNOWN"
  | .windowOpen => "matcher: WD_ERR_WINDOW_OPEN"
  | .emptyXrplAddr => "matcher: empty XRPL address"
  | .priceStale => "matcher: WD_ERR_PRICE_STALE"
  | .limitNotPositive => "matcher: AddRFQ: limitPriceE18 must be positive"
  | .staleNonce => "matcher: WD_ERR_STALE_NONCE"
  | .nilAmount => "matcher: MatchInstruction.ABIEncode: AmountFxrp/PriceUsd18 must not be nil"
  | .packFailed => "matcher: SignWithFunc: ABIEncode: "
  | .signFailed => "matcher: SignWithFunc: sign: "
  | .signatureLength n => "matcher: SignWithFunc: expected 65-byte signature, got " ++ toString n
  | .recoverFailed => "matcher: SignWithFunc: recover pubkey: "
  | .sign e => "matcher: Match: sign: " ++ e.text

structure MatchInstruction where
  matchID : Bytes32
  escrow : Address
  taker : Address
  maker : Address
  amountFxrp : Option Int
  priceUsd18 : Option Int
  takerXrplAddress : GoString
  instructionExpiresAt : UInt64
  deriving DecidableEq

/-- The tuple that is packed, its amounts no longer nil. -/
structure MatchInstructionTuple where
  matchID : Bytes32
  escrow : Address
  taker : Address
  maker : Address
  amountFxrp : Int
  priceUsd18 : Int
  takerXrplAddress : GoString
  instructionExpiresAt : UInt64
  deriving DecidableEq

/-- Functions of other packages: the hash, public-key recovery from an
`[R‖S‖V]` signature with `V` in {0,1}, and `abi.Arguments.Pack` of the tuple. -/
structure Libraries extends Primitives where
  sigToAddress : Bytes32 → Bytes → Option Address
  pack : MatchInstructionTuple → Option Bytes

variable (L : Libraries)

def MatchInstruction.abiEncode (mi : MatchInstruction) : Except Error Bytes :=
  match mi.amountFxrp, mi.priceUsd18 with
  | some amount, some price =>
    orRevert (L.pack
      { matchID := mi.matchID, escrow := mi.escrow, taker := mi.taker, maker := mi.maker,
        amountFxrp := amount, priceUsd18 := price, takerXrplAddress := mi.takerXrplAddress,
        instructionExpiresAt := mi.instructionExpiresAt }) .packFailed
  | _, _ => .error .nilAmount

def wdMatchTag : Bytes32 := bytes32OfAscii "WD_MATCH_V1"

/-- `abi.encode(WD_MATCH_TAG, chainId, dataHash)`, by left-padding and appending. -/
def wdMatchMessage (dataHash : Bytes32) (chainID : UInt64) : Bytes :=
  word wdMatchTag.toNat ++ leftPad32 (bigBytes chainID.toNat) ++ word dataHash.toNat

def ethSignedDigest (dataHash : Bytes32) (chainID : UInt64) : Bytes32 :=
  let encoded := word wdMatchTag.toNat ++ leftPad32 (bigBytes chainID.toNat) ++ word dataHash.toNat
  let payloadHash := L.keccak256 encoded
  L.keccak256 (MatchInstructionLib.ethPrefix ++ word payloadHash.toNat)

theorem wdMatchMessage_eq (dataHash : Bytes32) (chainID : UInt64) :
    wdMatchMessage dataHash chainID = words [wdMatchTag.toNat, chainID.toNat, dataHash.toNat] := by
  have hlt : chainID.toNat < 2 ^ 256 := Nat.lt_of_lt_of_le chainID.toNat_lt (by decide)
  rw [wdMatchMessage, leftPad32_bigBytes _ hlt]
  simp [words]

/-- Both sides sign and check one digest. -/
theorem ethSignedDigest_eq (dataHash : Bytes32) (chainID : UInt64) :
    ethSignedDigest L dataHash chainID =
      MatchInstructionLib.ethSignedDigest L.toPrimitives dataHash chainID.toNat := by
  have hmessage := wdMatchMessage_eq dataHash chainID
  rw [wdMatchMessage] at hmessage
  simp only [ethSignedDigest, hmessage]
  rfl

structure SignedMatch where
  instruction : MatchInstruction
  abiEncoded : Bytes
  dataHash : Bytes32
  ethSignedDig : Bytes32
  signature : Bytes
  signer : Address
  deriving DecidableEq

/-- Bring `V` from {0,1} to {27,28}. -/
def normalizeV (sig : Bytes) : Bytes :=
  if sig.getD 64 0 < 27 then sig.set 64 (sig.getD 64 0 + 27) else sig

/-- Bring `V` back from {27,28} to {0,1}. -/
def normalizeForRecover (sig : Bytes) : Bytes :=
  if sig.getD 64 0 ≥ 27 then sig.set 64 (sig.getD 64 0 - 27) else sig

abbrev SignerFunc := Bytes → Option Bytes

def signWithFunc (mi : MatchInstruction) (chainID : UInt64) (signFn : SignerFunc) :
    Except Error SignedMatch := do
  let abiEncoded ← mi.abiEncode L
  let dataHash := L.keccak256 abiEncoded
  let sig ← orRevert (signFn (wdMatchMessage dataHash chainID)) .signFailed
  revertIf (sig.length ≠ 65) (.signatureLength sig.length)
  let sig := normalizeV sig
  let digest := ethSignedDigest L dataHash chainID
  let signer ← orRevert (L.sigToAddress digest (normalizeForRecover sig)) .recoverFailed
  pure { instruction := mi, abiEncoded, dataHash, ethSignedDig := digest, signature := sig, signer }

variable {L}

theorem abiEncode_eq_ok {mi : MatchInstruction} {data : Bytes} :
    mi.abiEncode L = .ok data ↔ ∃ amount price,
      mi.amountFxrp = some amount ∧ mi.priceUsd18 = some price ∧
      L.pack ⟨mi.matchID, mi.escrow, mi.taker, mi.maker, amount, price, mi.takerXrplAddress,
        mi.instructionExpiresAt⟩ = some data := by
  unfold MatchInstruction.abiEncode
  cases mi.amountFxrp with
  | none => simp
  | some amount =>
    cases mi.priceUsd18 with
    | none => simp
    | some price => simp

/-- A signed match carries the packed bytes and what the sign port answered. -/
theorem signWithFunc_eq_ok {mi : MatchInstruction} {chainID : UInt64} {signFn : SignerFunc}
    {s : SignedMatch} :
    signWithFunc L mi chainID signFn = .ok s ↔ ∃ data sig signer,
      mi.abiEncode L = .ok data ∧ signFn (wdMatchMessage (L.keccak256 data) chainID) = some sig ∧
      sig.length = 65 ∧
      L.sigToAddress (ethSignedDigest L (L.keccak256 data) chainID)
        (normalizeForRecover (normalizeV sig)) = some signer ∧
      s = ⟨mi, data, L.keccak256 data, ethSignedDigest L (L.keccak256 data) chainID, normalizeV sig,
        signer⟩ := by
  simp only [signWithFunc, bind_eq_ok, orRevert_eq_ok, revertIf_eq_ok, pure_eq_ok, ne_eq,
    Decidable.not_not]
  constructor
  · rintro ⟨data, hdata, sig, hsig, _, hlen, signer, hsigner, rfl⟩
    exact ⟨data, sig, signer, hdata, hsig, hlen, hsigner, rfl⟩
  · rintro ⟨data, sig, signer, hdata, hsig, hlen, hsigner, rfl⟩
    exact ⟨data, hdata, sig, hsig, (), hlen, signer, hsigner, rfl⟩

end WhisperDesk.Matcher
