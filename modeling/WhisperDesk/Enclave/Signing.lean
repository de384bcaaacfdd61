import WhisperDesk.Enclave.Handler

/-!
# Signing with the key at hand

`Sign` of instruction.go, which hashes the WD_MATCH_V1 payload itself, and the
sign port behind `SignWithFunc`, which hashes the message it is posted. The
packages they sign with are parameters; by their documentation both sign one
digest, the one `matchsig` recomputes from a match response.
-/
namespace WhisperDesk.Matcher

open Go
open AbiWords
open Reverting (revertIf orRevert bind_eq_ok revertIf_eq_ok orRevert_eq_ok pure_eq_ok
  mapError_eq_ok)

/-- The packages under `Sign` and the sign port. -/
structure SigningLibraries (Key : Type) extends Libraries where
  /-- `csigning.NewPayload(prefix, chainID, dataHash).Hash()`. -/
  payloadHash : Bytes32 → UInt64 → Bytes32 → Option Bytes32
  /-- `accounts.TextHash`. -/
  textHash : Bytes → Bytes32
  /-- `crypto.Sign`. -/
  cryptoSign : Bytes32 → Key → Option Bytes
  /-- `teeutils.Sign`. -/
  utilsSign : Bytes → Key → Option Bytes

/-- The one argument of `matchInstructionArgs`, its components in their order. -/
def matchInstructionArg (t : MatchInstructionTuple) : Abi.Value :=
  .tuple [.uint 256 t.matchID.toNat, .uint 160 t.escrow.toNat, .uint 160 t.taker.toNat,
    .uint 160 t.maker.toNat, .uint 256 t.amountFxrp.toNat, .uint 256 t.priceUsd18.toNat,
    .string t.takerXrplAddress.bytes, .uint 64 t.instructionExpiresAt.toNat]

/-- What the packages document: `Pack` follows the ABI, the payload hash is that
of three ABI words, and `utils.Sign` is `crypto.Sign` of the personal-message hash. -/
structure SigningLibraries.Documented {Key : Type} (S : SigningLibraries Key) : Prop where
  pack : ∀ t, 0 ≤ t.amountFxrp → t.amountFxrp < 2 ^ 256 → 0 ≤ t.priceUsd18 →
    t.priceUsd18 < 2 ^ 256 → S.pack t = some (Abi.encode [matchInstructionArg t])
  payloadHash : ∀ tag chainID dataHash, S.payloadHash tag chainID dataHash =
    some (S.keccak256 (Abi.encode
      [.uint 256 tag.toNat, .uint 256 chainID.toNat, .uint 256 dataHash.toNat]))
  textHash : ∀ h : Bytes32, S.textHash (word h.toNat) =
    S.keccak256 (MatchInstructionLib.ethPrefix ++ word h.toNat)
  utilsSign : ∀ msgHash privKey, S.utilsSign msgHash privKey =
    S.cryptoSign (S.textHash msgHash) privKey

/-- The errors of `Sign`. -/
inductive SignError where
  | abiEncode (e : Error)
  | payloadHash
  | sign
  | signatureLength (n : Nat)
  | recover
  deriving DecidableEq, Repr

/-- Their texts, up to what the failed call itself says. -/
def SignError.text : SignError → String
  | .abiEncode .nilAmount => "matcher: Sign: ABIEncode: " ++ Error.nilAmount.text
  | .abiEncode _ => "matcher: Sign: ABIEncode: "
  | .payloadHash => "matcher: Sign: payload hash: "
  | .sign => "matcher: Sign: sign: "
  | .signatureLength n => "matcher: Sign: expected 65-byte signature, got " ++ toString n
  | .recover => "matcher: Sign: recover pubkey: "

section Keys

variable {Key : Type} (S : SigningLibraries Key)

def sign (mi : MatchInstruction) (chainID : UInt64) (privKey : Key) :
    Except SignError SignedMatch := do
  let abiEncoded ← (mi.abiEncode S.toLibraries).mapError .abiEncode
  let dataHash := S.keccak256 abiEncoded
  let payloadHash ← orRevert (S.payloadHash wdMatchTag chainID dataHash) .payloadHash
  let sig ← orRevert (S.utilsSign (word payloadHash.toNat) privKey) .sign
  revertIf (sig.length ≠ 65) (.signatureLength sig.length)
  let sig := normalizeV sig
  let digest := ethSignedDigest S.toLibraries dataHash chainID
  let signer ← orRevert (S.sigToAddress digest (normalizeForRecover sig)) .recover
  pure { instruction := mi, abiEncoded, dataHash, ethSignedDig := digest, signature := sig, signer }

/-- `POST /sign`: the port hashes what it is posted before it calls `utils.Sign`. -/
def signPort (privKey : Key) : SignerFunc := fun message =>
  let msgHash := S.keccak256 message
  S.utilsSign (word msgHash.toNat) privKey

variable {S}

theorem payloadHash_eq (hS : S.Documented) (chainID : UInt64) (dataHash : Bytes32) :
    S.payloadHash wdMatchTag chainID dataHash =
      some (S.keccak256 (wdMatchMessage dataHash chainID)) := by
  have hwords := Abi.encode_uints 256 [wdMatchTag.toNat, chainID.toNat, dataHash.toNat]
  rw [hS.payloadHash, wdMatchMessage_eq, ← hwords]
  rfl

/-- Whoever is given the payload hash to sign signs `EthSignedDigest`. -/
theorem textHash_eq (hS : S.Documented) (chainID : UInt64) (dataHash : Bytes32) :
    S.textHash (word (S.keccak256 (wdMatchMessage dataHash chainID)).toNat) =
      ethSignedDigest S.toLibraries dataHash chainID :=
  hS.textHash _

theorem signPort_eq (hS : S.Documented) (chainID : UInt64) (dataHash : Bytes32) (privKey : Key) :
    signPort S privKey (wdMatchMessage dataHash chainID) =
      S.cryptoSign (ethSignedDigest S.toLibraries dataHash chainID) privKey := by
  rw [signPort, hS.utilsSign, textHash_eq hS]

/-- `Sign` needs of its packages what `SignWithFunc` needs of a port with the key. -/
theorem sign_eq_ok (hS : S.Documented) {mi : MatchInstruction} {chainID : UInt64} {privKey : Key}
    {s : SignedMatch} :
    sign S mi chainID privKey = .ok s ↔
      signWithFunc S.toLibraries mi chainID (signPort S privKey) = .ok s := by
  rw [signWithFunc_eq_ok]
  simp only [sign, bind_eq_ok, mapError_eq_ok, orRevert_eq_ok, revertIf_eq_ok, pure_eq_ok, ne_eq,
    Decidable.not_not, payloadHash_eq hS, Option.some.injEq]
  constructor
  · rintro ⟨data, hdata, _, rfl, sig, hsig, _, hlen, signer, hsigner, rfl⟩
    exact ⟨data, sig, signer, hdata, hsig, hlen, hsigner, rfl⟩
  · rintro ⟨data, sig, signer, hdata, hsig, hlen, hsigner, rfl⟩
    exact ⟨data, hdata, _, rfl, sig, hsig, (), hlen, signer, hsigner, rfl⟩

/-- A port that only lets 65-byte answers through makes no difference. -/
theorem signWithFunc_filtered {L : Libraries} {mi : MatchInstruction} {chainID : UInt64}
    {signFn filtered : SignerFunc} {s : SignedMatch}
    (h : ∀ message sig, filtered message = some sig ↔ signFn message = some sig ∧ sig.length = 65) :
    signWithFunc L mi chainID filtered = .ok s ↔ signWithFunc L mi chainID signFn = .ok s := by
  simp only [signWithFunc_eq_ok, h]
  constructor
  · rintro ⟨data, sig, signer, hdata, ⟨hsig, _⟩, hlen, hsigner, rfl⟩
    exact ⟨data, sig, signer, hdata, hsig, hlen, hsigner, rfl⟩
  · rintro ⟨data, sig, signer, hdata, hsig, hlen, hsigner, rfl⟩
    exact ⟨data, sig, signer, hdata, ⟨hsig, hlen⟩, hlen, hsigner, rfl⟩

end Keys

end WhisperDesk.Matcher

namespace WhisperDesk.Fcewire

open Matcher

theorem signClient_eq_some {a : Ambient} {message sig : Bytes} :
    signClient a message = some sig ↔ a.signPort message = some sig ∧ sig.length = 65 := by
  simp only [signClient, Option.bind_eq_some_iff, Option.ite_none_right_eq_some,
    Option.some.injEq]
  constructor
  · rintro ⟨_, hport, hlen, rfl⟩
    exact ⟨hport, hlen⟩
  · rintro ⟨hport, hlen⟩
    exact ⟨sig, hport, hlen, rfl⟩

end WhisperDesk.Fcewire

/-! The enclave-loop client's copy of the digest. -/
namespace WhisperDesk.Matchsig

open Go
open AbiWords

def wdMatchTag : Bytes32 := bytes32OfAscii "WD_MATCH_V1"

def dataHash (P : Primitives) (abiEncoded : Bytes) : Bytes32 := P.keccak256 abiEncoded

def ethSignedDigest (P : Primitives) (dataHash : Bytes32) (chainID : UInt64) : Bytes32 :=
  let chainIDWord := leftPad32 (bigBytes chainID.toNat)
  let encoded := word wdMatchTag.toNat ++ chainIDWord ++ word dataHash.toNat
  let payloadHash := P.keccak256 encoded
  P.keccak256 (MatchInstructionLib.ethPrefix ++ word payloadHash.toNat)

end WhisperDesk.Matchsig
