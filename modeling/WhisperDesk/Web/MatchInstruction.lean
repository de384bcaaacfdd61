import WhisperDesk.Contracts.EscrowSpecs

/-!
# matchInstruction.ts

The browser client's encoding of a match instruction, its WD_MATCH_V1 digest and
the signature over it, over the parts of `ethers` they call. A hex string is the
value it denotes, and text is its UTF-8 bytes.
-/
namespace WhisperDesk.Web

open AbiWords

/-- A `bigint` or a `number`. -/
inductive Numeric where
  | bigint (n : Nat)
  | number (n : Nat)
  deriving DecidableEq

structure MatchInstruction where
  matchId : Bytes32
  escrow : Address
  taker : Address
  maker : Address
  amountFxrp : Nat
  priceUsd18 : Nat
  takerXrplAddress : Bytes
  /-- A `number`. -/
  instructionExpiresAt : Nat
  deriving DecidableEq

/-- The functions of `ethers` next to its hash; `none` is a thrown error. -/
structure Ethers where
  /-- The integer that the coder reads a numeric value as. -/
  getBigInt : Numeric → Option Nat
  /-- `AbiCoder.encode`. -/
  encode : List Abi.Value → Option Bytes
  encodeBytes32String : String → Bytes32

/-- What `ethers` documents: the coder follows the ABI for values in the range
of their types. A `number` counts as the integer it is, above
`Number.MAX_SAFE_INTEGER` it may be refused. -/
structure Ethers.Documented (E : Ethers) : Prop where
  bigint : ∀ n, E.getBigInt (.bigint n) = some n
  number : ∀ n m, E.getBigInt (.number n) = some m → m = n
  safe : ∀ n, n < 2 ^ 53 → E.getBigInt (.number n) = some n
  sound : ∀ values data, E.encode values = some data → data = Abi.encode values
  total : ∀ values, Abi.AllInRange values → E.encode values = some (Abi.encode values)
  bytes32 : E.encodeBytes32String "WD_MATCH_V1" = bytes32OfAscii "WD_MATCH_V1"

variable (P : Primitives) (E : Ethers)

def wdMatchTag : Bytes32 := E.encodeBytes32String "WD_MATCH_V1"

def abiEncodeMatchInstruction (mi : MatchInstruction) : Option Bytes := do
  let instructionExpiresAt ← E.getBigInt (.number mi.instructionExpiresAt)
  E.encode [.tuple [.uint 256 mi.matchId.toNat, .uint 160 mi.escrow.toNat,
    .uint 160 mi.taker.toNat, .uint 160 mi.maker.toNat, .uint 256 mi.amountFxrp,
    .uint 256 mi.priceUsd18, .string mi.takerXrplAddress, .uint 64 instructionExpiresAt]]

def dataHash (instructionData : Bytes) : Bytes32 := P.keccak256 instructionData

def ethSignedDigest (dataHash : Bytes32) (chainId : Numeric) : Option Bytes32 := do
  let chainId ← E.getBigInt chainId
  let encoded ← E.encode
    [.uint 256 (wdMatchTag E).toNat, .uint 256 chainId, .uint 256 dataHash.toNat]
  let payloadHash := P.keccak256 encoded
  pure (P.keccak256 (MatchInstructionLib.ethPrefix ++ word payloadHash.toNat))

/-- The contract's struct with the same fields. -/
def MatchInstruction.onChain (mi : MatchInstruction) : MatchInstructionLib.MatchInstruction where
  matchId := mi.matchId
  escrow := mi.escrow
  taker := mi.taker
  maker := mi.maker
  amountFxrp := mi.amountFxrp
  priceUsd18 := mi.priceUsd18
  takerXrplAddress := mi.takerXrplAddress
  instructionExpiresAt := mi.instructionExpiresAt

/-- An `ethers.Signature`. -/
structure Signature where
  r : Bytes32
  s : Bytes32
  v : UInt8

def Signature.serialized (sig : Signature) : Bytes := word sig.r.toNat ++ word sig.s.toNat ++ [sig.v]

/-- `wallet.signingKey.sign`. -/
abbrev SigningKey := Bytes32 → Signature

/-- What `ethers` documents of the key of `address`: canonical signatures, from
which `ecrecover` finds the address again. -/
structure SigningKey.Documented (key : SigningKey) (address : Address) : Prop where
  lowS : ∀ digest, (key digest).s.toNat ≤ DvPEscrow.secp256k1nHalf
  recovers : ∀ digest, P.ecrecover digest (key digest).v (key digest).r (key digest).s = address

inductive SignError where
  | ethers
  | highS
  deriving DecidableEq, Repr

def SignError.text : SignError → String
  | .ethers => ""
  | .highS =>
    "signMatchInstruction: unexpected high-S signature — signing library behavior changed"

def secp256k1N : Nat := 0xfffffffffffffffffffffffffffffffebaaedce6af48a03bbfd25e8cd0364141

/-- `instructionData` and `signature`, as `DvPEscrow.lock()` wants them. -/
def signMatchInstruction (mi : MatchInstruction) (chainId : Numeric) (key : SigningKey) :
    Except SignError (Bytes × Bytes) := do
  let instructionData ← Reverting.orRevert (abiEncodeMatchInstruction E mi) .ethers
  let digest ← Reverting.orRevert (ethSignedDigest P E (dataHash P instructionData) chainId) .ethers
  let sig := key digest
  Reverting.revertIf (sig.s.toNat > secp256k1N / 2) .highS
  pure (instructionData, sig.serialized)

variable {P} {E}

/-- The client encodes what the contract's own `abi.encode` would. -/
theorem abiEncode_sound (hE : E.Documented) {mi : MatchInstruction} {data : Bytes}
    (h : abiEncodeMatchInstruction E mi = some data) :
    data = MatchInstructionLib.encode mi.onChain := by
  obtain ⟨expires, hexpires, hdata⟩ := Option.bind_eq_some_iff.mp h
  obtain rfl := hE.number _ _ hexpires
  rw [hE.sound _ _ hdata, MatchInstructionLib.encode_eq_abi]
  rfl

/-- It encodes every instruction in range that expires at a safe integer. -/
theorem abiEncode_total (hE : E.Documented) {mi : MatchInstruction}
    (hmi : MatchInstructionLib.Encodable mi.onChain) (hsafe : mi.instructionExpiresAt < 2 ^ 53) :
    abiEncodeMatchInstruction E mi = some (MatchInstructionLib.encode mi.onChain) := by
  have hlength : mi.takerXrplAddress.length < wordSize :=
    Nat.lt_trans hmi.address (by decide)
  have hrange : Abi.AllInRange [MatchInstructionLib.abiValue mi.onChain] := by
    simp only [MatchInstructionLib.abiValue, Abi.AllInRange, Abi.Value.InRange, and_true]
    exact ⟨mi.matchId.isLt, mi.escrow.isLt, mi.taker.isLt, mi.maker.isLt, hmi.amount, hmi.price,
      hlength, hmi.expires⟩
  rw [abiEncodeMatchInstruction, hE.safe _ hsafe, MatchInstructionLib.encode_eq_abi]
  exact hE.total _ hrange

theorem ethSignedDigest_eq (hE : E.Documented) {chainId : Numeric} {n : Nat} (dataHash : Bytes32)
    (hread : E.getBigInt chainId = some n) (hn : n < 2 ^ 256) :
    ethSignedDigest P E dataHash chainId =
      some (MatchInstructionLib.ethSignedDigest P dataHash n) := by
  have htag : wdMatchTag E = MatchInstructionLib.wdMatchTag := hE.bytes32
  have hrange : Abi.AllInRange [.uint 256 MatchInstructionLib.wdMatchTag.toNat, .uint 256 n,
      .uint 256 dataHash.toNat] := by
    simp only [Abi.AllInRange, Abi.Value.InRange, and_true]
    exact ⟨MatchInstructionLib.wdMatchTag.isLt, hn, dataHash.isLt⟩
  have hwords := Abi.encode_uints 256 [MatchInstructionLib.wdMatchTag.toNat, n, dataHash.toNat]
  rw [ethSignedDigest, hread, Option.bind_eq_bind, Option.bind_some, htag, hE.total _ hrange]
  rw [MatchInstructionLib.ethSignedDigest, ← hwords]
  rfl

theorem splitSignature_serialized (sig : Signature) :
    DvPEscrow.splitSignature sig.serialized = (sig.r, sig.s, sig.v) := by
  have hword (n : Bytes32) : BitVec.ofNat 256 (ByteCodec.ofBE (word n.toNat)) = n := by
    rw [ofBE_word, wordSize, Nat.mod_eq_of_lt n.isLt, BitVec.ofNat_toNat, BitVec.setWidth_eq]
  have hr : sig.serialized.take 32 = word sig.r.toNat := by
    rw [Signature.serialized, List.append_assoc, List.take_left' (length_word _)]
  have hs : (sig.serialized.drop 32).take 32 = word sig.s.toNat := by
    rw [Signature.serialized, List.append_assoc, List.drop_left' (length_word _),
      List.take_left' (length_word _)]
  have hv : sig.serialized.getD 64 0 = sig.v := by
    have hlen : (word sig.r.toNat ++ word sig.s.toNat).length = 64 := by simp
    rw [Signature.serialized, List.getD_eq_getElem?_getD, List.getElem?_append_right (by omega), hlen]
    rfl
  rw [DvPEscrow.splitSignature, hr, hs, hv, hword, hword]

/-- What it signs for its own chain passes the contract's check against the key's address. -/
theorem signMatchInstruction_ok (hE : E.Documented) {key : SigningKey} {address : Address}
    (hkey : key.Documented P address) {mi : MatchInstruction}
    (hmi : MatchInstructionLib.Encodable mi.onChain) (hsafe : mi.instructionExpiresAt < 2 ^ 53)
    {chainid : Nat} (hchainid : chainid < 2 ^ 256) :
    ∃ signature, signMatchInstruction P E mi (.bigint chainid) key =
        .ok (MatchInstructionLib.encode mi.onChain, signature) ∧
      signature.length = 65 ∧
      (DvPEscrow.splitSignature signature).2.1.toNat ≤ DvPEscrow.secp256k1nHalf ∧
      DvPEscrow.recoveredSigner P chainid (MatchInstructionLib.encode mi.onChain) signature =
        address := by
  let digest := MatchInstructionLib.ethSignedDigest P
    (dataHash P (MatchInstructionLib.encode mi.onChain)) chainid
  refine ⟨(key digest).serialized, ?_, ?_, ?_, ?_⟩
  · have hlow : ¬ (key digest).s.toNat > secp256k1N / 2 := by
      have hhalf : secp256k1N / 2 = DvPEscrow.secp256k1nHalf := by decide
      have := hkey.lowS digest
      omega
    rw [signMatchInstruction, abiEncode_total hE hmi hsafe]
    simp only [Reverting.orRevert, ethSignedDigest_eq hE _ (hE.bigint chainid) hchainid]
    simp only [Reverting.revertIf, bind, Except.bind]
    rw [if_neg hlow]
    rfl
  · simp [Signature.serialized]
  · rw [splitSignature_serialized]
    exact hkey.lowS digest
  · rw [DvPEscrow.recoveredSigner, splitSignature_serialized]
    exact hkey.recovers digest

end WhisperDesk.Web
