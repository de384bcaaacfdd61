import WhisperDesk.General.Abi
import WhisperDesk.Contracts.Chain

/-!
# MatchInstructionLib

The signed wire format: `abi.encode` of one `MatchInstruction` struct, the
decoder the compiler generates for it, and the WD_MATCH_V1 digest. The decoder
is lenient about offsets and trailing bytes, strict about ranges; encoding and
decoding a struct gives it back.
-/
namespace WhisperDesk.MatchInstructionLib

open AbiWords

structure MatchInstruction where
  matchId : Bytes32
  escrow : Address
  taker : Address
  maker : Address
  amountFxrp : Nat
  priceUsd18 : Nat
  takerXrplAddress : Bytes
  instructionExpiresAt : Nat
  deriving DecidableEq

def wdMatchTag : Bytes32 := bytes32OfAscii "WD_MATCH_V1"

def dataHash (P : Primitives) (instructionData : Bytes) : Bytes32 := P.keccak256 instructionData

/-- `"\x19Ethereum Signed Message:\n32"`. -/
def ethPrefix : Bytes :=
  0x19 :: ("Ethereum Signed Message:\n32".toList.map fun c => UInt8.ofNat c.toNat)

def ethSignedDigest (P : Primitives) (dataHash : Bytes32) (chainId : Nat) : Bytes32 :=
  let payloadHash := P.keccak256 (words [wdMatchTag.toNat, chainId, dataHash.toNat])
  P.keccak256 (ethPrefix ++ word payloadHash.toNat)

/-- The slots of `abi.encode(mi)`: the offset of the dynamic struct, its eight
head slots, and the length of the address string. -/
def slots (mi : MatchInstruction) : List Nat :=
  [0x20, mi.matchId.toNat, mi.escrow.toNat, mi.taker.toNat, mi.maker.toNat, mi.amountFxrp,
    mi.priceUsd18, 0x100, mi.instructionExpiresAt, mi.takerXrplAddress.length]

/-- `abi.encode(mi)`. -/
def encode (mi : MatchInstruction) : Bytes := words (slots mi) ++ padRight mi.takerXrplAddress

/-- The struct as a value of its ABI type,
`(bytes32,address,address,address,uint256,uint256,string,uint64)`. -/
def abiValue (mi : MatchInstruction) : Abi.Value :=
  .tuple [.uint 256 mi.matchId.toNat, .uint 160 mi.escrow.toNat, .uint 160 mi.taker.toNat,
    .uint 160 mi.maker.toNat, .uint 256 mi.amountFxrp, .uint 256 mi.priceUsd18,
    .string mi.takerXrplAddress, .uint 64 mi.instructionExpiresAt]

/-- The slots are what the ABI prescribes for one dynamic struct. -/
theorem encode_eq_abi (mi : MatchInstruction) : encode mi = Abi.encode [abiValue mi] := by
  rw [abiValue, Abi.encode_tuple rfl]
  simp [encode, slots, Abi.encode, Abi.Value.body, Abi.head, Abi.tails, Abi.headWidth,
    Abi.Value.width, Abi.Value.isDynamic, words]

/-- A slot read back as a value of the given bit width. -/
def uintAt (bits : Nat) (data : Bytes) (offset : Nat) : Option Nat :=
  (wordAt data offset).bind fun n => if n < 2 ^ bits then some n else none

/-- The `string` whose length slot is at `offset`. -/
def stringAt (data : Bytes) (offset : Nat) : Option Bytes :=
  (uintAt 64 data offset).bind fun len => bytesAt data (offset + 32) len

/-- `abi.decode(instructionData, (MatchInstruction))`, `none` where it reverts. -/
def decode (data : Bytes) : Option MatchInstruction := do
  let head ← uintAt 64 data 0
  -- the whole fixed-size head must be there before any field is read
  guard (head + 0x100 ≤ data.length)
  let matchId ← wordAt data head
  let escrow ← uintAt 160 data (head + 0x20)
  let taker ← uintAt 160 data (head + 0x40)
  let maker ← uintAt 160 data (head + 0x60)
  let amountFxrp ← wordAt data (head + 0x80)
  let priceUsd18 ← wordAt data (head + 0xa0)
  let stringOffset ← uintAt 64 data (head + 0xc0)
  let takerXrplAddress ← stringAt data (head + stringOffset)
  let instructionExpiresAt ← uintAt 64 data (head + 0xe0)
  pure { matchId := BitVec.ofNat 256 matchId, escrow := BitVec.ofNat 160 escrow,
         taker := BitVec.ofNat 160 taker, maker := BitVec.ofNat 160 maker,
         amountFxrp, priceUsd18, takerXrplAddress, instructionExpiresAt }

/-- The ranges of the struct's ABI types. -/
structure Encodable (mi : MatchInstruction) : Prop where
  amount : mi.amountFxrp < 2 ^ 256
  price : mi.priceUsd18 < 2 ^ 256
  address : mi.takerXrplAddress.length < 2 ^ 64
  expires : mi.instructionExpiresAt < 2 ^ 64

theorem wordAt_encode (mi : MatchInstruction) (i n : Nat) (h : (slots mi)[i]? = some n)
    (hn : n < 2 ^ 256) : wordAt (encode mi) (32 * i) = some n := by
  rw [encode, wordAt_words (slots mi) _ i n h, wordSize, Nat.mod_eq_of_lt hn]

theorem uintAt_encode (mi : MatchInstruction) (bits i n : Nat) (h : (slots mi)[i]? = some n)
    (hbits : bits ≤ 256) (hn : n < 2 ^ bits) : uintAt bits (encode mi) (32 * i) = some n := by
  have hpow : (2 : Nat) ^ bits ≤ 2 ^ 256 := Nat.pow_le_pow_right (by decide) hbits
  rw [uintAt, wordAt_encode mi i n h (Nat.lt_of_lt_of_le hn hpow), Option.bind_some, if_pos hn]

theorem stringAt_encode (mi : MatchInstruction) (h : mi.takerXrplAddress.length < 2 ^ 64) :
    stringAt (encode mi) 288 = some mi.takerXrplAddress := by
  have hlen : (words (slots mi)).length = 320 := by simp [slots]
  have hbytes := bytesAt_append (words (slots mi)) mi.takerXrplAddress
    (padding mi.takerXrplAddress.length)
  rw [hlen] at hbytes
  have hword := uintAt_encode mi 64 9 _ rfl (by decide) h
  unfold stringAt
  rw [show 288 = 32 * 9 from rfl, hword]
  exact hbytes

/-- Decoding gives back, field for field, what was encoded. -/
theorem decode_encode (mi : MatchInstruction) (h : Encodable mi) : decode (encode mi) = some mi := by
  have hhead : uintAt 64 (encode mi) 0 = some 0x20 := uintAt_encode mi 64 0 _ rfl (by decide) (by decide)
  have hlen : 0x20 + 0x100 ≤ (encode mi).length := by
    simp only [encode, List.length_append, length_words, slots, List.length_cons, List.length_nil]
    omega
  have hid : wordAt (encode mi) (0x20 : Nat) = some mi.matchId.toNat :=
    wordAt_encode mi 1 _ rfl mi.matchId.isLt
  have hescrow : uintAt 160 (encode mi) (0x20 + 0x20) = some mi.escrow.toNat :=
    uintAt_encode mi 160 2 _ rfl (by decide) mi.escrow.isLt
  have htaker : uintAt 160 (encode mi) (0x20 + 0x40) = some mi.taker.toNat :=
    uintAt_encode mi 160 3 _ rfl (by decide) mi.taker.isLt
  have hmaker : uintAt 160 (encode mi) (0x20 + 0x60) = some mi.maker.toNat :=
    uintAt_encode mi 160 4 _ rfl (by decide) mi.maker.isLt
  have hamount : wordAt (encode mi) (0x20 + 0x80) = some mi.amountFxrp :=
    wordAt_encode mi 5 _ rfl h.amount
  have hprice : wordAt (encode mi) (0x20 + 0xa0) = some mi.priceUsd18 :=
    wordAt_encode mi 6 _ rfl h.price
  have hoffset : uintAt 64 (encode mi) (0x20 + 0xc0) = some 0x100 :=
    uintAt_encode mi 64 7 _ rfl (by decide) (by decide)
  have hexpires : uintAt 64 (encode mi) (0x20 + 0xe0) = some mi.instructionExpiresAt :=
    uintAt_encode mi 64 8 _ rfl (by decide) h.expires
  have hstring : stringAt (encode mi) (0x20 + 0x100) = some mi.takerXrplAddress :=
    stringAt_encode mi h.address
  have hguard : (guard (0x20 + 0x100 ≤ (encode mi).length) : Option Unit) = some () := by
    simp only [guard, if_pos hlen, pure]
  unfold decode
  simp only [hhead, hguard, hid, hescrow, htaker, hmaker, hamount, hprice, hoffset, hstring,
    hexpires, bind, Option.bind_some, BitVec.ofNat_toNat, BitVec.setWidth_eq, pure]

/-- The wire format loses nothing: equal bytes come from equal instructions. -/
theorem encode_injective {a b : MatchInstruction} (ha : Encodable a) (hb : Encodable b)
    (h : encode a = encode b) : a = b := by
  have hd := decode_encode a ha
  rw [h, decode_encode b hb] at hd
  exact (Option.some.inj hd).symm

end WhisperDesk.MatchInstructionLib
