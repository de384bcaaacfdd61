import WhisperDesk.Enclave.Signing
import WhisperDesk.Web.MatchInstruction

/-!
# One wire format, one digest

Four implementations write a match instruction: `abi.encode` on chain, the
enclave's `ABIEncode`, the client's coder and the ABI itself. They write the
same bytes, from which the escrow reads the same fields, and everyone who signs
or checks a signature over them uses one digest.
-/
namespace WhisperDesk.WireParity

open Go
open AbiWords
open Matcher
open Fcewire (Ambient signClient)

/-- The enclave's instruction and the contract's struct agree field for field. -/
structure SameFields (mi : Matcher.MatchInstruction) (m : MatchInstructionLib.MatchInstruction) :
    Prop where
  matchId : m.matchId = mi.matchID
  escrow : m.escrow = mi.escrow
  taker : m.taker = mi.taker
  maker : m.maker = mi.maker
  amountFxrp : mi.amountFxrp = some (m.amountFxrp : Int)
  priceUsd18 : mi.priceUsd18 = some (m.priceUsd18 : Int)
  takerXrplAddress : m.takerXrplAddress = mi.takerXrplAddress.bytes
  instructionExpiresAt : m.instructionExpiresAt = mi.instructionExpiresAt.toNat

/-- Both amounts are `uint256`s. -/
structure InRange (mi : Matcher.MatchInstruction) (amount price : Nat) : Prop where
  amountFxrp : mi.amountFxrp = some (amount : Int)
  priceUsd18 : mi.priceUsd18 = some (price : Int)
  amount_lt : amount < 2 ^ 256
  price_lt : price < 2 ^ 256

/-- The struct that the instruction is on chain. -/
def onChain (mi : Matcher.MatchInstruction) (amount price : Nat) :
    MatchInstructionLib.MatchInstruction where
  matchId := mi.matchID
  escrow := mi.escrow
  taker := mi.taker
  maker := mi.maker
  amountFxrp := amount
  priceUsd18 := price
  takerXrplAddress := mi.takerXrplAddress.bytes
  instructionExpiresAt := mi.instructionExpiresAt.toNat

section Bytes

variable {Key : Type} {S : SigningLibraries Key} {E : Web.Ethers}
  {mi mi' : Matcher.MatchInstruction} {amount price : Nat}

theorem sameFields (h : InRange mi amount price) : SameFields mi (onChain mi amount price) where
  matchId := rfl
  escrow := rfl
  taker := rfl
  maker := rfl
  amountFxrp := h.amountFxrp
  priceUsd18 := h.priceUsd18
  takerXrplAddress := rfl
  instructionExpiresAt := rfl

theorem encodable (h : InRange mi amount price) :
    MatchInstructionLib.Encodable (onChain mi amount price) where
  amount := h.amount_lt
  price := h.price_lt
  address := Nat.lt_trans mi.takerXrplAddress.length_lt (by decide)
  expires := mi.instructionExpiresAt.toNat_lt

/-- The struct has no other fields: it determines the instruction. -/
theorem SameFields.unique {m : MatchInstructionLib.MatchInstruction} (h : SameFields mi m)
    (h' : SameFields mi' m) : mi = mi' := by
  have hexpires : mi.instructionExpiresAt = mi'.instructionExpiresAt :=
    UInt64.toNat_inj.mp (h.instructionExpiresAt.symm.trans h'.instructionExpiresAt)
  have haddress : mi.takerXrplAddress.bytes = mi'.takerXrplAddress.bytes :=
    h.takerXrplAddress.symm.trans h'.takerXrplAddress
  obtain ⟨matchID, escrow, taker, maker, amountFxrp, priceUsd18, ⟨bytes, _⟩, expires⟩ := mi
  obtain ⟨matchID', escrow', taker', maker', amountFxrp', priceUsd18', ⟨bytes', _⟩, expires'⟩ := mi'
  obtain rfl : matchID = matchID' := h.matchId.symm.trans h'.matchId
  obtain rfl : escrow = escrow' := h.escrow.symm.trans h'.escrow
  obtain rfl : taker = taker' := h.taker.symm.trans h'.taker
  obtain rfl : maker = maker' := h.maker.symm.trans h'.maker
  obtain rfl : amountFxrp = amountFxrp' := h.amountFxrp.trans h'.amountFxrp.symm
  obtain rfl : priceUsd18 = priceUsd18' := h.priceUsd18.trans h'.priceUsd18.symm
  obtain rfl : bytes = bytes' := haddress
  obtain rfl : expires = expires' := hexpires
  rfl

/-- `ABIEncode` writes what `abi.encode` writes for the struct. -/
theorem abiEncode_eq (hS : S.Documented) (h : InRange mi amount price) :
    mi.abiEncode S.toLibraries = .ok (MatchInstructionLib.encode (onChain mi amount price)) := by
  have hamount : (amount : Int) < 2 ^ 256 := by exact_mod_cast h.amount_lt
  have hprice : (price : Int) < 2 ^ 256 := by exact_mod_cast h.price_lt
  have hpack := hS.pack ⟨mi.matchID, mi.escrow, mi.taker, mi.maker, amount, price,
    mi.takerXrplAddress, mi.instructionExpiresAt⟩ (Int.natCast_nonneg amount) hamount
    (Int.natCast_nonneg price) hprice
  rw [abiEncode_eq_ok, MatchInstructionLib.encode_eq_abi]
  exact ⟨amount, price, h.amountFxrp, h.priceUsd18, hpack⟩

theorem abiEncode_injective (hS : S.Documented) {amount' price' : Nat}
    (h : InRange mi amount price) (h' : InRange mi' amount' price')
    (heq : mi.abiEncode S.toLibraries = mi'.abiEncode S.toLibraries) : mi = mi' := by
  rw [abiEncode_eq hS h, abiEncode_eq hS h', Except.ok.injEq] at heq
  have hstruct := MatchInstructionLib.encode_injective (encodable h) (encodable h') heq
  have hsame := sameFields h
  rw [hstruct] at hsame
  exact hsame.unique (sameFields h')

/-- Everyone's bytes for one instruction: the enclave's, the contract's, the
ABI's for a single dynamic tuple, and whatever the client sends. -/
structure EncodesAlike (S : SigningLibraries Key) (E : Web.Ethers) (mi : Matcher.MatchInstruction)
    (m : MatchInstructionLib.MatchInstruction) (data : Bytes) : Prop where
  encoded : mi.abiEncode S.toLibraries = .ok data
  decoded : MatchInstructionLib.decode data = some m
  contract : data = MatchInstructionLib.encode m
  abi : data = Abi.encode [MatchInstructionLib.abiValue m]
  offset : ∃ fields, data = word 0x20 ++ fields
  client : ∀ t : Web.MatchInstruction, t.onChain = m → ∀ bytes,
    Web.abiEncodeMatchInstruction E t = some bytes → bytes = data
  clientSafe : ∀ t : Web.MatchInstruction, t.onChain = m → t.instructionExpiresAt < 2 ^ 53 →
    Web.abiEncodeMatchInstruction E t = some data

theorem encodesAlike (hS : S.Documented) (hE : E.Documented) (h : InRange mi amount price) :
    EncodesAlike S E mi (onChain mi amount price)
      (MatchInstructionLib.encode (onChain mi amount price)) := by
  have habi := MatchInstructionLib.encode_eq_abi (onChain mi amount price)
  constructor
  case encoded => exact abiEncode_eq hS h
  case decoded => exact MatchInstructionLib.decode_encode _ (encodable h)
  case contract => rfl
  case abi => exact habi
  case offset =>
    rw [habi, MatchInstructionLib.abiValue, Abi.encode_tuple rfl]
    exact ⟨_, rfl⟩
  case client =>
    intro t ht bytes hbytes
    rw [Web.abiEncode_sound hE hbytes, ht]
  case clientSafe =>
    intro t ht hsafe
    rw [Web.abiEncode_total hE (by rw [ht]; exact encodable h) hsafe, ht]

end Bytes

section Winner

variable {L : Libraries} {book book' : SealedBook} {cfg : Config} {escrow : Address}
  {chainID : UInt64} {signFn : SignerFunc} {order : MapOrder} {rfqID : Bytes32} {rfq : RFQ}
  {quotes : List Quote} {snap : ChainSnapshot} {now : Time} {reasons : Reason → Nat} {w : Quote}
  {o : MatchOutcome}

/-- What is signed for a match, and sent as text, are the bytes of the winner's
instruction as `matchCore` built it. -/
theorem signed_winner (hcached : book.cachedOutcome rfqID = none)
    (hsnap : book.snapshotForMatch order rfqID = .ok (rfq, quotes))
    (hwinner : matchSnapshot L cfg escrow rfq quotes snap now =
      .ok (matched L escrow rfq reasons w now))
    (h : matchWithSigner L book cfg escrow chainID signFn order rfqID snap now = .ok (o, book')) :
    ∃ s, o.signed = some s ∧ s.instruction = instructionFor escrow rfq w now ∧
      (instructionFor escrow rfq w now).abiEncode L = .ok s.abiEncoded ∧
      s.dataHash = L.keccak256 s.abiEncoded ∧ fromHex o.abiEncoded = s.abiEncoded := by
  have hcomputed := matchWithSignFunc_eq_ok.mp h
  rw [hcached] at hcomputed
  obtain ⟨hreplay, _⟩ | ⟨_, rfq', quotes', u, hsnap', hu, ho, _⟩ := hcomputed
  · cases hreplay
  rw [hsnap, Except.ok.injEq, Prod.mk.injEq] at hsnap'
  obtain ⟨rfl, rfl⟩ := hsnap'
  rw [hwinner, Except.ok.injEq] at hu
  subst u
  obtain ⟨hnone, _⟩ | ⟨mi, s, hmi, hs, rfl⟩ := signOutcome_eq_ok.mp ho
  · rw [matched_toSign] at hnone
    cases hnone
  rw [matched_toSign, Option.some.injEq] at hmi
  subst mi
  obtain ⟨data, sig, signer, hdata, _, _, _, rfl⟩ := signWithFunc_eq_ok.mp hs
  exact ⟨_, rfl, rfl, hdata, rfl, fromHex_hexText data⟩

end Winner

section Digest

variable {Key : Type} {S : SigningLibraries Key} {E : Web.Ethers}

/-- Everyone's digest for one hash on one chain: what `Sign` and the sign port
give to `crypto.Sign`, and what is recomputed elsewhere to check a signature. -/
structure OneDigest (S : SigningLibraries Key) (E : Web.Ethers) (chainID : UInt64)
    (dataHash digest : Bytes32) : Prop where
  sign : ∃ payloadHash, S.payloadHash wdMatchTag chainID dataHash = some payloadHash ∧
    S.textHash (word payloadHash.toNat) = digest ∧
    ∀ key, S.utilsSign (word payloadHash.toNat) key = S.cryptoSign digest key
  signPort : S.textHash (word (S.keccak256 (wdMatchMessage dataHash chainID)).toNat) = digest ∧
    ∀ key, signPort S key (wdMatchMessage dataHash chainID) = S.cryptoSign digest key
  recomputed : Matcher.ethSignedDigest S.toLibraries dataHash chainID = digest
  matchsig : Matchsig.ethSignedDigest S.toPrimitives dataHash chainID = digest
  client : Web.ethSignedDigest S.toPrimitives E dataHash (.bigint chainID.toNat) = some digest
  clientNumber : ∀ d, Web.ethSignedDigest S.toPrimitives E dataHash (.number chainID.toNat) =
    some d → d = digest
  contract : MatchInstructionLib.ethSignedDigest S.toPrimitives dataHash chainID.toNat = digest

theorem oneDigest (hS : S.Documented) (hE : E.Documented) (chainID : UInt64) (dataHash : Bytes32) :
    OneDigest S E chainID dataHash
      (MatchInstructionLib.ethSignedDigest S.toPrimitives dataHash chainID.toNat) := by
  have hchain : chainID.toNat < 2 ^ 256 := Nat.lt_of_lt_of_le chainID.toNat_lt (by decide)
  rw [← ethSignedDigest_eq]
  have htext := textHash_eq hS chainID dataHash
  constructor
  case sign =>
    refine ⟨_, payloadHash_eq hS chainID dataHash, htext, ?_⟩
    intro key
    rw [hS.utilsSign, htext]
  case signPort => exact ⟨htext, signPort_eq hS chainID dataHash⟩
  case recomputed => rfl
  case matchsig => rfl
  case client =>
    rw [ethSignedDigest_eq]
    exact Web.ethSignedDigest_eq hE dataHash (hE.bigint _) hchain
  case clientNumber =>
    intro d hd
    obtain ⟨n, hn, _⟩ := Option.bind_eq_some_iff.mp hd
    obtain rfl := hE.number _ _ hn
    rw [Web.ethSignedDigest_eq hE dataHash hn hchain, Option.some.injEq] at hd
    rw [ethSignedDigest_eq, hd]
  case contract => rw [ethSignedDigest_eq]

end Digest

/-- The codec across the languages: every instruction whose amounts are
`uint256`s has one encoding, which determines it and which the escrow reads back
field for field; the text round trip before signing changes nothing; and for
every chain one digest is signed and checked, so that `Sign` and `SignWithFunc`
on the sign port of the same key succeed together with one result. -/
theorem wire_parity {Key : Type} {S : SigningLibraries Key} {E : Web.Ethers} (hS : S.Documented)
    (hE : E.Documented) :
    (∀ mi amount price, InRange mi amount price →
      ∃ m data, SameFields mi m ∧ EncodesAlike S E mi m data) ∧
    (∀ mi mi' amount price amount' price', InRange mi amount price → InRange mi' amount' price' →
      mi.abiEncode S.toLibraries = mi'.abiEncode S.toLibraries → mi = mi') ∧
    (∀ mi, wireToInstruction (instructionToWire S.toLibraries mi) = mi) ∧
    (∀ book cfg escrow chainID signFn order rfqID snap now rfq quotes reasons w o book',
      SealedBook.cachedOutcome book rfqID = none →
      book.snapshotForMatch order rfqID = .ok (rfq, quotes) →
      matchSnapshot S.toLibraries cfg escrow rfq quotes snap now =
        .ok (matched S.toLibraries escrow rfq reasons w now) →
      matchWithSigner S.toLibraries book cfg escrow chainID signFn order rfqID snap now =
        .ok (o, book') →
      ∃ s, o.signed = some s ∧ s.instruction = instructionFor escrow rfq w now ∧
        (instructionFor escrow rfq w now).abiEncode S.toLibraries = .ok s.abiEncoded ∧
        s.dataHash = S.keccak256 s.abiEncoded ∧ fromHex o.abiEncoded = s.abiEncoded) ∧
    (∀ chainID dataHash, ∃ digest, OneDigest S E chainID dataHash digest) ∧
    (∀ mi chainID key (a : Ambient), a.signPort = signPort S key → ∀ s,
      sign S mi chainID key = .ok s ↔
        signWithFunc S.toLibraries mi chainID (signClient a) = .ok s) := by
  refine ⟨?bytes, ?injective, ?roundTrip, ?winner, ?digest, ?agree⟩
  case bytes =>
    intro mi amount price h
    exact ⟨_, _, sameFields h, encodesAlike hS hE h⟩
  case injective =>
    intro mi mi' amount price amount' price' h h'
    exact abiEncode_injective hS h h'
  case roundTrip => exact wireToInstruction_instructionToWire S.toLibraries
  case winner =>
    intro book cfg escrow chainID signFn order rfqID snap now rfq quotes reasons w o book'
    exact signed_winner
  case digest =>
    intro chainID dataHash
    exact ⟨_, oneDigest hS hE chainID dataHash⟩
  case agree =>
    intro mi chainID key a ha s
    rw [sign_eq_ok hS, ← ha]
    exact (signWithFunc_filtered fun _ _ => Fcewire.signClient_eq_some).symm

/-! The best quote of the sample book, signed with key 9 for chain 114. -/
namespace SampleSigning

def signing : SigningLibraries Nat where
  toLibraries := SampleBook.libraries
  payloadHash tag chainID dataHash :=
    some (Sample.primitives.keccak256 (words [tag.toNat, chainID.toNat, dataHash.toNat]))
  textHash message := Sample.primitives.keccak256 (MatchInstructionLib.ethPrefix ++ message)
  cryptoSign digest key := some (word digest.toNat ++ word key ++ [0])
  utilsSign msgHash key :=
    some (word (Sample.primitives.keccak256 (MatchInstructionLib.ethPrefix ++ msgHash)).toNat ++
      word key ++ [0])

theorem documented : signing.Documented where
  pack t _ _ _ _ := congrArg some (MatchInstructionLib.encode_eq_abi _)
  payloadHash tag chainID dataHash := by
    have hwords := Abi.encode_uints 256 [tag.toNat, chainID.toNat, dataHash.toNat]
    exact congrArg (fun payload => some (Sample.primitives.keccak256 payload)) hwords.symm
  textHash _ := rfl
  utilsSign _ _ := rfl

def ethers : Web.Ethers where
  getBigInt
    | .bigint n => some n
    | .number n => if n < 2 ^ 53 then some n else none
  encode values := some (Abi.encode values)
  encodeBytes32String := bytes32OfAscii

theorem ethers_documented : ethers.Documented where
  bigint _ := rfl
  number n m h := by
    obtain ⟨_, hm⟩ := Option.ite_none_right_eq_some.mp h
    exact (Option.some.inj hm).symm
  safe n h := if_pos h
  sound _ _ h := (Option.some.inj h).symm
  total _ _ := rfl
  bytes32 := rfl

def instruction : Matcher.MatchInstruction :=
  instructionFor 0xE5 SampleBook.request SampleBook.high (SampleBook.clock 1020)

def ambient : Ambient where
  now := SampleBook.clock 1020
  makersOrder := .asStored
  quotesOrder := .asStored
  decryptUp := true
  signPort := signPort signing 9

theorem inRange : InRange instruction 5000000000 2010000000000000000 :=
  ⟨rfl, rfl, by decide, by decide⟩

end SampleSigning

open SampleSigning in
theorem wire_parity_sample :
    (∃ m data, SameFields instruction m ∧ EncodesAlike signing ethers instruction m data) ∧
      (∃ digest, OneDigest signing ethers 114 0xDA7A digest) ∧
      ∃ s, sign signing instruction 114 9 = .ok s ∧
        signWithFunc signing.toLibraries instruction 114 (signClient ambient) = .ok s := by
  obtain ⟨hbytes, _, _, _, hdigest, hagree⟩ := wire_parity documented ethers_documented
  obtain ⟨s, hs⟩ := Reverting.exists_ok_of_isOk
    (show (sign signing instruction 114 9).isOk = true by decide +kernel)
  exact ⟨hbytes _ _ _ inRange, hdigest 114 0xDA7A, s, hs, (hagree _ _ _ ambient rfl s).mp hs⟩

end WhisperDesk.WireParity
