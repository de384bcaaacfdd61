import WhisperDesk.Enclave.Provenance
import WhisperDesk.General.TypedData

/-!
# What a quote's signature is over

The strings that are hashed for the digest give the terms of the quote away, the price of any
size included: a price beyond 32 bytes lengthens its field, and the fields around it keep their
width. The digest's own string holds two hashes, and so binds the terms up to a collision of
these. Up to 2^256 it is what EIP-712 prescribes.
-/
namespace WhisperDesk.Fcewire

open Go
open Matcher
open AbiWords (word words)
open ByteCodec (beBytes ofBE)

/-- What `handleQuoteSubmit` has verified, under its configuration. -/
@[ext]
structure QuoteTerms where
  chainID : UInt64
  verifyingContract : Address
  rfqID : Bytes32
  maker : Address
  priceUsdE18 : Int
  price_pos : 0 < priceUsdE18
  maxFxrpRaw : UInt64
  nonce : UInt64

section Padding

theorem ofBE_replicate (k : Nat) (bs : Bytes) : ofBE (List.replicate k 0 ++ bs) = ofBE bs := by
  induction k with
  | zero => rfl
  | succ k ih => exact ih

theorem ofBE_bigBytes (n : Int) : ofBE (bigBytes n) = n.natAbs := by
  unfold bigBytes
  by_cases hz : n = 0
  · rw [if_pos hz, hz]
    rfl
  · rw [if_neg hz, ByteCodec.ofBE_beBytes_of_lt]
    have hlog : n.natAbs < 2 ^ (n.natAbs.log2 + 1) := Nat.lt_log2_self
    have hexp : 2 ^ (n.natAbs.log2 + 1) ≤ 2 ^ (8 * (n.natAbs.log2 / 8 + 1)) :=
      Nat.pow_le_pow_right (by decide) (by omega)
    rw [show (256 : Nat) = 2 ^ 8 from rfl, ← Nat.pow_mul]
    exact Nat.lt_of_lt_of_le hlog hexp

/-- Padding truncates nothing, so it gives a number of any size back. -/
theorem ofBE_leftPad32 (n : Int) : ofBE (leftPad32 (bigBytes n)) = n.natAbs := by
  rw [leftPad32, ofBE_replicate, ofBE_bigBytes]

theorem leftPad32_uint64 (n : UInt64) : leftPad32 (bigBytes n.toNat) = word n.toNat :=
  leftPad32_bigBytes _ (Nat.lt_of_lt_of_le n.toNat_lt (by decide))

theorem leftPad32_address (a : Address) : leftPad32 (beBytes 20 a.toNat) = word a.toNat := by
  have hlt : a.toNat < 256 ^ 20 := Nat.lt_of_lt_of_le a.isLt (by decide)
  rw [leftPad32, ByteCodec.length_beBytes, word, ← ByteCodec.beBytes_add 12 20 _ hlt]

theorem uint64_lt_wordSize (n : UInt64) : n.toNat < AbiWords.wordSize :=
  Nat.lt_of_lt_of_le n.toNat_lt (by decide)

theorem address_lt_wordSize (a : Address) : a.toNat < AbiWords.wordSize :=
  Nat.lt_of_lt_of_le a.isLt (by decide)

end Padding

section Messages

variable (L : Matcher.Libraries)

/-- What is hashed to the domain separator. -/
def domainMessage (t : QuoteTerms) : Bytes :=
  words [(L.keccak256 (ascii
      "EIP712Domain(string name,string version,uint256 chainId,address verifyingContract)")).toNat,
    (L.keccak256 (ascii "WhisperDesk")).toNat, (L.keccak256 (ascii "1")).toNat, t.chainID.toNat,
    t.verifyingContract.toNat]

/-- What is hashed for the quote; its price has at least 32 bytes. -/
def quoteMessage (t : QuoteTerms) : Bytes :=
  words [(L.keccak256 (ascii
      "Quote(bytes32 rfqId,address maker,uint256 priceUsdE18,uint256 maxFxrpRaw,uint256 nonce)")).toNat,
    t.rfqID.toNat, t.maker.toNat] ++ leftPad32 (bigBytes t.priceUsdE18) ++
    words [t.maxFxrpRaw.toNat, t.nonce.toNat]

/-- What is hashed to the digest. -/
def digestMessage (t : QuoteTerms) : Bytes :=
  0x19 :: 0x01 :: word (L.keccak256 (domainMessage L t)).toNat ++
    word (L.keccak256 (quoteMessage L t)).toNat

def QuoteTerms.digest (t : QuoteTerms) : Bytes32 :=
  quoteDigest L t.chainID t.verifyingContract t.rfqID t.maker t.priceUsdE18 t.maxFxrpRaw.toNat
    t.nonce.toNat

/-- Two strings with one hash. -/
def Collides (a b : Bytes) : Prop := a ≠ b ∧ L.keccak256 a = L.keccak256 b

variable {L} {s t : QuoteTerms}

theorem quoteDomainSeparator_eq (t : QuoteTerms) :
    quoteDomainSeparator L t.chainID t.verifyingContract = L.keccak256 (domainMessage L t) := by
  rw [quoteDomainSeparator, leftPad32_uint64, leftPad32_address]
  simp [domainMessage, words]

theorem quoteStructHash_eq (t : QuoteTerms) :
    quoteStructHash L t.rfqID t.maker t.priceUsdE18 t.maxFxrpRaw.toNat t.nonce.toNat =
      L.keccak256 (quoteMessage L t) := by
  rw [quoteStructHash, leftPad32_uint64, leftPad32_uint64, leftPad32_address]
  simp [quoteMessage, words]

theorem digest_eq (t : QuoteTerms) : t.digest L = L.keccak256 (digestMessage L t) := by
  rw [QuoteTerms.digest, quoteDigest, quoteDomainSeparator_eq, quoteStructHash_eq]
  rfl

theorem domainMessage_injective (h : domainMessage L s = domainMessage L t) :
    s.chainID = t.chainID ∧ s.verifyingContract = t.verifyingContract := by
  have hfits (u : QuoteTerms) (a b c : Bytes32) : ∀ n ∈
      [a.toNat, b.toNat, c.toNat, u.chainID.toNat, u.verifyingContract.toNat],
      n < AbiWords.wordSize := by
    simp only [List.forall_mem_cons]
    exact ⟨a.isLt, b.isLt, c.isLt, uint64_lt_wordSize _, address_lt_wordSize _, nofun⟩
  have hwords := AbiWords.words_injective (hfits s _ _ _) (hfits t _ _ _) h
  simp only [List.cons.injEq, true_and, and_true] at hwords
  exact ⟨UInt64.toNat_inj.mp hwords.1, BitVec.eq_of_toNat_eq hwords.2⟩

/-- The price's field is what is left between the fields of one word. -/
theorem quoteMessage_injective (h : quoteMessage L s = quoteMessage L t) :
    s.rfqID = t.rfqID ∧ s.maker = t.maker ∧ s.priceUsdE18 = t.priceUsdE18 ∧
      s.maxFxrpRaw = t.maxFxrpRaw ∧ s.nonce = t.nonce := by
  obtain ⟨hbefore, hprice, hafter⟩ := TypedData.words_around (by simp) (by simp) h
  have hfront (u : QuoteTerms) (a : Bytes32) :
      ∀ n ∈ [a.toNat, u.rfqID.toNat, u.maker.toNat], n < AbiWords.wordSize := by
    simp only [List.forall_mem_cons]
    exact ⟨a.isLt, u.rfqID.isLt, address_lt_wordSize _, nofun⟩
  have hback (u : QuoteTerms) : ∀ n ∈ [u.maxFxrpRaw.toNat, u.nonce.toNat], n < AbiWords.wordSize := by
    simp only [List.forall_mem_cons]
    exact ⟨uint64_lt_wordSize _, uint64_lt_wordSize _, nofun⟩
  have hids := AbiWords.words_injective (hfront s _) (hfront t _) hbefore
  have hamounts := AbiWords.words_injective (hback s) (hback t) hafter
  simp only [List.cons.injEq, true_and, and_true] at hids hamounts
  have hvalue := congrArg ofBE hprice
  rw [ofBE_leftPad32, ofBE_leftPad32] at hvalue
  have hs := s.price_pos
  have ht := t.price_pos
  exact ⟨BitVec.eq_of_toNat_eq hids.1, BitVec.eq_of_toNat_eq hids.2, by omega,
    UInt64.toNat_inj.mp hamounts.1, UInt64.toNat_inj.mp hamounts.2⟩

theorem digestMessage_binds (h : digestMessage L s = digestMessage L t) :
    s = t ∨ Collides L (domainMessage L s) (domainMessage L t) ∨
      Collides L (quoteMessage L s) (quoteMessage L t) := by
  obtain ⟨hdomain, hquote⟩ := TypedData.hashes_of_message h
  by_cases hd : domainMessage L s = domainMessage L t
  · by_cases hq : quoteMessage L s = quoteMessage L t
    · obtain ⟨hchain, hcontract⟩ := domainMessage_injective hd
      obtain ⟨hrfq, hmaker, hprice, hmax, hnonce⟩ := quoteMessage_injective hq
      exact .inl (QuoteTerms.ext hchain hcontract hrfq hmaker hprice hmax hnonce)
    · exact .inr (.inr ⟨hq, hquote⟩)
  · exact .inr (.inl ⟨hd, hdomain⟩)

end Messages

section Standard

/-- The domain of the desk's quotes. -/
def QuoteTerms.domain (t : QuoteTerms) : TypedData.Struct where
  name := "EIP712Domain"
  members := [
    ("name", .string (TypedData.text "WhisperDesk")),
    ("version", .string (TypedData.text "1")),
    ("chainId", .uint256 (.ofNat 256 t.chainID.toNat)),
    ("verifyingContract", .address t.verifyingContract)]

def QuoteTerms.struct (t : QuoteTerms) : TypedData.Struct where
  name := "Quote"
  members := [
    ("rfqId", .bytes32 t.rfqID),
    ("maker", .address t.maker),
    ("priceUsdE18", .uint256 (.ofNat 256 t.priceUsdE18.toNat)),
    ("maxFxrpRaw", .uint256 (.ofNat 256 t.maxFxrpRaw.toNat)),
    ("nonce", .uint256 (.ofNat 256 t.nonce.toNat))]

variable {L : Matcher.Libraries}

/-- The source's texts are the types' own. -/
theorem domain_encodeType (t : QuoteTerms) : t.domain.encodeType = ascii
    "EIP712Domain(string name,string version,uint256 chainId,address verifyingContract)" := by
  have hmembers : t.domain.encodeType = TypedData.typeText "EIP712Domain"
      [("name", "string"), ("version", "string"), ("chainId", "uint256"),
        ("verifyingContract", "address")] := rfl
  rw [hmembers]
  decide +kernel

theorem struct_encodeType (t : QuoteTerms) : t.struct.encodeType = ascii
    "Quote(bytes32 rfqId,address maker,uint256 priceUsdE18,uint256 maxFxrpRaw,uint256 nonce)" := by
  have hmembers : t.struct.encodeType = TypedData.typeText "Quote"
      [("rfqId", "bytes32"), ("maker", "address"), ("priceUsdE18", "uint256"),
        ("maxFxrpRaw", "uint256"), ("nonce", "uint256")] := rfl
  rw [hmembers]
  decide +kernel

theorem toNat_ofNat_uint64 (n : UInt64) : (BitVec.ofNat 256 n.toNat).toNat = n.toNat :=
  (BitVec.toNat_ofNat ..).trans (Nat.mod_eq_of_lt (uint64_lt_wordSize n))

theorem domainMessage_eq (t : QuoteTerms) : domainMessage L t = t.domain.preimage L.keccak256 := by
  have hdata : t.domain.encodeData L.keccak256 = words [(L.keccak256 (ascii "WhisperDesk")).toNat,
      (L.keccak256 (ascii "1")).toNat, (BitVec.ofNat 256 t.chainID.toNat).toNat,
      t.verifyingContract.toNat] := rfl
  rw [TypedData.Struct.preimage, domain_encodeType, hdata, toNat_ofNat_uint64]
  rfl

theorem quoteMessage_eq (t : QuoteTerms) (h : t.priceUsdE18 < 2 ^ 256) :
    quoteMessage L t = t.struct.preimage L.keccak256 := by
  have hpos := t.price_pos
  have hprice : leftPad32 (bigBytes t.priceUsdE18) =
      word (BitVec.ofNat 256 t.priceUsdE18.toNat).toNat := by
    have hlt : t.priceUsdE18.toNat < 2 ^ 256 := by omega
    rw [BitVec.toNat_ofNat, Nat.mod_eq_of_lt hlt, ← leftPad32_bigBytes _ hlt, Int.toNat_of_nonneg]
    exact hpos.le
  have hdata : t.struct.encodeData L.keccak256 = words [t.rfqID.toNat, t.maker.toNat,
      (BitVec.ofNat 256 t.priceUsdE18.toNat).toNat, (BitVec.ofNat 256 t.maxFxrpRaw.toNat).toNat,
      (BitVec.ofNat 256 t.nonce.toNat).toNat] := rfl
  rw [TypedData.Struct.preimage, struct_encodeType, hdata, toNat_ofNat_uint64, toNat_ofNat_uint64,
    quoteMessage, hprice]
  simp only [words, List.flatMap_cons, List.flatMap_nil, List.append_nil, List.append_assoc]

theorem digestMessage_eq (t : QuoteTerms) (h : t.priceUsdE18 < 2 ^ 256) :
    digestMessage L t = TypedData.message L.keccak256 t.domain t.struct := by
  rw [digestMessage, domainMessage_eq, quoteMessage_eq t h]
  rfl

end Standard

section Accepted

variable {σ : Type} {X : Externals} {S : Snapshotter σ} {cfg : Config}

/-- A quote that gets into the book was verified under its own terms. -/
theorem accepted_terms {a : Ambient} {di : DirectInstruction} {h h' : Handler σ} {p : Payload}
    (hok : handleQuoteSubmit X S cfg a di h = .ok (p, h')) :
    ∃ (t : QuoteTerms) (sig : Bytes) (q : Quote) (byMaker : ByMaker), t.chainID = cfg.chainID ∧
      t.verifyingContract = cfg.escrowAddr ∧ sig.length = 65 ∧
      X.sigToAddress (t.digest X.toLibraries) (normalizeForRecover sig) = some t.maker ∧
      h'.book.quotes = Function.update h.book.quotes q.rfqID (some (byMaker.insert q)) ∧
      q.rfqID = t.rfqID ∧ q.maker = t.maker ∧ q.priceE18 = t.priceUsdE18 ∧
      q.maxFxrpRaw = t.maxFxrpRaw ∧ q.nonce = t.nonce := by
  simp only [handleQuoteSubmit, Reverting.bind_eq_ok, Reverting.orRevert_eq_ok,
    Reverting.revertIf_eq_ok, Reverting.mapError_eq_ok, Reverting.pure_eq_ok, Prod.mk.injEq, ne_eq,
    Decidable.not_not, Bool.not_eq_false] at hok
  obtain ⟨_, _, _, _, msg, _, _, _, _, _, price, _, maxSize, _, nonce, _, _, hpos, sig, _, _, hlen, _,
    hverify, ⟨replaced, book⟩, hadd, _, rfl⟩ := hok
  obtain ⟨byMaker, _, _, _, rfl⟩ := upsertQuote_eq_ok.mp hadd
  simp only [verifyQuoteSignature, decide_eq_true_eq] at hverify
  let t : QuoteTerms := ⟨cfg.chainID, cfg.escrowAddr, hexToHash msg.rfqID, hexToAddress msg.maker,
    price, Int.lt_of_not_ge hpos, maxSize, nonce⟩
  let q : Quote := ⟨t.rfqID, t.maker, price, maxSize, nonce, a.now, h.book.nextSeq + 1⟩
  exact ⟨t, sig, q, byMaker, rfl, rfl, hlen, hverify.2, rfl, rfl, rfl, rfl, rfl, rfl⟩

end Accepted

/-- The strings that are hashed for the digest of a quote determine its terms, whatever their size:
the domain's and the quote's own, and the digest's unless two of these have one hash. For prices
below 2^256 it is the digest of EIP-712. -/
theorem quote_digest_binds (L : Matcher.Libraries) :
    (∀ t : QuoteTerms, t.digest L = L.keccak256 (digestMessage L t)) ∧
    (∀ s t, domainMessage L s = domainMessage L t →
      s.chainID = t.chainID ∧ s.verifyingContract = t.verifyingContract) ∧
    (∀ s t, quoteMessage L s = quoteMessage L t →
      s.rfqID = t.rfqID ∧ s.maker = t.maker ∧ s.priceUsdE18 = t.priceUsdE18 ∧
        s.maxFxrpRaw = t.maxFxrpRaw ∧ s.nonce = t.nonce) ∧
    (∀ s t, digestMessage L s = digestMessage L t →
      s = t ∨ Collides L (domainMessage L s) (domainMessage L t) ∨
        Collides L (quoteMessage L s) (quoteMessage L t)) ∧
    ∀ t : QuoteTerms, t.priceUsdE18 < 2 ^ 256 →
      digestMessage L t = TypedData.message L.keccak256 t.domain t.struct :=
  ⟨digest_eq, fun _ _ => domainMessage_injective, fun _ _ => quoteMessage_injective,
    fun _ _ => digestMessage_binds, digestMessage_eq⟩

/-- A maker's offer at one wei more than the excess. -/
def sampleOffer (excess : Nat) : QuoteTerms where
  chainID := 114
  verifyingContract := 0xE5
  rfqID := SampleBook.requestID
  maker := 3
  priceUsdE18 := excess + 1
  price_pos := by omega
  maxFxrpRaw := 5000000000
  nonce := 1

/-- Two prices with the same low 256 bits. -/
theorem quote_digest_binds_sample :
    quoteMessage SampleBook.libraries (sampleOffer 0) ≠
      quoteMessage SampleBook.libraries (sampleOffer (2 ^ 256)) ∧
    digestMessage SampleBook.libraries (sampleOffer 0) =
      TypedData.message SampleBook.libraries.keccak256 (sampleOffer 0).domain (sampleOffer 0).struct := by
  have hbinds := quote_digest_binds SampleBook.libraries
  refine ⟨?_, hbinds.2.2.2.2 (sampleOffer 0) (by decide)⟩
  intro h
  have hprice := (hbinds.2.2.1 _ _ h).2.2.1
  revert hprice
  decide

end WhisperDesk.Fcewire
