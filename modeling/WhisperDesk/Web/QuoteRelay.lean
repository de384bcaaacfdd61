import WhisperDesk.Enclave.QuoteBinding
import WhisperDesk.Web.TakerRfq

/-!
# A maker's quote, from the wallet to the book

`/api/maker/quote` takes a signed quote, checks the signature against EIP-712 as `ethers` does it,
seals the quote and submits it on the direct ingress. The enclave puts its own digest together
by hand and checks again. A quote that passed the first check cannot fail the second for its
signature; what the enclave still turns it down for are a range, an id and a nonce.
-/
namespace WhisperDesk.Web

open ByteCodec
open Reverting
open JsonText (Plain)
open Go (addressHex hexToAddress_addressHex hexToHash isHexAddress readNat setString10)
open Fcewire (ascii Externals Snapshotter Handler Ambient DirectInstruction Code Payload QuoteTerms
  handleDirect handleQuoteSubmit readUint64)
open Matcher (normalizeForRecover)

section Request

/-- `/^0x[0-9a-fA-F]{n}$/`. -/
def isHexOf (n : Nat) (s : Bytes) : Bool :=
  s.take 2 = [0x30, 0x78] ∧ (s.drop 2).length = n ∧ ((s.drop 2).all fun c => (hexValue c).isSome) = true

structure QuoteBody where
  rfqId : Member
  maker : Member
  priceUsdE18 : Member
  maxFxrpRaw : Member
  nonce : Member
  sig : Member

inductive QuoteError where
  | invalidRfqId
  | makerRequired
  | notDecimal
  | invalidSig
  | invalidMaker
  | invalidBody
  | signatureMismatch
  | client (e : ClientError)
  | timedOut
  | rejected (log : String)
  deriving DecidableEq, Repr

def QuoteError.text : QuoteError → String
  | .invalidRfqId => "body.rfqId must be a 0x-hex 32-byte string"
  | .makerRequired => "body.maker (string) is required"
  | .notDecimal => "body.priceUsdE18/maxFxrpRaw/nonce must be non-negative decimal strings"
  | .invalidSig => "body.sig must be a 0x-hex 65-byte EIP-712 signature"
  | .invalidMaker => "body.maker is not a valid EVM address"
  | .invalidBody => "invalid JSON body"
  | .signatureMismatch => "sig does not recover to body.maker for this Quote"
  | .client e => e.text
  | .timedOut => "maker: timed out waiting for enclave result"
  | .rejected log => log

/-- What is left of a body that passed the route's checks. -/
structure QuoteInput where
  rfqId : Bytes
  maker : Address
  priceUsdE18 : Bytes
  maxFxrpRaw : Bytes
  nonce : Bytes
  sig : Bytes
  rfqId_hex : isHexOf 64 rfqId = true
  price_decimal : isDecimal priceUsdE18 = true
  max_decimal : isDecimal maxFxrpRaw = true
  nonce_decimal : isDecimal nonce = true
  sig_hex : isHexOf 130 sig = true
  deriving DecidableEq

/-- The route's checks, in their order; a body that is no JSON throws. -/
def readQuote (getAddress : Bytes → Option Address) (body : Option QuoteBody) :
    Except QuoteError QuoteInput :=
  match body with
  | none => .error .invalidBody
  | some body =>
    match body.rfqId with
    | .other _ _ => .error .invalidRfqId
    | .string rfqId =>
      if rfqId_hex : isHexOf 64 rfqId = true then
        match body.maker with
        | .other _ _ => .error .makerRequired
        | .string maker =>
          match body.priceUsdE18, body.maxFxrpRaw, body.nonce with
          | .string priceUsdE18, .string maxFxrpRaw, .string nonce =>
            if hdecimal : isDecimal priceUsdE18 = true ∧ isDecimal maxFxrpRaw = true ∧
                isDecimal nonce = true then
              match body.sig with
              | .other _ _ => .error .invalidSig
              | .string sig =>
                if sig_hex : isHexOf 130 sig = true then do
                  let maker ← orRevert (getAddress maker) .invalidMaker
                  pure { rfqId, maker, priceUsdE18, maxFxrpRaw, nonce, sig, rfqId_hex, sig_hex,
                         price_decimal := hdecimal.1, max_decimal := hdecimal.2.1,
                         nonce_decimal := hdecimal.2.2 }
                else .error .invalidSig
            else .error .notDecimal
          | _, _, _ => .error .notDecimal
      else .error .invalidRfqId

end Request

section Route

/-- What a request meets, next to the enclave: the configured escrow, `ethers`, and encryption. -/
structure QuoteEnv where
  escrowAddress : Address
  keccak256 : Bytes → Bytes32
  getAddress : Bytes → Option Address
  /-- `recoverAddress` of a signature text. -/
  recoverAddress : Bytes32 → Bytes → Option Address
  sealer : Bytes → Option Bytes

/-- What `ethers` makes of a decimal text where a `uint256` is asked for. -/
def getUint256 (s : Bytes) : Option (BitVec 256) :=
  (readNat s).bind fun n => if n < 2 ^ 256 then some (BitVec.ofNat 256 n) else none

def quoteDomain (verifyingContract : Address) : TypedData.Struct where
  name := "EIP712Domain"
  members := [
    ("name", .string (TypedData.text "WhisperDesk")),
    ("version", .string (TypedData.text "1")),
    ("chainId", .uint256 114),
    ("verifyingContract", .address verifyingContract)]

def quoteStruct (rfqId : Bytes32) (maker : Address) (priceUsdE18 maxFxrpRaw nonce : BitVec 256) :
    TypedData.Struct where
  name := "Quote"
  members := [
    ("rfqId", .bytes32 rfqId),
    ("maker", .address maker),
    ("priceUsdE18", .uint256 priceUsdE18),
    ("maxFxrpRaw", .uint256 maxFxrpRaw),
    ("nonce", .uint256 nonce)]

variable (env : QuoteEnv)

/-- `verifyTypedData`; `none` where it throws. -/
def verifyTypedData (input : QuoteInput) : Option Address := do
  let price ← getUint256 input.priceUsdE18
  let max ← getUint256 input.maxFxrpRaw
  let nonce ← getUint256 input.nonce
  let value := quoteStruct (BitVec.ofNat 256 (ofBE (getBytes input.rfqId))) input.maker price max nonce
  env.recoverAddress
    (env.keccak256 (TypedData.message env.keccak256 (quoteDomain env.escrowAddress) value)) input.sig

def verifyQuoteSignature (input : QuoteInput) : Bool :=
  match verifyTypedData env input with
  | some recovered => recovered = input.maker
  | none => false

def QuoteInput.plaintext (keccak256 : Bytes → Bytes32) (input : QuoteInput) :
    List (Bytes × JsonText.Value) :=
  quotePlaintext input.rfqId (addressHex keccak256 input.maker) input.priceUsdE18 input.maxFxrpRaw
    input.nonce input.sig

/-- What `wd-client submit` posts to `/direct`. -/
def wdSubmitQuote (messageHex : Bytes) : DirectInstruction where
  opType := Fcewire.opHash "WD_RFQ"
  opCommand := Fcewire.quoteSubmit
  message := Go.fromHex messageHex

/-- `submitQuote`, up to what it posts. -/
def submitQuote (input : QuoteInput) : Except QuoteError DirectInstruction := do
  let ciphertext ← (wdEncrypt env.sealer (input.plaintext env.keccak256)).mapError .client
  pure (wdSubmitQuote ciphertext)

/-- The route, up to what it posts. -/
def quoteRoute (body : Option QuoteBody) : Except QuoteError (QuoteInput × DirectInstruction) := do
  let input ← readQuote env.getAddress body
  revertIf (verifyQuoteSignature env input = false) .signatureMismatch
  let di ← submitQuote env input
  pure (input, di)

structure QuoteAnswer where
  accepted : Option Bool
  replaced : Option Bool
  deriving DecidableEq

/-- The route's answer to the result that the poll brings, if it brings one. -/
def answerQuote : Option Fcewire.Result → Except QuoteError QuoteAnswer
  | none => .error .timedOut
  | some result =>
    if result.status ≠ 1 then
      .error (.rejected (if result.log = "" then "QUOTE_SUBMIT rejected" else result.log))
    else
      match result.data with
      | some (.quoteAck _ accepted replaced) => .ok ⟨some accepted, some replaced⟩
      | _ => .ok ⟨none, none⟩

end Route

section Texts

variable {s : Bytes}

theorem isHexOf_cases {n : Nat} (h : isHexOf n s = true) : ∃ digits, s = 0x30 :: 0x78 :: digits ∧
    digits.length = n ∧ (digits.all fun c => (hexValue c).isSome) = true := by
  simp only [isHexOf, decide_eq_true_eq] at h
  obtain ⟨hstart, hlength, hdigits⟩ := h
  refine ⟨s.drop 2, ?_, hlength, hdigits⟩
  conv_lhs => rw [← List.take_append_drop 2 s, hstart]
  rfl

theorem isPlain_of_hexValue {c : UInt8} (h : (hexValue c).isSome = true) : JsonText.isPlain c = true := by
  have hall : ∀ n : Fin 256, (hexValue (UInt8.ofNat n)).isSome = true →
      JsonText.isPlain (UInt8.ofNat n) = true := by decide +kernel
  have hc := hall ⟨c.toNat, c.toNat_lt⟩
  rw [UInt8.ofNat_toNat] at hc
  exact hc h

theorem plain_isHexOf {n : Nat} (h : isHexOf n s = true) : Plain s := by
  obtain ⟨digits, rfl, _, hdigits⟩ := isHexOf_cases h
  refine .cons (by decide) (.cons (by decide) fun c hc => ?_)
  exact isPlain_of_hexValue (List.all_eq_true.mp hdigits c hc)

theorem plain_isDecimal (h : isDecimal s = true) : Plain s := by
  simp only [isDecimal, decide_eq_true_eq] at h
  exact fun c hc => JsonText.isPlain_of_digitValue (List.all_eq_true.mp h.2 c hc)

/-- Digits of an even number are read alike with and without Go's tolerance. -/
theorem hexToBytes_even (h : s.length % 2 = 0) : Go.hexToBytes s = readHex s := by
  rw [Go.hexToBytes, if_neg (by omega)]

theorem fromHex_isHexOf {n : Nat} (hn : n % 2 = 0) (h : isHexOf n s = true) : Go.fromHex s = getBytes s := by
  obtain ⟨digits, rfl, hlength, _⟩ := isHexOf_cases h
  rw [Go.fromHex, Go.trim0x_prefixed, hexToBytes_even (by rw [hlength]; exact hn)]
  rfl

theorem decodeHex_isHexOf {n : Nat} (hn : n % 2 = 0) (h : isHexOf n s = true) :
    Fcewire.decodeHex s = some (getBytes s) := by
  obtain ⟨digits, rfl, hlength, hdigits⟩ := isHexOf_cases h
  have hhex : Go.isHex digits = true := by
    rw [Go.isHex, hlength, hdigits]
    simp [hn]
  rw [Fcewire.decodeHex, Go.trim0x_prefixed, if_pos hhex]
  rfl

theorem length_sig (h : isHexOf 130 s = true) : (getBytes s).length = 65 := by
  obtain ⟨digits, rfl, hlength, hdigits⟩ := isHexOf_cases h
  exact length_readHex (n := 65) hlength hdigits

/-- A text of digits only starts with no sign. -/
theorem setString10_isDecimal (h : isDecimal s = true) : setString10 s = (readNat s).map fun n : Nat => (n : Int) := by
  simp only [isDecimal, decide_eq_true_eq] at h
  obtain ⟨hne, hdigits⟩ := h
  cases s with
  | nil => exact absurd rfl hne
  | cons c rest =>
    have hc := List.all_eq_true.mp hdigits c (by simp)
    have hminus : c ≠ 0x2D := by
      rintro rfl
      cases hc
    have hplus : c ≠ 0x2B := by
      rintro rfl
      cases hc
    rw [setString10, if_neg hminus, if_neg hplus]

end Texts

section Parity

/-- The last byte of a signature, where it says no more than which key it is. -/
def CanonicalV (sig : Bytes) : Prop := sig.getD 64 0 ∈ ([0, 1, 27, 28] : List UInt8)

instance (sig : Bytes) : Decidable (CanonicalV sig) :=
  inferInstanceAs (Decidable (sig.getD 64 0 ∈ ([0, 1, 27, 28] : List UInt8)))

/-- The server and the enclave are set up for one escrow on Coston2, and their libraries hash and
recover alike. `ethers` takes other last bytes as well, Go takes these four. -/
structure Agrees (X : Externals) (cfg : Fcewire.Config) (env : QuoteEnv) : Prop where
  keccak256 : env.keccak256 = X.keccak256
  chainID : cfg.chainID = 114
  escrowAddr : cfg.escrowAddr = env.escrowAddress
  padSize : cfg.padSize = padSize
  recovers : ∀ digest sig a, env.recoverAddress digest sig = some a → CanonicalV (getBytes sig) →
    X.sigToAddress digest (normalizeForRecover (getBytes sig)) = some a

variable {X : Externals} {cfg : Fcewire.Config} {env : QuoteEnv} {input : QuoteInput}
  {price max nonce : Nat}

theorem getUint256_eq_some {s : Bytes} {n : BitVec 256} :
    getUint256 s = some n ↔ readNat s = some n.toNat := by
  unfold getUint256
  cases hread : readNat s with
  | none => simp
  | some k =>
    simp only [Option.bind_some, Option.ite_none_right_eq_some, Option.some.injEq]
    constructor
    · rintro ⟨hk, rfl⟩
      rw [BitVec.toNat_ofNat, Nat.mod_eq_of_lt hk]
    · rintro rfl
      exact ⟨n.isLt, BitVec.ofNat_toNat _ _ |>.trans (BitVec.setWidth_eq _)⟩

/-- The digest that the enclave hashes together is the one of EIP-712. -/
theorem enclave_digest (hagrees : Agrees X cfg env) (rfqId : Bytes32) (maker : Address) (hpos : 0 < price)
    (hprice : price < 2 ^ 256) (hmax : max < 2 ^ 64) (hnonce : nonce < 2 ^ 64) :
    Fcewire.quoteDigest X.toLibraries cfg.chainID cfg.escrowAddr rfqId maker price
        (UInt64.ofNat max).toNat (UInt64.ofNat nonce).toNat =
      env.keccak256 (TypedData.message env.keccak256 (quoteDomain env.escrowAddress)
        (quoteStruct rfqId maker (.ofNat 256 price) (.ofNat 256 max) (.ofNat 256 nonce))) := by
  let t : QuoteTerms := ⟨cfg.chainID, cfg.escrowAddr, rfqId, maker, price, Int.natCast_pos.mpr hpos,
    UInt64.ofNat max, UInt64.ofNat nonce⟩
  have hdomain : t.domain = quoteDomain env.escrowAddress := by
    simp only [t, QuoteTerms.domain, quoteDomain, hagrees.chainID, hagrees.escrowAddr]
    rfl
  have hstruct : t.struct = quoteStruct rfqId maker (.ofNat 256 price) (.ofNat 256 max) (.ofNat 256 nonce) := by
    simp only [t, QuoteTerms.struct, quoteStruct, Int.toNat_natCast, UInt64.toNat_ofNat',
      Nat.mod_eq_of_lt hmax, Nat.mod_eq_of_lt hnonce]
  calc Fcewire.quoteDigest X.toLibraries cfg.chainID cfg.escrowAddr rfqId maker price
        (UInt64.ofNat max).toNat (UInt64.ofNat nonce).toNat
      = X.keccak256 (Fcewire.digestMessage X.toLibraries t) := Fcewire.digest_eq t
    _ = X.keccak256 (TypedData.message X.keccak256 t.domain t.struct) := by
        rw [Fcewire.digestMessage_eq t (by simpa [t] using Int.ofNat_lt.mpr hprice)]
    _ = _ := by rw [hdomain, hstruct, hagrees.keccak256]

/-- What a signature that passed the first check is over. -/
theorem verified_cases (hverified : verifyQuoteSignature env input = true) :
    ∃ price max nonce : BitVec 256, readNat input.priceUsdE18 = some price.toNat ∧
      readNat input.maxFxrpRaw = some max.toNat ∧ readNat input.nonce = some nonce.toNat ∧
      env.recoverAddress (env.keccak256 (TypedData.message env.keccak256 (quoteDomain env.escrowAddress)
        (quoteStruct (BitVec.ofNat 256 (ofBE (getBytes input.rfqId))) input.maker price max nonce)))
        input.sig = some input.maker := by
  unfold verifyQuoteSignature at hverified
  cases hrecovered : verifyTypedData env input with
  | none =>
    rw [hrecovered] at hverified
    cases hverified
  | some recovered =>
    rw [hrecovered] at hverified
    obtain rfl : recovered = input.maker := by simpa using hverified
    simp only [verifyTypedData, Option.bind_eq_bind, Option.bind_eq_some_iff, getUint256_eq_some] at hrecovered
    obtain ⟨price, hprice, max, hmax, nonce, hnonce, hrecovers⟩ := hrecovered
    exact ⟨price, max, nonce, hprice, hmax, hnonce, hrecovers⟩

/-- A quote that passed the first check, in range for the enclave, passes the second. -/
theorem verified_again (hagrees : Agrees X cfg env) (hverified : verifyQuoteSignature env input = true)
    (hv : CanonicalV (getBytes input.sig)) (hprice : readNat input.priceUsdE18 = some price)
    (hmax : readNat input.maxFxrpRaw = some max) (hnonce : readNat input.nonce = some nonce)
    (hpos : 0 < price) (hmax64 : max < 2 ^ 64) (hnonce64 : nonce < 2 ^ 64) :
    Fcewire.verifyQuoteSignature X.toLibraries cfg.chainID cfg.escrowAddr (hexToHash input.rfqId) input.maker
      price (UInt64.ofNat max).toNat (UInt64.ofNat nonce).toNat (getBytes input.sig) = true := by
  obtain ⟨price', max', nonce', hprice', hmax', hnonce', hrecovers⟩ := verified_cases hverified
  obtain rfl := Option.some.inj (hprice.symm.trans hprice')
  obtain rfl := Option.some.inj (hmax.symm.trans hmax')
  obtain rfl := Option.some.inj (hnonce.symm.trans hnonce')
  have hid : hexToHash input.rfqId = BitVec.ofNat 256 (ofBE (getBytes input.rfqId)) := by
    rw [hexToHash, fromHex_isHexOf (by decide) input.rfqId_hex]
  rw [← hid] at hrecovers
  have hvalue (n : BitVec 256) : BitVec.ofNat 256 n.toNat = n := BitVec.ofNat_toNat _ _ |>.trans (BitVec.setWidth_eq _)
  have hdigest := enclave_digest hagrees (hexToHash input.rfqId) input.maker hpos price'.isLt hmax64 hnonce64
  rw [hvalue, hvalue, hvalue] at hdigest
  simp only [Fcewire.verifyQuoteSignature, decide_eq_true_eq]
  refine ⟨length_sig input.sig_hex, ?_⟩
  rw [hdigest]
  exact hagrees.recovers _ _ _ hrecovers hv

end Parity

section Intake

variable {σ : Type} {X : Externals} {S : Snapshotter σ} {cfg : Fcewire.Config} {env : QuoteEnv}
  {input : QuoteInput} {price max nonce : Nat} {out : Bytes} {a : Ambient} {h : Handler σ}

/-- The enclave takes no other sizes and nonces than a `uint64`, and no price of zero. -/
def InRange (price max nonce : Nat) : Prop := 0 < price ∧ max < 2 ^ 64 ∧ nonce < 2 ^ 64

instance (price max nonce : Nat) : Decidable (InRange price max nonce) :=
  inferInstanceAs (Decidable (0 < price ∧ max < 2 ^ 64 ∧ nonce < 2 ^ 64))

/-- What the enclave does with a relayed quote. -/
def intake (S : Snapshotter σ) (input : QuoteInput) (price max nonce : Nat) (now : Go.Time) (h : Handler σ) :
    Except Code (Payload × Handler σ) :=
  if InRange price max nonce then do
    let (replaced, book) ← (h.book.upsertQuote (hexToHash input.rfqId) input.maker price (UInt64.ofNat max)
      (UInt64.ofNat nonce) now).mapError Fcewire.mapUpsertErr
    pure (.quoteAck (Go.hashHex (hexToHash input.rfqId)) true replaced,
      ⟨book, S.trackMaker input.maker h.chain⟩)
  else .error .decode

theorem readUint64_text {s : Bytes} {n : Nat} (hdecimal : isDecimal s = true) (hread : readNat s = some n) :
    readUint64 s = if n < 2 ^ 64 then some (UInt64.ofNat n) else none := by
  have hint : setString10 s = some (n : Int) := by
    rw [setString10_isDecimal hdecimal, hread, Option.map_some]
  split
  · rename_i hn
    rw [Fcewire.readUint64_eq_some, hint, UInt64.toNat_ofNat', Nat.mod_eq_of_lt hn]
  · rename_i hn
    cases hvalue : readUint64 s with
    | none => rfl
    | some m =>
      rw [Fcewire.readUint64_eq_some, hint] at hvalue
      obtain rfl := Int.ofNat.inj (Option.some.inj hvalue)
      exact absurd m.toNat_lt hn

/-- What the enclave decodes of a sealed quote. -/
theorem decodes_quote (hjson : ReadsJson X) (hunseals : Unseals X env.sealer)
    (hok : wdEncrypt env.sealer (input.plaintext env.keccak256) = .ok out) :
    ∃ padded body, X.plaintextOf (getBytes out) = some padded ∧
      Fcewire.depad padded padSize = some body ∧ X.decodeQuotePlaintext body =
        some ⟨1, input.rfqId, addressHex env.keccak256 input.maker, input.priceUsdE18, input.maxFxrpRaw,
          input.nonce, input.sig⟩ := by
  obtain ⟨padded, hplain, _, hdepad⟩ := opens_wdEncrypt hunseals hok
  exact ⟨padded, _, hplain, hdepad, hjson.quote _ _ _ _ _ _ (plain_isHexOf input.rfqId_hex)
    (plain_addressHex _) (plain_isDecimal input.price_decimal) (plain_isDecimal input.max_decimal)
    (plain_isDecimal input.nonce_decimal) (plain_isHexOf input.sig_hex)⟩

theorem fromHex_wdEncrypt (hok : wdEncrypt env.sealer (input.plaintext env.keccak256) = .ok out) :
    Go.fromHex out = getBytes out := by
  obtain ⟨padded, ciphertext, _, _, rfl⟩ := wdEncrypt_eq_ok hok
  rw [Go.fromHex, Go.trim0x_prefixed, hexToBytes_even (by rw [length_hexDigits]; omega)]
  rfl

/-- The checks of the handler, on a quote that the route posts. -/
theorem handleQuoteSubmit_relayed (hagrees : Agrees X cfg env) (hjson : ReadsJson X)
    (hunseals : Unseals X env.sealer) (hverified : verifyQuoteSignature env input = true)
    (hv : CanonicalV (getBytes input.sig)) (hprice : readNat input.priceUsdE18 = some price)
    (hmax : readNat input.maxFxrpRaw = some max) (hnonce : readNat input.nonce = some nonce)
    (hok : wdEncrypt env.sealer (input.plaintext env.keccak256) = .ok out) (hup : a.decryptUp = true) :
    handleQuoteSubmit X S cfg a (wdSubmitQuote out) h = intake S input price max nonce a.now h := by
  obtain ⟨padded, body, hplain, hdepad, hmsg⟩ := decodes_quote hjson hunseals hok
  have hdecrypt : Fcewire.decrypt X a (wdSubmitQuote out).message = some padded := by
    rw [wdSubmitQuote, fromHex_wdEncrypt hok]
    exact Fcewire.decrypt_iff.mpr ⟨hup, hplain⟩
  have hlength : input.rfqId.length = 66 := by
    obtain ⟨digits, hrfqId, hdigits, _⟩ := isHexOf_cases input.rfqId_hex
    rw [hrfqId, List.length_cons, List.length_cons, hdigits]
  have hpriceInt : setString10 input.priceUsdE18 = some (price : Int) := by
    rw [setString10_isDecimal input.price_decimal, hprice, Option.map_some]
  have hmaxRead := readUint64_text input.max_decimal hmax
  have hnonceRead := readUint64_text input.nonce_decimal hnonce
  have hsig := decodeHex_isHexOf (by decide) input.sig_hex
  have hsigLength := length_sig input.sig_hex
  rw [← hagrees.padSize] at hdepad
  by_cases hmax64 : max < 2 ^ 64
  · rw [if_pos hmax64] at hmaxRead
    by_cases hnonce64 : nonce < 2 ^ 64
    · rw [if_pos hnonce64] at hnonceRead
      by_cases hpos : 0 < price
      · have hposInt : ¬ (price : Int) ≤ 0 := by omega
        have hagain := verified_again hagrees hverified hv hprice hmax hnonce hpos hmax64 hnonce64
        rw [intake, if_pos ⟨hpos, hmax64, hnonce64⟩]
        simp only [handleQuoteSubmit, hdecrypt, hdepad, hmsg, hlength, isHexAddress_addressHex,
          hexToAddress_addressHex, hpriceInt, hmaxRead, hnonceRead, hsig, hsigLength, hagain, hposInt,
          orRevert, revertIf, bind, Except.bind, ne_eq, not_true_eq_false, Bool.true_eq_false, or_self, if_false]
      · have hzero : (price : Int) ≤ 0 := by omega
        rw [intake, if_neg fun hrange => hpos hrange.1]
        simp only [handleQuoteSubmit, hdecrypt, hdepad, hmsg, hlength, isHexAddress_addressHex,
          hpriceInt, hmaxRead, hnonceRead, hzero, orRevert, revertIf, bind, Except.bind, ne_eq,
          not_true_eq_false, Bool.true_eq_false, or_self, if_false, if_true]
    · rw [if_neg hnonce64] at hnonceRead
      rw [intake, if_neg fun hrange => hnonce64 hrange.2.2]
      simp only [handleQuoteSubmit, hdecrypt, hdepad, hmsg, hlength, isHexAddress_addressHex,
        hpriceInt, hmaxRead, hnonceRead, orRevert, revertIf, bind, Except.bind, ne_eq, not_true_eq_false,
        Bool.true_eq_false, or_self, if_false]
  · rw [if_neg hmax64] at hmaxRead
    rw [intake, if_neg fun hrange => hmax64 hrange.2.1]
    simp only [handleQuoteSubmit, hdecrypt, hdepad, hmsg, hlength, isHexAddress_addressHex, hpriceInt,
      hmaxRead, orRevert, revertIf, bind, Except.bind, ne_eq, not_true_eq_false, Bool.true_eq_false, or_self,
      if_false]

/-- What a relayed quote comes to: the four cases exclude each other, and but for the last the enclave
stays as it was. -/
inductive Taken (input : QuoteInput) (price max nonce : Nat) (h : Handler σ) :
    Except QuoteError QuoteAnswer → Handler σ → Prop
  | outOfRange (hrange : ¬ InRange price max nonce) :
    Taken input price max nonce h (.error (.rejected "WD_ERR_DECODE")) h
  | unknown (hrange : InRange price max nonce) (hnone : h.book.quotes (hexToHash input.rfqId) = none) :
    Taken input price max nonce h (.error (.rejected "WD_ERR_RFQ_UNKNOWN")) h
  | stale (hrange : InRange price max nonce) (byMaker : Matcher.ByMaker) (resting : Matcher.Quote)
    (hfound : h.book.quotes (hexToHash input.rfqId) = some byMaker)
    (hresting : byMaker.lookup input.maker = some resting) (hnonce : nonce ≤ resting.nonce.toNat) :
    Taken input price max nonce h (.error (.rejected "WD_ERR_STALE_NONCE")) h
  | taken (hrange : InRange price max nonce) (byMaker : Matcher.ByMaker) (q : Matcher.Quote)
    (h' : Handler σ) (hfound : h.book.quotes (hexToHash input.rfqId) = some byMaker)
    (hhigher : ∀ resting, byMaker.lookup input.maker = some resting → resting.nonce.toNat < nonce)
    (hquotes : h'.book.quotes =
      Function.update h.book.quotes (hexToHash input.rfqId) (some (byMaker.insert q)))
    (hrfqs : h'.book.rfqs = h.book.rfqs) (hid : q.rfqID = hexToHash input.rfqId)
    (hmaker : q.maker = input.maker) (hprice : q.priceE18 = price) (hmax : q.maxFxrpRaw.toNat = max)
    (hnonce : q.nonce.toNat = nonce) :
    Taken input price max nonce h (.ok ⟨some true, some (byMaker.lookup input.maker).isSome⟩) h'

theorem taken_intake (opType opCommand : Bytes32) (input : QuoteInput) (price max nonce : Nat) (now : Go.Time)
    (h : Handler σ) :
    Taken input price max nonce h
      (answerQuote (some (Fcewire.reply opType opCommand h (intake S input price max nonce now h)).1))
      (Fcewire.reply opType opCommand h (intake S input price max nonce now h)).2 := by
  by_cases hrange : InRange price max nonce
  · rw [intake, if_pos hrange]
    have hnonce : (UInt64.ofNat nonce).toNat = nonce := by
      rw [UInt64.toNat_ofNat', Nat.mod_eq_of_lt hrange.2.2]
    cases hfound : h.book.quotes (hexToHash input.rfqId) with
    | none =>
      have hunknown : h.book.upsertQuote (hexToHash input.rfqId) input.maker price (UInt64.ofNat max)
          (UInt64.ofNat nonce) now = .error .rfqUnknown := by
        simp only [Matcher.SealedBook.upsertQuote, hfound, orRevert, bind, Except.bind]
      rw [hunknown]
      exact .unknown hrange hfound
    | some byMaker =>
      by_cases hstale : ∃ resting, byMaker.lookup input.maker = some resting ∧ nonce ≤ resting.nonce.toNat
      · obtain ⟨resting, hresting, hle⟩ := hstale
        have hrejected : h.book.upsertQuote (hexToHash input.rfqId) input.maker price (UInt64.ofNat max)
            (UInt64.ofNat nonce) now = .error .staleNonce := by
          have hnot : UInt64.ofNat nonce ≤ resting.nonce := by
            rw [UInt64.le_iff_toNat_le, hnonce]
            exact hle
          simp only [Matcher.SealedBook.upsertQuote, hfound, orRevert, hresting, Option.any_some, hnot, decide_true,
            revertIf, if_true, bind, Except.bind]
        rw [hrejected]
        exact .stale hrange byMaker resting hfound hresting hle
      · have hhigher : ∀ resting, byMaker.lookup input.maker = some resting → resting.nonce.toNat < nonce :=
          fun resting hresting => Nat.lt_of_not_le fun hle => hstale ⟨resting, hresting, hle⟩
        have hhigher64 : ∀ resting, byMaker.lookup input.maker = some resting →
            resting.nonce < UInt64.ofNat nonce := by
          intro resting hresting
          rw [UInt64.lt_iff_toNat_lt, hnonce]
          exact hhigher resting hresting
        let q : Matcher.Quote := ⟨hexToHash input.rfqId, input.maker, price, UInt64.ofNat max,
          UInt64.ofNat nonce, now, h.book.nextSeq + 1⟩
        have hupserted : h.book.upsertQuote (hexToHash input.rfqId) input.maker price (UInt64.ofNat max)
            (UInt64.ofNat nonce) now = .ok ((byMaker.lookup input.maker).isSome, { h.book with
              quotes := Function.update h.book.quotes (hexToHash input.rfqId) (some (byMaker.insert q))
              nextSeq := h.book.nextSeq + 1 }) :=
          Matcher.upsertQuote_eq_ok.mpr ⟨byMaker, hfound, hhigher64, rfl, rfl⟩
        rw [hupserted]
        exact .taken hrange byMaker q _ hfound hhigher rfl rfl rfl rfl rfl
          (by rw [UInt64.toNat_ofNat', Nat.mod_eq_of_lt hrange.2.1]) hnonce
  · rw [intake, if_neg hrange]
    exact .outOfRange hrange

/-- A quote of shortest decimals that the enclave could take is never too long. -/
theorem quote_fits (hverified : verifyQuoteSignature env input = true) (hrange : InRange price max nonce)
    (hprice : input.priceUsdE18 = decimal price) (hmax : input.maxFxrpRaw = decimal max)
    (hnonce : input.nonce = decimal nonce) (n : Nat) :
    submitQuote env input ≠ .error (.client (.tooLong n)) := by
  obtain ⟨price', _, _, hread, _⟩ := verified_cases hverified
  rw [hprice, Go.readNat_decimal] at hread
  obtain rfl := Option.some.inj hread
  have hpriceLength : (decimal price'.toNat).length ≤ 78 := length_decimal_le 77 (by
    have hlt := price'.isLt
    omega)
  have hmaxLength : (decimal max).length ≤ 20 := length_decimal_le 19 (hrange.2.1.trans (by decide))
  have hnonceLength : (decimal nonce).length ≤ 20 := length_decimal_le 19 (hrange.2.2.trans (by decide))
  obtain ⟨idDigits, hid, hidLength, _⟩ := isHexOf_cases input.rfqId_hex
  obtain ⟨sigDigits, hsig, hsigLength, _⟩ := isHexOf_cases input.sig_hex
  have hidLength : input.rfqId.length = 66 := by rw [hid, List.length_cons, List.length_cons, hidLength]
  have hsigLength : input.sig.length = 132 := by rw [hsig, List.length_cons, List.length_cons, hsigLength]
  have hfits : (JsonText.object (input.plaintext env.keccak256)).length ≤ padSize := by
    refine (JsonText.length_object_le _).trans ?_
    simp only [QuoteInput.plaintext, quotePlaintext, hprice, hmax, hnonce, List.map_cons, List.map_nil,
      List.sum_cons, List.sum_nil, length_version,
      length_member "rfqId" 5 (by decide) (plain_isHexOf input.rfqId_hex), hidLength,
      length_member "maker" 5 (by decide) (plain_addressHex input.maker), length_addressHex,
      length_member "priceUsdE18" 11 (by decide) (JsonText.plain_decimal _),
      length_member "maxFxrpRaw" 10 (by decide) (JsonText.plain_decimal _),
      length_member "nonce" 5 (by decide) (JsonText.plain_decimal _),
      length_member "sig" 3 (by decide) (plain_isHexOf input.sig_hex), hsigLength, padSize]
    omega
  intro herror
  have hclient : wdEncrypt env.sealer (input.plaintext env.keccak256) = .error (.tooLong n) := by
    unfold submitQuote at herror
    cases hsealed : wdEncrypt env.sealer (input.plaintext env.keccak256) with
    | error e =>
      rw [hsealed] at herror
      cases herror
      rfl
    | ok out =>
      rw [hsealed] at herror
      cases herror
  exact absurd (padSize_lt_of_tooLong hclient) (Nat.not_lt.mpr hfits)

end Intake

/-- A quote that the enclave could take is never too long to be sealed, and the signature of one that
the route passes on is never turned down: what comes of it is one of four things, and what the route
answers says which. -/
theorem quote_relayed {σ : Type} (X : Externals) (S : Snapshotter σ) (cfg : Fcewire.Config)
    (env : QuoteEnv) (hagrees : Agrees X cfg env) (hjson : ReadsJson X) (hunseals : Unseals X env.sealer) :
    (∀ input price max nonce, verifyQuoteSignature env input = true → InRange price max nonce →
      input.priceUsdE18 = decimal price → input.maxFxrpRaw = decimal max → input.nonce = decimal nonce →
      ∀ n, submitQuote env input ≠ .error (.client (.tooLong n))) ∧
    ∀ body input di, quoteRoute env body = .ok (input, di) → ∃ price max nonce,
      readNat input.priceUsdE18 = some price ∧ readNat input.maxFxrpRaw = some max ∧
      readNat input.nonce = some nonce ∧
      ∀ (h : Handler σ) (a : Ambient), a.decryptUp = true → CanonicalV (getBytes input.sig) →
        Taken input price max nonce h (answerQuote (some (handleDirect X S cfg a di h).1))
          (handleDirect X S cfg a di h).2 := by
  refine ⟨fun input price max nonce hverified hrange hprice hmax hnonce =>
    quote_fits hverified hrange hprice hmax hnonce, fun body input di hok => ?_⟩
  simp only [quoteRoute, submitQuote, bind_eq_ok, revertIf_eq_ok, mapError_eq_ok, pure_eq_ok, Prod.mk.injEq,
    Bool.not_eq_false] at hok
  obtain ⟨input', _, _, hverified, di', ⟨out, hsealed, rfl⟩, rfl, rfl⟩ := hok
  obtain ⟨price, max, nonce, hprice, hmax, hnonce, _⟩ := verified_cases hverified
  refine ⟨_, _, _, hprice, hmax, hnonce, fun h a hup hv => ?_⟩
  have hcommand : (wdSubmitQuote out).opCommand = Fcewire.quoteSubmit := rfl
  rw [handleDirect, if_pos hcommand, handleQuoteSubmit_relayed hagrees hjson hunseals hverified hv hprice hmax
    hnonce hsealed hup]
  exact taken_intake _ _ _ _ _ _ a.now h

/-! Account 3 quotes on RFQ 7. -/
namespace SampleQuote

def env : QuoteEnv where
  escrowAddress := 0xE5
  keccak256 := SampleSealing.externals.keccak256
  getAddress := SampleOrder.env.getAddress
  recoverAddress digest sig :=
    SampleSealing.externals.sigToAddress digest (normalizeForRecover (getBytes sig))
  sealer := SampleSealing.sealer

def input : QuoteInput where
  rfqId := Go.hashHex 7
  maker := 3
  priceUsdE18 := ascii "2010000000000000000"
  maxFxrpRaw := ascii "5000000000"
  nonce := ascii "1"
  sig := 0x30 :: 0x78 :: hexDigits (3 :: List.replicate 64 0)
  rfqId_hex := by decide +kernel
  price_decimal := by decide
  max_decimal := by decide
  nonce_decimal := by decide
  sig_hex := by decide +kernel

def body : QuoteBody where
  rfqId := .string (Go.hashHex 7)
  maker := .string (0x30 :: 0x78 :: hexDigits (beBytes 20 3))
  priceUsdE18 := .string (ascii "2010000000000000000")
  maxFxrpRaw := .string (ascii "5000000000")
  nonce := .string (ascii "1")
  sig := .string (0x30 :: 0x78 :: hexDigits (3 :: List.replicate 64 0))

/-- RFQ 7 has no quote yet. -/
def desk : Handler Unit :=
  ⟨{ Matcher.SealedBook.new 0 with
    quotes := Function.update (fun _ => none) 7 (some Matcher.ByMaker.empty) }, ()⟩

theorem agrees : Agrees SampleSealing.externals SampleOrder.config env where
  keccak256 := rfl
  chainID := rfl
  escrowAddr := rfl
  padSize := rfl
  recovers _ _ _ h _ := h

theorem routed : (quoteRoute env (some body)).map (·.1) = .ok input := by decide +kernel

end SampleQuote

open SampleQuote in
theorem quote_relayed_sample : ∃ di q, quoteRoute env (some body) = .ok (input, di) ∧
    (handleDirect SampleSealing.externals Fcewire.SampleDesk.snapshotter SampleOrder.config
      (Fcewire.SampleDesk.ambient 1005) di desk).2.book.quotes 7 = some (Matcher.ByMaker.empty.insert q) ∧
    q.maker = 3 ∧ q.priceE18 = 2010000000000000000 := by
  cases hroute : quoteRoute env (some body) with
  | error e =>
    have hrouted := routed
    rw [hroute] at hrouted
    cases hrouted
  | ok v =>
    obtain ⟨sealed, di⟩ := v
    have hrouted := routed
    rw [hroute] at hrouted
    obtain rfl : sealed = input := Except.ok.inj hrouted
    obtain ⟨price, max, nonce, hprice, hmax, hnonce, htaken⟩ := (quote_relayed SampleSealing.externals
      Fcewire.SampleDesk.snapshotter SampleOrder.config env agrees SampleSealing.readsJson
      SampleSealing.unseals).2 (some body) input di hroute
    have hprice' : readNat input.priceUsdE18 = some 2010000000000000000 := by decide +kernel
    have hmax' : readNat input.maxFxrpRaw = some 5000000000 := by decide +kernel
    have hnonce' : readNat input.nonce = some 1 := by decide +kernel
    obtain rfl := Option.some.inj (hprice.symm.trans hprice')
    obtain rfl := Option.some.inj (hmax.symm.trans hmax')
    obtain rfl := Option.some.inj (hnonce.symm.trans hnonce')
    have hid : hexToHash input.rfqId = 7 := Go.hexToHash_hashHex 7
    have hempty : desk.book.quotes 7 = some Matcher.ByMaker.empty := by
      simp only [desk, Function.update_self]
    have hresult := htaken desk (Fcewire.SampleDesk.ambient 1005) rfl (by decide +kernel)
    generalize hr : handleDirect SampleSealing.externals Fcewire.SampleDesk.snapshotter SampleOrder.config
      (Fcewire.SampleDesk.ambient 1005) di desk = r at hresult
    generalize answerQuote (some r.1) = answer at hresult
    obtain ⟨result, after⟩ := r
    refine ⟨di, ?_⟩
    cases hresult with
    | outOfRange hrange => exact absurd (by decide) hrange
    | unknown _ hnone =>
      rw [hid, hempty] at hnone
      cases hnone
    | stale _ byMaker resting hfound hresting =>
      rw [hid, hempty] at hfound
      obtain rfl := Option.some.inj hfound
      cases hresting
    | taken _ byMaker q _ hfound _ hquotes _ _ hmaker hprice =>
      rw [hid, hempty] at hfound
      obtain rfl := Option.some.inj hfound
      refine ⟨q, rfl, ?_, hmaker, hprice⟩
      rw [hr, hquotes, hid]
      exact Function.update_self ..

end WhisperDesk.Web
