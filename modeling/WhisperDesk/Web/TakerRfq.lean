import WhisperDesk.Enclave.SenderBinding
import WhisperDesk.Web.Sealing

/-!
# A taker's order, from the form to the book

`/api/taker/rfq/publish` reads an order, holds it against the escrow's minimum and the
oracle's mid, and seals it for the taker's own wallet to submit. It turns down just the
orders that cannot be stored or cannot be filled at this mid; what it seals reaches the book
as it was written, when the taker sends it, and not at all when anybody else does.
-/
namespace WhisperDesk.Web

open ByteCodec
open Reverting
open JsonText (Plain)
open Go (GoString addressHex hexToAddress hexToAddress_addressHex readNat setString10_decimal)
open Fcewire (ascii Externals Snapshotter Handler Ambient Order dataFixedOf UnpacksEnvelope handleInstruction
  depad readUint64 base58Char addressPattern)
open DvPEscrow (Deployment BandAccepted bandBips checkBand)
open InstructionSender (Sent CalldataBytes submitParams)

section Request

/-- A member of the request's JSON: a string, or any other value, with what `String(v ?? "")` and
`BigInt` make of it. -/
inductive Member where
  | string (s : Bytes)
  | other (text : Bytes) (bigInt : Option Nat)

def Member.asString : Member → Bytes
  | .string s => s
  | .other text _ => text

def Member.asBigInt : Member → Option Nat
  | .string s => readNat s
  | .other _ n => n

structure PublishBody where
  taker : Member
  xrplAddress : Member
  fxrpAmountRaw : Member
  limitPriceUsdE18 : Member

/-- `/^[0-9]+$/`. -/
def isDecimal (s : Bytes) : Bool := s ≠ [] ∧ (s.all fun c => (digitValue c).isSome) = true

inductive PublishError where
  | invalidTaker
  | invalidXrplAddress
  | notDecimal
  | exceedsUint64
  | belowMinBlock (minBlock : Nat)
  | limitNotPositive
  | oracle
  | limitAboveBand (maxLimit : Nat)
  | client (e : ClientError)
  deriving DecidableEq, Repr

def PublishError.text : PublishError → String
  | .invalidTaker => "body.taker must be a valid EVM address"
  | .invalidXrplAddress => "body.xrplAddress must be a classic XRPL address"
  | .notDecimal => "body.fxrpAmountRaw and body.limitPriceUsdE18 must be decimal integer strings"
  | .exceedsUint64 => "body.fxrpAmountRaw exceeds uint64"
  | .belowMinBlock minBlock =>
    "minimum block is " ++ toString minBlock ++ " raw FXRP — the enclave rejects anything smaller"
  | .limitNotPositive => "limit price must be positive"
  | .oracle => ""
  | .limitAboveBand maxLimit =>
    "a limit above " ++ toString maxLimit ++ " can never fill: lock() re-reads the FTSOv2 mid and " ++
      "rejects any price more than " ++ toString (bandBips / 100) ++ "% away from it"
  | .client e => e.text

/-- What is left of a body that passed the route's checks. -/
structure TakerOrder where
  taker : Address
  xrplAddress : Bytes
  fxrpAmountRaw : Nat
  limitPriceUsdE18 : Nat
  classic : addressPattern xrplAddress = true
  amount_lt : fxrpAmountRaw < 2 ^ 64
  deriving DecidableEq

variable (getAddress : Bytes → Option Address)

/-- The route's checks; whatever throws on the way counts as an invalid taker. -/
def readOrder (body : Option PublishBody) : Except PublishError TakerOrder :=
  match body with
  | none => .error .invalidTaker
  | some body =>
    match body.taker with
    | .other _ _ => .error .invalidTaker
    | .string text => do
      let taker ← orRevert (getAddress text) .invalidTaker
      match body.xrplAddress with
      | .other _ _ => .error .invalidXrplAddress
      | .string xrplAddress =>
        if classic : addressPattern xrplAddress = true then do
          revertIf (isDecimal body.fxrpAmountRaw.asString = false ∨
            isDecimal body.limitPriceUsdE18.asString = false) .notDecimal
          let fxrpAmountRaw ← orRevert body.fxrpAmountRaw.asBigInt .invalidTaker
          let limitPriceUsdE18 ← orRevert body.limitPriceUsdE18.asBigInt .invalidTaker
          if amount_lt : fxrpAmountRaw < 2 ^ 64 then
            pure { taker, xrplAddress, fxrpAmountRaw, limitPriceUsdE18, classic, amount_lt }
          else .error .exceedsUint64
        else .error .invalidXrplAddress

end Request

section Route

/-- What a request meets: the mid that `readLiveFtsoMid` brings, and encryption under the
enclave's key. -/
structure PublishEnv where
  senderAddress : Address
  relayFeeWei : Nat
  mid18 : Option (BitVec 256)
  keccak256 : Bytes → Bytes32
  getAddress : Bytes → Option Address
  sealer : Bytes → Option Bytes

structure TakerRfqTerms where
  escrow : Address
  minBlockRaw : Nat
  midUsdE18 : Nat
  maxLimitUsdE18 : Nat
  armedSeconds : Nat

structure SealedOrder where
  ciphertext : Bytes
  senderAddress : Address
  relayFeeWei : Nat
  deriving DecidableEq

variable (d : Deployment) (env : PublishEnv)

/-- The highest limit that is not above the band. -/
def maxLimit (mid18 : Nat) : Nat := mid18 * (10000 + bandBips) / 10000

def buildTakerRfqTerms : Except PublishError TakerRfqTerms := do
  let mid18 ← orRevert env.mid18 .oracle
  pure
    { escrow := d.self
      minBlockRaw := d.minBlockFxrp
      midUsdE18 := mid18.toNat
      maxLimitUsdE18 := maxLimit mid18.toNat
      armedSeconds := 30 * 60 + 300 }

/-- The taker's numbers against the two systems that enforce them. -/
def checkOrder (order : TakerOrder) : Except PublishError Unit := do
  revertIf (order.fxrpAmountRaw < d.minBlockFxrp) (.belowMinBlock d.minBlockFxrp)
  revertIf (order.limitPriceUsdE18 ≤ 0) .limitNotPositive
  let mid18 ← orRevert env.mid18 .oracle
  revertIf (order.limitPriceUsdE18 > maxLimit mid18.toNat) (.limitAboveBand (maxLimit mid18.toNat))

def TakerOrder.plaintext (keccak256 : Bytes → Bytes32) (order : TakerOrder) :
    List (Bytes × JsonText.Value) :=
  rfqPlaintext (addressHex keccak256 order.taker) (decimal order.fxrpAmountRaw)
    (decimal order.limitPriceUsdE18) order.xrplAddress

def sealTakerRfq (order : TakerOrder) : Except PublishError SealedOrder := do
  checkOrder d env order
  let ciphertext ← (wdEncrypt env.sealer (order.plaintext env.keccak256)).mapError .client
  pure ⟨ciphertext, env.senderAddress, env.relayFeeWei⟩

/-- The route, behind its rate limit. -/
def publish (body : Option PublishBody) : Except PublishError SealedOrder := do
  let order ← readOrder env.getAddress body
  sealTakerRfq d env order

end Route

section Checks

variable {d : Deployment} {env : PublishEnv} {order : TakerOrder} {mid18 : BitVec 256}

theorem checkOrder_eq_ok : checkOrder d env order = .ok () ↔
    d.minBlockFxrp ≤ order.fxrpAmountRaw ∧ 0 < order.limitPriceUsdE18 ∧
      ∃ mid18, env.mid18 = some mid18 ∧ order.limitPriceUsdE18 ≤ maxLimit mid18.toNat := by
  simp only [checkOrder, bind_eq_ok, revertIf_eq_ok, orRevert_eq_ok, Nat.not_lt, Nat.not_le]
  constructor
  · rintro ⟨_, hmin, _, hpos, mid18, hmid, hmax⟩
    exact ⟨hmin, hpos, mid18, hmid, hmax⟩
  · rintro ⟨hmin, hpos, mid18, hmid, hmax⟩
    exact ⟨(), hmin, (), hpos, mid18, hmid, hmax⟩

/-- Each error is about a bound that was missed. -/
theorem checkOrder_eq_error (hmid : env.mid18 = some mid18) {e : PublishError}
    (herror : checkOrder d env order = .error e) :
    e = .belowMinBlock d.minBlockFxrp ∧ order.fxrpAmountRaw < d.minBlockFxrp ∨
      e = .limitNotPositive ∧ order.limitPriceUsdE18 = 0 ∨
      e = .limitAboveBand (maxLimit mid18.toNat) ∧ maxLimit mid18.toNat < order.limitPriceUsdE18 := by
  by_cases hsmall : order.fxrpAmountRaw < d.minBlockFxrp
  · simp only [checkOrder, revertIf, if_pos hsmall, bind, Except.bind, Except.error.injEq] at herror
    exact .inl ⟨herror.symm, hsmall⟩
  · by_cases hzero : order.limitPriceUsdE18 ≤ 0
    · simp only [checkOrder, revertIf, if_neg hsmall, if_pos hzero, bind, Except.bind,
        Except.error.injEq] at herror
      exact .inr (.inl ⟨herror.symm, Nat.le_zero.mp hzero⟩)
    · by_cases hhigh : order.limitPriceUsdE18 > maxLimit mid18.toNat
      · simp only [checkOrder, revertIf, if_neg hsmall, if_neg hzero, hmid, orRevert, if_pos hhigh, bind,
          Except.bind, Except.error.injEq] at herror
        exact .inr (.inr ⟨herror.symm, hhigh⟩)
      · simp only [checkOrder, revertIf, if_neg hsmall, if_neg hzero, hmid, orRevert, if_neg hhigh, bind,
          Except.bind, reduceCtorEq] at herror

theorem publish_eq_ok {body : Option PublishBody} {answer : SealedOrder} :
    publish d env body = .ok answer ↔ ∃ order, readOrder env.getAddress body = .ok order ∧
      checkOrder d env order = .ok () ∧
      wdEncrypt env.sealer (order.plaintext env.keccak256) = .ok answer.ciphertext ∧
      answer.senderAddress = env.senderAddress ∧ answer.relayFeeWei = env.relayFeeWei := by
  simp only [publish, sealTakerRfq, bind_eq_ok, mapError_eq_ok, pure_eq_ok]
  constructor
  · rintro ⟨order, horder, _, hcheck, ciphertext, hsealed, rfl⟩
    exact ⟨order, horder, hcheck, hsealed, rfl, rfl⟩
  · rintro ⟨order, horder, hcheck, hsealed, hsender, hfee⟩
    exact ⟨order, horder, (), hcheck, answer.ciphertext, hsealed, by rw [← hsender, ← hfee]⟩

/-- A price that `lock` would take at this mid. -/
def Lockable (chain : Env) (mid18 ts price : Nat) : Prop := checkBand chain mid18 ts price = .ok ()

/-- Some price at or above the limit is in the band: the mid if the limit is not above it, else the
limit itself. -/
theorem exists_lockable {chain : Env} {mid ts limit : Nat} (hfresh : ts ≤ chain.timestamp)
    (hage : chain.timestamp - ts ≤ DvPEscrow.maxOracleAge) (hmid : mid ≠ 0)
    (hrange : mid * (10000 + bandBips) < 2 ^ 256) :
    (∃ price, limit ≤ price ∧ Lockable chain mid ts price) ↔ limit ≤ maxLimit mid := by
  have hband {price : Nat} : Lockable chain mid ts price ↔ BandAccepted chain mid ts price :=
    DvPEscrow.checkBand_eq_ok
  have hmax (price : Nat) : price * 10000 ≤ mid * (10000 + bandBips) ↔ price ≤ maxLimit mid :=
    (Nat.le_div_iff_mul_le (by decide)).symm
  constructor
  · rintro ⟨price, hlimit, hlock⟩
    exact hlimit.trans ((hmax price).mp (hband.mp hlock).upper)
  · intro hlimit
    refine ⟨max limit mid, le_max_left _ _, hband.mpr ⟨hmid, hfresh, hage, ?_, ?_, hrange⟩⟩
    · have hge : mid ≤ max limit mid := le_max_right _ _
      calc mid * (10000 - bandBips) ≤ mid * 10000 := Nat.mul_le_mul_left _ (Nat.sub_le _ _)
        _ ≤ max limit mid * 10000 := Nat.mul_le_mul_right _ hge
    · rw [hmax]
      refine max_le hlimit ?_
      rw [← hmax]
      exact Nat.mul_le_mul_left _ (by decide)

end Checks

section Texts

variable {order : TakerOrder}

theorem isPlain_of_base58Char {c : UInt8} (h : base58Char c = true) : JsonText.isPlain c = true := by
  have hall : ∀ n : Fin 256, base58Char (UInt8.ofNat n) = true → JsonText.isPlain (UInt8.ofNat n) = true := by
    decide +kernel
  have hc := hall ⟨c.toNat, c.toNat_lt⟩
  rw [UInt8.ofNat_toNat] at hc
  exact hc h

theorem classic_cases {address : Bytes} (h : addressPattern address = true) :
    address ≠ [] ∧ address.length ≤ 35 ∧ Plain address := by
  cases address with
  | nil => cases h
  | cons c rest =>
    simp only [addressPattern, decide_eq_true_eq] at h
    obtain ⟨rfl, _, hlength, hbase⟩ := h
    refine ⟨by simp, Nat.succ_le_succ hlength, .cons (by decide) fun c hc => ?_⟩
    exact isPlain_of_base58Char (List.all_eq_true.mp hbase c hc)

def TakerOrder.address (order : TakerOrder) : GoString :=
  ⟨order.xrplAddress, Nat.lt_of_le_of_lt (classic_cases order.classic).2.1 (by decide)⟩

/-- The order as the enclave holds it. -/
def TakerOrder.terms (order : TakerOrder) : Order where
  fxrpAmountRaw := UInt64.ofNat order.fxrpAmountRaw
  limitPriceE18 := order.limitPriceUsdE18
  xrplAddress := order.address

/-- An order of any size fits. -/
theorem length_plaintext (keccak256 : Bytes → Bytes32) (hlimit : order.limitPriceUsdE18 < 10 ^ 78) :
    (JsonText.object (order.plaintext keccak256)).length ≤ padSize := by
  obtain ⟨_, haddress, hplain⟩ := classic_cases order.classic
  have hamount : (decimal order.fxrpAmountRaw).length ≤ 20 :=
    length_decimal_le 19 (order.amount_lt.trans (by decide))
  have hdigits : (decimal order.limitPriceUsdE18).length ≤ 78 := length_decimal_le 77 hlimit
  have hside : Plain (ascii "SELL_FXRP") ∧ (ascii "SELL_FXRP").length = 9 := by decide
  refine (JsonText.length_object_le _).trans ?_
  simp only [TakerOrder.plaintext, rfqPlaintext, List.map_cons, List.map_nil, List.sum_cons, List.sum_nil,
    length_version, length_member "taker" 5 (by decide) (plain_addressHex order.taker), length_addressHex,
    length_member "side" 4 (by decide) hside.1, hside.2,
    length_member "fxrpAmountRaw" 13 (by decide) (JsonText.plain_decimal _),
    length_member "limitPriceUsdE18" 16 (by decide) (JsonText.plain_decimal _),
    length_member "xrplAddress" 11 (by decide) hplain, padSize]
  omega

end Texts

section Arrival

variable {σ : Type} {X : Externals} {S : Snapshotter σ} {cfg : Fcewire.Config} {sealer : Bytes → Option Bytes}
  {keccak256 : Bytes → Bytes32} {order : TakerOrder} {out : Bytes} {a : Ambient} {h : Handler σ} {i : Sent}
  {caller : Address} {ciphertext : CalldataBytes}

theorem toNat_amount (order : TakerOrder) :
    (UInt64.ofNat order.fxrpAmountRaw).toNat = order.fxrpAmountRaw := by
  rw [UInt64.toNat_ofNat', Nat.mod_eq_of_lt order.amount_lt]

/-- What the enclave decodes of a sealed order. -/
theorem decodes_sealed (hjson : ReadsJson X) (hunseals : Unseals X sealer)
    (hok : wdEncrypt sealer (order.plaintext keccak256) = .ok out) :
    ∃ padded body, X.plaintextOf (getBytes out) = some padded ∧ padded.length = padSize ∧
      depad padded padSize = some body ∧ X.decodeRfqPlaintext body =
        some ⟨1, addressHex keccak256 order.taker, ascii "SELL_FXRP", decimal order.fxrpAmountRaw,
          decimal order.limitPriceUsdE18, order.address⟩ := by
  obtain ⟨padded, hplain, hlength, hdepad⟩ := opens_wdEncrypt hunseals hok
  refine ⟨padded, _, hplain, hlength, hdepad, ?_⟩
  exact hjson.rfq _ _ _ order.address (plain_addressHex _) (JsonText.plain_decimal _)
    (JsonText.plain_decimal _) (classic_cases order.classic).2.2

/-- A sealed order is its taker's, on the taker's terms. -/
theorem seals_order (hjson : ReadsJson X) (hunseals : Unseals X sealer) (hpad : cfg.padSize = padSize)
    (hok : wdEncrypt sealer (order.plaintext keccak256) = .ok out) :
    Fcewire.Seals X cfg order.taker (getBytes out) order.terms := by
  obtain ⟨padded, body, hplain, _, hdepad, hmsg⟩ := decodes_sealed hjson hunseals hok
  have hamount : readUint64 (decimal order.fxrpAmountRaw) = some order.terms.fxrpAmountRaw := by
    rw [Fcewire.readUint64_eq_some, setString10_decimal, TakerOrder.terms, toNat_amount]
  refine ⟨padded, body, _, hplain, ?_, hmsg, rfl, rfl, isHexAddress_addressHex _,
    hexToAddress_addressHex _ _, (classic_cases order.classic).1, hamount, setString10_decimal _, rfl⟩
  rw [hpad]
  exact hdepad

theorem handleInstruction_submitted (hparams : i.params = submitParams caller ciphertext) :
    handleInstruction X S cfg a (dataFixedOf i) h =
      Fcewire.reply i.params.opType i.params.opCommand h
        (Fcewire.handleRfqSubmit X S cfg a (dataFixedOf i) h) := by
  have hcommand : (dataFixedOf i).opCommand = Fcewire.rfqSubmit := by
    rw [dataFixedOf, hparams]
    rfl
  rw [handleInstruction, if_pos hcommand]
  rfl

/-- Sent by its taker, an order is admitted as it was written. -/
theorem admitted_order (hunpack : UnpacksEnvelope X) (hparams : i.params = submitParams order.taker ciphertext)
    (hseals : Fcewire.Seals X cfg order.taker ciphertext.bytes order.terms) (hup : a.decryptUp = true)
    (hmin : cfg.minBlockFxrpRaw.toNat ≤ order.fxrpAmountRaw) (hpos : 0 < order.limitPriceUsdE18)
    (hnew : h.book.rfqs i.instructionId = none) :
    Fcewire.handleRfqSubmit X S cfg a (dataFixedOf i) h =
      .ok (.rfqAck (Go.hashHex i.instructionId)
          (order.terms.rfq cfg i.instructionId order.taker a.now).windowEndsAt.unix.toUInt64,
        ⟨{ h.book with
          rfqs := Function.update h.book.rfqs i.instructionId
            (some (order.terms.rfq cfg i.instructionId order.taker a.now))
          quotes := Function.update h.book.quotes i.instructionId (some Matcher.ByMaker.empty) },
          S.trackTaker order.taker h.chain⟩) := by
  have henvelope : X.unpackEnvelope (dataFixedOf i).originalMessage =
      some (order.taker, ciphertext.bytes) := by
    rw [dataFixedOf, hparams]
    exact hunpack order.taker ciphertext
  have hsize : cfg.minBlockFxrpRaw ≤ order.terms.fxrpAmountRaw := by
    rw [UInt64.le_iff_toNat_le, TakerOrder.terms, toNat_amount]
    exact hmin
  exact Fcewire.handleRfqSubmit_eq_ok.mpr ⟨order.taker, ciphertext.bytes, order.terms, henvelope, hup, hseals,
    hsize, Int.natCast_pos.mpr hpos, hnew, rfl, rfl⟩

/-- Sent by anybody else, it is turned down for its sender. -/
theorem stranger_turned_down (hunpack : UnpacksEnvelope X) (hjson : ReadsJson X)
    (hunseals : Unseals X sealer) (hpad : cfg.padSize = padSize)
    (hok : wdEncrypt sealer (order.plaintext keccak256) = .ok out)
    (hparams : i.params = submitParams caller ciphertext) (hbytes : ciphertext.bytes = getBytes out)
    (hup : a.decryptUp = true) (hne : caller ≠ order.taker) :
    Fcewire.handleRfqSubmit X S cfg a (dataFixedOf i) h = .error .auth := by
  obtain ⟨padded, body, hplain, _, hdepad, hmsg⟩ := decodes_sealed hjson hunseals hok
  have henvelope : X.unpackEnvelope (dataFixedOf i).originalMessage = some (caller, getBytes out) := by
    rw [dataFixedOf, hparams, ← hbytes]
    exact hunpack caller ciphertext
  have hdecrypt : Fcewire.decrypt X a (getBytes out) = some padded :=
    Fcewire.decrypt_iff.mpr ⟨hup, hplain⟩
  have hother : hexToAddress (addressHex keccak256 order.taker) ≠ caller := by
    rw [hexToAddress_addressHex]
    exact hne.symm
  rw [← hpad] at hdepad
  simp [Fcewire.handleRfqSubmit, henvelope, hdecrypt, hdepad, hmsg, hother, isHexAddress_addressHex, orRevert,
    revertIf, bind, Except.bind]

/-- No order that passed the checks is too long: its limit is near a mid of 256 bits. -/
theorem not_tooLong {d : Deployment} {env : PublishEnv} (hcheck : checkOrder d env order = .ok ()) (n : Nat) :
    wdEncrypt sealer (order.plaintext keccak256) ≠ .error (.tooLong n) := by
  obtain ⟨_, _, mid18, _, hmax⟩ := checkOrder_eq_ok.mp hcheck
  have hmid := mid18.isLt
  have hlimit : order.limitPriceUsdE18 < 10 ^ 78 := by
    unfold maxLimit bandBips at hmax
    omega
  intro herror
  exact absurd (padSize_lt_of_tooLong herror) (Nat.not_lt.mpr (length_plaintext keccak256 hlimit))

end Arrival

section Results

variable {σ : Type} (X : Externals) (S : Snapshotter σ) (cfg : Fcewire.Config) (d : Deployment)
  (env : PublishEnv)

/-- No order is too long to be sealed, and all plaintexts are of one length. Whatever the desk
holds, an order that was sealed for a taker comes into its book as it was written when the taker
submits it through the sender contract; submitted by anybody else it changes nothing. -/
theorem order_arrives (hjson : ReadsJson X) (hunseals : Unseals X env.sealer) (hunpack : UnpacksEnvelope X)
    (hpad : cfg.padSize = padSize) (hmin : cfg.minBlockFxrpRaw.toNat = d.minBlockFxrp) :
    (∀ order, checkOrder d env order = .ok () →
      ∀ n, wdEncrypt env.sealer (order.plaintext env.keccak256) ≠ .error (.tooLong n)) ∧
    ∀ body answer, publish d env body = .ok answer →
      ∃ order, readOrder env.getAddress body = .ok order ∧
        (∃ plaintext, X.plaintextOf (getBytes answer.ciphertext) = some plaintext ∧
          plaintext.length = padSize) ∧
        ∀ (h : Handler σ) (a : Ambient) (i : Sent) (caller : Address) (ciphertext : CalldataBytes),
          ciphertext.bytes = getBytes answer.ciphertext → i.params = submitParams caller ciphertext →
          a.decryptUp = true →
          let r := handleInstruction X S cfg a (dataFixedOf i) h
          (caller ≠ order.taker → r.1.status = 0 ∧ r.1.log = "WD_ERR_AUTH" ∧ r.2 = h) ∧
          (caller = order.taker → h.book.rfqs i.instructionId = none →
            r.1.status = 1 ∧ ∃ rfq : Matcher.RFQ,
              r.2.book.rfqs = Function.update h.book.rfqs i.instructionId (some rfq) ∧
              r.2.book.resting i.instructionId = [] ∧ rfq.id = i.instructionId ∧
              rfq.taker = order.taker ∧ rfq.fxrpAmountRaw.toNat = order.fxrpAmountRaw ∧
              rfq.limitPriceE18 = order.limitPriceUsdE18 ∧
              rfq.xrplAddress.bytes = order.xrplAddress ∧ rfq.outcome = none) := by
  refine ⟨fun order hcheck n => not_tooLong hcheck n, fun body answer hok => ?_⟩
  obtain ⟨order, horder, hcheck, hsealed, _, _⟩ := publish_eq_ok.mp hok
  obtain ⟨plaintext, _, hplain, hlength, _⟩ := decodes_sealed hjson hunseals hsealed
  refine ⟨order, horder, ⟨plaintext, hplain, hlength⟩, fun h a i caller ciphertext hbytes hparams hup => ?_⟩
  simp only [handleInstruction_submitted hparams]
  constructor
  · intro hne
    rw [stranger_turned_down hunpack hjson hunseals hpad hsealed hparams hbytes hup hne]
    exact ⟨rfl, rfl, rfl⟩
  · rintro rfl hnew
    have hseals := seals_order hjson hunseals hpad hsealed
    rw [← hbytes] at hseals
    obtain ⟨hsize, hpos, _⟩ := checkOrder_eq_ok.mp hcheck
    rw [admitted_order hunpack hparams hseals hup (by rw [hmin]; exact hsize) hpos hnew]
    refine ⟨rfl, order.terms.rfq cfg i.instructionId order.taker a.now, rfl, ?_, rfl, rfl,
      toNat_amount order, rfl, rfl, rfl⟩
    simp [Fcewire.reply, Matcher.SealedBook.resting, Matcher.ByMaker.empty]

/-- The enclave takes the order in under any id that is free. -/
def Admissible (order : TakerOrder) : Prop :=
  ∀ (book : Matcher.SealedBook) id now windowSec ttlSec, book.rfqs id = none →
    (book.addRFQ cfg.matcher id order.taker order.terms.fxrpAmountRaw (some order.terms.limitPriceE18)
      order.address now windowSec ttlSec).isOk = true

/-- Some price at or above the limit would be taken by `lock` at this mid. -/
def Fillable (chain : Env) (mid18 ts : Nat) (order : TakerOrder) : Prop :=
  ∃ price, order.limitPriceUsdE18 ≤ price ∧ Lockable chain mid18 ts price

variable {X S cfg d env}

theorem admissible_iff (hmin : cfg.minBlockFxrpRaw.toNat = d.minBlockFxrp) (order : TakerOrder) :
    Admissible cfg order ↔ d.minBlockFxrp ≤ order.fxrpAmountRaw ∧ 0 < order.limitPriceUsdE18 := by
  have hsize : cfg.matcher.minBlockFxrpRaw ≤ order.terms.fxrpAmountRaw ↔
      d.minBlockFxrp ≤ order.fxrpAmountRaw := by
    rw [UInt64.le_iff_toNat_le, TakerOrder.terms, toNat_amount, ← hmin]
    rfl
  constructor
  · intro hadmissible
    obtain ⟨⟨rfq, book⟩, hadd⟩ := exists_ok_of_isOk
      (hadmissible (.new 0) 0 ⟨0⟩ 0 0 rfl)
    obtain ⟨hadmitted, hlimit, _, hrfq, _⟩ := Matcher.addRFQ_eq_ok.mp hadd
    have hamount := hadmitted.size
    rw [hrfq] at hamount
    have hpos := hadmitted.limit_pos
    rw [← Option.some.inj hlimit] at hpos
    exact ⟨hsize.mp hamount, Int.natCast_pos.mp hpos⟩
  · rintro ⟨hamount, hpos⟩ book id now windowSec ttlSec hnew
    have hadmitted : Matcher.Admitted cfg.matcher
        { id, taker := order.taker, fxrpAmountRaw := order.terms.fxrpAmountRaw,
          limitPriceE18 := order.terms.limitPriceE18, xrplAddress := order.address, receivedAt := now,
          windowEndsAt := now.add (Go.seconds windowSec), expiresAt := now.add (Go.seconds ttlSec),
          outcome := none } :=
      ⟨hsize.mpr hamount, (classic_cases order.classic).1, Int.natCast_pos.mpr hpos, rfl⟩
    rw [Matcher.addRFQ_eq_ok.mpr ⟨hadmitted, rfl, hnew, rfl, rfl⟩]
    rfl

/-- The terms a taker is given are exact, and an order is turned down just where it is hopeless: the
greatest limit they allow is the greatest that some price in `lock`'s band reaches at this mid; an
order passes when the enclave would take it in and it could be filled, and fails with the bound it
missed. -/
theorem refusals_exact (hmin : cfg.minBlockFxrpRaw.toNat = d.minBlockFxrp) {mid18 : BitVec 256}
    (hmid : env.mid18 = some mid18) {chain : Env} {ts : Nat} (hpast : ts ≤ chain.timestamp)
    (hrecent : chain.timestamp - ts ≤ DvPEscrow.maxOracleAge) (hpos : mid18 ≠ 0)
    (hrange : mid18.toNat * (10000 + bandBips) < 2 ^ 256) :
    (∃ terms, buildTakerRfqTerms d env = .ok terms ∧
      IsGreatest {limit | ∃ price, limit ≤ price ∧ Lockable chain mid18.toNat ts price}
        terms.maxLimitUsdE18 ∧
      ∀ order, checkOrder d env order = .ok () ↔ terms.minBlockRaw ≤ order.fxrpAmountRaw ∧
        0 < order.limitPriceUsdE18 ∧ order.limitPriceUsdE18 ≤ terms.maxLimitUsdE18) ∧
    ∀ order : TakerOrder,
      (checkOrder d env order = .ok () ↔ Admissible cfg order ∧ Fillable chain mid18.toNat ts order) ∧
      ∀ e, checkOrder d env order = .error e →
        (e = .belowMinBlock d.minBlockFxrp ∨ e = .limitNotPositive) ∧ ¬ Admissible cfg order ∨
          e = .limitAboveBand (maxLimit mid18.toNat) ∧ ¬ Fillable chain mid18.toNat ts order := by
  have hmid0 : mid18.toNat ≠ 0 := fun hzero => hpos (BitVec.eq_of_toNat_eq hzero)
  have hlockable (limit : Nat) : (∃ price, limit ≤ price ∧ Lockable chain mid18.toNat ts price) ↔
      limit ≤ maxLimit mid18.toNat := exists_lockable hpast hrecent hmid0 hrange
  have hcheck (order : TakerOrder) : checkOrder d env order = .ok () ↔
      d.minBlockFxrp ≤ order.fxrpAmountRaw ∧ 0 < order.limitPriceUsdE18 ∧
        order.limitPriceUsdE18 ≤ maxLimit mid18.toNat := by
    simp only [checkOrder_eq_ok, hmid, Option.some.injEq, exists_eq_left']
  refine ⟨⟨⟨d.self, d.minBlockFxrp, mid18.toNat, maxLimit mid18.toNat, 30 * 60 + 300⟩, ?_, ⟨?_, ?_⟩, hcheck⟩,
    fun order => ⟨?_, fun e herror => ?_⟩⟩
  · simp only [buildTakerRfqTerms, hmid]
    rfl
  · exact (hlockable _).mpr (Nat.le_refl _)
  · intro limit hlimit
    exact (hlockable limit).mp hlimit
  · rw [hcheck, admissible_iff hmin, Fillable, hlockable, and_assoc]
  · rw [admissible_iff hmin, Fillable, hlockable]
    rcases checkOrder_eq_error hmid herror with ⟨rfl, hsmall⟩ | ⟨rfl, hzero⟩ | ⟨rfl, hhigh⟩
    · exact .inl ⟨.inl rfl, fun h => absurd h.1 (Nat.not_le.mpr hsmall)⟩
    · exact .inl ⟨.inr rfl, fun h => h.2.ne' hzero⟩
    · exact .inr ⟨rfl, Nat.not_le.mpr hhigh⟩

end Results

/-! Account 2 offers the least block at a little below the mid. -/
namespace SampleOrder

def env : PublishEnv where
  senderAddress := 0x1A
  relayFeeWei := 1000000
  mid18 := some 2000000000000000000
  keccak256 := Fcewire.SampleDesk.externals.keccak256
  getAddress text := if Go.isHexAddress text then some (hexToAddress text) else none
  sealer := SampleSealing.sealer

def body : PublishBody where
  taker := .string (0x30 :: 0x78 :: hexDigits (beBytes 20 2))
  xrplAddress := .string (ascii "rPT1Sjq2YGrBMTttX4GZHjKu9dyfzbpAYe")
  fxrpAmountRaw := .string (ascii "5000000000")
  limitPriceUsdE18 := .string (ascii "1990000000000000000")

def config : Fcewire.Config := { Fcewire.SampleDesk.config with padSize := 512 }

def order : TakerOrder where
  taker := 2
  xrplAddress := ascii "rPT1Sjq2YGrBMTttX4GZHjKu9dyfzbpAYe"
  fxrpAmountRaw := 5000000000
  limitPriceUsdE18 := 1990000000000000000
  classic := by decide
  amount_lt := by decide

def ciphertext : CalldataBytes where
  bytes := 0x04 :: (JsonText.object (order.plaintext env.keccak256) ++
    List.replicate (512 - (JsonText.object (order.plaintext env.keccak256)).length) 0x20)
  length_lt := by decide +kernel

def answer : SealedOrder := ⟨0x30 :: 0x78 :: hexDigits ciphertext.bytes, 0x1A, 1000000⟩

theorem published : publish Sample.deployment env (some body) = .ok answer := by
  decide +kernel

theorem read : readOrder env.getAddress (some body) = .ok order := by decide +kernel

theorem sealed_bytes : ciphertext.bytes = getBytes answer.ciphertext := by
  rw [answer, getBytes_hexDigits]

theorem unpacksEnvelope : UnpacksEnvelope SampleSealing.externals := by
  intro caller ciphertext
  have hunpack := Fcewire.SampleRelay.unpacksEnvelope Fcewire.SampleSeal.lone caller ciphertext
  simp only [Fcewire.SampleSeal.externals] at hunpack
  simp only [SampleSealing.externals]
  exact hunpack

/-- The instruction with the sealed order, submitted by `caller`. -/
def sent (caller : Address) : Sent := ⟨7, [1], 1000000, submitParams caller ciphertext⟩

def desk : Handler Unit := ⟨.new 0, ()⟩

/-- The desk after the order came in from `caller`. -/
def received (caller : Address) : Handler Unit :=
  (handleInstruction SampleSealing.externals Fcewire.SampleDesk.snapshotter config
    (Fcewire.SampleDesk.ambient 1000) (dataFixedOf (sent caller)) desk).2

end SampleOrder

open SampleOrder in
theorem order_arrives_sample :
    (∃ rfq : Matcher.RFQ, (received 2).book.rfqs 7 = some rfq ∧ rfq.taker = 2 ∧
      rfq.fxrpAmountRaw.toNat = 5000000000 ∧ rfq.limitPriceE18 = 1990000000000000000) ∧
    received 9 = desk := by
  obtain ⟨order', horder, _, harrives⟩ := (order_arrives SampleSealing.externals
    Fcewire.SampleDesk.snapshotter config Sample.deployment env SampleSealing.readsJson
    SampleSealing.unseals unpacksEnvelope rfl (by decide)).2
    (some body) answer published
  rw [read, Except.ok.injEq] at horder
  subst horder
  obtain ⟨_, hown⟩ := harrives desk (Fcewire.SampleDesk.ambient 1000) (sent 2) 2 ciphertext sealed_bytes rfl rfl
  obtain ⟨hstranger, _⟩ := harrives desk (Fcewire.SampleDesk.ambient 1000) (sent 9) 9 ciphertext sealed_bytes
    rfl rfl
  obtain ⟨_, rfq, hbook, _, _, htaker, hamount, hlimit, _⟩ := hown rfl rfl
  refine ⟨⟨rfq, ?_, htaker, hamount, hlimit⟩, (hstranger (by decide)).2.2⟩
  rw [received, hbook]
  exact Function.update_self ..

open SampleOrder in
theorem refusals_exact_sample :
    checkOrder Sample.deployment env order = .ok () ∧
      Fillable (Sample.env 1000) 2000000000000000000 1000 order := by
  have hmin : config.minBlockFxrpRaw.toNat = Sample.deployment.minBlockFxrp := by decide
  have hmid : env.mid18 = some 2000000000000000000 := rfl
  have hfresh : 1000 ≤ (Sample.env 1000).timestamp := by decide
  have hexact := (refusals_exact hmin hmid hfresh (by decide) (by decide) (by decide)).2 order
  have hcheck : checkOrder Sample.deployment env order = .ok () := by decide +kernel
  exact ⟨hcheck, (hexact.1.mp hcheck).2⟩

end WhisperDesk.Web
