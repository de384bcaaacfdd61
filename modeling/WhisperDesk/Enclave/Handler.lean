import WhisperDesk.Enclave.Match

/-!
# handler.go and quoteauth.go

The WD_RFQ handler: two ingresses, three commands, and the checks each one makes
before it touches the book. Decryption, JSON and ABI decoding, the sign port and
the chain snapshot are what the handler is given; a request that fails leaves
the handler as it was.
-/
namespace WhisperDesk.Fcewire

open Go
open Matcher
open AbiWords
open Reverting

/-- The closed error enum, as far as a handler can return it. -/
inductive Code where
  | path | decode | decrypt | auth | side | minSize | rfqUnknown | windowOpen | staleNonce
  | priceStale | sign | pad
  deriving DecidableEq, Repr

def Code.text : Code → String
  | .path => "WD_ERR_PATH"
  | .decode => "WD_ERR_DECODE"
  | .decrypt => "WD_ERR_DECRYPT"
  | .auth => "WD_ERR_AUTH"
  | .side => "WD_ERR_SIDE"
  | .minSize => "WD_ERR_MIN_SIZE"
  | .rfqUnknown => "WD_ERR_RFQ_UNKNOWN"
  | .windowOpen => "WD_ERR_WINDOW_OPEN"
  | .staleNonce => "WD_ERR_STALE_NONCE"
  | .priceStale => "WD_ERR_PRICE_STALE"
  | .sign => "WD_ERR_SIGN"
  | .pad => "WD_ERR_PAD"

structure Config where
  chainID : UInt64
  escrowAddr : Address
  minBlockFxrpRaw : UInt64
  bandBips : UInt64
  quoteTTLSec : Int64
  rfqWindowSec : Int64
  rfqTTLSec : Int64
  allowDirectMatch : Bool
  allowDirectRfq : Bool
  padSize : Nat

def Config.matcher (cfg : Config) : Matcher.Config :=
  { minBlockFxrpRaw := cfg.minBlockFxrpRaw, bandBips := cfg.bandBips, quoteTTLSec := cfg.quoteTTLSec }

structure RfqPlaintext where
  v : Int
  taker : Bytes
  side : Bytes
  fxrpAmountRaw : Bytes
  limitPriceUsdE18 : Bytes
  xrplAddress : GoString

structure QuotePlaintext where
  v : Int
  rfqID : Bytes
  maker : Bytes
  priceUsdE18 : Bytes
  maxFxrpRaw : Bytes
  nonce : Bytes
  sig : Bytes

/-- What an instruction from the chain and a direct one carry. -/
structure DataFixed where
  instructionID : Bytes32
  opType : Bytes32
  opCommand : Bytes32
  originalMessage : Bytes

structure DirectInstruction where
  opType : Bytes32
  opCommand : Bytes32
  message : Bytes

inductive Payload where
  | rfqAck (rfqID : Bytes) (windowEndsAt : UInt64)
  | quoteAck (rfqID : Bytes) (accepted replaced : Bool)
  | matchResponse (outcome : MatchOutcome)

structure Result where
  opType : Bytes32
  opCommand : Bytes32
  status : UInt8
  data : Option Payload
  log : String

/-- Decoders of other packages, and ECIES decryption under the enclave's key. -/
structure Externals extends Matcher.Libraries where
  unpackEnvelope : Bytes → Option (Address × Bytes)
  unpackRfqID : Bytes → Option Bytes32
  decodeRfqPlaintext : Bytes → Option RfqPlaintext
  decodeQuotePlaintext : Bytes → Option QuotePlaintext
  plaintextOf : Bytes → Option Bytes

/-- The interface the handler builds its chain snapshots through. -/
structure Snapshotter (σ : Type) where
  trackTaker : Address → σ → σ
  trackMaker : Address → σ → σ
  snapshot : σ → Address → List Address → Time → ChainSnapshot

/-- What one call meets: the clock, the two map walks, and whether and how the
two loopback ports answer. -/
structure Ambient where
  now : Time
  makersOrder : MapOrder
  quotesOrder : MapOrder
  decryptUp : Bool
  signPort : SignerFunc

structure Handler (σ : Type) where
  book : SealedBook
  chain : σ

def ascii (s : String) : Bytes := s.toList.map fun c => UInt8.ofNat c.toNat

/-- The text right-padded to 32 bytes. -/
def opHash (s : String) : Bytes32 := bytes32OfAscii s

def rfqSubmit : Bytes32 := opHash "RFQ_SUBMIT"
def quoteSubmit : Bytes32 := opHash "QUOTE_SUBMIT"
def rfqMatch : Bytes32 := opHash "RFQ_MATCH"

section QuoteAuth

variable (L : Matcher.Libraries)

def quoteDomainSeparator (chainID : UInt64) (verifyingContract : Address) : Bytes32 :=
  let typeHash := L.keccak256 (ascii
    "EIP712Domain(string name,string version,uint256 chainId,address verifyingContract)")
  L.keccak256 (word typeHash.toNat ++ word (L.keccak256 (ascii "WhisperDesk")).toNat ++
    word (L.keccak256 (ascii "1")).toNat ++ leftPad32 (bigBytes chainID.toNat) ++
    leftPad32 (ByteCodec.beBytes 20 verifyingContract.toNat))

def quoteStructHash (rfqID : Bytes32) (maker : Address) (priceUsdE18 maxFxrpRaw nonce : Int) :
    Bytes32 :=
  let typeHash := L.keccak256 (ascii
    "Quote(bytes32 rfqId,address maker,uint256 priceUsdE18,uint256 maxFxrpRaw,uint256 nonce)")
  L.keccak256 (word typeHash.toNat ++ word rfqID.toNat ++
    leftPad32 (ByteCodec.beBytes 20 maker.toNat) ++ leftPad32 (bigBytes priceUsdE18) ++
    leftPad32 (bigBytes maxFxrpRaw) ++ leftPad32 (bigBytes nonce))

/-- The EIP-712 digest a maker's wallet signs. -/
def quoteDigest (chainID : UInt64) (verifyingContract : Address) (rfqID : Bytes32) (maker : Address)
    (priceUsdE18 maxFxrpRaw nonce : Int) : Bytes32 :=
  L.keccak256 (0x19 :: 0x01 :: word (quoteDomainSeparator L chainID verifyingContract).toNat ++
    word (quoteStructHash L rfqID maker priceUsdE18 maxFxrpRaw nonce).toNat)

/-- Whether the signature is 65 bytes long and recovers to the maker. -/
def verifyQuoteSignature (chainID : UInt64) (verifyingContract : Address) (rfqID : Bytes32)
    (maker : Address) (priceUsdE18 maxFxrpRaw nonce : Int) (sig : Bytes) : Bool :=
  sig.length = 65 ∧
    L.sigToAddress (quoteDigest L chainID verifyingContract rfqID maker priceUsdE18 maxFxrpRaw nonce)
      (normalizeForRecover sig) = some maker

end QuoteAuth

/-- Strip the trailing spaces of a plaintext of exactly the required size. -/
def depad (b : Bytes) (size : Nat) : Option Bytes :=
  if b.length = size then some (b.rdropWhile (· = 0x20)) else none

/-- `0x`-prefixed or bare hex, all of it well formed. -/
def decodeHex (s : Bytes) : Option Bytes :=
  if isHex (trim0x s) = true then some (ByteCodec.readHex (trim0x s)) else none

/-- A decimal string that is a `uint64`. -/
def readUint64 (s : Bytes) : Option UInt64 :=
  (setString10 s).bind fun n => if 0 ≤ n ∧ n < 2 ^ 64 then some (UInt64.ofNat n.toNat) else none

def mapAddRFQErr : Error → Code
  | .belowMinBlock => .minSize
  | _ => .decode

def mapUpsertErr (e : Error) : Code :=
  if e = .rfqUnknown then .rfqUnknown
  else if "WD_ERR_STALE_NONCE".toList <:+: e.text.toList then .staleNonce
  else .decode

def mapMatchErr : Error → Code
  | .rfqUnknown => .rfqUnknown
  | .windowOpen => .windowOpen
  | .priceStale => .priceStale
  | _ => .sign

variable {σ : Type} (X : Externals) (S : Snapshotter σ) (cfg : Config)

/-- `SignClient.Decrypt`. -/
def decrypt (a : Ambient) (ciphertext : Bytes) : Option Bytes :=
  if a.decryptUp then X.plaintextOf ciphertext else none

/-- `SignClient.Sign` passes on 65-byte answers only. -/
def signClient (a : Ambient) : SignerFunc := fun message =>
  (a.signPort message).bind fun sig => if sig.length = 65 then some sig else none

def decodeRfqID (data : Bytes) : Option Bytes32 :=
  if data.length = 32 then some (BitVec.ofNat 256 (ByteCodec.ofBE data)) else X.unpackRfqID data

/-- RFQ_SUBMIT: party identity comes from the envelope, and the plaintext must
name the same taker. -/
def handleRfqSubmit (a : Ambient) (df : DataFixed) (h : Handler σ) :
    Except Code (Payload × Handler σ) := do
  let (sender, ciphertext) ← orRevert (X.unpackEnvelope df.originalMessage) .decode
  let plaintext ← orRevert (decrypt X a ciphertext) .decrypt
  let depadded ← orRevert (depad plaintext cfg.padSize) .pad
  let rfq ← orRevert (X.decodeRfqPlaintext depadded) .decode
  revertIf (rfq.v ≠ 1) .decode
  revertIf (rfq.side ≠ ascii "SELL_FXRP") .side
  revertIf (isHexAddress rfq.taker = false) .decode
  revertIf (hexToAddress rfq.taker ≠ sender) .auth
  revertIf (rfq.xrplAddress.bytes = []) .decode
  let amount ← orRevert (readUint64 rfq.fxrpAmountRaw) .decode
  let limit ← orRevert (setString10 rfq.limitPriceUsdE18) .decode
  let rfqID := df.instructionID
  let (added, book) ← (h.book.addRFQ cfg.matcher rfqID sender amount (some limit) rfq.xrplAddress
    a.now cfg.rfqWindowSec cfg.rfqTTLSec).mapError mapAddRFQErr
  pure (.rfqAck (hashHex rfqID) added.windowEndsAt.unix.toUInt64,
    { book := book, chain := S.trackTaker sender h.chain })

/-- QUOTE_SUBMIT: nothing reaches the book without the maker's signature. -/
def handleQuoteSubmit (a : Ambient) (di : DirectInstruction) (h : Handler σ) :
    Except Code (Payload × Handler σ) := do
  let plaintext ← orRevert (decrypt X a di.message) .decrypt
  let depadded ← orRevert (depad plaintext cfg.padSize) .pad
  let q ← orRevert (X.decodeQuotePlaintext depadded) .decode
  revertIf (q.v ≠ 1) .decode
  revertIf (q.rfqID.length ≠ 66 ∨ isHexAddress q.maker = false) .decode
  let rfqID := hexToHash q.rfqID
  let maker := hexToAddress q.maker
  let price ← orRevert (setString10 q.priceUsdE18) .decode
  let maxSize ← orRevert (readUint64 q.maxFxrpRaw) .decode
  let nonce ← orRevert (readUint64 q.nonce) .decode
  revertIf (price ≤ 0) .decode
  let sig ← orRevert (decodeHex q.sig) .decode
  revertIf (sig.length ≠ 65) .decode
  revertIf (verifyQuoteSignature X.toLibraries cfg.chainID cfg.escrowAddr rfqID maker price
    maxSize.toNat nonce.toNat sig = false) .auth
  let (replaced, book) ←
    (h.book.upsertQuote rfqID maker price maxSize nonce a.now).mapError mapUpsertErr
  pure (.quoteAck (hashHex rfqID) true replaced,
    { book := book, chain := S.trackMaker maker h.chain })

/-- The snapshot RFQ_MATCH works with, for the participants it just read. -/
def matchSnap (a : Ambient) (rfqID : Bytes32) (h : Handler σ) : Except Code ChainSnapshot := do
  let (taker, makers) ← (h.book.participants a.makersOrder rfqID).mapError mapMatchErr
  pure (S.snapshot h.chain taker makers a.now)

def handleMatch (a : Ambient) (rfqID : Bytes32) (h : Handler σ) :
    Except Code (Payload × Handler σ) := do
  let snap ← matchSnap S a rfqID h
  let (outcome, book) ← (matchWithSigner X.toLibraries h.book cfg.matcher cfg.escrowAddr cfg.chainID
    (signClient a) a.quotesOrder rfqID snap a.now).mapError mapMatchErr
  pure (.matchResponse outcome, { h with book := book })

def handleMatchMessage (a : Ambient) (data : Bytes) (h : Handler σ) :
    Except Code (Payload × Handler σ) := do
  let rfqID ← orRevert (decodeRfqID X data) .decode
  handleMatch X S cfg a rfqID h

/-- `errResult` and `okResult`; only a success changes the handler. -/
def reply (opType opCommand : Bytes32) (h : Handler σ) :
    Except Code (Payload × Handler σ) → Result × Handler σ
  | .error code => ({ opType, opCommand, status := 0, data := none, log := code.text }, h)
  | .ok (data, h') => ({ opType, opCommand, status := 1, data := some data, log := "ok" }, h')

def handleInstruction (a : Ambient) (df : DataFixed) (h : Handler σ) : Result × Handler σ :=
  reply df.opType df.opCommand h <|
    if df.opCommand = rfqSubmit then handleRfqSubmit X S cfg a df h
    else if df.opCommand = rfqMatch then handleMatchMessage X S cfg a df.originalMessage h
    else .error .path

/-- The demo ingress wraps the message as an instruction whose id is its hash. -/
def asInstruction (di : DirectInstruction) : DataFixed where
  instructionID := X.keccak256 di.message
  opType := di.opType
  opCommand := di.opCommand
  originalMessage := di.message

def handleDirect (a : Ambient) (di : DirectInstruction) (h : Handler σ) : Result × Handler σ :=
  reply di.opType di.opCommand h <|
    if di.opCommand = quoteSubmit then handleQuoteSubmit X S cfg a di h
    else if di.opCommand = rfqMatch then
      if cfg.allowDirectMatch then handleMatchMessage X S cfg a di.message h else .error .path
    else if di.opCommand = rfqSubmit then
      if cfg.allowDirectRfq then handleRfqSubmit X S cfg a (asInstruction X di) h else .error .path
    else .error .path

end WhisperDesk.Fcewire
