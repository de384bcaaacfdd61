import WhisperDesk.General.JsonText
import WhisperDesk.Enclave.DirectOrder

/-!
# wdClient.ts: sealing

The server writes an order or a quote as JSON and has `wd-client` seal it: padded with spaces
to the one size of all plaintexts, encrypted under the key that the enclave publishes, printed
as hex. What the enclave opens is the text that was written, and what it decodes are the values
that were put in.
-/
namespace WhisperDesk.Web

open ByteCodec
open Reverting
open JsonText (Plain)
open Go (GoString addressHex hexToAddress hexToAddress_addressHex isHexAddress setString10
  setString10_decimal)
open Fcewire (ascii Externals RfqPlaintext QuotePlaintext depad readUint64)

section Client

/-- `wire.PadSize`. -/
def padSize : Nat := 512

/-- `wire.Pad`. -/
def pad (plaintext : Bytes) : Option Bytes :=
  if plaintext.length > padSize then none
  else some (plaintext ++ List.replicate (padSize - plaintext.length) 0x20)

/-- Why there is no ciphertext: a plaintext that does not fit, an enclave that publishes no key, or
an output that is no hex. -/
inductive ClientError where
  | tooLong (length : Nat)
  | unsealed
  | unexpectedOutput
  deriving DecidableEq, Repr

def ClientError.text : ClientError → String
  | .tooLong length =>
    "wd-client encrypt exited 1: wd-client encrypt: wire: Pad: plaintext is " ++ toString length ++
      " bytes, exceeds WD_PAD_SIZE=" ++ toString padSize
  | .unsealed => "wd-client encrypt exited 1: wd-client encrypt: "
  | .unexpectedOutput => "wd-client encrypt: unexpected output (not a 0x-hex ciphertext)"

variable (sealer : Bytes → Option Bytes)

/-- What `wd-client encrypt -` prints for what it reads; `sealer` encrypts under the enclave's key. -/
def runEncrypt (raw : Bytes) : Except ClientError Bytes := do
  let plaintext ← orRevert (pad raw) (.tooLong raw.length)
  let ciphertext ← orRevert (sealer plaintext) .unsealed
  pure (0x30 :: 0x78 :: hexDigits ciphertext)

/-- `/^0x[0-9a-fA-F]+$/`. -/
def isHexBlob (s : Bytes) : Bool :=
  s.take 2 = [0x30, 0x78] ∧ s.drop 2 ≠ [] ∧ ((s.drop 2).all fun c => (hexValue c).isSome) = true

def wdEncrypt (plaintext : List (Bytes × JsonText.Value)) : Except ClientError Bytes := do
  let out ← runEncrypt sealer (JsonText.object plaintext)
  revertIf (isHexBlob out = false) .unexpectedOutput
  pure out

/-- The bytes that a wallet reads a hex text as. -/
def getBytes (text : Bytes) : Bytes := readHex (text.drop 2)

end Client

section Plaintexts

/-- The plaintext of an RFQ, as it is given to `JSON.stringify`. -/
def rfqPlaintext (taker fxrpAmountRaw limitPriceUsdE18 xrplAddress : Bytes) :
    List (Bytes × JsonText.Value) :=
  [(ascii "v", .number 1), (ascii "taker", .string taker), (ascii "side", .string (ascii "SELL_FXRP")),
    (ascii "fxrpAmountRaw", .string fxrpAmountRaw),
    (ascii "limitPriceUsdE18", .string limitPriceUsdE18), (ascii "xrplAddress", .string xrplAddress)]

/-- The plaintext of a quote. -/
def quotePlaintext (rfqId maker priceUsdE18 maxFxrpRaw nonce sig : Bytes) :
    List (Bytes × JsonText.Value) :=
  [(ascii "v", .number 1), (ascii "rfqId", .string rfqId), (ascii "maker", .string maker),
    (ascii "priceUsdE18", .string priceUsdE18), (ascii "maxFxrpRaw", .string maxFxrpRaw),
    (ascii "nonce", .string nonce), (ascii "sig", .string sig)]

/-- Go's decoder, over texts without escapes: each member goes to the field with its tag. -/
structure ReadsJson (X : Externals) : Prop where
  rfq : ∀ taker amount limit (address : GoString), Plain taker → Plain amount → Plain limit →
    Plain address.bytes →
    X.decodeRfqPlaintext (JsonText.object (rfqPlaintext taker amount limit address.bytes)) =
      some ⟨1, taker, ascii "SELL_FXRP", amount, limit, address⟩
  quote : ∀ rfqID maker price max nonce sig, Plain rfqID → Plain maker → Plain price → Plain max →
    Plain nonce → Plain sig →
    X.decodeQuotePlaintext (JsonText.object (quotePlaintext rfqID maker price max nonce sig)) =
      some ⟨1, rfqID, maker, price, max, nonce, sig⟩

/-- Decryption in the enclave undoes encryption under its key. -/
def Unseals (X : Externals) (sealer : Bytes → Option Bytes) : Prop :=
  ∀ plaintext ciphertext, sealer plaintext = some ciphertext → X.plaintextOf ciphertext = some plaintext

end Plaintexts

section Sizes

/-- The text of a member with a literal key. -/
theorem length_member (key : String) (n : Nat) (hkey : Plain (ascii key) ∧ (ascii key).length = n) {s : Bytes}
    (hs : Plain s) : (JsonText.member (ascii key, .string s)).length = n + s.length + 5 := by
  rw [JsonText.length_member hkey.1 hs, hkey.2]

theorem length_version : (JsonText.member (ascii "v", .number 1)).length = 5 := by decide

end Sizes

section Opening

variable {sealer : Bytes → Option Bytes} {X : Externals} {plaintext : List (Bytes × JsonText.Value)}
  {text out : Bytes}

theorem pad_eq_some {raw padded : Bytes} : pad raw = some padded ↔
    raw.length ≤ padSize ∧ padded = raw ++ List.replicate (padSize - raw.length) 0x20 := by
  unfold pad
  split
  · rename_i hlong
    simp only [reduceCtorEq, false_iff, not_and]
    omega
  · rename_i hfits
    simp only [Option.some.injEq, eq_comm, Nat.not_lt.mp hfits, true_and]

theorem rdropWhile_replicate (raw : Bytes) (n : Nat) (h : raw.getLast? ≠ some 0x20) :
    (raw ++ List.replicate n 0x20).rdropWhile (· = 0x20) = raw := by
  induction n with
  | zero =>
    rw [List.replicate_zero, List.append_nil]
    induction raw using List.reverseRecOn with
    | nil => rfl
    | append_singleton raw c _ =>
      rw [List.rdropWhile_concat_neg]
      simpa using h
  | succ n ih =>
    rw [List.replicate_succ', ← List.append_assoc, List.rdropWhile_concat_pos _ _ _ (by simp), ih]

/-- The padding comes off again, since JSON text ends with its brace. -/
theorem depad_pad {raw padded : Bytes} (hpad : pad raw = some padded) (h : raw.getLast? ≠ some 0x20) :
    depad padded padSize = some raw := by
  obtain ⟨hfits, rfl⟩ := pad_eq_some.mp hpad
  have hlength : (raw ++ List.replicate (padSize - raw.length) 0x20).length = padSize := by
    rw [List.length_append, List.length_replicate]
    omega
  rw [depad, if_pos hlength, rdropWhile_replicate raw _ h]

theorem getLast_object (members : List (Bytes × JsonText.Value)) :
    (JsonText.object members).getLast? ≠ some 0x20 := by
  rw [JsonText.object, List.getLast?_concat]
  decide

theorem getBytes_hexDigits (bytes : Bytes) : getBytes (0x30 :: 0x78 :: hexDigits bytes) = bytes :=
  readHex_hexDigits bytes

theorem wdEncrypt_eq_ok (hok : wdEncrypt sealer plaintext = .ok out) :
    ∃ padded ciphertext, pad (JsonText.object plaintext) = some padded ∧
      sealer padded = some ciphertext ∧ out = 0x30 :: 0x78 :: hexDigits ciphertext := by
  simp only [wdEncrypt, runEncrypt, bind_eq_ok, orRevert_eq_ok, revertIf_eq_ok, pure_eq_ok] at hok
  obtain ⟨_, ⟨padded, hpad, ciphertext, hsealed, rfl⟩, _, _, rfl⟩ := hok
  exact ⟨padded, ciphertext, hpad, hsealed, rfl⟩

theorem padSize_lt_of_tooLong {n : Nat} (herror : wdEncrypt sealer plaintext = .error (.tooLong n)) :
    padSize < (JsonText.object plaintext).length := by
  by_contra hfits
  have hpad := pad_eq_some.mpr ⟨Nat.not_lt.mp hfits, rfl⟩
  simp only [wdEncrypt, runEncrypt, hpad, orRevert, bind, Except.bind] at herror
  cases hsealed : sealer (JsonText.object plaintext ++
      List.replicate (padSize - (JsonText.object plaintext).length) 0x20) with
  | none =>
    rw [hsealed] at herror
    cases herror
  | some ciphertext =>
    rw [hsealed] at herror
    simp only [revertIf, pure, Except.pure] at herror
    split_ifs at herror
    cases herror

/-- What was sealed is a plaintext of the one size all of them have, with the JSON in front. -/
theorem opens_wdEncrypt (hunseals : Unseals X sealer) (hok : wdEncrypt sealer plaintext = .ok out) :
    ∃ padded, X.plaintextOf (getBytes out) = some padded ∧ padded.length = padSize ∧
      depad padded padSize = some (JsonText.object plaintext) := by
  obtain ⟨padded, ciphertext, hpad, hsealed, rfl⟩ := wdEncrypt_eq_ok hok
  have hdepad := depad_pad hpad (getLast_object plaintext)
  refine ⟨padded, ?_, ?_, hdepad⟩
  · rw [getBytes_hexDigits]
    exact hunseals _ _ hsealed
  · unfold depad at hdepad
    split at hdepad
    · assumption
    · cases hdepad

end Opening

section Texts

variable {keccak256 : Bytes → Bytes32} (account : Address)

theorem length_nibbles (bs : Bytes) : (Go.nibbles bs).length = 2 * bs.length := by
  induction bs with
  | nil => rfl
  | cons b bs ih =>
    simp only [Go.nibbles, List.flatMap_cons, List.length_append, List.length_cons,
      List.length_nil] at ih ⊢
    omega

variable (keccak256) in
/-- The digits of an address are recased, each for itself. -/
theorem addressHex_eq : ∃ digits, addressHex keccak256 account = 0x30 :: 0x78 :: digits ∧
    digits.length = 40 ∧ SameHex digits (hexDigits (beBytes 20 account.toNat)) ∧ Plain digits := by
  let digits := hexDigits (beBytes 20 account.toNat)
  let hash := Go.nibbles (beBytes 32 (keccak256 digits).toNat)
  have hdigits : digits.length = 40 := by rw [length_hexDigits, length_beBytes]
  have hhash : hash.length = 64 := by rw [length_nibbles, length_beBytes]
  refine ⟨List.zipWith Go.recase digits hash, rfl, ?_, Go.sameHex_zipWith _ _ ?_, ?_⟩
  · rw [List.length_zipWith]
    omega
  · exact hdigits.trans_le (by rw [hhash]; decide)
  · intro c hc
    obtain ⟨i, hi, rfl⟩ := List.mem_iff_getElem.mp hc
    rw [List.getElem_zipWith]
    have hi' : i < digits.length := by
      rw [List.length_zipWith] at hi
      omega
    have hmem : digits[i] ∈ digits := List.getElem_mem _
    obtain ⟨n, hn, hdigit⟩ := mem_hexDigits hmem
    have hcases : ∀ m : Fin 16, JsonText.isPlain (hexDigit m) = true ∧
        (hexDigit m > 0x39 → JsonText.isPlain (hexDigit m - 32) = true) := by decide
    obtain ⟨hsame, hrecased⟩ := hcases ⟨n, hn⟩
    rw [hdigit]
    unfold Go.recase
    split
    · rename_i h
      exact hrecased h.1
    · exact hsame

theorem plain_addressHex : Plain (addressHex keccak256 account) := by
  obtain ⟨digits, htext, _, _, hplain⟩ := addressHex_eq keccak256 account
  rw [htext]
  exact .cons (by decide) (.cons (by decide) hplain)

theorem length_addressHex : (addressHex keccak256 account).length = 42 := by
  obtain ⟨digits, htext, hlength, _⟩ := addressHex_eq keccak256 account
  rw [htext, List.length_cons, List.length_cons, hlength]

theorem isHexAddress_addressHex : isHexAddress (addressHex keccak256 account) = true := by
  obtain ⟨digits, htext, hlength, hhex, _⟩ := addressHex_eq keccak256 account
  have hall : (digits.all fun c => (hexValue c).isSome) = true := by
    rw [List.all_eq_true]
    intro c hc
    obtain ⟨i, hi, rfl⟩ := List.mem_iff_getElem.mp hc
    have hsame := (List.forall₂_iff_get.mp hhex).2 i hi (by rw [← hhex.length_eq]; exact hi)
    simp only [List.get_eq_getElem] at hsame
    rw [hsame]
    obtain ⟨n, hn, hdigit⟩ := mem_hexDigits (List.getElem_mem (by rw [← hhex.length_eq]; exact hi))
    rw [hdigit, hexValue_hexDigit ⟨n, hn⟩]
    rfl
  rw [isHexAddress, htext, Go.trim0x_prefixed]
  simp only [hlength, Go.isHex, hall, decide_eq_true_eq]
  decide

end Texts

/-! A decoder of flat records, as lenient with missing members and as strict with unknown ones as
Go's, and a cipher that puts one byte in front. -/
namespace SampleSealing

abbrev Members := List (Bytes × JsonText.Value)

def stringAt (members : Members) (key : String) : Bytes :=
  match members.lookup (ascii key) with
  | some (.string s) => s
  | _ => []

def numberAt (members : Members) (key : String) : Int :=
  match members.lookup (ascii key) with
  | some (.number n) => n
  | _ => 0

def knows (members : Members) (keys : List String) : Bool :=
  members.all fun m => (keys.map ascii).contains m.1

def decodeRfqPlaintext (body : Bytes) : Option RfqPlaintext := do
  let members ← JsonText.readObject body
  let address := stringAt members "xrplAddress"
  if h : address.length < 2 ^ 63 then
    if knows members ["v", "taker", "side", "fxrpAmountRaw", "limitPriceUsdE18", "xrplAddress"] then
      some ⟨numberAt members "v", stringAt members "taker", stringAt members "side",
        stringAt members "fxrpAmountRaw", stringAt members "limitPriceUsdE18", ⟨address, h⟩⟩
    else none
  else none

def decodeQuotePlaintext (body : Bytes) : Option QuotePlaintext := do
  let members ← JsonText.readObject body
  if knows members ["v", "rfqId", "maker", "priceUsdE18", "maxFxrpRaw", "nonce", "sig"] then
    some ⟨numberAt members "v", stringAt members "rfqId", stringAt members "maker",
      stringAt members "priceUsdE18", stringAt members "maxFxrpRaw", stringAt members "nonce",
      stringAt members "sig"⟩
  else none

def externals : Externals :=
  { Fcewire.SampleDesk.externals with
    decodeRfqPlaintext := decodeRfqPlaintext
    decodeQuotePlaintext := decodeQuotePlaintext }

def sealer (plaintext : Bytes) : Option Bytes := some (0x04 :: plaintext)

theorem unseals : Unseals externals sealer := by
  rintro plaintext _ ⟨⟩
  rfl

theorem readsJson : ReadsJson externals where
  rfq taker amount limit address _ _ _ _ := by
    have hread := JsonText.readObject_object (ascii "v", .number 1)
      (rfqPlaintext taker amount limit address.bytes).tail
    have haddress : stringAt (rfqPlaintext taker amount limit address.bytes) "xrplAddress" =
        address.bytes := rfl
    have hknows : knows (rfqPlaintext taker amount limit address.bytes)
        ["v", "taker", "side", "fxrpAmountRaw", "limitPriceUsdE18", "xrplAddress"] = true := rfl
    simp only [externals, decodeRfqPlaintext]
    rw [show JsonText.readObject (JsonText.object (rfqPlaintext taker amount limit address.bytes)) =
      some (rfqPlaintext taker amount limit address.bytes) from hread]
    simp only [bind, Option.bind_some, haddress, dif_pos address.length_lt, hknows, if_true]
    rfl
  quote rfqID maker price max nonce sig _ _ _ _ _ _ := by
    have hread := JsonText.readObject_object (ascii "v", .number 1)
      (quotePlaintext rfqID maker price max nonce sig).tail
    have hknows : knows (quotePlaintext rfqID maker price max nonce sig)
        ["v", "rfqId", "maker", "priceUsdE18", "maxFxrpRaw", "nonce", "sig"] = true := rfl
    simp only [externals, decodeQuotePlaintext]
    rw [show JsonText.readObject (JsonText.object (quotePlaintext rfqID maker price max nonce sig)) =
      some (quotePlaintext rfqID maker price max nonce sig) from hread]
    simp only [bind, Option.bind_some, hknows, if_true]
    rfl

end SampleSealing

end WhisperDesk.Web
