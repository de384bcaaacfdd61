import WhisperDesk.Contracts.Chain

/-!
# Go values

What the enclave's code takes from its runtime: `time.Time` and its 64-bit
durations, `big.Int` as decimal text and as bytes, and the hexadecimal text of
hashes and addresses. Writing a value and reading its text back loses nothing.
-/
namespace WhisperDesk.Go

open ByteCodec AbiWords

section Clock

/-- An instant, in nanoseconds since the Unix epoch. -/
structure Time where
  nanos : Int
  deriving DecidableEq

abbrev Duration := Int64

def second : Duration := 1000000000

/-- `time.Duration(n) * time.Second`, at 64 bits. -/
def seconds (n : Int64) : Duration := n * second

/-- `t.Sub(u)` saturates at the largest and the smallest duration. -/
def Time.sub (t u : Time) : Duration :=
  Int64.ofInt (max (-2 ^ 63) (min (2 ^ 63 - 1) (t.nanos - u.nanos)))

def Time.add (t : Time) (d : Duration) : Time := ⟨t.nanos + d.toInt⟩

def Time.before (t u : Time) : Bool := t.nanos < u.nanos

/-- Whole seconds since the epoch, rounded down. -/
def Time.unix (t : Time) : Int64 := Int64.ofInt (t.nanos / 1000000000)

theorem toNat_toUInt64 (x : Int64) : (x.toUInt64.toNat : Int) = x.toInt % 2 ^ 64 := by
  have h : x.toInt = (x.toUInt64.toNat : Int).bmod (2 ^ 64) := BitVec.toInt_eq_toNat_bmod _
  have hlt : x.toUInt64.toNat < 2 ^ 64 := x.toUInt64.toNat_lt
  have hmod : (x.toUInt64.toNat : Int).bmod (2 ^ 64) % ((2 ^ 64 : Nat) : Int) =
      (x.toUInt64.toNat : Int) % ((2 ^ 64 : Nat) : Int) := Int.bmod_emod
  rw [h]
  omega

/-- `uint64(t.Unix()) + n` wraps around only where `t.Unix() + n` is negative. -/
theorem toNat_unix_add {t : Time} {n : UInt64} (hn : n.toNat < 2 ^ 63)
    (h : 0 ≤ t.unix.toInt + n.toNat) :
    ((t.unix.toUInt64 + n).toNat : Int) = t.unix.toInt + n.toNat := by
  have hunix := toNat_toUInt64 t.unix
  have hmax := t.unix.toInt_lt
  have hmin := t.unix.le_toInt
  rw [UInt64.toNat_add]
  omega

end Clock

/-- A string that came from outside: its length is an `int`. -/
structure GoString where
  bytes : Bytes
  length_lt : bytes.length < 2 ^ 63
  deriving DecidableEq

section Integers

/-- `(*big.Int).String`. -/
def bigString (n : Int) : Bytes := if n < 0 then 0x2D :: decimal n.natAbs else decimal n.natAbs

def readNat (ds : Bytes) : Option Nat := if ds = [] then none else readDigits ds

/-- `(*big.Int).SetString(s, 10)`: an optional sign, then digits to the end. -/
def setString10 : Bytes → Option Int
  | [] => none
  | c :: ds =>
    if c = 0x2D then (readNat ds).map fun n : Nat => -(n : Int)
    else if c = 0x2B then (readNat ds).map fun n : Nat => (n : Int)
    else (readNat (c :: ds)).map fun n : Nat => (n : Int)

theorem readNat_decimal (n : Nat) : readNat (decimal n) = some n := by
  rw [readNat, if_neg (show decimal n ≠ [] from decimalAux_ne_nil _ n), readDigits_decimal]

theorem setString10_decimal (n : Nat) : setString10 (decimal n) = some (n : Int) := by
  obtain ⟨d, rest, hd, he⟩ := head_decimalAux (Nat.log2 n) n
  have hread := readNat_decimal n
  rw [decimal, he] at hread ⊢
  have hminus : digit d ≠ 0x2D := digit_ne d hd _ (by decide)
  have hplus : digit d ≠ 0x2B := digit_ne d hd _ (by decide)
  rw [setString10, if_neg hminus, if_neg hplus, hread]
  rfl

theorem setString10_bigString (n : Int) : setString10 (bigString n) = some n := by
  unfold bigString
  split
  · rw [setString10, if_pos rfl, readNat_decimal, Option.map_some]
    congr 1
    omega
  · rw [setString10_decimal]
    congr 1
    omega

/-- `(*big.Int).Bytes`: the absolute value, without leading zeros. -/
def bigBytes (n : Int) : Bytes :=
  if n = 0 then [] else beBytes (n.natAbs.log2 / 8 + 1) n.natAbs

/-- `common.LeftPadBytes(b, 32)`. -/
def leftPad32 (b : Bytes) : Bytes := List.replicate (32 - b.length) 0 ++ b

theorem leftPad32_bigBytes (n : Nat) (h : n < 2 ^ 256) : leftPad32 (bigBytes n) = word n := by
  by_cases hz : n = 0
  · subst n
    rfl
  · have hlog : n < 2 ^ (n.log2 + 1) := Nat.lt_log2_self
    have hexp : 2 ^ (n.log2 + 1) ≤ 2 ^ (8 * (n.log2 / 8 + 1)) :=
      Nat.pow_le_pow_right (by decide) (by omega)
    have hsize : n < 256 ^ (n.log2 / 8 + 1) := by
      rw [show (256 : Nat) = 2 ^ 8 from rfl, ← Nat.pow_mul]
      exact Nat.lt_of_lt_of_le hlog hexp
    have hlen : n.log2 < 256 := (Nat.log2_lt hz).mpr h
    rw [leftPad32, bigBytes, if_neg (by omega), Int.natAbs_natCast, length_beBytes, word,
      ← beBytes_add _ _ _ hsize]
    congr 1
    omega

end Integers

section Hexadecimal

/-- `common.Hash.Hex`. -/
def hashHex (h : Bytes32) : Bytes := 0x30 :: 0x78 :: hexDigits (beBytes 32 h.toNat)

def nibbles (bs : Bytes) : List Nat := bs.flatMap fun b => [b.toNat / 16, b.toNat % 16]

/-- A letter is capital when the hash nibble at its place is above seven. -/
def recase (c : UInt8) (n : Nat) : UInt8 := if c > 0x39 ∧ n > 7 then c - 32 else c

/-- `common.Address.Hex`, its letters cased by the hash of the lower-case text. -/
def addressHex (keccak256 : Bytes → Bytes32) (a : Address) : Bytes :=
  let digits := hexDigits (beBytes 20 a.toNat)
  let hash := nibbles (beBytes 32 (keccak256 digits).toNat)
  0x30 :: 0x78 :: List.zipWith recase digits hash

/-- Drop a leading `0x` or `0X`. -/
def trim0x : Bytes → Bytes
  | c :: x :: rest => if c = 0x30 ∧ (x = 0x78 ∨ x = 0x58) then rest else c :: x :: rest
  | s => s

/-- An odd text gets a leading zero; decoding stops at the first malformed pair. -/
def hexToBytes (s : Bytes) : Bytes := readHex (if s.length % 2 = 1 then 0x30 :: s else s)

/-- `common.FromHex`. -/
def fromHex (s : Bytes) : Bytes := hexToBytes (trim0x s)

/-- `common.HexToHash`: the last 32 bytes, which are the low 256 bits. -/
def hexToHash (s : Bytes) : Bytes32 := BitVec.ofNat 256 (ofBE (fromHex s))

def hexToAddress (s : Bytes) : Address := BitVec.ofNat 160 (ofBE (fromHex s))

def isHex (s : Bytes) : Bool := s.length % 2 = 0 ∧ s.all fun c => (hexValue c).isSome

/-- `common.IsHexAddress`. -/
def isHexAddress (s : Bytes) : Bool := (trim0x s).length = 40 ∧ isHex (trim0x s) = true

theorem trim0x_prefixed (s : Bytes) : trim0x (0x30 :: 0x78 :: s) = s := rfl

/-- Text that spells the same digits as `hexDigits bs` reads as `bs`. -/
theorem fromHex_of_sameHex {s bs : Bytes} (h : SameHex s (hexDigits bs)) :
    fromHex (0x30 :: 0x78 :: s) = bs := by
  have hlen : s.length % 2 ≠ 1 := by
    rw [h.length_eq, length_hexDigits]
    omega
  rw [fromHex, trim0x_prefixed, hexToBytes, if_neg hlen, readHex_of_sameHex h, readHex_hexDigits]

theorem hexToHash_hashHex (h : Bytes32) : hexToHash (hashHex h) = h := by
  have hlt : h.toNat < 256 ^ 32 := h.isLt
  rw [hexToHash, hashHex, fromHex_of_sameHex (List.forall₂_same.mpr fun _ _ => rfl),
    ofBE_beBytes_of_lt _ _ hlt, BitVec.ofNat_toNat, BitVec.setWidth_eq]

/-- Recasing letters leaves every digit's value alone. -/
theorem recase_value : ∀ n : Fin 16,
    hexValue (hexDigit n - 32) = some n.val ∨ ¬ hexDigit n > 0x39 := by decide

theorem sameHex_zipWith (bs : Bytes) (ns : List Nat) (hlen : (hexDigits bs).length ≤ ns.length) :
    SameHex (List.zipWith recase (hexDigits bs) ns) (hexDigits bs) := by
  have hdigit : ∀ c ∈ hexDigits bs, c > 0x39 → hexValue (c - 32) = hexValue c := by
    intro c hc hgt
    obtain ⟨n, hn, rfl⟩ := mem_hexDigits hc
    rcases recase_value ⟨n, hn⟩ with h | h
    · rw [h, hexValue_hexDigit ⟨n, hn⟩]
    · exact absurd hgt h
  generalize hexDigits bs = cs at hlen hdigit
  induction cs generalizing ns with
  | nil => exact .nil
  | cons c cs ih =>
    cases ns with
    | nil => simp at hlen
    | cons n ns =>
      refine .cons ?_ (ih ns (by simpa using hlen) fun c' hc' => hdigit c' (by simp [hc']))
      by_cases h : c > 0x39 ∧ n > 7
      · rw [recase, if_pos h]
        exact hdigit c (by simp) h.1
      · rw [recase, if_neg h]

theorem hexToAddress_addressHex (keccak256 : Bytes → Bytes32) (a : Address) :
    hexToAddress (addressHex keccak256 a) = a := by
  have hlt : a.toNat < 256 ^ 20 := Nat.lt_of_lt_of_le a.isLt (by decide)
  have hnibbles : ∀ bs : Bytes, (nibbles bs).length = 2 * bs.length := by
    intro bs
    induction bs with
    | nil => rfl
    | cons b bs ih =>
      simp only [nibbles, List.flatMap_cons, List.length_append, List.length_cons,
        List.length_nil] at ih ⊢
      omega
  rw [hexToAddress, addressHex, fromHex_of_sameHex (sameHex_zipWith _ _ _),
    ofBE_beBytes_of_lt _ _ hlt, BitVec.ofNat_toNat, BitVec.setWidth_eq]
  rw [length_hexDigits, hnibbles, length_beBytes, length_beBytes]
  decide

end Hexadecimal

end WhisperDesk.Go
