import Mathlib.Data.List.Induction
import Mathlib.Tactic.Ring
import Mathlib.Tactic.Linarith

/-!
# Big-endian, hexadecimal and decimal byte strings

Fixed-width big-endian words, two-digit hexadecimal and shortest decimal, each
with the reader that gives the written value back. Hexadecimal letters are read
in either case, so any re-casing of the written digits reads the same.
-/
namespace ByteCodec

/-- The `k` low-order bytes of `n`, most significant first. -/
def beBytes : Nat → Nat → List UInt8
  | 0, _ => []
  | k + 1, n => beBytes k (n / 256) ++ [UInt8.ofNat (n % 256)]

/-- The number a big-endian byte string spells. -/
def ofBE (bs : List UInt8) : Nat := bs.foldl (fun acc b => acc * 256 + b.toNat) 0

@[simp] theorem length_beBytes (k n : Nat) : (beBytes k n).length = k := by
  induction k generalizing n with
  | zero => rfl
  | succ k ih => simp [beBytes, ih]

@[simp] theorem ofBE_nil : ofBE [] = 0 := rfl

theorem ofBE_concat (bs : List UInt8) (b : UInt8) : ofBE (bs ++ [b]) = ofBE bs * 256 + b.toNat := by
  simp [ofBE]

theorem toNat_ofNat_mod (n : Nat) : (UInt8.ofNat (n % 256)).toNat = n % 256 := by
  simp

theorem ofBE_beBytes (k n : Nat) : ofBE (beBytes k n) = n % 256 ^ k := by
  induction k generalizing n with
  | zero => simp [beBytes, Nat.mod_one]
  | succ k ih =>
    rw [beBytes, ofBE_concat, ih, toNat_ofNat_mod, Nat.pow_succ, Nat.mul_comm (256 ^ k) 256,
      Nat.mod_mul]
    omega

theorem ofBE_beBytes_of_lt (k n : Nat) (h : n < 256 ^ k) : ofBE (beBytes k n) = n := by
  rw [ofBE_beBytes, Nat.mod_eq_of_lt h]

theorem beBytes_zero (k : Nat) : beBytes k 0 = List.replicate k 0 := by
  induction k with
  | zero => rfl
  | succ k ih =>
    rw [beBytes, Nat.zero_div, ih, List.replicate_succ']
    rfl

/-- A wider field holds the same bytes after leading zeros. -/
theorem beBytes_add (j k n : Nat) (h : n < 256 ^ k) :
    beBytes (j + k) n = List.replicate j 0 ++ beBytes k n := by
  induction k generalizing n with
  | zero =>
    have hn : n = 0 := by omega
    subst n
    simp [beBytes, beBytes_zero]
  | succ k ih =>
    rw [Nat.pow_succ] at h
    have hq : n / 256 < 256 ^ k := by omega
    rw [← Nat.add_assoc, beBytes, ih _ hq, beBytes, List.append_assoc]

section Hex

/-- The lower-case digit of a nibble. -/
def hexDigit (n : Nat) : UInt8 := UInt8.ofNat (if n < 10 then 48 + n else 87 + n)

/-- The value of a digit in either case. -/
def hexValue (b : UInt8) : Option Nat :=
  let n := b.toNat
  if 48 ≤ n ∧ n ≤ 57 then some (n - 48)
  else if 97 ≤ n ∧ n ≤ 102 then some (n - 87)
  else if 65 ≤ n ∧ n ≤ 70 then some (n - 55)
  else none

theorem hexValue_hexDigit : ∀ n : Fin 16, hexValue (hexDigit n) = some n.val := by decide

def hexDigits (bs : List UInt8) : List UInt8 :=
  bs.flatMap (fun b => [hexDigit (b.toNat / 16), hexDigit (b.toNat % 16)])

/-- Read pairs of digits; the bytes before the first malformed pair are kept. -/
def readHex : List UInt8 → List UInt8
  | hi :: lo :: rest =>
    match hexValue hi, hexValue lo with
    | some h, some l => UInt8.ofNat (16 * h + l) :: readHex rest
    | _, _ => []
  | _ => []

theorem length_readHex {digits : List UInt8} {n : Nat} (hlength : digits.length = 2 * n)
    (hdigits : (digits.all fun c => (hexValue c).isSome) = true) : (readHex digits).length = n := by
  induction n generalizing digits with
  | zero =>
    obtain rfl := List.length_eq_zero_iff.mp hlength
    rfl
  | succ n ih =>
    obtain ⟨hi, rest, rfl⟩ := List.exists_cons_of_length_eq_add_one hlength
    have hodd : rest.length = 2 * n + 1 := Nat.succ.inj hlength
    obtain ⟨lo, rest, rfl⟩ := List.exists_cons_of_length_eq_add_one hodd
    have heven : rest.length = 2 * n := Nat.succ.inj hodd
    simp only [List.all_cons, Bool.and_eq_true, Option.isSome_iff_exists] at hdigits
    obtain ⟨⟨h, hh⟩, ⟨l, hl⟩, hrest⟩ := hdigits
    simp only [readHex, hh, hl, List.length_cons, ih heven hrest]

@[simp] theorem length_hexDigits (bs : List UInt8) : (hexDigits bs).length = 2 * bs.length := by
  induction bs with
  | nil => rfl
  | cons b bs ih =>
    simp only [hexDigits, List.flatMap_cons, List.length_append, List.length_cons,
      List.length_nil] at ih ⊢
    omega

theorem mem_hexDigits {bs : List UInt8} {c : UInt8} (h : c ∈ hexDigits bs) :
    ∃ n, n < 16 ∧ c = hexDigit n := by
  obtain ⟨b, _, hc⟩ := List.mem_flatMap.mp h
  have hb : b.toNat < 256 := b.toNat_lt
  rcases List.mem_cons.mp hc with rfl | hc
  · exact ⟨b.toNat / 16, by omega, rfl⟩
  · rw [List.mem_singleton] at hc
    exact ⟨b.toNat % 16, by omega, hc⟩

/-- Two digit strings that read the same, digit by digit. -/
def SameHex (xs ys : List UInt8) : Prop := List.Forall₂ (fun a b => hexValue a = hexValue b) xs ys

theorem readHex_of_sameHex {xs ys : List UInt8} (h : SameHex xs ys) : readHex xs = readHex ys := by
  induction xs using readHex.induct generalizing ys with
  | case1 hi lo rest hh hl h₁ h₂ ih =>
    obtain _ | ⟨ha, _ | ⟨hb, hrest⟩⟩ := h
    simp only [readHex, ← ha, ← hb, h₁, h₂, ih hrest]
  | case2 hi lo rest hnone =>
    obtain _ | ⟨ha, _ | ⟨hb, hrest⟩⟩ := h
    simp only [readHex, ← ha, ← hb]
  | case3 t ht =>
    cases h with
    | nil => rfl
    | cons ha hrest =>
      cases hrest with
      | nil => rfl
      | cons hb hrest => exact absurd rfl (ht _ _ _)

theorem readHex_hexDigits (bs : List UInt8) : readHex (hexDigits bs) = bs := by
  induction bs with
  | nil => rfl
  | cons b bs ih =>
    have hb : b.toNat < 256 := b.toNat_lt
    have hhi : hexValue (hexDigit (b.toNat / 16)) = some (b.toNat / 16) :=
      hexValue_hexDigit ⟨_, by omega⟩
    have hlo : hexValue (hexDigit (b.toNat % 16)) = some (b.toNat % 16) :=
      hexValue_hexDigit ⟨_, by omega⟩
    have hval : 16 * (b.toNat / 16) + b.toNat % 16 = b.toNat := Nat.div_add_mod b.toNat 16
    have hcons : hexDigits (b :: bs) =
        hexDigit (b.toNat / 16) :: hexDigit (b.toNat % 16) :: hexDigits bs := rfl
    rw [hcons]
    simp only [readHex, hhi, hlo, hval, ih, UInt8.ofNat_toNat]

end Hex

section Decimal

def digit (n : Nat) : UInt8 := UInt8.ofNat (48 + n)

/-- Decimal digits of `n`; `fuel` bounds how many are written. -/
def decimalAux : Nat → Nat → List UInt8
  | 0, _ => []
  | fuel + 1, n => if n < 10 then [digit n] else decimalAux fuel (n / 10) ++ [digit (n % 10)]

def decimal (n : Nat) : List UInt8 := decimalAux (Nat.log2 n + 1) n

def digitValue (b : UInt8) : Option Nat :=
  if 48 ≤ b.toNat ∧ b.toNat ≤ 57 then some (b.toNat - 48) else none

/-- The value of a digit string, `none` at the first non-digit. -/
def readDigits (bs : List UInt8) : Option Nat :=
  bs.foldl (fun acc b => acc.bind fun v => (digitValue b).map (v * 10 + ·)) (some 0)

theorem digitValue_digit {n : Nat} (h : n < 10) : digitValue (digit n) = some n := by
  have hn : (digit n).toNat = 48 + n := by
    simp only [digit, UInt8.toNat_ofNat']
    omega
  simp only [digitValue, hn]
  rw [if_pos (by omega)]
  congr 1
  omega

theorem readDigits_concat (bs : List UInt8) (b : UInt8) :
    readDigits (bs ++ [b]) = (readDigits bs).bind fun v => (digitValue b).map (v * 10 + ·) := by
  simp [readDigits]

theorem readDigits_decimalAux (fuel n : Nat) (h : n < 10 ^ fuel) :
    readDigits (decimalAux fuel n) = some n := by
  induction fuel generalizing n with
  | zero =>
    have hn : n = 0 := by omega
    subst n
    rfl
  | succ fuel ih =>
    rw [Nat.pow_succ] at h
    simp only [decimalAux]
    split
    · rename_i hlt
      simp [readDigits, digitValue_digit hlt]
    · rw [readDigits_concat, ih (n / 10) (by omega), digitValue_digit (Nat.mod_lt _ (by decide))]
      simp only [Option.bind_some, Option.map_some, Option.some.injEq]
      omega

theorem readDigits_decimal (n : Nat) : readDigits (decimal n) = some n := by
  apply readDigits_decimalAux
  have h2 : n < 2 ^ (Nat.log2 n + 1) := Nat.lt_log2_self
  have h10 : 2 ^ (Nat.log2 n + 1) ≤ 10 ^ (Nat.log2 n + 1) := Nat.pow_le_pow_left (by decide) _
  omega

theorem decimalAux_ne_nil (fuel n : Nat) : decimalAux (fuel + 1) n ≠ [] := by
  simp only [decimalAux]
  split <;> simp

theorem digit_ne (n : Nat) (h : n < 10) (c : UInt8) (hc : c.toNat < 48) : digit n ≠ c := by
  intro he
  have hn : (digit n).toNat = 48 + n := by
    simp only [digit, UInt8.toNat_ofNat']
    omega
  rw [he] at hn
  omega

/-- A written number starts with a digit, never with a sign. -/
theorem head_decimalAux (fuel n : Nat) : ∃ d rest, d < 10 ∧ decimalAux (fuel + 1) n = digit d :: rest := by
  induction fuel generalizing n with
  | zero =>
    by_cases h : n < 10
    · exact ⟨n, [], h, by simp [decimalAux, h]⟩
    · exact ⟨n % 10, [], Nat.mod_lt _ (by decide), by simp [decimalAux, h]⟩
  | succ fuel ih =>
    by_cases h : n < 10
    · exact ⟨n, [], h, by simp [decimalAux, h]⟩
    · obtain ⟨d, rest, hd, he⟩ := ih (n / 10)
      refine ⟨d, rest ++ [digit (n % 10)], hd, ?_⟩
      rw [decimalAux, if_neg h, he]
      rfl

theorem digits_decimalAux (fuel n : Nat) : ∀ c ∈ decimalAux fuel n, (digitValue c).isSome = true := by
  have hdigit {m : Nat} (hm : m < 10) : (digitValue (digit m)).isSome = true := by
    rw [digitValue_digit hm]
    rfl
  induction fuel generalizing n with
  | zero => simp [decimalAux]
  | succ fuel ih =>
    intro c hc
    simp only [decimalAux] at hc
    split at hc
    · rename_i hlt
      rw [List.mem_singleton.mp hc, hdigit hlt]
    · rcases List.mem_append.mp hc with hc | hc
      · exact ih _ c hc
      · rw [List.mem_singleton.mp hc, hdigit (Nat.mod_lt _ (by decide))]

theorem digits_decimal (n : Nat) : ∀ c ∈ decimal n, (digitValue c).isSome = true :=
  digits_decimalAux _ n

theorem length_decimalAux_le (fuel k n : Nat) (h : n < 10 ^ (k + 1)) :
    (decimalAux fuel n).length ≤ k + 1 := by
  induction fuel generalizing k n with
  | zero => exact Nat.zero_le _
  | succ fuel ih =>
    simp only [decimalAux]
    split
    · simp
    · rename_i hlarge
      obtain ⟨k, rfl⟩ : ∃ j, k = j + 1 := by
        cases k with
        | zero => omega
        | succ j => exact ⟨j, rfl⟩
      rw [Nat.pow_succ] at h
      have hrest := ih k (n / 10) (by omega)
      simp only [List.length_append, List.length_singleton]
      omega

theorem length_decimal_le {n : Nat} (k : Nat) (h : n < 10 ^ (k + 1)) : (decimal n).length ≤ k + 1 :=
  length_decimalAux_le _ k n h

end Decimal

end ByteCodec
