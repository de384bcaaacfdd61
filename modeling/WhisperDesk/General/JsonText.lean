import WhisperDesk.General.ByteCodec

/-!
# JSON text of flat records

Objects whose members are natural numbers and strings, written without blanks, the members in
their order. Quotes, backslashes and control characters are escaped, all other bytes of a
UTF-8 string stand for themselves. A reader of such texts gives the record back.
-/
namespace JsonText

open ByteCodec

inductive Value where
  | number (n : Nat)
  | string (s : List UInt8)
  deriving DecidableEq

section Writing

/-- The byte behind the backslash, where there is a short escape. -/
def shortEscape (c : UInt8) : Option UInt8 :=
  if c = 0x22 ∨ c = 0x5C then some c
  else if c = 0x08 then some 0x62
  else if c = 0x09 then some 0x74
  else if c = 0x0A then some 0x6E
  else if c = 0x0C then some 0x66
  else if c = 0x0D then some 0x72
  else none

def escape (c : UInt8) : List UInt8 :=
  match shortEscape c with
  | some l => [0x5C, l]
  | none => if c < 0x20 then 0x5C :: 0x75 :: 0x30 :: 0x30 :: hexDigits [c] else [c]

def quote (s : List UInt8) : List UInt8 := 0x22 :: s.flatMap escape ++ [0x22]

def Value.text : Value → List UInt8
  | .number n => decimal n
  | .string s => quote s

def member (m : List UInt8 × Value) : List UInt8 := quote m.1 ++ 0x3A :: m.2.text

def object (members : List (List UInt8 × Value)) : List UInt8 :=
  0x7B :: List.intercalate [0x2C] (members.map member) ++ [0x7D]

end Writing

section Plain

/-- A printable ASCII character that is neither a quote nor a backslash. -/
def isPlain (c : UInt8) : Bool := 0x20 ≤ c ∧ c < 0x7F ∧ c ≠ 0x22 ∧ c ≠ 0x5C

def Plain (s : List UInt8) : Prop := ∀ c ∈ s, isPlain c = true

instance (s : List UInt8) : Decidable (Plain s) := List.decidableBAll (fun c => isPlain c = true) s

theorem Plain.cons {c : UInt8} {s : List UInt8} (hc : isPlain c = true) (hs : Plain s) : Plain (c :: s) :=
  List.forall_mem_cons.mpr ⟨hc, hs⟩

theorem escape_of_isPlain {c : UInt8} (h : isPlain c = true) : escape c = [c] := by
  simp only [isPlain, decide_eq_true_eq] at h
  obtain ⟨hlow, _, hquote, hback⟩ := h
  have hcontrol : ¬ c < 0x20 := UInt8.not_lt.mpr hlow
  have hshort : shortEscape c = none := by
    unfold shortEscape
    rw [if_neg (by simp [hquote, hback])]
    split_ifs with h₁ h₂ h₃ h₄ h₅
    all_goals first | rfl | exact absurd (by subst c; decide) hcontrol
  rw [escape, hshort]
  exact if_neg hcontrol

theorem quote_plain {s : List UInt8} (h : Plain s) : quote s = 0x22 :: s ++ [0x22] := by
  have hs : s.flatMap escape = s := by
    induction s with
    | nil => rfl
    | cons c s ih =>
      obtain ⟨hc, hs⟩ := List.forall_mem_cons.mp h
      rw [List.flatMap_cons, escape_of_isPlain hc, ih hs]
      rfl
  rw [quote, hs]

theorem length_member {key s : List UInt8} (hkey : Plain key) (hs : Plain s) :
    (member (key, .string s)).length = key.length + s.length + 5 := by
  simp only [member, Value.text, quote_plain hkey, quote_plain hs, List.length_append, List.length_cons,
    List.length_nil]
  omega

theorem length_object_le (members : List (List UInt8 × Value)) :
    (object members).length ≤ (members.map fun m => (member m).length + 1).sum + 2 := by
  have hjoined : (List.intercalate [0x2C] (members.map member)).length ≤
      (members.map fun m => (member m).length + 1).sum := by
    induction members with
    | nil => exact Nat.le_refl _
    | cons m ms ih =>
      cases ms with
      | nil => simp [List.intercalate]
      | cons m' ms =>
        simp only [List.intercalate, List.map_cons, List.intersperse_cons_cons, List.flatten_cons,
          List.length_append, List.length_singleton, List.sum_cons] at ih ⊢
        omega
  simp only [object, List.length_append, List.length_cons, List.length_nil]
  omega

theorem isPlain_of_digitValue {c : UInt8} (h : (digitValue c).isSome = true) : isPlain c = true := by
  have hc : 48 ≤ c.toNat ∧ c.toNat ≤ 57 := by
    unfold digitValue at h
    split at h
    · assumption
    · cases h
  simp only [isPlain, decide_eq_true_eq, UInt8.le_iff_toNat_le, UInt8.lt_iff_toNat_lt, ne_eq,
    ← UInt8.toNat_inj]
  simp only [UInt8.reduceToNat]
  omega

theorem plain_decimal (n : Nat) : Plain (decimal n) := fun c hc =>
  isPlain_of_digitValue (digits_decimal n c hc)

end Plain

section Reading

/-- The byte that a short escape stands for. -/
def unescape (l : UInt8) : Option UInt8 :=
  if l = 0x22 ∨ l = 0x5C then some l
  else if l = 0x62 then some 0x08
  else if l = 0x74 then some 0x09
  else if l = 0x6E then some 0x0A
  else if l = 0x66 then some 0x0C
  else if l = 0x72 then some 0x0D
  else none

/-- The two digits behind `u00`. -/
def readControl : List UInt8 → Option (UInt8 × List UInt8)
  | z :: z' :: hi :: lo :: rest =>
    if z = 0x30 ∧ z' = 0x30 then
      match hexValue hi, hexValue lo with
      | some h, some l => some (UInt8.ofNat (16 * h + l), rest)
      | _, _ => none
    else none
  | _ => none

/-- One byte of a string, behind a backslash. -/
def readEscape : List UInt8 → Option (UInt8 × List UInt8)
  | [] => none
  | l :: rest => if l = 0x75 then readControl rest else (unescape l).map (·, rest)

def readChar : List UInt8 → Option (UInt8 × List UInt8)
  | [] => none
  | c :: rest => if c = 0x5C then readEscape rest else if c < 0x20 then none else some (c, rest)

/-- A string up to its closing quote; `fuel` bounds its length. -/
def readChars : Nat → List UInt8 → Option (List UInt8 × List UInt8)
  | 0, _ => none
  | fuel + 1, s =>
    match s with
    | [] => none
    | c :: rest =>
      if c = 0x22 then some ([], rest)
      else do
        let (b, rest) ← readChar (c :: rest)
        let (bs, rest) ← readChars fuel rest
        pure (b :: bs, rest)

def expect (c : UInt8) : List UInt8 → Option (List UInt8)
  | [] => none
  | b :: rest => if b = c then some rest else none

def readString (s : List UInt8) : Option (List UInt8 × List UInt8) := do
  let rest ← expect 0x22 s
  readChars s.length rest

def readValue (s : List UInt8) : Option (Value × List UInt8) :=
  if s.head? = some 0x22 then (readString s).map fun (t, rest) => (.string t, rest)
  else
    let digits := s.takeWhile fun c => (digitValue c).isSome
    if digits = [] then none
    else (readDigits digits).map fun n => (.number n, s.drop digits.length)

def readMember (s : List UInt8) : Option ((List UInt8 × Value) × List UInt8) := do
  let (key, s) ← readString s
  let s ← expect 0x3A s
  let (value, s) ← readValue s
  pure ((key, value), s)

/-- Members up to the closing brace; `fuel` bounds their number. -/
def readMembers : Nat → List UInt8 → Option (List (List UInt8 × Value) × List UInt8)
  | 0, _ => none
  | fuel + 1, s => do
    let (m, s) ← readMember s
    match s with
    | [] => none
    | c :: rest =>
      if c = 0x7D then some ([m], rest)
      else if c = 0x2C then do
        let (ms, rest) ← readMembers fuel rest
        pure (m :: ms, rest)
      else none

/-- The members of an object that has some, and nothing behind it. -/
def readObject (s : List UInt8) : Option (List (List UInt8 × Value)) := do
  let rest ← expect 0x7B s
  let (members, rest) ← readMembers s.length rest
  if rest = [] then some members else none

end Reading

section RoundTrip

theorem readChar_plain {c : UInt8} (rest : List UInt8) (hescape : c ≠ 0x5C) (hcontrol : ¬ c < 0x20) :
    readChar (c :: rest) = some (c, rest) := by
  rw [readChar, if_neg hescape, if_neg hcontrol]

theorem unescape_shortEscape {c l : UInt8} (h : shortEscape c = some l) :
    l ≠ 0x75 ∧ unescape l = some c := by
  unfold shortEscape at h
  split_ifs at h with h₁ h₂ h₃ h₄ h₅ h₆ <;> obtain rfl := Option.some.inj h
  · rcases h₁ with rfl | rfl <;> decide
  all_goals subst c; decide

theorem readControl_hexDigits (c : UInt8) (rest : List UInt8) :
    readControl (0x30 :: 0x30 :: hexDigits [c] ++ rest) = some (c, rest) := by
  have hc : c.toNat < 256 := c.toNat_lt
  have hhi : hexValue (hexDigit (c.toNat / 16)) = some (c.toNat / 16) :=
    hexValue_hexDigit ⟨_, by omega⟩
  have hlo : hexValue (hexDigit (c.toNat % 16)) = some (c.toNat % 16) :=
    hexValue_hexDigit ⟨_, by omega⟩
  have hval : 16 * (c.toNat / 16) + c.toNat % 16 = c.toNat := Nat.div_add_mod c.toNat 16
  have hdigits : hexDigits [c] = [hexDigit (c.toNat / 16), hexDigit (c.toNat % 16)] := rfl
  simp only [hdigits, List.cons_append, List.nil_append, readControl, and_self, if_true, hhi, hlo,
    hval, UInt8.ofNat_toNat]

/-- A written byte never starts with a quote, and is read back. -/
theorem readChar_escape (c : UInt8) (rest : List UInt8) :
    readChar (escape c ++ rest) = some (c, rest) := by
  unfold escape
  cases hshort : shortEscape c with
  | some l =>
    obtain ⟨hu, hl⟩ := unescape_shortEscape hshort
    simp only [List.cons_append, List.nil_append, readChar, if_true, readEscape, if_neg hu, hl,
      Option.map_some]
  | none =>
    by_cases hcontrol : c < 0x20
    · simp only [if_pos hcontrol, List.cons_append, readChar, if_true, readEscape]
      exact readControl_hexDigits c rest
    · rw [if_neg hcontrol]
      refine readChar_plain rest ?_ hcontrol
      rintro rfl
      cases hshort

theorem head_escape (c : UInt8) : ∃ b rest, escape c = b :: rest ∧ b ≠ 0x22 := by
  unfold escape
  cases hshort : shortEscape c with
  | some l => exact ⟨_, _, rfl, by decide⟩
  | none =>
    by_cases hcontrol : c < 0x20
    · exact ⟨0x5C, 0x75 :: 0x30 :: 0x30 :: hexDigits [c], by simp only [if_pos hcontrol], by decide⟩
    · refine ⟨c, [], by simp only [if_neg hcontrol], ?_⟩
      rintro rfl
      cases hshort

theorem readChars_escape (s rest : List UInt8) (fuel : Nat) (hfuel : s.length < fuel) :
    readChars fuel (s.flatMap escape ++ 0x22 :: rest) = some (s, rest) := by
  induction s generalizing fuel with
  | nil =>
    obtain ⟨fuel, rfl⟩ := Nat.exists_eq_succ_of_ne_zero (show fuel ≠ 0 by omega)
    rfl
  | cons c s ih =>
    obtain ⟨fuel, rfl⟩ := Nat.exists_eq_succ_of_ne_zero (show fuel ≠ 0 by omega)
    obtain ⟨b, bs, hb, hquote⟩ := head_escape c
    have hread := readChar_escape c (s.flatMap escape ++ 0x22 :: rest)
    have htail := ih fuel (by simpa using hfuel)
    rw [hb, List.cons_append] at hread
    rw [List.flatMap_cons, hb, List.append_assoc, List.cons_append, readChars]
    simp only [if_neg hquote, hread, htail, Option.bind_eq_bind, Option.bind_some, Option.pure_def]

theorem length_le_escape (s : List UInt8) : s.length ≤ (s.flatMap escape).length := by
  induction s with
  | nil => exact Nat.le_refl _
  | cons c s ih =>
    obtain ⟨b, bs, hb, _⟩ := head_escape c
    simp only [List.flatMap_cons, hb, List.length_append, List.length_cons]
    omega

theorem readString_quote (s rest : List UInt8) : readString (quote s ++ rest) = some (s, rest) := by
  have hfuel := length_le_escape s
  simp only [readString, quote, List.cons_append, expect, if_true, Option.bind_eq_bind,
    Option.bind_some, List.append_assoc, List.nil_append]
  exact readChars_escape s rest _ (by simp only [List.length_cons, List.length_append]; omega)

/-- A number ends where something else than a digit follows. -/
theorem readValue_number (n : Nat) {c : UInt8} (rest : List UInt8) (hc : (digitValue c).isSome = false) :
    readValue (decimal n ++ c :: rest) = some (.number n, c :: rest) := by
  obtain ⟨d, ds, hd, hhead⟩ := head_decimalAux (Nat.log2 n) n
  have htake : (decimal n ++ c :: rest).takeWhile (fun b => (digitValue b).isSome) = decimal n := by
    rw [List.takeWhile_append_of_pos (digits_decimal n), List.takeWhile_cons_of_neg (by simp [hc]),
      List.append_nil]
  have hquote : (decimal n ++ c :: rest).head? ≠ some 0x22 := by
    rw [decimal, hhead]
    simpa using digit_ne d hd 0x22 (by decide)
  rw [readValue, if_neg hquote, htake]
  simp only [if_neg (show decimal n ≠ [] from decimalAux_ne_nil _ n), readDigits_decimal, Option.map_some,
    List.drop_left]

theorem readValue_text (v : Value) {c : UInt8} (rest : List UInt8) (hc : (digitValue c).isSome = false) :
    readValue (v.text ++ c :: rest) = some (v, c :: rest) := by
  cases v with
  | number n => exact readValue_number n rest hc
  | string s =>
    have hquote : (Value.text (.string s) ++ c :: rest).head? = some 0x22 := rfl
    rw [readValue, if_pos hquote, Value.text, readString_quote]
    rfl

theorem readMember_member (m : List UInt8 × Value) {c : UInt8} (rest : List UInt8)
    (hc : (digitValue c).isSome = false) : readMember (member m ++ c :: rest) = some (m, c :: rest) := by
  have hkey := readString_quote m.1 (0x3A :: (m.2.text ++ c :: rest))
  simp only [readMember, member, List.append_assoc, List.cons_append, hkey, Option.bind_eq_bind,
    Option.bind_some, expect, if_true, readValue_text m.2 rest hc, Option.pure_def]

theorem readMembers_intercalate (m : List UInt8 × Value) (ms : List (List UInt8 × Value))
    (rest : List UInt8) (fuel : Nat) (hfuel : ms.length < fuel) :
    readMembers fuel (List.intercalate [0x2C] ((m :: ms).map member) ++ 0x7D :: rest) =
      some (m :: ms, rest) := by
  induction ms generalizing m fuel with
  | nil =>
    obtain ⟨fuel, rfl⟩ := Nat.exists_eq_succ_of_ne_zero (show fuel ≠ 0 by omega)
    have hone : List.intercalate [0x2C] ([m].map member) = member m := by simp [List.intercalate]
    rw [hone, readMembers, readMember_member m rest (by decide)]
    rfl
  | cons m' ms ih =>
    obtain ⟨fuel, rfl⟩ := Nat.exists_eq_succ_of_ne_zero (show fuel ≠ 0 by omega)
    have hsplit : List.intercalate [0x2C] ((m :: m' :: ms).map member) =
        member m ++ 0x2C :: List.intercalate [0x2C] ((m' :: ms).map member) := by
      simp [List.intercalate]
    have hcomma : ¬ (0x2C : UInt8) = 0x7D := by decide
    rw [hsplit, List.append_assoc, List.cons_append, readMembers,
      readMember_member m _ (show (digitValue 0x2C).isSome = false by decide)]
    simp only [Option.bind_eq_bind, Option.bind_some, if_neg hcomma, if_true,
      ih m' fuel (by simpa using hfuel), Option.pure_def]

theorem length_le_intercalate (ms : List (List UInt8 × Value)) :
    ms.length ≤ (List.intercalate [0x2C] (ms.map member)).length := by
  have hmember (m : List UInt8 × Value) : 0 < (member m).length := by simp [member]
  induction ms with
  | nil => exact Nat.le_refl _
  | cons m ms ih =>
    cases ms with
    | nil =>
      have hone : List.intercalate [0x2C] ([m].map member) = member m := by simp [List.intercalate]
      rw [hone]
      exact hmember m
    | cons m' ms =>
      have hm := hmember m
      have hsplit : List.intercalate [0x2C] ((m :: m' :: ms).map member) =
          member m ++ 0x2C :: List.intercalate [0x2C] ((m' :: ms).map member) := by
        simp [List.intercalate]
      rw [hsplit]
      simp only [List.length_append, List.length_cons] at ih ⊢
      omega

/-- What is written of a record is read as the record. -/
theorem readObject_object (m : List UInt8 × Value) (ms : List (List UInt8 × Value)) :
    readObject (object (m :: ms)) = some (m :: ms) := by
  have hlength := length_le_intercalate (m :: ms)
  simp only [readObject, object, List.cons_append, expect, if_true, Option.bind_eq_bind,
    Option.bind_some]
  rw [readMembers_intercalate m ms [] _ (by
    simp only [List.length_cons, List.length_append] at hlength ⊢
    omega)]
  rfl

end RoundTrip

end JsonText
