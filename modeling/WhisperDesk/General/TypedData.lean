import WhisperDesk.General.AbiWords

/-!
# Typed structured data

The EIP-712 encoding of structs without nested ones: a struct is hashed as the hash of its type's
text and one word for each member, a text standing as its hash, and what is signed is the struct
under its domain.
-/
namespace TypedData

open AbiWords

inductive Value where
  | uint256 (n : BitVec 256)
  | address (a : BitVec 160)
  | bytes32 (b : BitVec 256)
  | string (s : List UInt8)

structure Struct where
  name : String
  members : List (String × Value)

variable (hash : List UInt8 → BitVec 256)

def text (s : String) : List UInt8 := s.toList.map fun c => UInt8.ofNat c.toNat

def Value.typeName : Value → String
  | .uint256 _ => "uint256"
  | .address _ => "address"
  | .bytes32 _ => "bytes32"
  | .string _ => "string"

/-- `Name(type1 name1,type2 name2)`, of members given by name and type. -/
def typeText (name : String) (members : List (String × String)) : List UInt8 :=
  text name ++ text "(" ++
    List.intercalate (text ",") (members.map fun m => text m.2 ++ text " " ++ text m.1) ++ text ")"

def Struct.encodeType (s : Struct) : List UInt8 :=
  typeText s.name (s.members.map fun m => (m.1, m.2.typeName))

/-- The number that a member's word holds. -/
def Value.encodeData : Value → Nat
  | .uint256 n => n.toNat
  | .address a => a.toNat
  | .bytes32 b => b.toNat
  | .string s => (hash s).toNat

def Struct.encodeData (s : Struct) : List UInt8 := words (s.members.map fun m => m.2.encodeData hash)

def Struct.preimage (s : Struct) : List UInt8 :=
  word (hash s.encodeType).toNat ++ s.encodeData hash

def Struct.hashStruct (s : Struct) : BitVec 256 := hash (s.preimage hash)

def message (domain s : Struct) : List UInt8 :=
  0x19 :: 0x01 :: word (domain.hashStruct hash).toNat ++ word (s.hashStruct hash).toNat

variable {hash}

/-- Two messages agree only if the hashes in them do. -/
theorem hashes_of_message {d d' s s' : BitVec 256}
    (h : (0x19 :: 0x01 :: word d.toNat ++ word s.toNat : List UInt8) =
      0x19 :: 0x01 :: word d'.toNat ++ word s'.toNat) : d = d' ∧ s = s' := by
  obtain ⟨hdomain, hstruct⟩ := List.append_inj h (by simp)
  have hwords := (List.cons.inj (List.cons.inj hdomain).2).2
  exact ⟨BitVec.eq_of_toNat_eq (word_injective d.isLt d'.isLt hwords),
    BitVec.eq_of_toNat_eq (word_injective s.isLt s'.isLt hstruct)⟩

/-- One field of any width, between words of a given number before and behind it. -/
theorem words_around {before before' after after' : List Nat} {x x' : List UInt8}
    (hbefore : before.length = before'.length) (hafter : after.length = after'.length)
    (h : words before ++ x ++ words after = words before' ++ x' ++ words after') :
    words before = words before' ∧ x = x' ∧ words after = words after' := by
  obtain ⟨hfront, hback⟩ := List.append_inj' h (by simp [hafter])
  obtain ⟨hfirst, hmiddle⟩ := List.append_inj hfront (by simp [hbefore])
  exact ⟨hfirst, hmiddle, hback⟩

end TypedData
