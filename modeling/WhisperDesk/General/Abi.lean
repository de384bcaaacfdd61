import WhisperDesk.General.AbiWords

/-!
# The contract ABI

Head and tail of the contract ABI for unsigned integers, byte strings and
nested tuples of them. A tuple puts the bytes of its static fields into its
head, and for a dynamic field an offset there and the bytes behind all heads.
Offsets count from the start of the tuple they stand in.
-/
namespace Abi

open AbiWords

/-- A value, with the bit width of its type where it is an integer. An address
is one of 160 bits, a `bytes32` one of 256; a `string` is its bytes. -/
inductive Value where
  | uint (bits n : Nat)
  | string (bytes : List UInt8)
  | tuple (fields : List Value)

mutual

/-- A string is dynamic, and so is a tuple with a dynamic field. -/
def Value.isDynamic : Value → Bool
  | .uint _ _ => false
  | .string _ => true
  | .tuple fields => anyDynamic fields

def anyDynamic : List Value → Bool
  | [] => false
  | v :: vs => v.isDynamic || anyDynamic vs

end

mutual

/-- The bytes a value takes up in the head of the tuple it stands in. -/
def Value.width : Value → Nat
  | .uint _ _ => 32
  | .string _ => 32
  | .tuple fields => if anyDynamic fields then 32 else headWidth fields

def headWidth : List Value → Nat
  | [] => 0
  | v :: vs => v.width + headWidth vs

end

mutual

/-- The bytes of a value, wherever they go. -/
def Value.body : Value → List UInt8
  | .uint _ n => word n
  | .string bytes => word bytes.length ++ padRight bytes
  | .tuple fields => head (headWidth fields) fields ++ tails fields

/-- The head, when the first bytes behind it start at `offset`. -/
def head (offset : Nat) : List Value → List UInt8
  | [] => []
  | v :: vs =>
    if v.isDynamic then word offset ++ head (offset + v.body.length) vs
    else v.body ++ head offset vs

def tails : List Value → List UInt8
  | [] => []
  | v :: vs => if v.isDynamic then v.body ++ tails vs else tails vs

end

/-- The encoding of an argument list. -/
def encode (vs : List Value) : List UInt8 := (Value.tuple vs).body

mutual

/-- Every integer fits its type. -/
def Value.InRange : Value → Prop
  | .uint bits n => n < 2 ^ bits
  | .string bytes => bytes.length < wordSize
  | .tuple fields => AllInRange fields

def AllInRange : List Value → Prop
  | [] => True
  | v :: vs => v.InRange ∧ AllInRange vs

end

/-- A dynamic tuple as the only argument: its fields behind the offset 0x20. -/
theorem encode_tuple {fields : List Value} (h : anyDynamic fields = true) :
    encode [.tuple fields] = word 0x20 ++ encode fields := by
  simp [encode, Value.body, head, tails, headWidth, Value.width, Value.isDynamic, h]

theorem tails_uints (bits : Nat) (ns : List Nat) : tails (ns.map (Value.uint bits)) = [] := by
  induction ns with
  | nil => rfl
  | cons n ns ih => simpa [tails, Value.isDynamic] using ih

theorem head_uints (bits offset : Nat) (ns : List Nat) :
    head offset (ns.map (Value.uint bits)) = words ns := by
  induction ns with
  | nil => rfl
  | cons n ns ih => simp [head, Value.isDynamic, Value.body, ih]

/-- Integers only: the encoding is their words. -/
theorem encode_uints (bits : Nat) (ns : List Nat) :
    encode (ns.map (Value.uint bits)) = words ns := by
  rw [encode, Value.body, head_uints, tails_uints, List.append_nil]

end Abi
