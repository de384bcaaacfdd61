import WhisperDesk.General.Abi
import WhisperDesk.Contracts.Chain

/-!
# WhisperDeskInstructionSender

The contract that hands sealed RFQs and match triggers to the enclave. The two
registries it calls are Flare's; they are parameters over a state of their own
that anybody else may change between two calls.
-/
namespace WhisperDesk.InstructionSender

open Reverting
open AbiWords

def OP_TYPE_WD_RFQ : Bytes32 := bytes32OfAscii "WD_RFQ"
def OP_COMMAND_RFQ_SUBMIT : Bytes32 := bytes32OfAscii "RFQ_SUBMIT"
def OP_COMMAND_RFQ_MATCH : Bytes32 := bytes32OfAscii "RFQ_MATCH"
def FIRST_PUBLIC_EXTENSION_ID : Nat := 0x10000

structure TeeInstructionParams where
  opType : Bytes32
  opCommand : Bytes32
  message : Bytes
  cosigners : List Address
  cosignersThreshold : UInt64
  claimBackAddress : Address
  deriving DecidableEq

/-- `ITeeExtensionRegistry` and `ITeeMachineRegistry`; `none` where a call reverts. -/
structure Registries (ρ : Type) where
  nextPublicExtensionId : ρ → Nat
  getTeeExtensionInstructionsSender : ρ → Nat → Address
  getRandomTeeIds : ρ → Nat → Nat → Option (List Address)
  sendInstructions : (sender : Address) → (value : Nat) → List Address → TeeInstructionParams → ρ →
    Option (Bytes32 × ρ)

inductive SenderError where
  | extensionIdAlreadySet
  | extensionIdNotFound
  | extensionIdNotSet
  | registryReverted
  deriving DecidableEq, Repr

/-- The contract's own revert strings. -/
def SenderError.text : SenderError → String
  | .extensionIdAlreadySet => "Extension ID already set."
  | .extensionIdNotFound => "Extension ID not found."
  | .extensionIdNotSet => "Extension ID is not set."
  | .registryReverted => ""

inductive SenderEvent where
  | sealedRfqSubmitted (instructionId : Bytes32) (taker : Address)
  | matchTriggered (instructionId rfqId : Bytes32) (caller : Address)
  deriving DecidableEq

/-- A `bytes calldata` argument: the decoder turns down a longer one. -/
structure CalldataBytes where
  bytes : Bytes
  length_lt : bytes.length < 2 ^ 64

structure State (ρ : Type) where
  extensionId : Nat
  registries : ρ
  log : List SenderEvent

/-- What the registry took from the contract, with the id it gave it. -/
structure Sent where
  instructionId : Bytes32
  teeIds : List Address
  value : Nat
  params : TeeInstructionParams
  deriving DecidableEq

def submitParams (caller : Address) (ciphertext : CalldataBytes) : TeeInstructionParams where
  opType := OP_TYPE_WD_RFQ
  opCommand := OP_COMMAND_RFQ_SUBMIT
  message := Abi.encode [.uint 160 caller.toNat, .string ciphertext.bytes]
  cosigners := []
  cosignersThreshold := 0
  claimBackAddress := caller

def matchParams (caller : Address) (rfqId : Bytes32) : TeeInstructionParams where
  opType := OP_TYPE_WD_RFQ
  opCommand := OP_COMMAND_RFQ_MATCH
  message := Abi.encode [.uint 256 rfqId.toNat]
  cosigners := []
  cosignersThreshold := 0
  claimBackAddress := caller

section Calls

variable {ρ : Type} (R : Registries ρ) (this : Address)

/-- The loop of `setExtensionId`: the next `n` ids from `i` on. -/
def findExtensionId (r : ρ) : Nat → Nat → Option Nat
  | 0, _ => none
  | n + 1, i =>
    if R.getTeeExtensionInstructionsSender r i = this then some i else findExtensionId r n (i + 1)

def setExtensionId (s : State ρ) : Except SenderError (State ρ) := do
  revertIf (s.extensionId ≠ 0) .extensionIdAlreadySet
  let c := R.nextPublicExtensionId s.registries
  let i ← orRevert (findExtensionId R this s.registries (c - FIRST_PUBLIC_EXTENSION_ID)
    FIRST_PUBLIC_EXTENSION_ID) .extensionIdNotFound
  pure { s with extensionId := i }

def getExtensionId (s : State ρ) : Except SenderError Nat := do
  revertIf (s.extensionId = 0) .extensionIdNotSet
  pure s.extensionId

/-- The part `submitRfq` and `triggerMatch` share. -/
def sendInstruction (value : Nat) (params : TeeInstructionParams) (s : State ρ) :
    Except SenderError (Sent × State ρ) := do
  let extensionId ← getExtensionId s
  let teeIds ← orRevert (R.getRandomTeeIds s.registries extensionId 1) .registryReverted
  let (instructionId, registries) ← orRevert
    (R.sendInstructions this value teeIds params s.registries) .registryReverted
  pure (⟨instructionId, teeIds, value, params⟩, { s with registries := registries })

def submitRfq (caller : Address) (value : Nat) (ciphertext : CalldataBytes) (s : State ρ) :
    Except SenderError (Sent × State ρ) := do
  let (sent, s) ← sendInstruction R this value (submitParams caller ciphertext) s
  pure (sent, { s with log := .sealedRfqSubmitted sent.instructionId caller :: s.log })

def triggerMatch (caller : Address) (value : Nat) (rfqId : Bytes32) (s : State ρ) :
    Except SenderError (Sent × State ρ) := do
  let (sent, s) ← sendInstruction R this value (matchParams caller rfqId) s
  pure (sent, { s with log := .matchTriggered sent.instructionId rfqId caller :: s.log })

/-- Every external function of the contract. -/
inductive Call where
  | setExtensionId
  | submitRfq (ciphertext : CalldataBytes)
  | triggerMatch (rfqId : Bytes32)

def Call.exec (caller : Address) (value : Nat) (c : Call) (s : State ρ) :
    Except SenderError (Option Sent × State ρ) :=
  match c with
  | .setExtensionId => do
    let s ← InstructionSender.setExtensionId R this s
    pure (none, s)
  | .submitRfq ciphertext => do
    let (sent, s) ← InstructionSender.submitRfq R this caller value ciphertext s
    pure (some sent, s)
  | .triggerMatch rfqId => do
    let (sent, s) ← InstructionSender.triggerMatch R this caller value rfqId s
    pure (some sent, s)

/-- What a call asks the registry to send. -/
def Call.params (caller : Address) : Call → Option TeeInstructionParams
  | .setExtensionId => none
  | .submitRfq ciphertext => some (submitParams caller ciphertext)
  | .triggerMatch rfqId => some (matchParams caller rfqId)

/-- What a call that sent an instruction logs of it. -/
def Call.event (caller : Address) (instructionId : Bytes32) : Call → Option SenderEvent
  | .setExtensionId => none
  | .submitRfq _ => some (.sealedRfqSubmitted instructionId caller)
  | .triggerMatch rfqId => some (.matchTriggered instructionId rfqId caller)

end Calls

section Specs

variable {ρ : Type} {R : Registries ρ} {this caller : Address} {value : Nat} {s s' : State ρ}

/-- The loop stops at the first id that is registered to the contract. -/
theorem findExtensionId_eq_some {r : ρ} {n i k : Nat} :
    findExtensionId R this r n i = some k ↔ i ≤ k ∧ k < i + n ∧
      R.getTeeExtensionInstructionsSender r k = this ∧
      ∀ j, i ≤ j → j < k → R.getTeeExtensionInstructionsSender r j ≠ this := by
  induction n generalizing i with
  | zero =>
    simp only [findExtensionId, reduceCtorEq, false_iff]
    omega
  | succ n ih =>
    rw [findExtensionId]
    by_cases hi : R.getTeeExtensionInstructionsSender r i = this
    · rw [if_pos hi, Option.some.injEq]
      constructor
      · rintro rfl
        exact ⟨Nat.le_refl _, by omega, hi, fun j hj hlt => absurd hj (by omega)⟩
      · rintro ⟨hle, _, _, hleast⟩
        rcases Nat.eq_or_lt_of_le hle with heq | hlt
        · exact heq
        · exact absurd hi (hleast i (Nat.le_refl _) hlt)
    · rw [if_neg hi, ih]
      constructor
      · rintro ⟨hle, hlt, hk, hleast⟩
        refine ⟨by omega, by omega, hk, fun j hj hjk => ?_⟩
        rcases Nat.eq_or_lt_of_le hj with rfl | hj
        · exact hi
        · exact hleast j hj hjk
      · rintro ⟨hle, hlt, hk, hleast⟩
        have hne : i ≠ k := fun h => hi (h ▸ hk)
        exact ⟨by omega, by omega, hk, fun j hj hjk => hleast j (by omega) hjk⟩

/-- The least public extension id that the registry has down for the contract. -/
structure Registered (R : Registries ρ) (this : Address) (r : ρ) (id : Nat) : Prop where
  isPublic : FIRST_PUBLIC_EXTENSION_ID ≤ id
  assigned : id < R.nextPublicExtensionId r
  sender : R.getTeeExtensionInstructionsSender r id = this
  least : ∀ j, FIRST_PUBLIC_EXTENSION_ID ≤ j → j < id →
    R.getTeeExtensionInstructionsSender r j ≠ this

theorem setExtensionId_eq_ok :
    setExtensionId R this s = .ok s' ↔ s.extensionId = 0 ∧
      ∃ id, Registered R this s.registries id ∧ s' = { s with extensionId := id } := by
  simp only [setExtensionId, bind_eq_ok, revertIf_eq_ok, orRevert_eq_ok, findExtensionId_eq_some,
    pure_eq_ok, ne_eq, Decidable.not_not]
  constructor
  · rintro ⟨_, hzero, id, ⟨hle, hlt, hid, hleast⟩, rfl⟩
    exact ⟨hzero, id, ⟨hle, by omega, hid, hleast⟩, rfl⟩
  · rintro ⟨hzero, id, ⟨hle, hlt, hid, hleast⟩, rfl⟩
    exact ⟨(), hzero, id, ⟨hle, by omega, hid, hleast⟩, rfl⟩

theorem sendInstruction_eq_ok {params : TeeInstructionParams} {sent : Sent} :
    sendInstruction R this value params s = .ok (sent, s') ↔ s.extensionId ≠ 0 ∧
      R.getRandomTeeIds s.registries s.extensionId 1 = some sent.teeIds ∧
      sent.value = value ∧ sent.params = params ∧
      ∃ registries, R.sendInstructions this value sent.teeIds params s.registries =
          some (sent.instructionId, registries) ∧ s' = { s with registries := registries } := by
  simp only [sendInstruction, getExtensionId, bind_eq_ok, revertIf_eq_ok, orRevert_eq_ok, pure_eq_ok,
    Prod.mk.injEq, Prod.exists]
  constructor
  · rintro ⟨_, ⟨_, hset, rfl⟩, teeIds, hteeIds, id, registries, hsend, rfl, rfl⟩
    exact ⟨hset, hteeIds, rfl, rfl, registries, hsend, rfl⟩
  · rintro ⟨hset, hteeIds, hvalue, hparams, registries, hsend, rfl⟩
    refine ⟨_, ⟨(), hset, rfl⟩, _, hteeIds, _, _, hsend, ?_, rfl⟩
    subst hvalue
    subst hparams
    rfl

/-- What one call can do: bind the extension id, or send one instruction that
names its caller. -/
theorem exec_cases {c : Call} {sent : Option Sent}
    (h : c.exec R this caller value s = .ok (sent, s')) :
    (sent = none ∧ c.params caller = none ∧ s.extensionId = 0 ∧
      ∃ id, Registered R this s.registries id ∧ s' = { s with extensionId := id }) ∨
    ∃ i e registries, sent = some i ∧ c.params caller = some i.params ∧
      c.event caller i.instructionId = some e ∧ i.value = value ∧ s.extensionId ≠ 0 ∧
      R.getRandomTeeIds s.registries s.extensionId 1 = some i.teeIds ∧
      R.sendInstructions this value i.teeIds i.params s.registries =
        some (i.instructionId, registries) ∧
      s' = { s with registries := registries, log := e :: s.log } := by
  cases c with
  | setExtensionId =>
    simp only [Call.exec, bind_eq_ok, setExtensionId_eq_ok, pure_eq_ok, Prod.mk.injEq] at h
    obtain ⟨_, ⟨hzero, id, hid, rfl⟩, rfl, rfl⟩ := h
    exact .inl ⟨rfl, rfl, hzero, id, hid, rfl⟩
  | submitRfq ciphertext =>
    simp only [Call.exec, submitRfq, bind_eq_ok, pure_eq_ok, Prod.mk.injEq, Prod.exists,
      sendInstruction_eq_ok] at h
    obtain ⟨i, _, ⟨i, _, ⟨hset, hteeIds, hvalue, hparams, registries, hsend, rfl⟩, rfl, rfl⟩, rfl,
      rfl⟩ := h
    rw [← hparams] at hsend
    exact .inr ⟨i, _, registries, rfl, by rw [hparams]; rfl, rfl, hvalue, hset, hteeIds, hsend, rfl⟩
  | triggerMatch rfqId =>
    simp only [Call.exec, triggerMatch, bind_eq_ok, pure_eq_ok, Prod.mk.injEq, Prod.exists,
      sendInstruction_eq_ok] at h
    obtain ⟨i, _, ⟨i, _, ⟨hset, hteeIds, hvalue, hparams, registries, hsend, rfl⟩, rfl, rfl⟩, rfl,
      rfl⟩ := h
    rw [← hparams] at hsend
    exact .inr ⟨i, _, registries, rfl, by rw [hparams]; rfl, rfl, hvalue, hset, hteeIds, hsend, rfl⟩

end Specs

section Messages

theorem submit_message (caller : Address) (ciphertext : CalldataBytes) :
    (submitParams caller ciphertext).message =
      words [caller.toNat, 0x40, ciphertext.bytes.length] ++ padRight ciphertext.bytes := by
  simp [submitParams, Abi.encode, Abi.Value.body, Abi.head, Abi.tails, Abi.headWidth, Abi.Value.width,
    Abi.Value.isDynamic, words]

end Messages

end WhisperDesk.InstructionSender
