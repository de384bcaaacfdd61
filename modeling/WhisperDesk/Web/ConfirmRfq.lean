import WhisperDesk.Contracts.InstructionSender
import WhisperDesk.Enclave.DirectOrder

/-!
# confirmTakerRfq

A taker sends `submitRfq` from its own wallet; the server then reads the transaction back
and puts the order into the queue that makers quote from. It goes by the first log
that reads as a `SealedRfqSubmitted`. Which contract emitted that log it does not
ask, so the order is the claimed taker's just when the configured sender emitted the same
in the same transaction.
-/
namespace WhisperDesk.Web

open Function (update)
open Reverting
open Fcewire (Turn desk)
open Go (hashHex)
open Matcher (RFQ)
open InstructionSender (CalldataBytes SenderEvent submitParams)

section Sender

structure Log where
  address : Address
  topics : List Bytes32
  data : Bytes
  deriving DecidableEq

variable (P : Primitives) (this : Address)

def addressTopic (a : Address) : Bytes32 := BitVec.ofNat 256 a.toNat

def sealedRfqSubmittedTopic : Bytes32 := P.keccak256 (Fcewire.ascii "SealedRfqSubmitted(bytes32,address)")

/-- An event of the sender contract as its log: every parameter is indexed. -/
def eventLog : SenderEvent → Log
  | .sealedRfqSubmitted instructionId taker =>
    ⟨this, [sealedRfqSubmittedTopic P, instructionId, addressTopic taker], []⟩
  | .matchTriggered instructionId rfqId caller =>
    ⟨this, [P.keccak256 (Fcewire.ascii "MatchTriggered(bytes32,bytes32,address)"), instructionId, rfqId,
      addressTopic caller], []⟩

/-- What a transaction logs: the sender contract by its two functions, any other contract
whatever it likes. -/
inductive Emission where
  | submitRfq (msgSender : Address) (ciphertext : CalldataBytes) (instructionId : Bytes32)
  | triggerMatch (msgSender : Address) (rfqId instructionId : Bytes32)
  | other (log : Log) (h : log.address ≠ this)

variable {this} in
def Emission.log : Emission this → Log
  | .submitRfq msgSender _ instructionId => eventLog P this (.sealedRfqSubmitted instructionId msgSender)
  | .triggerMatch msgSender rfqId instructionId =>
    eventLog P this (.matchTriggered instructionId rfqId msgSender)
  | .other log _ => log

structure Transaction where
  status : Nat
  emissions : List (Emission this)

structure Receipt where
  status : Nat
  logs : List Log

variable {this} in
def Transaction.receipt (tx : Transaction this) : Receipt := ⟨tx.status, tx.emissions.map (Emission.log P)⟩

end Sender

section Confirm

/-- An `ethers.LogDescription`; a `taker` that is no address throws when it is read. -/
structure LogDescription where
  name : String
  instructionId : Bytes32
  taker : Option Address

/-- A field the JSON does not have is `undefined`. -/
structure RfqAck where
  rfqId : Option Bytes
  windowEndsAt : Option Nat

structure ActionResult where
  data : Bytes
  status : Nat
  log : String

/-- The parts of `ethers` and of the language that a confirmation uses. -/
structure Runtime where
  /-- `Interface.parseLog` of the sender's ABI; `none` where it throws or has no event. It
  is given no address. -/
  parseLog : List Bytes32 → Bytes → Option LogDescription
  /-- `JSON.parse`, read as an `RfqAck`. -/
  parse : Bytes → Option RfqAck

/-- The configured sender, and what each `GET /action/result/{actionId}` brings until the
deadline. -/
structure MakerEnv where
  senderAddress : Address
  actionResults : Bytes32 → List (Option ActionResult)

structure RfqRecord where
  windowEndsAt : Option Nat
  createdAt : Nat

abbrev RfqStore := Option Bytes → Option RfqRecord

def putRfqRecord (store : RfqStore) (rfqId : Option Bytes) (windowEndsAt : Option Nat) (now : Nat) :
    RfqStore :=
  update store rfqId (some ⟨windowEndsAt, now⟩)

/-- What `confirmTakerRfq` throws. -/
inductive ConfirmError where
  | notMined
  | reverted
  | noSealedRfqSubmitted
  | invalidTaker
  | differentAddress
  | timedOut (actionId : Bytes32)
  | rfqSubmitFailed (status : Nat) (log : String)
  | invalidPayload
  deriving DecidableEq

def pollActionResult (env : MakerEnv) (actionId : Bytes32) : Except ConfirmError ActionResult :=
  orRevert ((env.actionResults actionId).findSome? id) (.timedOut actionId)

variable (R : Runtime)

def decodeActionPayload (result : ActionResult) : Except ConfirmError RfqAck :=
  orRevert (R.parse result.data) .invalidPayload

/-- The first log that reads as the event. -/
def findSealed (logs : List Log) : Option LogDescription :=
  (logs.filterMap fun l => R.parseLog l.topics l.data).find? fun e => e.name = "SealedRfqSubmitted"

def confirmTakerRfq (env : MakerEnv) (receipt : Option Receipt) (takerAddress : Address) (now : Nat)
    (store : RfqStore) : Except ConfirmError (RfqAck × RfqStore) := do
  let receipt ← orRevert receipt .notMined
  revertIf (receipt.status ≠ 1) .reverted
  let sealed ← orRevert (findSealed R receipt.logs) .noSealedRfqSubmitted
  let taker ← orRevert sealed.taker .invalidTaker
  revertIf (taker ≠ takerAddress) .differentAddress
  let instructionId := sealed.instructionId
  let result ← pollActionResult env instructionId
  revertIf (result.status ≠ 1) (.rfqSubmitFailed result.status result.log)
  let ack ← decodeActionPayload R result
  pure (ack, putRfqRecord store ack.rfqId ack.windowEndsAt now)

/-- What a confirmation goes by: the first log of a successful transaction that reads as
the event names the taker and the id, and the proxy has a successful result for the id. -/
structure Confirmable (env : MakerEnv) (receipt : Receipt) (taker : Address) (instructionId : Bytes32)
    (ack : RfqAck) : Prop where
  status : receipt.status = 1
  first : ∃ e, findSealed R receipt.logs = some e ∧ e.instructionId = instructionId ∧ e.taker = some taker
  acked : ∃ result, (env.actionResults instructionId).findSome? id = some result ∧ result.status = 1 ∧
    R.parse result.data = some ack

variable {R} {env : MakerEnv} {taker : Address} {now : Nat} {store store' : RfqStore} {ack : RfqAck}

theorem confirmTakerRfq_eq_ok {receipt : Option Receipt} :
    confirmTakerRfq R env receipt taker now store = .ok (ack, store') ↔
      ∃ r instructionId, receipt = some r ∧ Confirmable R env r taker instructionId ack ∧
        store' = putRfqRecord store ack.rfqId ack.windowEndsAt now := by
  simp only [confirmTakerRfq, pollActionResult, decodeActionPayload, bind_eq_ok, orRevert_eq_ok,
    revertIf_eq_ok, pure_eq_ok, Prod.mk.injEq, ne_eq, Decidable.not_not]
  constructor
  · rintro ⟨r, rfl, _, hstatus, e, hfirst, _, htaker, _, rfl, result, hpoll, _, hok, ack, hparse, rfl, rfl⟩
    exact ⟨r, e.instructionId, rfl, ⟨hstatus, ⟨e, hfirst, rfl, htaker⟩, ⟨result, hpoll, hok, hparse⟩⟩, rfl⟩
  · rintro ⟨r, _, rfl, ⟨hstatus, ⟨e, hfirst, rfl, htaker⟩, ⟨result, hpoll, hok, hparse⟩⟩, rfl⟩
    exact ⟨r, rfl, (), hstatus, e, hfirst, taker, htaker, (), rfl, result, hpoll, (), hok, ack, hparse, rfl,
      rfl⟩

end Confirm

section Enclave

open Fcewire (Event DataFixed Ambient Handler Payload handleInstruction)

/-- An enclave since its boot. -/
structure EnclaveRun (σ : Type) where
  externals : Fcewire.Externals
  snapshotter : Fcewire.Snapshotter σ
  config : Fcewire.Config
  epoch : UInt64
  chain : σ
  turns : List (Turn σ)

variable {σ : Type}

namespace EnclaveRun

variable (E : EnclaveRun σ)

def deskAfter (pre : List (Turn σ)) : Handler σ :=
  desk E.externals E.snapshotter E.config E.epoch E.chain pre

/-- An instruction reached the enclave after the turns `pre`. -/
def Handles (pre : List (Turn σ)) (a : Ambient) (df : DataFixed) : Prop :=
  pre ++ [.call (.instruction a df)] <+: E.turns

/-- The RFQ came into the book with an instruction of that id. -/
structure Admitted (instructionId : Bytes32) (rfq : RFQ) : Prop where
  id : rfq.id = instructionId
  handled : ∃ pre a df, E.Handles pre a df ∧ df.instructionID = instructionId ∧
    (E.deskAfter pre).book.rfqs instructionId = none ∧
    (E.deskAfter (pre ++ [.call (.instruction a df)])).book.rfqs instructionId = some rfq

end EnclaveRun

/-- The member `rfqId` of a payload's JSON. -/
def rfqIdOf : Payload → Option Bytes
  | .rfqAck rfqID _ => some rfqID
  | .quoteAck rfqID _ _ => some rfqID
  | .matchResponse _ => none

/-- The proxy passes the enclave's results for instructions on. -/
structure Relays (R : Runtime) (env : MakerEnv) (E : EnclaveRun σ) : Prop where
  relayed : ∀ instructionId result, some result ∈ env.actionResults instructionId →
    ∃ pre a df, E.Handles pre a df ∧ df.instructionID = instructionId ∧
      let r := (handleInstruction E.externals E.snapshotter E.config a df (E.deskAfter pre)).1
      result.status = r.status.toNat ∧
        ∀ p, r.data = some p → ∃ ack, R.parse result.data = some ack ∧ ack.rfqId = rfqIdOf p

/-- The registry hands the enclave what the sender contract handed to it, and the enclave
reads an envelope as it was encoded. -/
structure Delivers {this : Address} (tx : Transaction this) (E : EnclaveRun σ) : Prop where
  delivered : ∀ msgSender ciphertext instructionId,
    .submitRfq msgSender ciphertext instructionId ∈ tx.emissions →
    ∀ pre a df, E.Handles pre a df → df.instructionID = instructionId →
      df.opCommand = (submitParams msgSender ciphertext).opCommand ∧
        df.originalMessage = (submitParams msgSender ciphertext).message
  unpacked : ∀ msgSender ciphertext instructionId,
    .submitRfq msgSender ciphertext instructionId ∈ tx.emissions →
    E.externals.unpackEnvelope (submitParams msgSender ciphertext).message =
      some (msgSender, ciphertext.bytes)

/-- The sender contract itself logged the taker and the id in the transaction. -/
def Stamped {this : Address} (tx : Transaction this) (instructionId : Bytes32) (taker : Address) : Prop :=
  ∃ ciphertext, .submitRfq taker ciphertext instructionId ∈ tx.emissions

/-- The published order is the taker's: stamped with its address by the sender contract in this
transaction, and admitted under that stamp. -/
structure Belongs {this : Address} (tx : Transaction this) (E : EnclaveRun σ) (taker : Address)
    (rfqId : Option Bytes) (instructionId : Bytes32) (rfq : RFQ) : Prop where
  stamped : Stamped tx instructionId taker
  admitted : E.Admitted instructionId rfq
  taker : rfq.taker = taker
  published : rfqId = some (hashHex rfq.id)

variable {R : Runtime} {env : MakerEnv} {E : EnclaveRun σ} {tx : Transaction env.senderAddress}
  {taker : Address} {instructionId : Bytes32} {ack : RfqAck}

/-- A successful result of an instruction is an ack of the RFQ it brought, or a match. -/
theorem success_cases {a : Ambient} {df : DataFixed} {h : Handler σ} {X : Fcewire.Externals}
    {S : Fcewire.Snapshotter σ} {cfg : Fcewire.Config}
    (hok : (handleInstruction X S cfg a df h).1.status = 1) :
    ∃ p, (handleInstruction X S cfg a df h).1.data = some p ∧
      ((df.opCommand = Fcewire.rfqSubmit ∧ ∃ h', Fcewire.handleRfqSubmit X S cfg a df h = .ok (p, h') ∧
          (handleInstruction X S cfg a df h).2 = h') ∨
        df.opCommand ≠ Fcewire.rfqSubmit ∧ ∃ o, p = .matchResponse o) := by
  unfold handleInstruction at hok ⊢
  by_cases hsubmit : df.opCommand = Fcewire.rfqSubmit
  · rw [if_pos hsubmit] at hok ⊢
    cases hr : Fcewire.handleRfqSubmit X S cfg a df h with
    | error code => rw [hr] at hok; cases hok
    | ok v => exact ⟨v.1, rfl, .inl ⟨hsubmit, v.2, rfl, rfl⟩⟩
  · rw [if_neg hsubmit] at hok ⊢
    by_cases hmatch : df.opCommand = Fcewire.rfqMatch
    · rw [if_pos hmatch] at hok ⊢
      cases hr : Fcewire.handleMatchMessage X S cfg a df.originalMessage h with
      | error code => rw [hr] at hok; cases hok
      | ok v =>
        obtain ⟨_, _, o, _, _, _, hp, _⟩ := Fcewire.handleMatchMessage_eq_ok.mp hr
        exact ⟨v.1, rfl, .inr ⟨hsubmit, o, hp⟩⟩
    · rw [if_neg hmatch] at hok
      cases hok

/-- What the proxy's answer to a confirmation says. -/
theorem Confirmable.answered {P : Primitives} (h : Confirmable R env (tx.receipt P) taker instructionId ack)
    (hrelays : Relays R env E) :
    ∃ pre a df p, E.Handles pre a df ∧ df.instructionID = instructionId ∧ ack.rfqId = rfqIdOf p ∧
      ((df.opCommand = Fcewire.rfqSubmit ∧ ∃ h', Fcewire.handleRfqSubmit E.externals E.snapshotter
          E.config a df (E.deskAfter pre) = .ok (p, h') ∧
          E.deskAfter (pre ++ [.call (.instruction a df)]) = h') ∨
        df.opCommand ≠ Fcewire.rfqSubmit ∧ ∃ o, p = .matchResponse o) := by
  obtain ⟨result, hpoll, hok, hparse⟩ := h.acked
  obtain ⟨found, hmem, hfound⟩ := List.exists_of_findSome?_eq_some hpoll
  rw [id_eq] at hfound
  subst found
  obtain ⟨pre, a, df, hhandles, hid, hstatus, hdata⟩ := hrelays.relayed instructionId result hmem
  have hone : (handleInstruction E.externals E.snapshotter E.config a df (E.deskAfter pre)).1.status = 1 := by
    apply UInt8.toNat_inj.mp
    rw [← hstatus, hok]
    rfl
  obtain ⟨p, hp, hcases⟩ := success_cases hone
  obtain ⟨ack', hack', hrfqId⟩ := hdata p hp
  obtain rfl := Option.some.inj (hparse.symm.trans hack')
  refine ⟨pre, a, df, p, hhandles, hid, hrfqId, ?_⟩
  rw [EnclaveRun.deskAfter, EnclaveRun.deskAfter, Fcewire.desk_concat]
  exact hcases

/-- With the sender's own stamp in the transaction, what is published belongs to the taker. -/
theorem Confirmable.belongs {P : Primitives} (h : Confirmable R env (tx.receipt P) taker instructionId ack)
    (hrelays : Relays R env E) (hdelivers : Delivers tx E) (hstamped : Stamped tx instructionId taker) :
    ∃ rfq, Belongs tx E taker ack.rfqId instructionId rfq := by
  obtain ⟨pre, a, df, p, hhandles, hid, hrfqId, hcases⟩ := h.answered hrelays
  obtain ⟨ciphertext, hmem⟩ := hstamped
  obtain ⟨hcommand, hmessage⟩ := hdelivers.delivered _ _ _ hmem pre a df hhandles hid
  rcases hcases with ⟨_, h', hr, hafter⟩ | ⟨hne, _⟩
  · obtain ⟨sender, ciphertext', o, henv, _, _, _, _, hnew, rfl, rfl⟩ := Fcewire.handleRfqSubmit_eq_ok.mp hr
    rw [hmessage, hdelivers.unpacked _ _ _ hmem] at henv
    obtain ⟨rfl, rfl⟩ := Prod.mk.inj (Option.some.inj henv)
    subst instructionId
    refine ⟨o.rfq E.config df.instructionID taker a.now, ⟨ciphertext, hmem⟩,
      ⟨rfl, pre, a, df, hhandles, rfl, hnew, ?_⟩, rfl, hrfqId⟩
    rw [hafter]
    exact Function.update_self df.instructionID _ _
  · exact absurd hcommand hne

/-- And only then: the id that is published is the one that was polled for. -/
theorem Confirmable.same_id {P : Primitives} (h : Confirmable R env (tx.receipt P) taker instructionId ack)
    (hrelays : Relays R env E) {other : Bytes32} {rfq : RFQ}
    (hbelongs : Belongs tx E taker ack.rfqId other rfq) : other = instructionId := by
  obtain ⟨pre, a, df, p, _, hid, hrfqId, hcases⟩ := h.answered hrelays
  rw [hbelongs.published, hbelongs.admitted.id] at hrfqId
  rcases hcases with ⟨_, h', hr, _⟩ | ⟨_, o, rfl⟩
  · obtain ⟨_, _, _, _, _, _, _, _, _, rfl, _⟩ := Fcewire.handleRfqSubmit_eq_ok.mp hr
    have htext := congrArg Go.hexToHash (Option.some.inj hrfqId)
    rw [Go.hexToHash_hashHex, Go.hexToHash_hashHex, hid] at htext
    exact htext
  · cases hrfqId

end Enclave

/-- Whose order a confirmation publishes: it is the claimed taker's, whatever it publishes,
if and only if the sender contract stamped in this transaction what the first log
that reads as its event says. -/
theorem confirmed_order {σ : Type} (P : Primitives) (R : Runtime) (env : MakerEnv)
    (tx : Transaction env.senderAddress) (E : EnclaveRun σ) (hrelays : Relays R env E)
    (hdelivers : Delivers tx E) (taker : Address) (now : Nat) (store : RfqStore) :
    (∀ ack store', confirmTakerRfq R env (some (tx.receipt P)) taker now store = .ok (ack, store') →
      ∃ instructionId rfq, Belongs tx E taker ack.rfqId instructionId rfq) ↔
    ∀ instructionId ack, Confirmable R env (tx.receipt P) taker instructionId ack →
      Stamped tx instructionId taker := by
  constructor
  · intro h instructionId ack hconfirm
    have hok : confirmTakerRfq R env (some (tx.receipt P)) taker now store = .ok (ack, _) :=
      confirmTakerRfq_eq_ok.mpr ⟨_, instructionId, rfl, hconfirm, rfl⟩
    obtain ⟨other, rfq, hbelongs⟩ := h _ _ hok
    rw [← hconfirm.same_id hrelays hbelongs]
    exact hbelongs.stamped
  · intro h ack store' hok
    obtain ⟨r, instructionId, hr, hconfirm, rfl⟩ := confirmTakerRfq_eq_ok.mp hok
    obtain rfl := Option.some.inj hr
    exact ⟨instructionId, hconfirm.belongs hrelays hdelivers (h instructionId ack hconfirm)⟩

/-! The order of taker 2, admitted under id 7, and a contract that logs the same event with
another address. -/
namespace SampleConfirm

open Fcewire.SampleDesk

def primitives : Primitives := externals.toPrimitives

/-- The JSON of the enclave's ack. -/
def ackText : Bytes :=
  Fcewire.ascii "\x7b\"rfqId\":\"" ++ hashHex 7 ++ Fcewire.ascii "\",\"windowEndsAt\":1010\x7d"

def runtime : Runtime where
  parseLog topics _ :=
    match topics with
    | topic :: instructionId :: taker :: _ =>
      if topic = sealedRfqSubmittedTopic primitives then
        some ⟨"SealedRfqSubmitted", instructionId,
          if taker.toNat < 2 ^ 160 then some (BitVec.ofNat 160 taker.toNat) else none⟩
      else none
    | _ => none
  parse data :=
    if data = ackText then some ⟨some (hashHex 7), some 1010⟩ else none

def env : MakerEnv where
  senderAddress := 0x5E
  actionResults instructionId := if instructionId = 7 then [none, some ⟨ackText, 1, "ok"⟩] else []

def sealed : CalldataBytes := ⟨ciphertext "rfq", Nat.le_of_ble_eq_true rfl⟩

def own : Transaction env.senderAddress := ⟨1, [.submitRfq 2 sealed 7]⟩

def lookAlike : Log := ⟨0xBAD, [sealedRfqSubmittedTopic primitives, 7, addressTopic 0xA], []⟩

def forged : Transaction env.senderAddress := ⟨1, [.other lookAlike (by decide)]⟩

def order : Fcewire.DataFixed where
  instructionID := 7
  opType := (submitParams 2 sealed).opType
  opCommand := (submitParams 2 sealed).opCommand
  originalMessage := (submitParams 2 sealed).message

def enclave : EnclaveRun Unit :=
  ⟨externals, snapshotter, config, 0, (), [.call (.instruction (ambient 1000) order)]⟩

/-- The enclave's answer to it. -/
def answer : Fcewire.Result :=
  (Fcewire.handleInstruction enclave.externals enclave.snapshotter enclave.config (ambient 1000) order
    (enclave.deskAfter [])).1

theorem handles_eq {pre : List (Turn Unit)} {a : Fcewire.Ambient} {df : Fcewire.DataFixed}
    (h : enclave.Handles pre a df) : pre = [] ∧ df = order := by
  cases pre with
  | nil =>
    have hsame := h.eq_of_length rfl
    cases hsame
    exact ⟨rfl, rfl⟩
  | cons t pre =>
    have hlength := h.length_le
    simp [enclave] at hlength

theorem relays : Relays runtime env enclave where
  relayed instructionId result hmem := by
    have hresult : instructionId = 7 ∧ result = ⟨ackText, 1, "ok"⟩ := by simpa [env] using hmem
    obtain ⟨rfl, rfl⟩ := hresult
    have hstatus : answer.status.toNat = 1 := by decide +kernel
    have hack : answer.data.bind rfqIdOf = some (hashHex 7) := by decide +kernel
    rw [answer] at hstatus hack
    refine ⟨[], ambient 1000, order, List.prefix_refl _, rfl, hstatus.symm, fun p hp => ?_⟩
    rw [hp, Option.bind_some] at hack
    exact ⟨_, rfl, hack.symm⟩

theorem delivers : Delivers own enclave where
  delivered msgSender ciphertext instructionId hmem pre a df hhandles hid := by
    obtain ⟨rfl, rfl⟩ := handles_eq hhandles
    cases List.mem_singleton.mp hmem
    exact ⟨rfl, rfl⟩
  unpacked msgSender ciphertext instructionId hmem := by
    cases List.mem_singleton.mp hmem
    decide +kernel

theorem not_stamped (instructionId : Bytes32) (taker : Address) : ¬ Stamped forged instructionId taker := by
  rintro ⟨ciphertext, hmem⟩
  cases List.mem_singleton.mp hmem

end SampleConfirm

open SampleConfirm in
theorem confirmed_order_sample :
    ∃ ack store', confirmTakerRfq runtime env (some (own.receipt primitives)) 2 0 (fun _ => none) =
        .ok (ack, store') ∧
      ∃ instructionId rfq, Belongs own enclave 2 ack.rfqId instructionId rfq := by
  have hok : confirmTakerRfq runtime env (some (own.receipt primitives)) 2 0 (fun _ => none) =
      .ok (⟨some (hashHex 7), some 1010⟩, putRfqRecord (fun _ => none) (some (hashHex 7)) (some 1010) 0) := rfl
  refine ⟨_, _, hok, ?_⟩
  apply (confirmed_order primitives runtime env own enclave relays delivers 2 0 (fun _ => none)).mpr _ _ _ hok
  rintro instructionId ack ⟨_, ⟨e, hfirst, rfl, _⟩, _⟩
  have hsealed : some ⟨"SealedRfqSubmitted", 7, some 2⟩ = some e := hfirst
  obtain rfl := Option.some.inj hsealed
  exact ⟨_, List.mem_singleton.mpr rfl⟩

open SampleConfirm in
/-- The caller 0xA gets the order of taker 2 confirmed as its own. -/
theorem foreign_log_confirmed :
    (∃ ack store', confirmTakerRfq runtime env (some (forged.receipt primitives)) 0xA 0 (fun _ => none) =
        .ok (ack, store') ∧ ack.rfqId = some (hashHex 7) ∧ (store' (some (hashHex 7))).isSome = true ∧
      ∀ instructionId rfq, ¬ Belongs forged enclave 0xA ack.rfqId instructionId rfq) ∧
    ((enclave.deskAfter enclave.turns).book.rfqs 7).map RFQ.taker = some 2 := by
  refine ⟨⟨⟨some (hashHex 7), some 1010⟩, _, rfl, rfl, by decide +kernel, ?_⟩, by decide +kernel⟩
  intro instructionId rfq hbelongs
  exact not_stamped instructionId 0xA hbelongs.stamped

end WhisperDesk.Web
