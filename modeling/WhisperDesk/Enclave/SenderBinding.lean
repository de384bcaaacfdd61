import WhisperDesk.Contracts.InstructionSender
import WhisperDesk.Enclave.Payability

/-!
# Who a sealed RFQ belongs to

The instruction contract and the enclave side by side. Anybody calls the
contract; what the registry took from it reaches the enclave late, repeatedly,
out of order or never; the direct ingress is open to everybody. The sender that
the contract stamps into a message is the only taker the enclave ever works for.
-/
namespace WhisperDesk.Fcewire

open Go
open Matcher
open Reverting
open InstructionSender (Registries CalldataBytes Sent submitParams matchParams Registered)
open DvPEscrow (Deployment)

/-- The instruction as the enclave's node gets it. -/
def dataFixedOf (i : Sent) : DataFixed where
  instructionID := i.instructionId
  opType := i.params.opType
  opCommand := i.params.opCommand
  originalMessage := i.params.message

inductive Happening (ρ σ : Type) where
  | call (caller : Address) (value : Nat) (c : InstructionSender.Call)
  | registries (f : ρ → ρ)
  | deliver (a : Ambient) (n : Nat)
  | direct (a : Ambient) (di : DirectInstruction)
  | background (f : σ → σ)

/-- The contract, what the registry took from it (newest first), and what the
enclave has been given so far. -/
structure Relay (ρ σ : Type) where
  contract : InstructionSender.State ρ
  sent : List Sent
  received : List (Event σ)

section Runs

variable {ρ σ : Type} (R : Registries ρ) (this : Address) (r₀ : ρ)

def Happening.exec (r : Relay ρ σ) : Happening ρ σ → Relay ρ σ
  | .call caller value c =>
    match c.exec R this caller value r.contract with
    | .ok (i, contract) => { r with contract := contract, sent := i.toList ++ r.sent }
    | .error _ => r
  | .registries f => { r with contract.registries := f r.contract.registries }
  | .deliver a n =>
    match r.sent[n]? with
    | some i => { r with received := r.received ++ [.instruction a (dataFixedOf i)] }
    | none => r
  | .direct a di => { r with received := r.received ++ [.direct a di] }
  | .background f => { r with received := r.received ++ [.background f] }

/-- A fresh contract and a fresh enclave after a list of happenings. -/
def relay (happenings : List (Happening ρ σ)) : Relay ρ σ :=
  happenings.foldl (fun r h => h.exec R this r) ⟨⟨0, r₀, []⟩, [], []⟩

/-- The call that made the registry take an instruction. -/
def Asked (happenings : List (Happening ρ σ)) (i : Sent) (caller : Address)
    (c : InstructionSender.Call) : Prop :=
  ∃ pre value post s', happenings = pre ++ .call caller value c :: post ∧
    c.exec R this caller value (relay R this r₀ pre).contract = .ok (some i, s')

variable {R this r₀} {happenings : List (Happening ρ σ)}

theorem relay_concat (h : Happening ρ σ) :
    relay R this r₀ (happenings ++ [h]) = h.exec R this (relay R this r₀ happenings) := by
  simp [relay]

theorem Asked.concat {i : Sent} {caller : Address} {c : InstructionSender.Call}
    (hasked : Asked R this r₀ happenings i caller c) (h : Happening ρ σ) :
    Asked R this r₀ (happenings ++ [h]) i caller c := by
  obtain ⟨pre, value, post, s', rfl, hexec⟩ := hasked
  exact ⟨pre, value, post ++ [h], s', by simp, hexec⟩

/-- The registry took nothing that no call asked for, and the enclave got
nothing on the instruction ingress that the registry did not take. -/
structure Relayed (R : Registries ρ) (this : Address) (r₀ : ρ) (happenings : List (Happening ρ σ))
    (r : Relay ρ σ) : Prop where
  sent : ∀ i ∈ r.sent, ∃ caller c, Asked R this r₀ happenings i caller c
  received : ∀ a df, .instruction a df ∈ r.received → ∃ i ∈ r.sent, df = dataFixedOf i

theorem relayed (happenings : List (Happening ρ σ)) :
    Relayed R this r₀ happenings (relay R this r₀ happenings) := by
  induction happenings using List.reverseRecOn with
  | nil => exact ⟨by simp [relay], by simp [relay]⟩
  | append_singleton happenings h ih =>
    have hsent : ∀ i ∈ (relay R this r₀ happenings).sent,
        ∃ caller c, Asked R this r₀ (happenings ++ [h]) i caller c := by
      intro i hi
      obtain ⟨caller, c, hasked⟩ := ih.sent i hi
      exact ⟨caller, c, hasked.concat h⟩
    rw [relay_concat]
    cases h with
    | call caller value c =>
      simp only [Happening.exec]
      cases hexec : c.exec R this caller value (relay R this r₀ happenings).contract with
      | error e => exact ⟨hsent, ih.received⟩
      | ok v =>
        obtain ⟨sent, contract⟩ := v
        constructor
        · intro i hi
          rcases List.mem_append.mp hi with hi | hi
          · obtain rfl := Option.mem_toList.mp hi
            exact ⟨caller, c, happenings, value, [], contract, rfl, hexec⟩
          · exact hsent i hi
        · intro a df hdf
          obtain ⟨i, hi, hdf⟩ := ih.received a df hdf
          exact ⟨i, List.mem_append_right _ hi, hdf⟩
    | registries f => exact ⟨hsent, ih.received⟩
    | deliver a n =>
      simp only [Happening.exec]
      cases hget : (relay R this r₀ happenings).sent[n]? with
      | none => exact ⟨hsent, ih.received⟩
      | some i =>
        refine ⟨hsent, fun a' df hdf => ?_⟩
        rcases List.mem_append.mp hdf with hdf | hdf
        · exact ih.received a' df hdf
        · simp only [List.mem_singleton, Event.instruction.injEq] at hdf
          exact ⟨i, List.mem_of_getElem? hget, hdf.2⟩
    | direct a di =>
      refine ⟨hsent, fun a' df hdf => ?_⟩
      rcases List.mem_append.mp hdf with hdf | hdf
      · exact ih.received a' df hdf
      · simp at hdf
    | background f =>
      refine ⟨hsent, fun a' df hdf => ?_⟩
      rcases List.mem_append.mp hdf with hdf | hdf
      · exact ih.received a' df hdf
      · simp at hdf

/-- An RFQ_SUBMIT that the registry took was asked for by a `submitRfq`. -/
theorem Asked.submitted {i : Sent} {caller : Address} {c : InstructionSender.Call}
    (hasked : Asked R this r₀ happenings i caller c) (hcommand : i.params.opCommand = rfqSubmit) :
    ∃ ciphertext, c = .submitRfq ciphertext ∧ i.params = submitParams caller ciphertext := by
  obtain ⟨pre, value, post, s', _, hexec⟩ := hasked
  rcases InstructionSender.exec_cases hexec with ⟨hnone, _⟩ | ⟨_, _, _, hsome, hparams, _⟩
  · cases hnone
  · obtain rfl := Option.some.inj hsome
    cases c with
    | setExtensionId => cases hparams
    | submitRfq ciphertext => exact ⟨ciphertext, rfl, (Option.some.inj hparams).symm⟩
    | triggerMatch rfqId =>
      rw [← Option.some.inj hparams] at hcommand
      have hne : InstructionSender.OP_COMMAND_RFQ_MATCH ≠ rfqSubmit := by decide
      exact absurd hcommand hne

end Runs

section Extension

variable {ρ σ : Type} {R : Registries ρ} {this : Address} {r₀ : ρ}

/-- An event of the contract and the instruction it is about. -/
def Announces (e : InstructionSender.SenderEvent) (i : Sent) : Prop :=
  ∃ caller, ∃ c : InstructionSender.Call, c.params caller = some i.params ∧
    c.event caller i.instructionId = some e

/-- The registry took the instruction, for machines that were drawn for the extension. -/
structure TakenUnder (R : Registries ρ) (this : Address) (registries : ρ) (extensionId : Nat) (i : Sent) :
    Prop where
  drawn : R.getRandomTeeIds registries extensionId 1 = some i.teeIds
  taken : ∃ registries', R.sendInstructions this i.value i.teeIds i.params registries =
    some (i.instructionId, registries')

/-- What happens to the extension id: it stays, or it is bound, where there was none. -/
theorem exec_extensionId (r : Relay ρ σ) (h : Happening ρ σ) :
    (h.exec R this r).contract.extensionId = r.contract.extensionId ∨
      r.contract.extensionId = 0 ∧ (h.exec R this r).sent = r.sent ∧
        (∃ caller value, h = .call caller value .setExtensionId) ∧
        Registered R this r.contract.registries (h.exec R this r).contract.extensionId := by
  cases h with
  | call caller value c =>
    simp only [Happening.exec]
    cases hexec : c.exec R this caller value r.contract with
    | error e => exact .inl rfl
    | ok v =>
      obtain ⟨sent, contract⟩ := v
      rcases InstructionSender.exec_cases hexec with
        ⟨rfl, hparams, hzero, id, hid, rfl⟩ | ⟨_, _, _, _, _, _, _, _, _, _, rfl⟩
      · have hc : c = .setExtensionId := by
          cases c with
          | setExtensionId => rfl
          | submitRfq => cases hparams
          | triggerMatch => cases hparams
        exact .inr ⟨hzero, rfl, ⟨caller, value, by rw [hc]⟩, hid⟩
      · exact .inl rfl
  | registries f => exact .inl rfl
  | deliver a n =>
    simp only [Happening.exec]
    cases r.sent[n]? with
    | none => exact .inl rfl
    | some i => exact .inl rfl
  | direct a di => exact .inl rfl
  | background f => exact .inl rfl

/-- What happens to log and instructions: nothing, or one of each, under the id that is set. -/
theorem exec_sent (r : Relay ρ σ) (h : Happening ρ σ) :
    ((h.exec R this r).contract.log = r.contract.log ∧ (h.exec R this r).sent = r.sent) ∨
      r.contract.extensionId ≠ 0 ∧ ∃ e i, (h.exec R this r).contract.log = e :: r.contract.log ∧
        (h.exec R this r).sent = i :: r.sent ∧ Announces e i ∧
        TakenUnder R this r.contract.registries r.contract.extensionId i := by
  cases h with
  | call caller value c =>
    simp only [Happening.exec]
    cases hexec : c.exec R this caller value r.contract with
    | error e => exact .inl ⟨rfl, rfl⟩
    | ok v =>
      obtain ⟨sent, contract⟩ := v
      rcases InstructionSender.exec_cases hexec with
        ⟨rfl, _, _, id, _, rfl⟩ | ⟨i, e, registries, rfl, hparams, he, rfl, hset, hdrawn, htaken, rfl⟩
      · exact .inl ⟨rfl, rfl⟩
      · exact .inr ⟨hset, e, i, rfl, rfl, ⟨caller, c, hparams, he⟩, hdrawn, registries, htaken⟩
  | registries f => exact .inl ⟨rfl, rfl⟩
  | deliver a n =>
    simp only [Happening.exec]
    cases r.sent[n]? with
    | none => exact .inl ⟨rfl, rfl⟩
    | some i => exact .inl ⟨rfl, rfl⟩
  | direct a di => exact .inl ⟨rfl, rfl⟩
  | background f => exact .inl ⟨rfl, rfl⟩

theorem announced (happenings : List (Happening ρ σ)) :
    List.Forall₂ Announces (relay R this r₀ happenings).contract.log (relay R this r₀ happenings).sent := by
  induction happenings using List.reverseRecOn with
  | nil => exact .nil
  | append_singleton happenings h ih =>
    rw [relay_concat]
    rcases exec_sent (relay R this r₀ happenings) h with ⟨hlog, hsent⟩ | ⟨_, e, i, hlog, hsent, hei, _⟩
    · rw [hlog, hsent]
      exact ih
    · rw [hlog, hsent]
      exact .cons hei ih

theorem none_sent (happenings : List (Happening ρ σ))
    (hzero : (relay R this r₀ happenings).contract.extensionId = 0) :
    (relay R this r₀ happenings).sent = [] := by
  induction happenings using List.reverseRecOn with
  | nil => rfl
  | append_singleton happenings h ih =>
    rw [relay_concat] at hzero ⊢
    rcases exec_extensionId (relay R this r₀ happenings) h with hid | ⟨_, _, _, hregistered⟩
    · rw [hid] at hzero
      rcases exec_sent (relay R this r₀ happenings) h with ⟨_, hsent⟩ | ⟨hset, _⟩
      · rw [hsent]
        exact ih hzero
      · exact absurd hzero hset
    · have hpublic := hregistered.isPublic
      rw [hzero] at hpublic
      exact absurd hpublic (by decide)

theorem extensionId_kept {happenings : List (Happening ρ σ)}
    (hset : (relay R this r₀ happenings).contract.extensionId ≠ 0) (later : List (Happening ρ σ)) :
    (relay R this r₀ (happenings ++ later)).contract.extensionId =
      (relay R this r₀ happenings).contract.extensionId := by
  induction later using List.reverseRecOn with
  | nil => rw [List.append_nil]
  | append_singleton later h ih =>
    rw [← List.append_assoc, relay_concat]
    rcases exec_extensionId (relay R this r₀ (happenings ++ later)) h with hid | ⟨hzero, _⟩
    · rw [hid]
      exact ih
    · exact absurd (ih.symm.trans hzero) hset

/-- Whatever was sent was sent under the id that is set now. -/
theorem sent_under (happenings : List (Happening ρ σ)) :
    ∀ i ∈ (relay R this r₀ happenings).sent, ∃ pre post, happenings = pre ++ post ∧
      TakenUnder R this (relay R this r₀ pre).contract.registries
        (relay R this r₀ happenings).contract.extensionId i := by
  induction happenings using List.reverseRecOn with
  | nil => exact fun i hi => absurd hi (List.not_mem_nil)
  | append_singleton happenings h ih =>
    intro i hi
    rw [relay_concat] at hi ⊢
    rcases exec_extensionId (relay R this r₀ happenings) h with hid | ⟨hzero, hsent, _⟩
    · have hold (hi : i ∈ (relay R this r₀ happenings).sent) : ∃ pre post,
          happenings ++ [h] = pre ++ post ∧ TakenUnder R this (relay R this r₀ pre).contract.registries
            (h.exec R this (relay R this r₀ happenings)).contract.extensionId i := by
        obtain ⟨pre, post, hsplit, htaken⟩ := ih i hi
        exact ⟨pre, post ++ [h], by rw [hsplit, List.append_assoc], hid ▸ htaken⟩
      rcases exec_sent (relay R this r₀ happenings) h with ⟨_, hsent⟩ | ⟨_, _, i', _, hsent, _, htaken⟩
      · rw [hsent] at hi
        exact hold hi
      · rw [hsent] at hi
        rcases List.mem_cons.mp hi with rfl | hi
        · exact ⟨happenings, [h], rfl, hid ▸ htaken⟩
        · exact hold hi
    · rw [hsent, none_sent happenings hzero] at hi
      cases hi

/-- The extension id, once it is set, is the least public one that was registered
to the contract at that moment, for good; nothing is sent before, each
instruction sent is announced by one event, and each went to machines that were drawn
for that id. -/
theorem extension_bound (happenings : List (Happening ρ σ)) :
    let r := relay R this r₀ happenings
    List.Forall₂ Announces r.contract.log r.sent ∧
    (r.contract.extensionId = 0 → r.sent = []) ∧
    (r.contract.extensionId ≠ 0 →
      (∃ pre caller value post, happenings = pre ++ .call caller value .setExtensionId :: post ∧
        (relay R this r₀ pre).contract.extensionId = 0 ∧
        Registered R this (relay R this r₀ pre).contract.registries r.contract.extensionId) ∧
      ∀ later, (relay R this r₀ (happenings ++ later)).contract.extensionId =
        r.contract.extensionId) ∧
    ∀ i ∈ r.sent, ∃ pre post, happenings = pre ++ post ∧
      TakenUnder R this (relay R this r₀ pre).contract.registries r.contract.extensionId i := by
  refine ⟨announced happenings, none_sent happenings, fun hset => ⟨?_, extensionId_kept hset⟩,
    sent_under happenings⟩
  induction happenings using List.reverseRecOn with
  | nil => exact absurd rfl hset
  | append_singleton happenings h ih =>
    rw [relay_concat] at hset ⊢
    rcases exec_extensionId (relay R this r₀ happenings) h with
      hid | ⟨hzero, _, ⟨caller, value, rfl⟩, hregistered⟩
    · rw [hid] at hset ⊢
      obtain ⟨pre, caller, value, post, hsplit, hzero, hregistered⟩ := ih hset
      refine ⟨pre, caller, value, post ++ [h], ?_, hzero, hregistered⟩
      rw [hsplit, List.append_assoc, List.cons_append]
    · exact ⟨happenings, caller, value, [], rfl, hzero, hregistered⟩

end Extension

section Binding

variable {ρ σ : Type} (R : Registries ρ) (this : Address) (r₀ : ρ) (X : Externals)
  (S : Snapshotter σ) (cfg : Config) (epoch : UInt64) (c₀ : σ)

/-- The Go ABI package reads back what Solidity's `abi.encode` wrote. -/
def UnpacksEnvelope : Prop :=
  ∀ caller ciphertext, X.unpackEnvelope (submitParams caller ciphertext).message =
    some (caller, ciphertext.bytes)

/-- The taker itself called `submitRfq`, was given the RFQ's id, and sealed its terms. -/
def Submitted (happenings : List (Happening ρ σ)) (rfq : RFQ) : Prop :=
  ∃ pre value ciphertext post i s' msg,
    happenings = pre ++ .call rfq.taker value (.submitRfq ciphertext) :: post ∧
    InstructionSender.submitRfq R this rfq.taker value ciphertext (relay R this r₀ pre).contract =
      .ok (i, s') ∧
    i.instructionId = rfq.id ∧ Opens X cfg ciphertext.bytes msg ∧ msg.side = ascii "SELL_FXRP" ∧
    hexToAddress msg.taker = rfq.taker ∧
    setString10 msg.fxrpAmountRaw = some (rfq.fxrpAmountRaw.toNat : Int) ∧
    setString10 msg.limitPriceUsdE18 = some rfq.limitPriceE18 ∧ msg.xrplAddress = rfq.xrplAddress

variable {R this r₀ X S cfg epoch c₀} {happenings : List (Happening ρ σ)}

theorem brought_submitted (hoff : cfg.allowDirectRfq = false) (hunpack : UnpacksEnvelope X) {rfq : RFQ}
    (hrfq : Brought X S cfg epoch c₀ (relay R this r₀ happenings).received rfq) :
    Submitted R this r₀ X cfg happenings rfq := by
  obtain ⟨pre, e, hsent, ⟨a, df, ciphertext, msg, hcommand, hid, hsealed⟩, _⟩ := hrfq
  have hin : e ∈ (relay R this r₀ happenings).received := hsent.subset (by simp)
  cases e with
  | background f => cases hcommand
  | direct a' di =>
    simp only [Event.command, hoff, Bool.false_eq_true, if_false] at hcommand
    split_ifs at hcommand <;> cases hcommand
  | instruction a' df' =>
    have hsubmit : df = df' ∧ df'.opCommand = rfqSubmit := by
      simp only [Event.command] at hcommand
      split_ifs at hcommand with hcmd
      · simp only [Option.some.injEq, Command.rfqSubmit.injEq] at hcommand
        exact ⟨hcommand.2.symm, hcmd⟩
      · simp at hcommand
    obtain ⟨rfl, hcmd⟩ := hsubmit
    have hrelayed : Relayed R this r₀ happenings _ := relayed happenings
    obtain ⟨i, hi, rfl⟩ := hrelayed.received a' df hin
    obtain ⟨caller, c, hasked⟩ := hrelayed.sent i hi
    obtain ⟨ct, rfl, hparams⟩ := hasked.submitted hcmd
    obtain ⟨before, value, post, s', hsplit, hexec⟩ := hasked
    have henvelope := hsealed.envelope
    have hmessage : (dataFixedOf i).originalMessage = (submitParams caller ct).message := by
      rw [dataFixedOf, hparams]
    rw [hmessage, hunpack, Option.some.injEq, Prod.mk.injEq] at henvelope
    obtain ⟨rfl, rfl⟩ := henvelope
    simp only [InstructionSender.Call.exec, bind_eq_ok, pure_eq_ok, Prod.mk.injEq, Prod.exists,
      Option.some.injEq] at hexec
    obtain ⟨i, s', hok, rfl, rfl⟩ := hexec
    exact ⟨before, value, ct, post, i, s', msg, hsplit, hok, hid, hsealed.opens, hsealed.side,
      hsealed.taker, hsealed.amount, hsealed.limit, hsealed.address⟩

/-- What the escrow decodes of issued bytes: of the price, the low 256 bits. -/
theorem Issued.decoded_terms {mi : MatchInstruction} {data : Bytes} {events : List (Event σ)}
    {amount : UInt64} {price : Int} (h : Issued X S cfg epoch c₀ events data mi)
    (hpacks : PacksLow X.toLibraries) (hamount : mi.amountFxrp = some (amount.toNat : Int))
    (hprice : mi.priceUsd18 = some price) :
    ∃ mi', MatchInstructionLib.decode data = some mi' ∧ mi'.matchId = mi.matchID ∧
      mi'.taker = mi.taker ∧ mi'.takerXrplAddress = mi.takerXrplAddress.bytes ∧
      mi'.amountFxrp = amount.toNat ∧ mi'.priceUsd18 = (price % 2 ^ 256).toNat := by
  obtain ⟨raw, price', hraw, hprice', hpack⟩ := abiEncode_eq_ok.mp h.encoded
  rw [hamount, Option.some.injEq] at hraw
  rw [hprice, Option.some.injEq] at hprice'
  subst hraw hprice'
  refine ⟨_, decode_lowWords hpacks hpack, rfl, rfl, rfl, ?_, rfl⟩
  have hlt := amount.toNat_lt
  simp only [lowWords]
  omega

/-- The RFQ an instruction was asked for: its terms, and the sealed limit. -/
theorem requested_terms {e : Event σ} {events : List (Event σ)} {mi : MatchInstruction}
    (hreq : e.signRequest X S cfg (session X S cfg epoch c₀ events) = some mi) :
    ∃ rfq price, Brought X S cfg epoch c₀ events rfq ∧ rfq.id = mi.matchID ∧ rfq.taker = mi.taker ∧
      rfq.xrplAddress = mi.takerXrplAddress ∧ mi.amountFxrp = some (rfq.fxrpAmountRaw.toNat : Int) ∧
      mi.priceUsd18 = some price ∧ rfq.limitPriceE18 ≤ price := by
  obtain ⟨a, rfqID, snap, hsign⟩ := event_signRequest_cases hreq
  obtain ⟨rfq, mid, w, hrfq, _, _, _, hkeep, rfl⟩ := signRequest_cases hsign
  have helig := (rejection_eq_none ..).mp hkeep
  exact ⟨rfq, w.priceE18, (session_brought events hrfq).2, rfl, rfl, rfl, rfl, rfl,
    helig .belowLimit (by decide)⟩

/-- A match on the terms of an RFQ, at a price and an oracle's mid. -/
structure LockedOn (P : Primitives) (rfq : RFQ) (priceUsd18 mid18 : Nat) (m : Match) : Prop where
  opened : m.state ≠ .none
  taker : m.taker = rfq.taker
  address : m.takerXrplAddressHash = P.keccak256 rfq.xrplAddress.bytes
  amount : m.amountFxrp = rfq.fxrpAmountRaw.toNat
  drops : m.xrpDrops = rfq.fxrpAmountRaw.toNat * priceUsd18 / mid18

/-- This transaction opened the instruction's match, with its bytes and at this mid. -/
structure OpenedBy (X : Externals) (S : Snapshotter σ) (cfg : Config) (epoch : UInt64) (c₀ : σ)
    (events : List (Event σ)) {d : Deployment} (w₀ : World) (before : List (Tx d)) (lock : Tx d)
    (mi : MatchInstruction) (mid18 : Nat) : Prop where
  fresh : ((after X.toPrimitives w₀ before).escrow.matchOf mi.matchID).state = .none
  call : ∃ value data sig, lock.call = .lock value data sig ∧ Issued X S cfg epoch c₀ events data mi
  made : ∃ w', lock.exec X.toPrimitives (after X.toPrimitives w₀ before) = .ok w'
  feed : ∃ ts, lock.env.getFeedByIdInWei = some (mid18, ts)

/-- A match that the enclave's bytes opened is on the terms of the RFQ they were asked for, at the
mid its `lock` read, in every later state. -/
theorem OpenedFrom.lockedOn {d : Deployment} {w₀ : World} {events : List (Event σ)} {txs : List (Tx d)}
    {mi : MatchInstruction} (hopened : OpenedFrom X S cfg epoch c₀ events w₀ txs mi) (hw₀ : Deployed d w₀)
    (hpacks : PacksLow X.toLibraries) :
    ∃ pre e rfq price before lock later mid18, pre ++ [e] <+: events ∧
      e.signRequest X S cfg (session X S cfg epoch c₀ pre) = some mi ∧
      Brought X S cfg epoch c₀ events rfq ∧ rfq.id = mi.matchID ∧ rfq.taker = mi.taker ∧
      mi.priceUsd18 = some price ∧ rfq.limitPriceE18 ≤ price ∧ txs = before ++ lock :: later ∧
      OpenedBy X S cfg epoch c₀ events w₀ before lock mi mid18 ∧
      LockedOn X.toPrimitives rfq (price % 2 ^ 256).toNat mid18
        ((after X.toPrimitives w₀ txs).escrow.matchOf mi.matchID) := by
  obtain ⟨hstate, htaker, hhash⟩ := hopened.pays hw₀ hpacks
  obtain ⟨before, lock, value, data, sig, w', ⟨later, rfl⟩, hcall, hexec, hissued⟩ := hopened
  obtain ⟨pre, e, hpre, hreq⟩ := hissued.requested
  obtain ⟨rfq, price, hbrought, hid, hrfq, haddress, hamount, hprice, hlimit⟩ := requested_terms hreq
  obtain ⟨mi', hdecode, hid', _, _, hamount', hprice'⟩ := hissued.decoded_terms hpacks hamount hprice
  obtain ⟨mi'', fee, mid18, ts, haccepted, hstored⟩ := lock_stored hcall hexec
  obtain rfl : mi' = mi'' := Option.some.inj (hdecode.symm.trans haccepted.decoded)
  have hfresh := haccepted.instruction.fresh
  rw [hid'] at hstored hfresh
  have hopen : (w'.escrow.matchOf mi.matchID).state ≠ .none := by
    rw [hstored]
    exact nofun
  have hafter : after X.toPrimitives w₀ (before ++ [lock]) = w' := by
    rw [after_concat, hexec]
    rfl
  have hentered : w'.escrow.entered = false := by
    rw [← hafter]
    exact after_entered hw₀.genesis.entered _
  have hkeep := after_sameTerms (P := X.toPrimitives) hentered hopen later
  have hsplit : after X.toPrimitives w₀ (before ++ [lock] ++ later) = after X.toPrimitives w' later := by
    rw [← hafter]
    exact run_append (Tx.exec X.toPrimitives) w₀ _ later
  refine ⟨pre, e, rfq, price, before, lock, later, mid18, hpre, hreq,
    hbrought.later ((List.prefix_append pre [e]).trans hpre), hid, hrfq, hprice, hlimit, by simp,
    ⟨hfresh, ⟨value, data, sig, hcall, hissued⟩, ⟨w', hexec⟩, ts, haccepted.feedRead⟩, hstate,
    htaker.trans hrfq.symm, ?_, ?_, ?_⟩
  · rw [haddress]
    exact hhash
  · rw [hsplit, hkeep.terms, hstored]
    exact hamount'
  · rw [hsplit, hkeep.terms, hstored, ← hamount', ← hprice']
    rfl

/-- With the demo ingress off: every RFQ in the book, every instruction the
enclave is asked to sign and every match opened with its bytes goes back to a
`submitRfq` its taker sent, and keeps to the terms sealed there. -/
theorem sender_bound (hoff : cfg.allowDirectRfq = false) (hunpack : UnpacksEnvelope X)
    (hpacks : PacksLow X.toLibraries) (happenings : List (Happening ρ σ)) :
    let events := (relay R this r₀ happenings).received
    (∀ id rfq, (session X S cfg epoch c₀ events).book.rfqs id = some rfq →
      rfq.id = id ∧ Submitted R this r₀ X cfg happenings rfq) ∧
    (∀ (e : Event σ) (mi : MatchInstruction),
      e.signRequest X S cfg (session X S cfg epoch c₀ events) = some mi → ∃ rfq price, Submitted R this r₀ X cfg happenings rfq ∧
        rfq.id = mi.matchID ∧ rfq.taker = mi.taker ∧ rfq.xrplAddress = mi.takerXrplAddress ∧
        mi.amountFxrp = some (rfq.fxrpAmountRaw.toNat : Int) ∧ mi.priceUsd18 = some price ∧
        rfq.limitPriceE18 ≤ price) ∧
    ∀ {d : Deployment} (w₀ : World) (txs : List (Tx d)) (mi : MatchInstruction), Deployed d w₀ →
      OpenedFrom X S cfg epoch c₀ events w₀ txs mi →
      let m := (after X.toPrimitives w₀ txs).escrow.matchOf mi.matchID
      ∃ rfq, Submitted R this r₀ X cfg happenings rfq ∧ m.state ≠ .none ∧ m.taker = rfq.taker ∧
        m.takerXrplAddressHash = X.keccak256 rfq.xrplAddress.bytes ∧
        m.amountFxrp = rfq.fxrpAmountRaw.toNat := by
  refine ⟨?_, ?_, ?_⟩
  · intro id rfq hrfq
    obtain ⟨hid, hbrought⟩ := session_brought _ hrfq
    exact ⟨hid, brought_submitted hoff hunpack hbrought⟩
  · intro e mi hreq
    obtain ⟨rfq, price, hbrought, hterms⟩ := requested_terms hreq
    exact ⟨rfq, price, brought_submitted hoff hunpack hbrought, hterms⟩
  · intro d w₀ txs mi hw₀ hopened m
    obtain ⟨_, _, rfq, _, _, _, _, _, _, _, hbrought, _, _, _, _, _, _, hlocked⟩ :=
      hopened.lockedOn hw₀ hpacks
    exact ⟨rfq, brought_submitted hoff hunpack hbrought, hlocked.opened, hlocked.taker, hlocked.address,
      hlocked.amount⟩

end Binding

/-! Taker 2 submits through the contract, and the RFQ that is delivered is its own. -/
namespace SampleRelay

open MatchInstructionLib (uintAt stringAt)
open AbiWords

/-- Registries that number the instructions and know one extension. -/
def registries : Registries Nat where
  nextPublicExtensionId _ := 0x10002
  getTeeExtensionInstructionsSender _ id := if id = 0x10001 then 0x1A else 0
  getRandomTeeIds _ _ count := some (List.replicate count 1)
  sendInstructions _ _ _ _ r := some (BitVec.ofNat 256 r, r + 1)

def ciphertext : CalldataBytes := ⟨SampleDesk.ciphertext "rfq", by decide⟩

def happenings : List (Happening Nat Unit) :=
  [.call 9 0 .setExtensionId, .call 2 0 (.submitRfq ciphertext), .deliver (SampleDesk.ambient 1000) 0]

theorem unpacksEnvelope (address : GoString) : UnpacksEnvelope (SampleSeal.externals address) := by
  intro caller ciphertext
  have hcaller : caller.toNat < 2 ^ 160 := caller.isLt
  have hlength := ciphertext.length_lt
  have slot (bits i n : Nat) (hn : n < 2 ^ bits) (hbits : bits ≤ 256)
      (hget : [caller.toNat, 0x40, ciphertext.bytes.length][i]? = some n) :
      uintAt bits (submitParams caller ciphertext).message (32 * i) = some n := by
    have hwide : n < wordSize := Nat.lt_of_lt_of_le hn (Nat.pow_le_pow_right (by decide) hbits)
    rw [uintAt, InstructionSender.submit_message, wordAt_words _ _ _ _ hget, Option.bind_some,
      Nat.mod_eq_of_lt hwide, if_pos hn]
  have hsender : uintAt 160 (submitParams caller ciphertext).message 0 = some caller.toNat :=
    slot 160 0 _ hcaller (by decide) rfl
  have hoffset : uintAt 64 (submitParams caller ciphertext).message 32 = some 0x40 :=
    slot 64 1 0x40 (by decide) (by decide) rfl
  have hlen : uintAt 64 (submitParams caller ciphertext).message 0x40 =
      some ciphertext.bytes.length := slot 64 2 _ hlength (by decide) rfl
  have hbytes : stringAt (submitParams caller ciphertext).message 0x40 = some ciphertext.bytes := by
    have happend := bytesAt_append (words [caller.toNat, 0x40, ciphertext.bytes.length])
      ciphertext.bytes (padding ciphertext.bytes.length)
    rw [length_words, ← padRight, ← InstructionSender.submit_message] at happend
    rw [stringAt, hlen, Option.bind_some]
    exact happend
  simp only [SampleSeal.externals, SampleDesk.externals]
  rw [hsender, hoffset]
  simp only [bind, Option.bind_some, hbytes, pure, BitVec.ofNat_toNat, BitVec.setWidth_eq]

end SampleRelay

open SampleRelay in
theorem sender_bound_sample :
    ∃ rfq, rfq.id = 7 ∧ Submitted registries 0x1A 7 (SampleSeal.externals SampleSeal.lone)
      SampleDesk.config happenings rfq := by
  have hsome : ((session (SampleSeal.externals SampleSeal.lone) SampleDesk.snapshotter
      SampleDesk.config 0 () (relay registries 0x1A 7 happenings).received).book.rfqs 7).isSome =
        true := by decide +kernel
  obtain ⟨rfq, hrfq⟩ := Option.isSome_iff_exists.mp hsome
  exact ⟨rfq, (sender_bound rfl (unpacksEnvelope _) (SampleSeal.packsLow _) happenings).1 7 rfq hrfq⟩

end WhisperDesk.Fcewire
