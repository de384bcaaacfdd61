import WhisperDesk.Enclave.DeskRuns
import WhisperDesk.Enclave.Expiry

/-!
# One envelope, one RFQ

The id of an RFQ that comes in on the demo ingress is the hash of the envelope's
bytes; what is admitted is what those bytes decode to. Sending the same bytes again
brings nothing while the RFQ is in the book. Other bytes that decode to the same
sender and ciphertext are an RFQ of their own.
-/
namespace WhisperDesk.Fcewire

open Function (update)
open Go
open Matcher
open Reverting

/-- The terms a taker seals. -/
structure Order where
  fxrpAmountRaw : UInt64
  limitPriceE18 : Int
  xrplAddress : GoString

section Submissions

variable {σ : Type} (X : Externals) (S : Snapshotter σ) (cfg : Config)

/-- The order inside a ciphertext, as far as the handler checks it: its taker is the
sender of the envelope. -/
def Seals (sender : Address) (ciphertext : Bytes) (o : Order) : Prop :=
  ∃ plaintext body msg, X.plaintextOf ciphertext = some plaintext ∧
    depad plaintext cfg.padSize = some body ∧ X.decodeRfqPlaintext body = some msg ∧ msg.v = 1 ∧
    msg.side = ascii "SELL_FXRP" ∧ isHexAddress msg.taker = true ∧ hexToAddress msg.taker = sender ∧
    msg.xrplAddress.bytes ≠ [] ∧ readUint64 msg.fxrpAmountRaw = some o.fxrpAmountRaw ∧
    setString10 msg.limitPriceUsdE18 = some o.limitPriceE18 ∧ msg.xrplAddress = o.xrplAddress

/-- The RFQ that `AddRFQ` makes of an order. -/
def Order.rfq (o : Order) (id : Bytes32) (taker : Address) (now : Time) : RFQ where
  id := id
  taker := taker
  fxrpAmountRaw := o.fxrpAmountRaw
  limitPriceE18 := o.limitPriceE18
  xrplAddress := o.xrplAddress
  receivedAt := now
  windowEndsAt := now.add (seconds cfg.rfqWindowSec)
  expiresAt := now.add (seconds cfg.rfqTTLSec)
  outcome := none

/-- The message is answered with an ack, and `rfq` is in the book from then on. -/
structure Admits (h : Handler σ) (a : Ambient) (di : DirectInstruction) (rfq : RFQ) : Prop where
  command : di.opCommand = rfqSubmit
  answer : (Event.direct a di).answer X S cfg h =
    some (.rfqAck (hashHex rfq.id) rfq.windowEndsAt.unix.toUInt64)
  fresh : h.book.rfqs rfq.id = none
  added : ((Event.direct a di).exec X S cfg h).book.rfqs rfq.id = some rfq

variable {X S cfg} {h h' : Handler σ} {a a' : Ambient} {di di' : DirectInstruction} {rfq : RFQ}
  {sender : Address} {ciphertext : Bytes} {o o' : Order}

theorem Seals.unique (hseals : Seals X cfg sender ciphertext o)
    (hseals' : Seals X cfg sender ciphertext o') : o = o' := by
  obtain ⟨plaintext, body, msg, hplain, hbody, hmsg, _, _, _, _, _, hamount, hlimit, haddr⟩ := hseals
  obtain ⟨plaintext', body', msg', hplain', hbody', hmsg', _, _, _, _, _, hamount', hlimit', haddr'⟩ :=
    hseals'
  obtain rfl := Option.some.inj (hplain.symm.trans hplain')
  obtain rfl := Option.some.inj (hbody.symm.trans hbody')
  obtain rfl := Option.some.inj (hmsg.symm.trans hmsg')
  have hamounts := Option.some.inj (hamount.symm.trans hamount')
  have hlimits := Option.some.inj (hlimit.symm.trans hlimit')
  have haddrs := haddr.symm.trans haddr'
  cases o
  cases o'
  simp only at hamounts hlimits haddrs
  rw [hamounts, hlimits, haddrs]

theorem decrypt_iff {plaintext : Bytes} :
    decrypt X a ciphertext = some plaintext ↔
      a.decryptUp = true ∧ X.plaintextOf ciphertext = some plaintext := by
  unfold decrypt
  split
  · rename_i hup
    simp [hup]
  · rename_i hdown
    simp [hdown]

/-- When RFQ_SUBMIT succeeds: apart from the port and the book, it is a matter of the
decoded pair alone. -/
theorem handleRfqSubmit_eq_ok {df : DataFixed} {p : Payload} :
    handleRfqSubmit X S cfg a df h = .ok (p, h') ↔
      ∃ sender ciphertext o, X.unpackEnvelope df.originalMessage = some (sender, ciphertext) ∧
        a.decryptUp = true ∧ Seals X cfg sender ciphertext o ∧
        cfg.minBlockFxrpRaw ≤ o.fxrpAmountRaw ∧ 0 < o.limitPriceE18 ∧
        h.book.rfqs df.instructionID = none ∧
        p = .rfqAck (hashHex df.instructionID)
          (o.rfq cfg df.instructionID sender a.now).windowEndsAt.unix.toUInt64 ∧
        h' = ⟨{ h.book with
          rfqs := update h.book.rfqs df.instructionID (some (o.rfq cfg df.instructionID sender a.now))
          quotes := update h.book.quotes df.instructionID (some ByMaker.empty) },
          S.trackTaker sender h.chain⟩ := by
  simp only [handleRfqSubmit, bind_eq_ok, orRevert_eq_ok, revertIf_eq_ok, mapError_eq_ok, pure_eq_ok,
    Prod.mk.injEq, ne_eq, Decidable.not_not, decrypt_iff, Bool.not_eq_false]
  constructor
  · rintro ⟨⟨sender, ciphertext⟩, henv, plaintext, ⟨hup, hplain⟩, body, hbody, msg, hmsg, _, hv, _, hside,
      _, hhex, _, htaker, _, haddr, amount, hamount, limit, hlimit, ⟨rfq, book⟩, hadd, rfl, rfl⟩
    obtain ⟨hadmitted, hlim, hnew, hrfq, rfl⟩ := addRFQ_eq_ok.mp hadd
    obtain rfl := Option.some.inj hlim
    have hsame : rfq = (⟨amount, rfq.limitPriceE18, msg.xrplAddress⟩ : Order).rfq cfg df.instructionID
        sender a.now := hrfq
    have hsize : cfg.matcher.minBlockFxrpRaw ≤ amount := by
      have hsize := hadmitted.size
      rw [hrfq] at hsize
      exact hsize
    exact ⟨sender, ciphertext, ⟨amount, rfq.limitPriceE18, msg.xrplAddress⟩, henv, hup,
      ⟨plaintext, body, msg, hplain, hbody, hmsg, hv, hside, hhex, htaker, haddr, hamount, hlimit, rfl⟩,
      hsize, hadmitted.limit_pos, hnew, by rw [← hsame], by rw [← hsame]⟩
  · rintro ⟨sender, ciphertext, o, henv, hup, hseals, hmin, hpos, hnew, rfl, rfl⟩
    obtain ⟨plaintext, body, msg, hplain, hbody, hmsg, hv, hside, hhex, htaker, haddr, hamount, hlimit,
      haddress⟩ := hseals
    have hadmitted : Admitted cfg.matcher (o.rfq cfg df.instructionID sender a.now) :=
      ⟨hmin, fun hempty => haddr (by rw [haddress]; exact hempty), hpos, rfl⟩
    have hadd : h.book.addRFQ cfg.matcher df.instructionID sender o.fxrpAmountRaw
        (some o.limitPriceE18) o.xrplAddress a.now cfg.rfqWindowSec cfg.rfqTTLSec =
        .ok (o.rfq cfg df.instructionID sender a.now, _) :=
      addRFQ_eq_ok.mpr ⟨hadmitted, rfl, hnew, rfl, rfl⟩
    refine ⟨(sender, ciphertext), henv, plaintext, ⟨hup, hplain⟩, body, hbody, msg, hmsg, (), hv, (),
      hside, (), hhex, (), htaker, (), haddr, o.fxrpAmountRaw, hamount, o.limitPriceE18, hlimit,
      (o.rfq cfg df.instructionID sender a.now, _), ?_, rfl, rfl⟩
    rw [haddress]
    exact hadd

variable (σ X cfg a) in
theorem command_direct (hcommand : di.opCommand = rfqSubmit) :
    (Event.direct a di : Event σ).command X cfg =
      if cfg.allowDirectRfq then some (.rfqSubmit a (asInstruction X di)) else none := by
  have hquote : ¬ rfqSubmit = quoteSubmit := by decide +kernel
  have hmatch : ¬ rfqSubmit = rfqMatch := by decide +kernel
  simp only [Event.command, hcommand, if_neg hquote, if_neg hmatch, if_true]

theorem not_admits (hcommand : di.opCommand = rfqSubmit) (hdirect : cfg.allowDirectRfq = false) :
    ¬ Admits X S cfg h a di rfq := by
  have hnone := command_direct σ X cfg a hcommand
  rw [hdirect, if_neg Bool.false_ne_true] at hnone
  rintro ⟨_, hanswer, _, _⟩
  rw [(exec_no_command hnone).2] at hanswer
  cases hanswer

/-- With the ingress open the handler decides. -/
theorem admits_iff_handled (hcommand : di.opCommand = rfqSubmit) (hdirect : cfg.allowDirectRfq = true) :
    Admits X S cfg h a di rfq ↔ ∃ h',
      handleRfqSubmit X S cfg a (asInstruction X di) h =
        .ok (.rfqAck (hashHex rfq.id) rfq.windowEndsAt.unix.toUInt64, h') ∧
      h.book.rfqs rfq.id = none ∧ h'.book.rfqs rfq.id = some rfq := by
  have hsome := command_direct σ X cfg a hcommand
  rw [hdirect, if_pos rfl] at hsome
  obtain ⟨hexec, hanswer⟩ := exec_command (S := S) (h := h) hsome
  simp only [Command.handle] at hexec hanswer
  constructor
  · rintro ⟨_, hack, hfresh, hadded⟩
    rw [hanswer] at hack
    rw [hexec] at hadded
    cases hr : handleRfqSubmit X S cfg a (asInstruction X di) h with
    | error code => rw [hr] at hack; cases hack
    | ok v =>
      obtain ⟨p, h'⟩ := v
      rw [hr] at hack hadded
      obtain rfl : p = _ := Option.some.inj hack
      exact ⟨h', rfl, hfresh, hadded⟩
  · rintro ⟨h', hr, hfresh, hadded⟩
    rw [hr] at hexec hanswer
    exact ⟨hcommand, hanswer, hfresh, by rw [hexec]; exact hadded⟩

/-- A direct RFQ_SUBMIT is admitted by its decoded pair, under the hash of its bytes. -/
theorem admits_iff (hcommand : di.opCommand = rfqSubmit) :
    Admits X S cfg h a di rfq ↔ cfg.allowDirectRfq = true ∧
      ∃ sender ciphertext o, X.unpackEnvelope di.message = some (sender, ciphertext) ∧
        a.decryptUp = true ∧ Seals X cfg sender ciphertext o ∧
        cfg.minBlockFxrpRaw ≤ o.fxrpAmountRaw ∧ 0 < o.limitPriceE18 ∧
        h.book.rfqs (X.keccak256 di.message) = none ∧
        rfq = o.rfq cfg (X.keccak256 di.message) sender a.now := by
  cases hdirect : cfg.allowDirectRfq with
  | false =>
    simp only [Bool.false_eq_true, false_and, iff_false]
    exact not_admits hcommand hdirect
  | true =>
    rw [admits_iff_handled hcommand hdirect]
    simp only [true_and]
    constructor
    · rintro ⟨h', hr, hfresh, hadded⟩
      obtain ⟨sender, ciphertext, o, henv, hup, hseals, hmin, hpos, hnew, hpayload, rfl⟩ :=
        handleRfqSubmit_eq_ok.mp hr
      have hid : rfq.id = X.keccak256 di.message := by
        have htext := congrArg hexToHash (Payload.rfqAck.inj hpayload).1
        rw [hexToHash_hashHex, hexToHash_hashHex] at htext
        exact htext
      refine ⟨sender, ciphertext, o, henv, hup, hseals, hmin, hpos, hnew, ?_⟩
      rw [hid] at hadded
      have hbook : update h.book.rfqs (X.keccak256 di.message)
          (some (o.rfq cfg (X.keccak256 di.message) sender a.now)) (X.keccak256 di.message) =
          some rfq := hadded
      rw [Function.update_self] at hbook
      exact (Option.some.inj hbook).symm
    · rintro ⟨sender, ciphertext, o, henv, hup, hseals, hmin, hpos, hnew, rfl⟩
      refine ⟨_, handleRfqSubmit_eq_ok.mpr
        ⟨sender, ciphertext, o, henv, hup, hseals, hmin, hpos, hnew, rfl, rfl⟩, hnew, ?_⟩
      exact Function.update_self (X.keccak256 di.message) _ _

variable (X S cfg) in
/-- Only a sweep past its expiry takes an RFQ from the desk. -/
theorem turn_rfqs (t : Turn σ) {id : Bytes32} (hrfq : h.book.rfqs id = some rfq)
    (hkept : ∀ now, t = .gc now → ¬ rfq.expiresAt.before now = true) :
    ∃ o, (t.exec X S cfg h).book.rfqs id = some { rfq with outcome := o } := by
  rcases turn_op X S cfg t h with hsame | ⟨op, hsweep, hop⟩
  · rw [hsame]
    exact ⟨rfq.outcome, hrfq⟩
  · rw [hop]
    exact rfqs_kept hrfq fun now hgc => hkept now (hsweep now hgc)

theorem Admits.stays {epoch : UInt64} {c₀ : σ} {pre later : List (Turn σ)}
    (hadmits : Admits X S cfg (desk X S cfg epoch c₀ pre) a di rfq)
    (hkept : ∀ now, Turn.gc now ∈ later → ¬ rfq.expiresAt.before now = true) :
    ∃ o, (desk X S cfg epoch c₀ (pre ++ .call (.direct a di) :: later)).book.rfqs rfq.id =
      some { rfq with outcome := o } := by
  induction later using List.reverseRecOn with
  | nil =>
    rw [desk_concat]
    exact ⟨rfq.outcome, hadmits.added⟩
  | append_singleton later t ih =>
    obtain ⟨o, ho⟩ := ih fun now hmem => hkept now (List.mem_append_left _ hmem)
    rw [← List.cons_append, ← List.append_assoc, desk_concat]
    obtain ⟨o', ho'⟩ := turn_rfqs X S cfg t ho (by
      rintro now rfl
      exact hkept now (List.mem_append_right _ List.mem_cons_self))
    exact ⟨o', ho'⟩

/-- Once an order has been admitted, a message that decodes to it is turned away only
when the port is down or the book holds an RFQ under the hash of the message. -/
theorem Admits.again (hadmits : Admits X S cfg h a di rfq) (hcommand : di'.opCommand = rfqSubmit)
    (hdecode : X.unpackEnvelope di'.message = X.unpackEnvelope di.message) :
    (∃ rfq', Admits X S cfg h' a' di' rfq') ↔
      a'.decryptUp = true ∧ h'.book.rfqs (X.keccak256 di'.message) = none := by
  obtain ⟨hdirect, sender, ciphertext, o, henv, _, hseals, hmin, hpos, _, _⟩ :=
    (admits_iff hadmits.command).mp hadmits
  simp only [admits_iff hcommand]
  constructor
  · rintro ⟨_, _, _, _, _, _, hup, _, _, _, hnew, _⟩
    exact ⟨hup, hnew⟩
  · rintro ⟨hup, hnew⟩
    exact ⟨_, hdirect, sender, ciphertext, o, hdecode.trans henv, hup, hseals, hmin, hpos, hnew, rfl⟩

/-- And what is admitted is the same order once more, under that hash. -/
theorem Admits.same_order (hadmits : Admits X S cfg h a di rfq) {rfq' : RFQ}
    (hagain : Admits X S cfg h' a' di' rfq')
    (hdecode : X.unpackEnvelope di'.message = X.unpackEnvelope di.message) :
    rfq' = { rfq with
      id := X.keccak256 di'.message
      receivedAt := a'.now
      windowEndsAt := a'.now.add (seconds cfg.rfqWindowSec)
      expiresAt := a'.now.add (seconds cfg.rfqTTLSec) } := by
  obtain ⟨_, sender, ciphertext, o, henv, _, hseals, _, _, _, rfl⟩ :=
    (admits_iff hadmits.command).mp hadmits
  obtain ⟨_, sender', ciphertext', o', henv', _, hseals', _, _, _, rfl⟩ :=
    (admits_iff hagain.command).mp hagain
  obtain ⟨rfl, rfl⟩ := Prod.mk.inj (Option.some.inj (henv.symm.trans (hdecode.symm.trans henv')))
  obtain rfl := hseals.unique hseals'
  rfl

end Submissions

/-- The id of a direct RFQ names the bytes of its envelope. Until a sweep past the
expiry the same bytes are never admitted again; other bytes, or the same after the
sweep, that decode to the same sender and ciphertext are admitted just when the
decrypt port answers and the book holds no RFQ under their hash, and they bring the
same order in once more. -/
theorem one_envelope_one_rfq {σ : Type} (X : Externals) (S : Snapshotter σ) (cfg : Config) :
    (∀ epoch c₀ pre a di rfq later a' di' rfq', Admits X S cfg (desk X S cfg epoch c₀ pre) a di rfq →
      (∀ now, Turn.gc now ∈ later → ¬ rfq.expiresAt.before now = true) → di'.message = di.message →
      ¬ Admits X S cfg (desk X S cfg epoch c₀ (pre ++ .call (.direct a di) :: later)) a' di' rfq') ∧
    (∀ (h h' : Handler σ) a di rfq a' di', Admits X S cfg h a di rfq → di'.opCommand = rfqSubmit →
      X.unpackEnvelope di'.message = X.unpackEnvelope di.message →
      ((∃ rfq', Admits X S cfg h' a' di' rfq') ↔
        a'.decryptUp = true ∧ h'.book.rfqs (X.keccak256 di'.message) = none) ∧
      ∀ rfq', Admits X S cfg h' a' di' rfq' → rfq' = { rfq with
        id := X.keccak256 di'.message
        receivedAt := a'.now
        windowEndsAt := a'.now.add (seconds cfg.rfqWindowSec)
        expiresAt := a'.now.add (seconds cfg.rfqTTLSec) }) := by
  refine ⟨?_, ?_⟩
  · intro epoch c₀ pre a di rfq later a' di' rfq' hadmits hkept hbytes hagain
    obtain ⟨o, ho⟩ := hadmits.stays hkept
    obtain ⟨_, _, _, _, _, _, _, _, _, _, hid⟩ := (admits_iff hadmits.command).mp hadmits
    obtain ⟨_, _, _, _, _, _, _, _, _, hnew, _⟩ := (admits_iff hagain.command).mp hagain
    have hsame : rfq.id = X.keccak256 di.message := by
      rw [hid]
      rfl
    rw [hbytes, ← hsame, ho] at hnew
    cases hnew
  · intro h h' a di rfq a' di' hadmits hcommand hdecode
    exact ⟨hadmits.again hcommand hdecode, fun rfq' hagain => hadmits.same_order hagain hdecode⟩

/-! The sample order, and its envelope with one byte behind it. -/
namespace SampleDesk

def openConfig : Config := { config with allowDirectRfq := true }

def envelope : DirectInstruction where
  opType := opHash "WD_RFQ"
  opCommand := rfqSubmit
  message := AbiWords.words [2, 0x40, (ciphertext "rfq").length] ++ AbiWords.padRight (ciphertext "rfq")

def reencoded : DirectInstruction := { envelope with message := envelope.message ++ [0] }

def sold (message : Bytes) (n : Nat) : RFQ :=
  { SampleBook.request with
    id := externals.keccak256 message
    receivedAt := SampleBook.clock n
    windowEndsAt := SampleBook.clock (n + 10)
    expiresAt := SampleBook.clock (n + 600) }

def resend (di : DirectInstruction) (n : Nat) : Turn Unit := .call (.direct (ambient n) di)

theorem decode_reencoded : externals.unpackEnvelope reencoded.message =
    externals.unpackEnvelope envelope.message := by decide +kernel

theorem seals_rfq : Seals externals openConfig 2 (ciphertext "rfq")
    ⟨5000000000, 1990000000000000000, SampleBook.request.xrplAddress⟩ :=
  ⟨padded "rfq", ascii "rfq", rfqPlaintext, by decide +kernel, by decide +kernel, rfl,
    by decide +kernel⟩

theorem admits_first : Admits externals snapshotter openConfig
    (desk externals snapshotter openConfig 0 () []) (ambient 1000) envelope
    (sold envelope.message 1000) :=
  (admits_iff rfl).mpr ⟨rfl, 2, ciphertext "rfq", _, by decide +kernel, rfl, seals_rfq, by decide,
    by decide, rfl, rfl⟩

theorem admits_second : Admits externals snapshotter openConfig
    (desk externals snapshotter openConfig 0 () [resend envelope 1000]) (ambient 1001) reencoded
    (sold reencoded.message 1001) :=
  (admits_iff rfl).mpr ⟨rfl, 2, ciphertext "rfq", _, by decide +kernel, rfl, seals_rfq, by decide,
    by decide, by decide +kernel, rfl⟩

end SampleDesk

open SampleDesk in
theorem one_envelope_one_rfq_sample :
    (¬ Admits externals snapshotter openConfig
      (desk externals snapshotter openConfig 0 () [resend envelope 1000]) (ambient 1001) envelope
      (sold envelope.message 1001)) ∧
    ∃ rfq', Admits externals snapshotter openConfig
      (desk externals snapshotter openConfig 0 () [resend envelope 1000]) (ambient 1001) reencoded
      rfq' := by
  obtain ⟨hbytes, hdecoded⟩ := one_envelope_one_rfq externals snapshotter openConfig
  refine ⟨hbytes 0 () [] (ambient 1000) envelope _ [] (ambient 1001) envelope _ admits_first
    (fun _ hmem => by cases hmem) rfl, ?_⟩
  apply (hdecoded _ _ _ _ _ (ambient 1001) reencoded admits_first rfl decode_reencoded).1.mpr
  exact ⟨rfl, by decide +kernel⟩

open SampleDesk in
/-- One sealed order is in the book twice. -/
theorem reencoded_order_admitted :
    externals.unpackEnvelope reencoded.message = externals.unpackEnvelope envelope.message ∧
      (∃ rfq, Admits externals snapshotter openConfig
        (desk externals snapshotter openConfig 0 () []) (ambient 1000) envelope rfq) ∧
      (∃ rfq', Admits externals snapshotter openConfig
        (desk externals snapshotter openConfig 0 () [resend envelope 1000]) (ambient 1001) reencoded
        rfq') ∧
      let b := (desk externals snapshotter openConfig 0 () [resend envelope 1000,
        resend reencoded 1001]).book
      (b.rfqs (externals.keccak256 envelope.message)).isSome ∧
        (b.rfqs (externals.keccak256 reencoded.message)).isSome ∧
        externals.keccak256 envelope.message ≠ externals.keccak256 reencoded.message :=
  ⟨decode_reencoded, ⟨_, admits_first⟩, ⟨_, admits_second⟩, by decide +kernel⟩

end WhisperDesk.Fcewire
