import WhisperDesk.Contracts.CompromisedSigner
import WhisperDesk.Enclave.Dispatch
import WhisperDesk.Enclave.Refinement

/-!
# From a sealed RFQ to a match on chain

Sessions with both ingresses open. An instruction the enclave is asked to sign
takes its id, taker and XRPL address from one accepted RFQ_SUBMIT; a `lock` of
its bytes writes that taker and the hash of that address into the match, and no
later transaction changes them.
-/
namespace WhisperDesk.Fcewire

open Function (update)
open Go
open Matcher
open Reverting
open DvPEscrow (Deployment LockAccepted lockedMatch)

section Provenance

variable {σ : Type} (X : Externals) (S : Snapshotter σ) (cfg : Config)

/-- On a handler `h`, the event is an RFQ_SUBMIT of either ingress that is
accepted and brings `rfq`. -/
structure Event.Brings (e : Event σ) (h : Handler σ) (rfq : RFQ) : Prop where
  command : ∃ a df ciphertext msg, e.command X cfg = some (.rfqSubmit a df) ∧
    df.instructionID = rfq.id ∧ SealedRfq X cfg df.originalMessage rfq ciphertext msg
  acked : ∃ p, e.answer X S cfg h = some p

/-- An event of the session brought `rfq`. -/
def Brought (epoch : UInt64) (c₀ : σ) (events : List (Event σ)) (rfq : RFQ) : Prop :=
  ∃ pre e, pre ++ [e] <+: events ∧ e.Brings X S cfg (session X S cfg epoch c₀ pre) rfq

variable {X S cfg} {e : Event σ} {h : Handler σ} {epoch : UInt64} {c₀ : σ}
  {events : List (Event σ)} {rfq : RFQ}

theorem Brought.later (hrfq : Brought X S cfg epoch c₀ events rfq) {events' : List (Event σ)}
    (hsent : events <+: events') : Brought X S cfg epoch c₀ events' rfq := by
  obtain ⟨pre, e, hpre, hbrings⟩ := hrfq
  exact ⟨pre, e, hpre.trans hsent, hbrings⟩

/-- An outcome is not among the things that an RFQ_SUBMIT brings. -/
theorem Brought.outcome (hrfq : Brought X S cfg epoch c₀ events rfq) (o : Option MatchOutcome) :
    Brought X S cfg epoch c₀ events { rfq with outcome := o } := by
  obtain ⟨pre, e, hsent, ⟨a, df, ciphertext, msg, hcommand, hid, hsealed⟩, hacked⟩ := hrfq
  exact ⟨pre, e, hsent, ⟨a, df, ciphertext, msg, hcommand, hid, ⟨hsealed.envelope, hsealed.opens,
    hsealed.side, hsealed.taker, hsealed.amount, hsealed.limit, hsealed.address⟩⟩, hacked⟩

/-- Whatever RFQ an event adds or changes was there before, or is brought by it. -/
theorem exec_rfqs {id : Bytes32} (hrfq : (e.exec X S cfg h).book.rfqs id = some rfq) :
    (∃ o, h.book.rfqs id = some { rfq with outcome := o }) ∨
      rfq.id = id ∧ e.Brings X S cfg h rfq := by
  have hsame : h.book.rfqs id = some rfq → ∃ o, h.book.rfqs id = some { rfq with outcome := o } :=
    fun hold => ⟨rfq.outcome, hold⟩
  cases hc : e.command X cfg with
  | none =>
    rw [(exec_no_command hc).1] at hrfq
    exact .inl (hsame hrfq)
  | some c =>
    obtain ⟨hexec, hanswer⟩ := exec_command (S := S) (h := h) hc
    rw [hexec] at hrfq
    cases hok : c.handle X S cfg h with
    | error code =>
      rw [hok] at hrfq
      exact .inl (hsame hrfq)
    | ok v =>
      obtain ⟨p, h'⟩ := v
      rw [hok] at hrfq hanswer
      change h'.book.rfqs id = some rfq at hrfq
      cases c with
      | rfqSubmit a df =>
        obtain ⟨r, ciphertext, msg, hsealed, hid, _, hrfqs, _⟩ := handleRfqSubmit_ok hok
        rw [hrfqs] at hrfq
        by_cases heq : id = r.id
        · subst heq
          rw [Function.update_self, Option.some.injEq] at hrfq
          subst hrfq
          exact .inr ⟨rfl, ⟨a, df, ciphertext, msg, hc, hid.symm, hsealed⟩, p, hanswer⟩
        · rw [Function.update_of_ne heq] at hrfq
          exact .inl (hsame hrfq)
      | quoteSubmit a di =>
        obtain ⟨_, _, _, _, _, hrfqs, _⟩ := handleQuoteSubmit_ok hok
        rw [hrfqs] at hrfq
        exact .inl (hsame hrfq)
      | rfqMatch a data =>
        rcases handleMatchMessage_ok hok with hbook | ⟨id', o, hmark⟩
        · rw [hbook] at hrfq
          exact .inl (hsame hrfq)
        · rw [hmark, markMatched_rfqs] at hrfq
          split_ifs at hrfq with heq
          · subst heq
            obtain ⟨r, hr, rfl⟩ := Option.map_eq_some_iff.mp hrfq
            exact .inl ⟨r.outcome, hr⟩
          · exact .inl (hsame hrfq)

/-- Every RFQ in the book was brought by an event of the session. -/
theorem session_brought (events : List (Event σ)) {id : Bytes32} {rfq : RFQ}
    (hrfq : (session X S cfg epoch c₀ events).book.rfqs id = some rfq) :
    rfq.id = id ∧ Brought X S cfg epoch c₀ events rfq := by
  induction events using List.reverseRecOn generalizing rfq with
  | nil => cases hrfq
  | append_singleton events e ih =>
    rw [session_concat] at hrfq
    rcases exec_rfqs hrfq with ⟨o, hold⟩ | ⟨hid, hbrings⟩
    · obtain ⟨hid, hbrought⟩ := ih hold
      exact ⟨hid, (hbrought.outcome rfq.outcome).later (List.prefix_append events [e])⟩
    · exact ⟨hid, events, e, List.prefix_refl _, hbrings⟩

/-- An instruction the sign port is asked about is an RFQ's that was brought. -/
theorem requested_brought {mi : MatchInstruction}
    (hreq : e.signRequest X S cfg (session X S cfg epoch c₀ events) = some mi) :
    ∃ rfq, Brought X S cfg epoch c₀ events rfq ∧ rfq.id = mi.matchID ∧ rfq.taker = mi.taker ∧
      rfq.xrplAddress = mi.takerXrplAddress := by
  obtain ⟨a, rfqID, snap, hsign⟩ := event_signRequest_cases hreq
  obtain ⟨rfq, mid, w, hrfq, _, _, _, _, rfl⟩ := signRequest_cases hsign
  exact ⟨rfq, (session_brought events hrfq).2, rfl, rfl, rfl⟩

end Provenance

section Packing

/-- The packed tuple as the escrow reads it: of an amount `Pack` writes the low
256 bits. -/
def lowWords (t : MatchInstructionTuple) : MatchInstructionLib.MatchInstruction where
  matchId := t.matchID
  escrow := t.escrow
  taker := t.taker
  maker := t.maker
  amountFxrp := (t.amountFxrp % 2 ^ 256).toNat
  priceUsd18 := (t.priceUsd18 % 2 ^ 256).toNat
  takerXrplAddress := t.takerXrplAddress.bytes
  instructionExpiresAt := t.instructionExpiresAt.toNat

/-- What `Pack` returns, if anything, is the ABI encoding. -/
def PacksLow (L : Libraries) : Prop :=
  ∀ t data, L.pack t = some data → data = MatchInstructionLib.encode (lowWords t)

theorem decode_lowWords {L : Libraries} (hpacks : PacksLow L) {t : MatchInstructionTuple}
    {data : Bytes} (hdata : L.pack t = some data) :
    MatchInstructionLib.decode data = some (lowWords t) := by
  have haddress := t.takerXrplAddress.length_lt
  rw [hpacks t data hdata]
  apply MatchInstructionLib.decode_encode
  constructor
  · simp only [lowWords]
    omega
  · simp only [lowWords]
    omega
  · simp only [lowWords]
    omega
  · exact t.instructionExpiresAt.toNat_lt

end Packing

section Locks

variable {σ : Type} (X : Externals) (S : Snapshotter σ) (cfg : Config) (epoch : UInt64) (c₀ : σ)
  (events : List (Event σ))

/-- The bytes of an instruction that the enclave was asked to sign in a session. -/
structure Issued (data : Bytes) (mi : MatchInstruction) : Prop where
  requested : ∃ pre e, pre ++ [e] <+: events ∧
    e.signRequest X S cfg (session X S cfg epoch c₀ pre) = some mi
  encoded : mi.abiEncode X.toLibraries = .ok data

/-- A transaction of the run opened a match with the bytes of an issued instruction. -/
def OpenedFrom {d : Deployment} (w₀ : World) (txs : List (Tx d)) (mi : MatchInstruction) : Prop :=
  ∃ before tx value data sig w', before ++ [tx] <+: txs ∧ tx.call = .lock value data sig ∧
    tx.exec X.toPrimitives (after X.toPrimitives w₀ before) = .ok w' ∧
    Issued X S cfg epoch c₀ events data mi

variable {X S cfg epoch c₀ events} {mi : MatchInstruction}

/-- An issued instruction names the taker and the address of one RFQ. -/
theorem Issued.brought {data : Bytes} (h : Issued X S cfg epoch c₀ events data mi) :
    ∃ rfq, Brought X S cfg epoch c₀ events rfq ∧ rfq.id = mi.matchID ∧ rfq.taker = mi.taker ∧
      rfq.xrplAddress = mi.takerXrplAddress := by
  obtain ⟨pre, e, hsent, hreq⟩ := h.requested
  obtain ⟨rfq, hrfq, hid, htaker, haddress⟩ := requested_brought hreq
  exact ⟨rfq, hrfq.later ((List.prefix_append pre [e]).trans hsent), hid, htaker, haddress⟩

theorem Issued.decoded {data : Bytes} (h : Issued X S cfg epoch c₀ events data mi)
    (hpacks : PacksLow X.toLibraries) :
    ∃ mi', MatchInstructionLib.decode data = some mi' ∧ mi'.matchId = mi.matchID ∧
      mi'.taker = mi.taker ∧ mi'.takerXrplAddress = mi.takerXrplAddress.bytes := by
  obtain ⟨amount, price, _, _, hpack⟩ := abiEncode_eq_ok.mp h.encoded
  exact ⟨_, decode_lowWords hpacks hpack, rfl, rfl, rfl⟩

/-- The match it opened belongs to the taker of one RFQ, and pays the address
sealed in it, in every later state. -/
theorem OpenedFrom.pays {d : Deployment} {w₀ : World} {txs : List (Tx d)} (hw₀ : Deployed d w₀)
    (hpacks : PacksLow X.toLibraries) (h : OpenedFrom X S cfg epoch c₀ events w₀ txs mi) :
    let m := (after X.toPrimitives w₀ txs).escrow.matchOf mi.matchID
    m.state ≠ .none ∧ m.taker = mi.taker ∧
      m.takerXrplAddressHash = X.keccak256 mi.takerXrplAddress.bytes := by
  obtain ⟨before, tx, value, data, sig, w', ⟨later, rfl⟩, hcall, hexec, hissued⟩ := h
  obtain ⟨mi', hdecode, hid, htaker, haddress⟩ := hissued.decoded hpacks
  obtain ⟨mi'', fee, mid18, ts, haccepted, hstored⟩ := lock_stored hcall hexec
  obtain rfl : mi' = mi'' := Option.some.inj (hdecode.symm.trans haccepted.decoded)
  rw [hid] at hstored
  have hlocked : (w'.escrow.matchOf mi.matchID).state = .locked := by rw [hstored]; rfl
  have hopen : (w'.escrow.matchOf mi.matchID).state ≠ .none := by rw [hlocked]; decide
  have hafter : after X.toPrimitives w₀ (before ++ [tx]) = w' := by
    rw [after_concat, hexec]
    rfl
  have hentered : w'.escrow.entered = false := by
    rw [← hafter]
    exact after_entered hw₀.genesis.entered _
  have hterms := after_sameTerms (P := X.toPrimitives) hentered hopen later
  have hsplit : after X.toPrimitives w₀ (before ++ [tx] ++ later) = after X.toPrimitives w' later := by
    rw [← hafter]
    exact run_append (Tx.exec X.toPrimitives) w₀ _ later
  rw [hsplit]
  refine ⟨mt hterms.opened.mp hopen, ?_, ?_⟩
  · rw [hterms.terms, hstored]
    exact htaker
  · rw [hterms.terms, hstored]
    exact congrArg X.keccak256 haddress

end Locks

end WhisperDesk.Fcewire
