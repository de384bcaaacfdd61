import WhisperDesk.Enclave.MatchingRule
import WhisperDesk.Enclave.Handler

/-!
# Where a signed instruction comes from

Sessions of a fresh handler: any calls on either ingress, in any order, with the
chain cache changing in between. The book holds nothing but what accepted calls
put there, so whatever the sign port is asked to sign traces back to a taker's
sealed RFQ and a maker's signed quote.
-/
namespace WhisperDesk.Fcewire

open Function (update)
open Go
open Matcher
open Reverting

variable {σ : Type} {X : Externals} {S : Snapshotter σ} {cfg : Config}

section Specs

theorem readUint64_eq_some {s : Bytes} {n : UInt64} :
    readUint64 s = some n ↔ setString10 s = some (n.toNat : Int) := by
  unfold readUint64
  cases h : setString10 s with
  | none => simp
  | some k =>
    simp only [Option.bind_some, Option.ite_none_right_eq_some, Option.some.injEq]
    constructor
    · rintro ⟨⟨hpos, hlt⟩, rfl⟩
      rw [UInt64.toNat_ofNat', Nat.mod_eq_of_lt (by omega)]
      omega
    · rintro rfl
      have hlt := n.toNat_lt
      refine ⟨⟨by omega, by omega⟩, ?_⟩
      rw [Int.toNat_natCast, UInt64.ofNat_toNat]

/-- The plaintext inside a ciphertext, decoded. -/
def Opens (X : Externals) (cfg : Config) (ciphertext : Bytes) (msg : RfqPlaintext) : Prop :=
  ∃ plaintext body, X.plaintextOf ciphertext = some plaintext ∧
    depad plaintext cfg.padSize = some body ∧ X.decodeRfqPlaintext body = some msg

/-- An RFQ message whose envelope and sealed plaintext agree, and the RFQ they
name. -/
structure SealedRfq (X : Externals) (cfg : Config) (message : Bytes) (rfq : RFQ) (ciphertext : Bytes)
    (msg : RfqPlaintext) : Prop where
  envelope : X.unpackEnvelope message = some (rfq.taker, ciphertext)
  opens : Opens X cfg ciphertext msg
  side : msg.side = ascii "SELL_FXRP"
  taker : hexToAddress msg.taker = rfq.taker
  amount : setString10 msg.fxrpAmountRaw = some (rfq.fxrpAmountRaw.toNat : Int)
  limit : setString10 msg.limitPriceUsdE18 = some rfq.limitPriceE18
  address : msg.xrplAddress = rfq.xrplAddress

/-- A quote message that carries its maker's signature over all of its terms. -/
structure SignedQuote (X : Externals) (cfg : Config) (message : Bytes) (q : Quote) (sig : Bytes) :
    Prop where
  opens : ∃ plaintext body msg, X.plaintextOf message = some plaintext ∧
    depad plaintext cfg.padSize = some body ∧ X.decodeQuotePlaintext body = some msg ∧
    decodeHex msg.sig = some sig
  length : sig.length = 65
  recovers : X.sigToAddress (quoteDigest X.toLibraries cfg.chainID cfg.escrowAddr q.rfqID q.maker
    q.priceE18 q.maxFxrpRaw.toNat q.nonce.toNat) (normalizeForRecover sig) = some q.maker

theorem decrypt_eq_some {a : Ambient} {ciphertext plaintext : Bytes}
    (h : decrypt X a ciphertext = some plaintext) : X.plaintextOf ciphertext = some plaintext := by
  unfold decrypt at h
  split at h
  · exact h
  · cases h

theorem handleRfqSubmit_ok {a : Ambient} {df : DataFixed} {h h' : Handler σ} {p : Payload}
    (hok : handleRfqSubmit X S cfg a df h = .ok (p, h')) :
    ∃ rfq ciphertext msg, SealedRfq X cfg df.originalMessage rfq ciphertext msg ∧
      rfq.id = df.instructionID ∧ h.book.rfqs rfq.id = none ∧
      h'.book.rfqs = update h.book.rfqs rfq.id (some rfq) ∧
      h'.book.quotes = update h.book.quotes rfq.id (some ByMaker.empty) := by
  simp only [handleRfqSubmit, bind_eq_ok, orRevert_eq_ok, revertIf_eq_ok, mapError_eq_ok, pure_eq_ok,
    Prod.mk.injEq, ne_eq, Decidable.not_not] at hok
  obtain ⟨⟨sender, ciphertext⟩, henv, plaintext, hplain, body, hbody, msg, hmsg, _, _, _, hside, _, _,
    _, htaker, _, _, amount, hamount, limit, hlimit, ⟨rfq, book⟩, hadd, _, rfl⟩ := hok
  obtain ⟨_, hlim, hnew, hrfq, rfl⟩ := addRFQ_eq_ok.mp hadd
  have hid : rfq.id = df.instructionID := by rw [hrfq]
  have hsender : rfq.taker = sender := by rw [hrfq]
  have hraw : rfq.fxrpAmountRaw = amount := by rw [hrfq]
  have haddr : rfq.xrplAddress = msg.xrplAddress := by rw [hrfq]
  subst hsender
  refine ⟨rfq, ciphertext, msg, ⟨henv, ⟨plaintext, body, decrypt_eq_some hplain, hbody, hmsg⟩, hside,
    htaker, ?_, ?_, haddr.symm⟩, hid, by rw [hid]; exact hnew, by rw [hid],
    by rw [hid]⟩
  · rw [hraw]
    exact readUint64_eq_some.mp hamount
  · rw [hlimit]
    exact hlim

theorem handleQuoteSubmit_ok {a : Ambient} {di : DirectInstruction} {h h' : Handler σ} {p : Payload}
    (hok : handleQuoteSubmit X S cfg a di h = .ok (p, h')) :
    ∃ q sig byMaker, SignedQuote X cfg di.message q sig ∧ h.book.quotes q.rfqID = some byMaker ∧
      h'.book.rfqs = h.book.rfqs ∧
      h'.book.quotes = update h.book.quotes q.rfqID (some (byMaker.insert q)) := by
  simp only [handleQuoteSubmit, bind_eq_ok, orRevert_eq_ok, revertIf_eq_ok, mapError_eq_ok,
    pure_eq_ok, Prod.mk.injEq, ne_eq, Decidable.not_not, Bool.not_eq_false] at hok
  obtain ⟨plaintext, hplain, body, hbody, msg, hmsg, _, _, _, _, price, _, maxSize, _, nonce, _, _, _,
    sig, hsig, _, hlen, _, hverify, ⟨replaced, book⟩, hadd, _, rfl⟩ := hok
  obtain ⟨byMaker, hm, _, _, rfl⟩ := upsertQuote_eq_ok.mp hadd
  simp only [verifyQuoteSignature, decide_eq_true_eq] at hverify
  exact ⟨⟨_, _, price, maxSize, nonce, a.now, h.book.nextSeq + 1⟩, sig, byMaker,
    ⟨⟨plaintext, body, msg, decrypt_eq_some hplain, hbody, hmsg, hsig⟩, hlen, hverify.2⟩, hm, rfl,
    rfl⟩

/-- A match leaves the book alone or caches an outcome in it. -/
theorem handleMatchMessage_ok {a : Ambient} {data : Bytes} {h h' : Handler σ} {p : Payload}
    (hok : handleMatchMessage X S cfg a data h = .ok (p, h')) :
    h'.book = h.book ∨ ∃ id o, h'.book = h.book.markMatched id o := by
  simp only [handleMatchMessage, handleMatch, bind_eq_ok, orRevert_eq_ok, mapError_eq_ok, pure_eq_ok,
    Prod.mk.injEq] at hok
  obtain ⟨id, _, snap, _, ⟨o, book⟩, hmatch, _, rfl⟩ := hok
  rcases matchWithSignFunc_eq_ok.mp hmatch with ⟨_, rfl⟩ | ⟨_, _, _, _, _, _, _, rfl⟩
  · exact .inl rfl
  · exact .inr ⟨id, o, rfl⟩

end Specs

section Calls

variable {a : Ambient} {h : Handler σ}

/-- The call was answered with status 1. -/
def Accepted (r : Result × Handler σ) : Prop := r.1.status = 1

theorem reply_cases (opType opCommand : Bytes32) (r : Except Code (Payload × Handler σ)) :
    (¬ Accepted (reply opType opCommand h r) ∧ (reply opType opCommand h r).2 = h) ∨
      ∃ p h', r = .ok (p, h') ∧ Accepted (reply opType opCommand h r) ∧
        (reply opType opCommand h r).2 = h' := by
  cases r with
  | error c => exact .inl ⟨by simp [Accepted, reply], rfl⟩
  | ok v => exact .inr ⟨v.1, v.2, rfl, rfl, rfl⟩

variable (X S cfg) in
/-- What a call on the instruction ingress can do to the book. -/
theorem instruction_cases (a : Ambient) (df : DataFixed) (h : Handler σ) :
    (handleInstruction X S cfg a df h).2.book = h.book ∨
      (∃ id o, (handleInstruction X S cfg a df h).2.book = h.book.markMatched id o) ∨
      (df.opCommand = rfqSubmit ∧ Accepted (handleInstruction X S cfg a df h) ∧
        ∃ rfq ciphertext msg, SealedRfq X cfg df.originalMessage rfq ciphertext msg ∧
          rfq.id = df.instructionID ∧ h.book.rfqs rfq.id = none ∧
          (handleInstruction X S cfg a df h).2.book.rfqs = update h.book.rfqs rfq.id (some rfq) ∧
          (handleInstruction X S cfg a df h).2.book.quotes =
            update h.book.quotes rfq.id (some ByMaker.empty)) := by
  unfold handleInstruction
  rcases reply_cases (h := h) df.opType df.opCommand _ with ⟨_, hsame⟩ | ⟨p, h', hr, haccepted, hh⟩
  · exact .inl (by rw [hsame])
  · by_cases hsubmit : df.opCommand = rfqSubmit
    · rw [if_pos hsubmit] at hr
      exact .inr (.inr ⟨hsubmit, haccepted, by rw [hh]; exact handleRfqSubmit_ok hr⟩)
    · rw [if_neg hsubmit] at hr
      by_cases hmatch : df.opCommand = rfqMatch
      · rw [if_pos hmatch] at hr
        rw [hh]
        rcases handleMatchMessage_ok hr with hbook | hbook
        · exact .inl hbook
        · exact .inr (.inl hbook)
      · rw [if_neg hmatch] at hr
        cases hr

/-- With the demo gate off, a call on the direct ingress can do this. -/
theorem direct_cases (hoff : cfg.allowDirectRfq = false) (a : Ambient) (di : DirectInstruction)
    (h : Handler σ) :
    (handleDirect X S cfg a di h).2.book = h.book ∨
      (∃ id o, (handleDirect X S cfg a di h).2.book = h.book.markMatched id o) ∨
      (di.opCommand = quoteSubmit ∧ Accepted (handleDirect X S cfg a di h) ∧
        ∃ q sig byMaker, SignedQuote X cfg di.message q sig ∧ h.book.quotes q.rfqID = some byMaker ∧
          (handleDirect X S cfg a di h).2.book.rfqs = h.book.rfqs ∧
          (handleDirect X S cfg a di h).2.book.quotes =
            update h.book.quotes q.rfqID (some (byMaker.insert q))) := by
  unfold handleDirect
  rcases reply_cases (h := h) di.opType di.opCommand _ with ⟨_, hsame⟩ | ⟨p, h', hr, haccepted, hh⟩
  · exact .inl (by rw [hsame])
  · by_cases hquote : di.opCommand = quoteSubmit
    · rw [if_pos hquote] at hr
      exact .inr (.inr ⟨hquote, haccepted, by rw [hh]; exact handleQuoteSubmit_ok hr⟩)
    · rw [if_neg hquote, hoff] at hr
      by_cases hmatch : di.opCommand = rfqMatch
      · rw [if_pos hmatch] at hr
        rw [hh]
        split at hr
        · rcases handleMatchMessage_ok hr with hbook | hbook
          · exact .inl hbook
          · exact .inr (.inl hbook)
        · cases hr
      · rw [if_neg hmatch] at hr
        simp at hr

end Calls

section Sessions

/-- A call on one of the ingresses, or the chain cache changing by itself. -/
inductive Event (σ : Type) where
  | instruction (a : Ambient) (df : DataFixed)
  | direct (a : Ambient) (di : DirectInstruction)
  | background (f : σ → σ)

variable (X S cfg)

def Event.exec : Event σ → Handler σ → Handler σ
  | .instruction a df, h => (handleInstruction X S cfg a df h).2
  | .direct a di, h => (handleDirect X S cfg a di h).2
  | .background f, h => { h with chain := f h.chain }

/-- A fresh handler after a list of events. -/
def session (epoch : UInt64) (c₀ : σ) (events : List (Event σ)) : Handler σ :=
  events.foldl (fun h e => e.exec X S cfg h) ⟨SealedBook.new epoch, c₀⟩

/-- The RFQ_MATCH message an event delivers to `handleMatchMessage`. -/
def Event.matchMessage : Event σ → Option (Ambient × Bytes)
  | .instruction a df => if df.opCommand = rfqMatch then some (a, df.originalMessage) else none
  | .direct a di =>
    if di.opCommand = rfqMatch ∧ cfg.allowDirectMatch = true then some (a, di.message) else none
  | .background _ => none

/-- The instruction the sign port is asked to sign while a message is handled. -/
def messageRequest (a : Ambient) (data : Bytes) (h : Handler σ) : Option MatchInstruction :=
  (decodeRfqID X data).bind fun rfqID =>
    match matchSnap S a rfqID h with
    | .ok snap =>
      signRequest X.toLibraries h.book cfg.matcher cfg.escrowAddr a.quotesOrder rfqID snap a.now
    | .error _ => none

def Event.signRequest (e : Event σ) (h : Handler σ) : Option MatchInstruction :=
  (e.matchMessage cfg).bind fun m => messageRequest X S cfg m.1 m.2 h

/-- An accepted RFQ_SUBMIT among the events, with the RFQ it brought. -/
def RfqSubmitted (epoch : UInt64) (c₀ : σ) (events : List (Event σ)) (rfq : RFQ) : Prop :=
  ∃ pre a df post ciphertext msg, events = pre ++ .instruction a df :: post ∧
    df.opCommand = rfqSubmit ∧ Accepted (handleInstruction X S cfg a df (session X S cfg epoch c₀ pre)) ∧
    df.instructionID = rfq.id ∧ SealedRfq X cfg df.originalMessage rfq ciphertext msg

/-- An accepted QUOTE_SUBMIT among the events, with the quote it brought. -/
def QuoteSubmitted (epoch : UInt64) (c₀ : σ) (events : List (Event σ)) (q : Quote) : Prop :=
  ∃ pre a di post sig, events = pre ++ .direct a di :: post ∧ di.opCommand = quoteSubmit ∧
    Accepted (handleDirect X S cfg a di (session X S cfg epoch c₀ pre)) ∧
    SignedQuote X cfg di.message q sig

/-- Everything in the book came with an accepted call. -/
structure Origin (epoch : UInt64) (c₀ : σ) (events : List (Event σ)) (b : SealedBook) : Prop where
  rfqs : ∀ id rfq, b.rfqs id = some rfq → rfq.id = id ∧ RfqSubmitted X S cfg epoch c₀ events rfq
  quotes : ∀ id m q, b.quotes id = some m → q ∈ m.quotes →
    q.rfqID = id ∧ QuoteSubmitted X S cfg epoch c₀ events q

variable {X S cfg} {epoch : UInt64} {c₀ : σ} {events : List (Event σ)}

theorem session_nil : session X S cfg epoch c₀ [] = ⟨SealedBook.new epoch, c₀⟩ := rfl

theorem session_concat (e : Event σ) :
    session X S cfg epoch c₀ (events ++ [e]) = e.exec X S cfg (session X S cfg epoch c₀ events) := by
  simp [session]

theorem RfqSubmitted.concat {rfq : RFQ} (h : RfqSubmitted X S cfg epoch c₀ events rfq) (e : Event σ) :
    RfqSubmitted X S cfg epoch c₀ (events ++ [e]) rfq := by
  obtain ⟨pre, a, df, post, ciphertext, msg, rfl, h⟩ := h
  exact ⟨pre, a, df, post ++ [e], ciphertext, msg, by simp, h⟩

theorem QuoteSubmitted.concat {q : Quote} (h : QuoteSubmitted X S cfg epoch c₀ events q)
    (e : Event σ) : QuoteSubmitted X S cfg epoch c₀ (events ++ [e]) q := by
  obtain ⟨pre, a, di, post, sig, rfl, h⟩ := h
  exact ⟨pre, a, di, post ++ [e], sig, by simp, h⟩

namespace Origin

variable {b b' : SealedBook}

theorem concat (h : Origin X S cfg epoch c₀ events b) (e : Event σ) :
    Origin X S cfg epoch c₀ (events ++ [e]) b where
  rfqs id rfq hrfq := ⟨(h.rfqs id rfq hrfq).1, (h.rfqs id rfq hrfq).2.concat e⟩
  quotes id m q hm hq := ⟨(h.quotes id m q hm hq).1, (h.quotes id m q hm hq).2.concat e⟩

/-- Caching an outcome touches nothing an origin speaks about. -/
theorem markMatched (h : Origin X S cfg epoch c₀ events b) (id : Bytes32) (o : MatchOutcome) :
    Origin X S cfg epoch c₀ events (b.markMatched id o) where
  rfqs rfqID rfq hrfq := by
    rw [markMatched_rfqs] at hrfq
    split at hrfq
    · rename_i heq
      subst rfqID
      obtain ⟨r, hr, rfl⟩ := Option.map_eq_some_iff.mp hrfq
      obtain ⟨hid, pre, a, df, post, ciphertext, msg, hsplit, hcmd, hacc, hdf, hs⟩ := h.rfqs id r hr
      exact ⟨hid, pre, a, df, post, ciphertext, msg, hsplit, hcmd, hacc, hdf,
        ⟨hs.envelope, hs.opens, hs.side, hs.taker, hs.amount, hs.limit, hs.address⟩⟩
    · exact h.rfqs rfqID rfq hrfq
  quotes rfqID m q hm hq := by
    rw [markMatched_quotes] at hm
    exact h.quotes rfqID m q hm hq

theorem addRFQ (h : Origin X S cfg epoch c₀ events b) {rfq : RFQ}
    (hrfq : RfqSubmitted X S cfg epoch c₀ events rfq)
    (hrfqs : b'.rfqs = update b.rfqs rfq.id (some rfq))
    (hquotes : b'.quotes = update b.quotes rfq.id (some ByMaker.empty)) :
    Origin X S cfg epoch c₀ events b' where
  rfqs id r hr := by
    rw [hrfqs] at hr
    by_cases heq : id = rfq.id
    · subst id
      rw [Function.update_self, Option.some.injEq] at hr
      subst r
      exact ⟨rfl, hrfq⟩
    · rw [Function.update_of_ne heq] at hr
      exact h.rfqs id r hr
  quotes id m q hm hq := by
    rw [hquotes] at hm
    by_cases heq : id = rfq.id
    · subst id
      rw [Function.update_self, Option.some.injEq] at hm
      subst m
      cases hq
    · rw [Function.update_of_ne heq] at hm
      exact h.quotes id m q hm hq

theorem insertQuote (h : Origin X S cfg epoch c₀ events b) {q : Quote} {byMaker : ByMaker}
    (hq : QuoteSubmitted X S cfg epoch c₀ events q) (hm : b.quotes q.rfqID = some byMaker)
    (hrfqs : b'.rfqs = b.rfqs)
    (hquotes : b'.quotes = update b.quotes q.rfqID (some (byMaker.insert q))) :
    Origin X S cfg epoch c₀ events b' where
  rfqs id r hr := by
    rw [hrfqs] at hr
    exact h.rfqs id r hr
  quotes id m r hm' hr := by
    rw [hquotes] at hm'
    by_cases heq : id = q.rfqID
    · subst id
      rw [Function.update_self, Option.some.injEq] at hm'
      subst m
      rcases ByMaker.mem_insert hr with rfl | hr
      · exact ⟨rfl, hq⟩
      · exact h.quotes q.rfqID byMaker r hm hr
    · rw [Function.update_of_ne heq] at hm'
      exact h.quotes id m r hm' hr

end Origin

/-- One event: whatever it adds to the book is an accepted call's. -/
theorem exec_origin (hoff : cfg.allowDirectRfq = false) (e : Event σ)
    (h : Origin X S cfg epoch c₀ events (session X S cfg epoch c₀ events).book) :
    Origin X S cfg epoch c₀ (events ++ [e])
      (e.exec X S cfg (session X S cfg epoch c₀ events)).book := by
  have hold := h.concat e
  cases e with
  | background f => exact hold
  | instruction a df =>
    simp only [Event.exec]
    rcases instruction_cases X S cfg a df (session X S cfg epoch c₀ events) with
      hsame | ⟨id, o, hmark⟩ | ⟨hcmd, hacc, rfq, ciphertext, msg, hsealed, hid, _, hrfqs, hquotes⟩
    · rw [hsame]
      exact hold
    · rw [hmark]
      exact hold.markMatched id o
    · exact hold.addRFQ ⟨events, a, df, [], ciphertext, msg, rfl, hcmd, hacc, hid.symm, hsealed⟩
        hrfqs hquotes
  | direct a di =>
    simp only [Event.exec]
    rcases direct_cases (X := X) (S := S) hoff a di (session X S cfg epoch c₀ events) with
      hsame | ⟨id, o, hmark⟩ | ⟨hcmd, hacc, q, sig, byMaker, hsigned, hm, hrfqs, hquotes⟩
    · rw [hsame]
      exact hold
    · rw [hmark]
      exact hold.markMatched id o
    · exact hold.insertQuote ⟨events, a, di, [], sig, rfl, hcmd, hacc, hsigned⟩ hm hrfqs hquotes

theorem session_origin (hoff : cfg.allowDirectRfq = false) (epoch : UInt64) (c₀ : σ)
    (events : List (Event σ)) :
    Origin X S cfg epoch c₀ events (session X S cfg epoch c₀ events).book := by
  induction events using List.reverseRecOn with
  | nil =>
    rw [session_nil]
    constructor
    · intro id rfq h
      cases h
    · intro id m q h
      cases h
  | append_singleton events e ih =>
    rw [session_concat]
    exact exec_origin hoff e ih

end Sessions

section Requests

/-- While a message is handled the port is consulted about the requested
instruction only: two ports that treat it alike give the same result. -/
theorem handleMatchMessage_signPort {a : Ambient} {data : Bytes} {h : Handler σ} {port : SignerFunc}
    (hport : ∀ mi, messageRequest X S cfg a data h = some mi →
      signWithFunc X.toLibraries mi cfg.chainID (signClient { a with signPort := port }) =
        signWithFunc X.toLibraries mi cfg.chainID (signClient a)) :
    handleMatchMessage X S cfg { a with signPort := port } data h =
      handleMatchMessage X S cfg a data h := by
  unfold handleMatchMessage
  cases hid : decodeRfqID X data with
  | none => rfl
  | some rfqID =>
    have hsnap : matchSnap S { a with signPort := port } rfqID h = matchSnap S a rfqID h := rfl
    simp only [orRevert, bind, Except.bind, handleMatch, hsnap]
    cases hs : matchSnap S a rfqID h with
    | error c => rfl
    | ok snap =>
      have hmatch : matchWithSigner X.toLibraries h.book cfg.matcher cfg.escrowAddr cfg.chainID
          (signClient { a with signPort := port }) a.quotesOrder rfqID snap a.now =
          matchWithSigner X.toLibraries h.book cfg.matcher cfg.escrowAddr cfg.chainID
            (signClient a) a.quotesOrder rfqID snap a.now := by
        apply matchWithSignFunc_sign
        intro mi hmi
        exact hport mi (by simp only [messageRequest, hid, Option.bind_some, hs, hmi])
      simp only [hmatch]

def Event.withPort (port : SignerFunc) : Event σ → Event σ
  | .instruction a df => .instruction { a with signPort := port } df
  | .direct a di => .direct { a with signPort := port } di
  | .background f => .background f

/-- An event without a request never consults the port. -/
theorem exec_of_no_request {e : Event σ} {h : Handler σ} (port : SignerFunc)
    (hnone : e.signRequest X S cfg h = none) :
    (e.withPort port).exec X S cfg h = e.exec X S cfg h := by
  have hmatch : ∀ a data, e.matchMessage cfg = some (a, data) →
      handleMatchMessage X S cfg { a with signPort := port } data h =
        handleMatchMessage X S cfg a data h := by
    intro a data hdata
    rw [Event.signRequest, hdata, Option.bind_some] at hnone
    apply handleMatchMessage_signPort
    intro mi hmi
    rw [hnone] at hmi
    cases hmi
  have hrfq : ∀ (a : Ambient) df, handleRfqSubmit X S cfg { a with signPort := port } df h =
      handleRfqSubmit X S cfg a df h := fun _ _ => rfl
  have hquote : ∀ (a : Ambient) di, handleQuoteSubmit X S cfg { a with signPort := port } di h =
      handleQuoteSubmit X S cfg a di h := fun _ _ => rfl
  cases e with
  | background f => rfl
  | instruction a df =>
    simp only [Event.withPort, Event.exec, handleInstruction, hrfq]
    by_cases hcmd : df.opCommand = rfqMatch
    · rw [hmatch a df.originalMessage (if_pos hcmd)]
    · simp only [if_neg hcmd]
  | direct a di =>
    simp only [Event.withPort, Event.exec, handleDirect, hrfq, hquote]
    by_cases hcmd : di.opCommand = rfqMatch ∧ cfg.allowDirectMatch = true
    · rw [hmatch a di.message (if_pos hcmd)]
    · rcases not_and_or.mp hcmd with hcmd | hcmd
      · simp only [if_neg hcmd]
      · simp only [hcmd, Bool.false_eq_true, if_false]

theorem messageRequest_cases {a : Ambient} {data : Bytes} {h : Handler σ} {mi : MatchInstruction}
    (hreq : messageRequest X S cfg a data h = some mi) :
    ∃ rfqID snap, signRequest X.toLibraries h.book cfg.matcher cfg.escrowAddr a.quotesOrder rfqID
      snap a.now = some mi := by
  obtain ⟨rfqID, _, hreq⟩ := Option.bind_eq_some_iff.mp hreq
  cases hs : matchSnap S a rfqID h with
  | error c => rw [hs] at hreq; cases hreq
  | ok snap => rw [hs] at hreq; exact ⟨rfqID, snap, hreq⟩

theorem event_signRequest_cases {e : Event σ} {h : Handler σ} {mi : MatchInstruction}
    (hreq : e.signRequest X S cfg h = some mi) :
    ∃ (a : Ambient) (rfqID : Bytes32) (snap : ChainSnapshot),
      signRequest X.toLibraries h.book cfg.matcher cfg.escrowAddr a.quotesOrder rfqID snap a.now =
        some mi := by
  obtain ⟨m, _, hreq⟩ := Option.bind_eq_some_iff.mp hreq
  obtain ⟨rfqID, snap, hreq⟩ := messageRequest_cases hreq
  exact ⟨m.1, rfqID, snap, hreq⟩

/-- The ciphertext of a taker, sent by somebody else, is turned down. -/
theorem replay_rejected {a : Ambient} {df : DataFixed} {h : Handler σ} {sender : Address}
    {ciphertext : Bytes} {msg : RfqPlaintext} (hcmd : df.opCommand = rfqSubmit)
    (henv : X.unpackEnvelope df.originalMessage = some (sender, ciphertext))
    (hopens : Opens X cfg ciphertext msg) (hne : sender ≠ hexToAddress msg.taker) :
    ¬ Accepted (handleInstruction X S cfg a df h) := by
  intro haccepted
  unfold handleInstruction at haccepted
  rw [if_pos hcmd] at haccepted
  rcases reply_cases (h := h) df.opType df.opCommand (handleRfqSubmit X S cfg a df h) with
    ⟨hnot, _⟩ | ⟨p, h', hr, _, _⟩
  · exact hnot haccepted
  · obtain ⟨rfq, ciphertext', msg', hsealed, _⟩ := handleRfqSubmit_ok hr
    have henv' := hsealed.envelope
    rw [henv, Option.some.injEq, Prod.mk.injEq] at henv'
    obtain ⟨hsender, rfl⟩ := henv'
    obtain ⟨plaintext, body, hplain, hbody, hmsg⟩ := hopens
    obtain ⟨plaintext', body', hplain', hbody', hmsg'⟩ := hsealed.opens
    rw [hplain, Option.some.injEq] at hplain'
    subst plaintext'
    rw [hbody, Option.some.injEq] at hbody'
    subst body'
    rw [hmsg, Option.some.injEq] at hmsg'
    subst msg'
    exact hne (hsender.trans hsealed.taker.symm)

end Requests

/-- Provenance of every signed instruction. -/
theorem signed_provenance (hoff : cfg.allowDirectRfq = false) (epoch : UInt64) (c₀ : σ) :
    (∀ events (e : Event σ) mi, e.signRequest X S cfg (session X S cfg epoch c₀ events) = some mi →
      ∃ rfq q, RfqSubmitted X S cfg epoch c₀ events rfq ∧ rfq.id = mi.matchID ∧
        rfq.taker = mi.taker ∧ mi.amountFxrp = some (rfq.fxrpAmountRaw.toNat : Int) ∧
        rfq.xrplAddress = mi.takerXrplAddress ∧
        QuoteSubmitted X S cfg epoch c₀ events q ∧ q.rfqID = mi.matchID ∧ q.maker = mi.maker ∧
        mi.priceUsd18 = some q.priceE18 ∧ rfq.fxrpAmountRaw ≤ q.maxFxrpRaw ∧
        mi.escrow = cfg.escrowAddr ∧ mi.maker ≠ mi.taker ∧ rfq.limitPriceE18 ≤ q.priceE18) ∧
    (∀ a di (h : Handler σ) id, h.book.rfqs id = none →
      (handleDirect X S cfg a di h).2.book.rfqs id = none) ∧
    (∀ a df (h : Handler σ) id q, q ∈ (handleInstruction X S cfg a df h).2.book.resting id →
      q ∈ h.book.resting id) ∧
    (∀ a df (h : Handler σ) sender ciphertext msg, df.opCommand = rfqSubmit →
      X.unpackEnvelope df.originalMessage = some (sender, ciphertext) → Opens X cfg ciphertext msg →
      sender ≠ hexToAddress msg.taker → ¬ Accepted (handleInstruction X S cfg a df h)) := by
  refine ⟨?_, ?_, ?_, fun a df h sender ciphertext msg => replay_rejected⟩
  · intro events e mi hreq
    obtain ⟨a, rfqID, snap, hreq⟩ := event_signRequest_cases hreq
    obtain ⟨rfq, mid, w, hrfq, _, hw, _, hkeep, rfl⟩ := signRequest_cases hreq
    have horigin := session_origin (X := X) (S := S) hoff epoch c₀ events
    have helig := (rejection_eq_none ..).mp hkeep
    have hself : w.maker ≠ rfq.taker := helig .selfMatch (by decide)
    have hsize : rfq.fxrpAmountRaw ≤ w.maxFxrpRaw := helig .undersized (by decide)
    have hlimit : rfq.limitPriceE18 ≤ w.priceE18 := helig .belowLimit (by decide)
    obtain ⟨hid, hsubmitted⟩ := horigin.rfqs rfqID rfq hrfq
    obtain ⟨quotes, hquotes, hw⟩ := resting_eq hw
    obtain ⟨hwid, hquoted⟩ := horigin.quotes rfqID quotes w hquotes hw
    exact ⟨rfq, w, hsubmitted, rfl, rfl, rfl, rfl, hquoted, hwid.trans hid.symm, rfl, rfl, hsize, rfl,
      hself, hlimit⟩
  · intro a di h id hnone
    rcases direct_cases (X := X) (S := S) hoff a di h with
      hsame | ⟨rfqID, o, hmark⟩ | ⟨_, _, q, sig, byMaker, _, _, hrfqs, _⟩
    · rw [hsame, hnone]
    · rw [hmark, markMatched_rfqs]
      split
      · rename_i heq
        rw [← heq, hnone]
        rfl
      · exact hnone
    · rw [hrfqs, hnone]
  · intro a df h id q hq
    rcases instruction_cases X S cfg a df h with
      hsame | ⟨rfqID, o, hmark⟩ | ⟨_, _, rfq, ciphertext, msg, _, _, _, _, hquotes⟩
    · rw [hsame] at hq
      exact hq
    · rw [hmark, SealedBook.resting, markMatched_quotes] at hq
      exact hq
    · rw [SealedBook.resting, hquotes] at hq
      by_cases heq : id = rfq.id
      · subst id
        simp [ByMaker.empty] at hq
      · rw [Function.update_of_ne heq] at hq
        exact hq

/-! One RFQ, one quote on it and a match, through the handler. -/
namespace SampleDesk

def padded (text : String) : Bytes := ascii text ++ List.replicate (32 - text.length) 0x20

def ciphertext (text : String) : Bytes := 0x04 :: padded text

def rfqPlaintext : RfqPlaintext where
  v := 1
  taker := 0x30 :: 0x78 :: ByteCodec.hexDigits (ByteCodec.beBytes 20 2)
  side := ascii "SELL_FXRP"
  fxrpAmountRaw := ascii "5000000000"
  limitPriceUsdE18 := ascii "1990000000000000000"
  xrplAddress := SampleBook.request.xrplAddress

def quotePlaintext : QuotePlaintext where
  v := 1
  rfqID := hashHex 7
  maker := 0x30 :: 0x78 :: ByteCodec.hexDigits (ByteCodec.beBytes 20 3)
  priceUsdE18 := ascii "2010000000000000000"
  maxFxrpRaw := ascii "5000000000"
  nonce := ascii "1"
  sig := hexText (3 :: List.replicate 64 0)

def externals : Externals where
  toLibraries := SampleBook.libraries
  unpackEnvelope data := do
    let sender ← MatchInstructionLib.uintAt 160 data 0
    let offset ← MatchInstructionLib.uintAt 64 data 32
    let ciphertext ← MatchInstructionLib.stringAt data offset
    pure (BitVec.ofNat 160 sender, ciphertext)
  unpackRfqID data := (AbiWords.wordAt data 0).map (BitVec.ofNat 256)
  decodeRfqPlaintext body := if body = ascii "rfq" then some rfqPlaintext else none
  decodeQuotePlaintext body := if body = ascii "quote" then some quotePlaintext else none
  plaintextOf data := if data.head? = some 0x04 then some data.tail else none

def snapshotter : Snapshotter Unit where
  trackTaker _ c := c
  trackMaker _ c := c
  snapshot _ _ _ _ := SampleBook.snapshot

def config : Config where
  chainID := 114
  escrowAddr := 0xE5
  minBlockFxrpRaw := 5000000000
  bandBips := 100
  quoteTTLSec := 60
  rfqWindowSec := 10
  rfqTTLSec := 600
  allowDirectMatch := true
  allowDirectRfq := false
  padSize := 32

def ambient (n : Nat) : Ambient where
  now := SampleBook.clock n
  makersOrder := .asStored
  quotesOrder := .asStored
  decryptUp := true
  signPort _ := some (4 :: List.replicate 64 0)

def submitted : List (Event Unit) :=
  [.instruction (ambient 1000)
      { instructionID := 7, opType := opHash "WD_RFQ", opCommand := rfqSubmit,
        originalMessage := AbiWords.words [2, 0x40, (ciphertext "rfq").length] ++
          AbiWords.padRight (ciphertext "rfq") },
    .direct (ambient 1005)
      { opType := opHash "WD_RFQ", opCommand := quoteSubmit, message := ciphertext "quote" }]

def matching : Event Unit :=
  .instruction (ambient 1020)
    { instructionID := 8, opType := opHash "WD_RFQ", opCommand := rfqMatch,
      originalMessage := AbiWords.word 7 }

end SampleDesk

open SampleDesk in
theorem signed_provenance_sample :
    ∃ rfq q, RfqSubmitted externals snapshotter config 0 () submitted rfq ∧
      QuoteSubmitted externals snapshotter config 0 () submitted q ∧ q.rfqID = rfq.id ∧
      q.maker ≠ rfq.taker := by
  have hrequest : matching.signRequest externals snapshotter config
      (session externals snapshotter config 0 () submitted) =
      some (instructionFor 0xE5 SampleBook.request SampleBook.high (SampleBook.clock 1020)) := by
    decide +kernel
  obtain ⟨rfq, q, hrfq, hid, htaker, _, _, hq, hqid, hmaker, _, _, _, hself, _⟩ :=
    (@signed_provenance _ externals snapshotter config rfl 0 ()).1 submitted matching _ hrequest
  refine ⟨rfq, q, hrfq, hq, hqid.trans hid.symm, ?_⟩
  rw [hmaker, htaker]
  exact hself

end WhisperDesk.Fcewire
