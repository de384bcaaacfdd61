import WhisperDesk.Enclave.Statements

/-!
# A failed request leaves no trace

Every early return of the three handlers comes before their first write, and
signing before the match is cached. So a request answered with status 0 leaves
the handler as it was, and a match whose signature failed is open to be asked
for again.
-/
namespace WhisperDesk.Fcewire

open Go
open Matcher
open Reverting

section Requests

variable {σ : Type} (X : Externals) (S : Snapshotter σ) (cfg : Config)

/-- One event at the handlers that write in place: what is answered, and what is
left of the handler. -/
def Event.serve : Event σ → Handler σ → Option Result × Handler σ
  | .instruction a df, h =>
    ((Statements.handleInstruction X S cfg a df h).1, (Statements.handleInstruction X S cfg a df h).2)
  | .direct a di, h =>
    ((Statements.handleDirect X S cfg a di h).1, (Statements.handleDirect X S cfg a di h).2)
  | .background f, h => (none, { h with chain := f h.chain })

variable {X S cfg} {e : Event σ} {h : Handler σ}

theorem serve_eq : e.serve X S cfg h = (e.result X S cfg h, e.exec X S cfg h) := by
  cases e with
  | instruction a df => simp only [Event.serve, Event.result, Event.exec, Statements.handleInstruction_eq]
  | direct a di => simp only [Event.serve, Event.result, Event.exec, Statements.handleDirect_eq]
  | background f => rfl

theorem reply_of_failure {opType opCommand : Bytes32} {r : Except Code (Payload × Handler σ)}
    (h0 : (reply opType opCommand h r).1.status = 0) :
    (reply opType opCommand h r).2 = h ∧ (reply opType opCommand h r).1.data = none := by
  cases r with
  | error code => exact ⟨rfl, rfl⟩
  | ok v => cases h0

theorem serve_of_failure {r : Result} (hr : (e.serve X S cfg h).1 = some r) (h0 : r.status = 0) :
    (e.serve X S cfg h).2 = h ∧ r.data = none := by
  rw [serve_eq] at hr ⊢
  cases e with
  | background f => cases hr
  | instruction a df =>
    obtain rfl := Option.some.inj hr
    rw [handleInstruction_eq] at h0
    simp only [Event.exec, handleInstruction_eq]
    exact reply_of_failure h0
  | direct a di =>
    obtain rfl := Option.some.inj hr
    rw [handleDirect_eq] at h0
    simp only [Event.exec, handleDirect_eq]
    exact reply_of_failure h0

/-- What a request that reaches a command is answered with. -/
theorem serve_command {c : Command} (hc : e.command X cfg = some c) :
    ∃ opType opCommand, e.serve X S cfg h =
      (some (reply opType opCommand h (c.handle X S cfg h)).1,
        (reply opType opCommand h (c.handle X S cfg h)).2) := by
  rw [serve_eq]
  cases e with
  | background f => cases hc
  | instruction a df =>
    refine ⟨df.opType, df.opCommand, ?_⟩
    simp only [Event.result, Event.exec, handleInstruction_eq, dispatched, hc]
  | direct a di =>
    refine ⟨di.opType, di.opCommand, ?_⟩
    simp only [Event.result, Event.exec, handleDirect_eq, dispatched, hc]

variable {a : Ambient} {data : Bytes} {rfqID : Bytes32} {mi : MatchInstruction}

theorem messageRequest_eq_some (hid : decodeRfqID X data = some rfqID) :
    messageRequest X S cfg a data h = some mi ↔ ∃ snap, matchSnap S a rfqID h = .ok snap ∧
      signRequest X.toLibraries h.book cfg.matcher cfg.escrowAddr a.quotesOrder rfqID snap a.now =
        some mi := by
  simp only [messageRequest, hid, Option.bind_some]
  cases hsnap : matchSnap S a rfqID h with
  | error code => simp
  | ok snap => simp

/-- The port refuses what the match needs signed. -/
theorem handleMatchMessage_refused {err : Error} (hid : decodeRfqID X data = some rfqID)
    (hreq : messageRequest X S cfg a data h = some mi)
    (hsign : signWithFunc X.toLibraries mi cfg.chainID (signClient a) = .error err) :
    handleMatchMessage X S cfg a data h = .error .sign ∧ h.book.cachedOutcome rfqID = none := by
  obtain ⟨snap, hsnap, hneeds⟩ := (messageRequest_eq_some hid).mp hreq
  have hrefused : matchWithSignFunc X.toLibraries h.book cfg.matcher cfg.escrowAddr
      (fun mi => signWithFunc X.toLibraries mi cfg.chainID (signClient a)) a.quotesOrder rfqID snap a.now =
      .error (.sign err) := matchWithSignFunc_refused hneeds hsign
  refine ⟨?_, (signRequest_eq_some.mp hneeds).1⟩
  simp only [handleMatchMessage, handleMatch, hid, hsnap, matchWithSigner, hrefused, orRevert,
    bind, Except.bind, Except.mapError, mapMatchErr]

theorem handleMatchMessage_signed {s : SignedMatch} (hid : decodeRfqID X data = some rfqID)
    (hreq : messageRequest X S cfg a data h = some mi)
    (hsign : signWithFunc X.toLibraries mi cfg.chainID (signClient a) = .ok s) :
    ∃ o h', handleMatchMessage X S cfg a data h = .ok (.matchResponse o, h') ∧
      o.outcome = .matched ∧ o.signed = some s := by
  obtain ⟨snap, hsnap, hneeds⟩ := (messageRequest_eq_some hid).mp hreq
  obtain ⟨hcached, rfq, quotes, u, hquotes, hu, hmi⟩ := signRequest_eq_some.mp hneeds
  have hsigned : signOutcome (fun mi => signWithFunc X.toLibraries mi cfg.chainID (signClient a)) u =
      .ok { u with
        signed := some s, abiEncoded := hexText s.abiEncoded, teeSignature := hexText s.signature } :=
    signOutcome_eq_ok.mpr (.inr ⟨mi, s, hmi, hsign, rfl⟩)
  have hmatch := matchWithSignFunc_eq_ok.mpr (.inr ⟨hcached, rfq, quotes, u, hquotes, hu, hsigned, rfl⟩)
  refine ⟨_, ⟨_, h.chain⟩, handleMatchMessage_eq_ok.mpr
    ⟨rfqID, snap, _, hid, hsnap, hmatch, rfl, rfl⟩, ?_, rfl⟩
  unfold MatchOutcome.toSign at hmi
  split at hmi
  · assumption
  · cases hmi

end Requests

section Result

variable {σ : Type}

/-- Handler atomicity, on either ingress, for every book and every behaviour of the
two ports: status 0 comes with no data and leaves the handler exactly as it was. In
particular a failed signature leaves the RFQ unmatched, and any later RFQ_MATCH that
needs a signature and gets one is answered with a signed match. -/
theorem handler_atomicity (X : Externals) (S : Snapshotter σ) (cfg : Config) (h : Handler σ) :
    (∀ (e : Event σ) r, (e.serve X S cfg h).1 = some r → r.status = 0 →
      (e.serve X S cfg h).2 = h ∧ r.data = none) ∧
    (∀ (e : Event σ) a data rfqID mi err, e.command X cfg = some (.rfqMatch a data) →
      decodeRfqID X data = some rfqID → messageRequest X S cfg a data h = some mi →
      signWithFunc X.toLibraries mi cfg.chainID (signClient a) = .error err →
      let h' := (e.serve X S cfg h).2
      (∃ r, (e.serve X S cfg h).1 = some r ∧ r.status = 0) ∧ h' = h ∧
      h'.book.cachedOutcome rfqID = none ∧
      ∀ (e' : Event σ) a' data' mi' s, e'.command X cfg = some (.rfqMatch a' data') →
        decodeRfqID X data' = some rfqID → messageRequest X S cfg a' data' h' = some mi' →
        signWithFunc X.toLibraries mi' cfg.chainID (signClient a') = .ok s →
        ∃ r o, (e'.serve X S cfg h').1 = some r ∧ r.status = 1 ∧
          r.data = some (.matchResponse o) ∧ o.outcome = .matched ∧ o.signed = some s) := by
  refine ⟨fun e r hr h0 => serve_of_failure hr h0, ?_⟩
  intro e a data rfqID mi err hcommand hid hreq hsign h'
  obtain ⟨hrefused, hopen⟩ := handleMatchMessage_refused hid hreq hsign
  obtain ⟨opType, opCommand, hserve⟩ := serve_command (S := S) (h := h) hcommand
  simp only [Command.handle, hrefused, reply] at hserve
  have hsame : h' = h := by simp only [h', hserve]
  refine ⟨⟨_, by rw [hserve], rfl⟩, hsame, by rw [hsame]; exact hopen, ?_⟩
  rw [hsame]
  intro e' a' data' mi' s hcommand' hid' hreq' hsign'
  obtain ⟨o, v, hsigned, hmatched, ho⟩ := handleMatchMessage_signed hid' hreq' hsign'
  obtain ⟨opType', opCommand', hserve'⟩ := serve_command (S := S) (h := h) hcommand'
  simp only [Command.handle, hsigned, reply] at hserve'
  exact ⟨_, o, by rw [hserve'], rfl, rfl, hmatched, ho⟩

end Result

namespace SampleDesk

/-- The sample match with a port that signs nothing. -/
def refusing : Event Unit :=
  .instruction { ambient 1020 with signPort := fun _ => none }
    { instructionID := 8, opType := opHash "WD_RFQ", opCommand := rfqMatch,
      originalMessage := AbiWords.word 7 }

def quotedDesk : Handler Unit := session externals snapshotter config 0 () submitted

end SampleDesk

open SampleDesk in
theorem handler_atomicity_sample :
    let h := (refusing.serve externals snapshotter config quotedDesk).2
    (∃ r, (refusing.serve externals snapshotter config quotedDesk).1 = some r ∧ r.data = none) ∧
      h = quotedDesk ∧ ∃ r, (matching.serve externals snapshotter config h).1 = some r ∧ r.status = 1 := by
  intro h
  obtain ⟨hfailure, hagain⟩ := handler_atomicity externals snapshotter config quotedDesk
  have hsigned : ∃ s, signWithFunc externals.toLibraries
      (instructionFor 0xE5 SampleBook.request SampleBook.high (SampleBook.clock 1020)) config.chainID
      (signClient (ambient 1020)) = .ok s := ⟨_, rfl⟩
  obtain ⟨s, hs⟩ := hsigned
  obtain ⟨⟨r, hr, hstatus⟩, hsame, _, hlater⟩ := hagain refusing
    { ambient 1020 with signPort := fun _ => none } (AbiWords.word 7) 7
    (instructionFor 0xE5 SampleBook.request SampleBook.high (SampleBook.clock 1020)) .signFailed rfl
    (by decide +kernel) (by decide +kernel) (by decide +kernel)
  refine ⟨⟨r, hr, (hfailure refusing r hr hstatus).2⟩, hsame, ?_⟩
  obtain ⟨r', o, hr', hstatus', _⟩ := hlater matching (ambient 1020) (AbiWords.word 7)
    (instructionFor 0xE5 SampleBook.request SampleBook.high (SampleBook.clock 1020)) s rfl
    (by decide +kernel) (by rw [hsame]; decide +kernel) hs
  exact ⟨r', hr', hstatus'⟩

end WhisperDesk.Fcewire
