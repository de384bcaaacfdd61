import WhisperDesk.Enclave.Dispatch

/-!
# Asking again

An RFQ_MATCH that finds nothing caches NO_MATCH like any other outcome, and a
cached outcome is all that later calls return. Runs mix both ingresses, changes
of the chain cache and sweeps of the book; no quote and no deposit that comes
after the first NO_MATCH is ever looked at.
-/
namespace WhisperDesk.Fcewire

open Function (update)
open Go
open Matcher
open Reverting

/-- An event, or a sweep that drops expired RFQs. -/
inductive Turn (σ : Type) where
  | call (e : Event σ)
  | gc (now : Time)

section Runs

variable {σ : Type} (X : Externals) (S : Snapshotter σ) (cfg : Config)

def Turn.exec : Turn σ → Handler σ → Handler σ
  | .call e, h => e.exec X S cfg h
  | .gc now, h => { h with book := h.book.gc now }

/-- A fresh handler after a list of turns. -/
def desk (epoch : UInt64) (c₀ : σ) (turns : List (Turn σ)) : Handler σ :=
  turns.foldl (fun h t => t.exec X S cfg h) ⟨SealedBook.new epoch, c₀⟩

/-- The RFQ an event asks a match on, and what the call meets. -/
def Event.matchOn (e : Event σ) : Option (Ambient × Bytes32) :=
  match e.command X cfg with
  | some (.rfqMatch a data) => (decodeRfqID X data).map fun rfqID => (a, rfqID)
  | _ => none

/-- The event is an RFQ_MATCH on `rfqID` and is answered with `o`. -/
structure Answered (h : Handler σ) (e : Event σ) (rfqID : Bytes32) (o : MatchOutcome) : Prop where
  requested : ∃ a, e.matchOn X cfg = some (a, rfqID)
  answer : e.answer X S cfg h = some (.matchResponse o)

/-- An RFQ_MATCH now would find an eligible quote, were it evaluated. -/
def EligibleNow (h : Handler σ) (e : Event σ) (rfqID : Bytes32) : Prop :=
  ∃ a rfq snap mid q, e.matchOn X cfg = some (a, rfqID) ∧ h.book.rfqs rfqID = some rfq ∧
    a.now.before rfq.windowEndsAt = false ∧ a.now.before rfq.expiresAt = true ∧
    matchSnap S a rfqID h = .ok snap ∧ Ready rfq snap mid ∧ q ∈ h.book.resting rfqID ∧
    Eligible cfg.matcher rfq snap mid a.now q

/-- After `e` was answered NO_MATCH and `later` happened, with the RFQ in the
book all along. -/
structure RefusedBefore (epoch : UInt64) (c₀ : σ) (pre : List (Turn σ)) (e : Event σ)
    (later : List (Turn σ)) (rfqID : Bytes32) (o : MatchOutcome) : Prop where
  answered : Answered X S cfg (desk X S cfg epoch c₀ pre) e rfqID o
  noMatch : o.outcome = .noMatch
  live : ∀ part, part <+: later →
    (desk X S cfg epoch c₀ (pre ++ .call e :: part)).book.rfqs rfqID ≠ none

variable {X S cfg} {e : Event σ} {h : Handler σ} {rfqID : Bytes32} {o : MatchOutcome}

theorem Answered.unique {o' : MatchOutcome} (hanswered : Answered X S cfg h e rfqID o)
    (hanswered' : Answered X S cfg h e rfqID o') : o = o' := by
  have hsame := hanswered.answer.symm.trans hanswered'.answer
  rw [Option.some.injEq, Payload.matchResponse.injEq] at hsame
  exact hsame

theorem desk_concat {epoch : UInt64} {c₀ : σ} (turns : List (Turn σ)) (t : Turn σ) :
    desk X S cfg epoch c₀ (turns ++ [t]) = t.exec X S cfg (desk X S cfg epoch c₀ turns) := by
  simp [desk]

theorem matchOn_eq_some {a : Ambient} :
    e.matchOn X cfg = some (a, rfqID) ↔
      ∃ data, e.command X cfg = some (.rfqMatch a data) ∧ decodeRfqID X data = some rfqID := by
  unfold Event.matchOn
  cases hc : e.command X cfg with
  | none => simp
  | some c =>
    cases c with
    | rfqSubmit b df => simp
    | quoteSubmit b di => simp
    | rfqMatch b data =>
      simp only [Option.map_eq_some_iff, Prod.mk.injEq, Option.some.injEq, Command.rfqMatch.injEq]
      constructor
      · rintro ⟨id, hid, rfl, rfl⟩
        exact ⟨data, ⟨rfl, rfl⟩, hid⟩
      · rintro ⟨data', ⟨rfl, rfl⟩, hid⟩
        exact ⟨rfqID, hid, rfl, rfl⟩

theorem matchSnap_eq_ok {a : Ambient} {snap : ChainSnapshot} :
    matchSnap S a rfqID h = .ok snap ↔ ∃ rfq, h.book.rfqs rfqID = some rfq ∧
      S.snapshot h.chain rfq.taker ((a.makersOrder.walk (h.book.resting rfqID)).map Quote.maker) a.now =
        snap := by
  simp only [matchSnap, bind_eq_ok, mapError_eq_ok, pure_eq_ok]
  constructor
  · rintro ⟨⟨taker, makers⟩, hp, hsnap⟩
    obtain ⟨rfq, hrfq, rfl, rfl⟩ := participants_eq_ok.mp hp
    exact ⟨rfq, hrfq, hsnap⟩
  · rintro ⟨rfq, hrfq, hsnap⟩
    exact ⟨_, participants_eq_ok.mpr ⟨rfq, hrfq, rfl, rfl⟩, hsnap⟩

/-- A cached outcome is the one that is answered. -/
theorem answered_of_cached {a : Ambient} (hcached : h.book.cachedOutcome rfqID = some o)
    (hrequest : e.matchOn X cfg = some (a, rfqID)) : Answered X S cfg h e rfqID o := by
  obtain ⟨data, hcommand, hid⟩ := matchOn_eq_some.mp hrequest
  obtain ⟨rfq, hrfq, _⟩ := Option.bind_eq_some_iff.mp hcached
  have hsnap := matchSnap_eq_ok.mpr ⟨rfq, hrfq, Eq.refl (S.snapshot h.chain rfq.taker
    ((a.makersOrder.walk (h.book.resting rfqID)).map Quote.maker) a.now)⟩
  have hhandled : handleMatchMessage X S cfg a data h = .ok (.matchResponse o, h) :=
    handleMatchMessage_eq_ok.mpr ⟨rfqID, _, o, hid, hsnap,
      matchWithSignFunc_eq_ok.mpr (.inl ⟨hcached, rfl⟩), rfl, rfl⟩
  refine ⟨⟨a, hrequest⟩, ?_⟩
  rw [(exec_command hcommand).2]
  simp only [Command.handle, hhandled]
  rfl

/-- What an RFQ_MATCH is answered with is what the matcher made of the book. -/
theorem Answered.matched {a : Ambient} (hanswered : Answered X S cfg h e rfqID o)
    (hrequest : e.matchOn X cfg = some (a, rfqID)) :
    ∃ snap, matchSnap S a rfqID h = .ok snap ∧
      matchWithSigner X.toLibraries h.book cfg.matcher cfg.escrowAddr cfg.chainID (signClient a)
        a.quotesOrder rfqID snap a.now = .ok (o, (e.exec X S cfg h).book) := by
  obtain ⟨data, hcommand, hid⟩ := matchOn_eq_some.mp hrequest
  obtain ⟨hexec, hreport⟩ := exec_command (S := S) (h := h) hcommand
  have hanswer := hanswered.answer
  rw [hreport] at hanswer
  rw [hexec]
  simp only [Command.handle] at hanswer ⊢
  cases hhandled : handleMatchMessage X S cfg a data h with
  | error code => rw [hhandled] at hanswer; cases hanswer
  | ok v =>
    rw [hhandled] at hanswer
    obtain ⟨p, h'⟩ := v
    obtain rfl : p = .matchResponse o := Option.some.inj hanswer
    obtain ⟨id, snap, o', hid', hsnap, hmatch, hp, _⟩ := handleMatchMessage_eq_ok.mp hhandled
    obtain rfl : rfqID = id := Option.some.inj (hid.symm.trans hid')
    obtain rfl : o = o' := Payload.matchResponse.inj hp
    exact ⟨snap, hsnap, hmatch⟩

/-- And it is cached from then on. -/
theorem cached_of_answered (hanswered : Answered X S cfg h e rfqID o) :
    (e.exec X S cfg h).book.cachedOutcome rfqID = some o := by
  obtain ⟨a, hrequest⟩ := hanswered.requested
  obtain ⟨snap, _, hmatch⟩ := hanswered.matched hrequest
  rcases matchWithSignFunc_eq_ok.mp hmatch with ⟨hcached, hsame⟩ | ⟨_, rfq, quotes, u, hsnap, _, _, hmark⟩
  · rw [hsame]
    exact hcached
  · obtain ⟨hrfq, _⟩ := snapshotForMatch_eq_ok.mp hsnap
    rw [hmark, SealedBook.cachedOutcome, markMatched_rfqs, if_pos rfl, hrfq]
    rfl

/-- No event replaces a cached outcome. -/
theorem exec_cachedOutcome (e : Event σ) (hcached : h.book.cachedOutcome rfqID = some o) :
    (e.exec X S cfg h).book.cachedOutcome rfqID = some o := by
  cases hc : e.command X cfg with
  | none =>
    rw [(exec_no_command hc).1]
    exact hcached
  | some c =>
    rw [(exec_command hc).1]
    refine settle_preserves (P := fun h' : Handler σ => h'.book.cachedOutcome rfqID = some o)
      hcached ?_
    intro h' hok
    obtain ⟨⟨p, h''⟩, hhandled, rfl⟩ : ∃ v, c.handle X S cfg h = .ok v ∧ v.2 = h' := by
      cases hv : c.handle X S cfg h with
      | error code => rw [hv] at hok; cases hok
      | ok v => rw [hv] at hok; exact ⟨v, rfl, Except.ok.inj hok⟩
    cases c with
    | rfqSubmit a df =>
      obtain ⟨rfq, _, _, _, _, hnew, hrfqs, _⟩ := handleRfqSubmit_ok hhandled
      have hne : rfqID ≠ rfq.id := by
        rintro rfl
        rw [SealedBook.cachedOutcome, hnew] at hcached
        cases hcached
      rw [SealedBook.cachedOutcome, hrfqs, Function.update_of_ne hne]
      exact hcached
    | quoteSubmit a di =>
      obtain ⟨_, _, _, _, _, hrfqs, _⟩ := handleQuoteSubmit_ok hhandled
      rw [SealedBook.cachedOutcome, hrfqs]
      exact hcached
    | rfqMatch a data =>
      obtain ⟨id, snap, o', _, _, hmatch, _, _⟩ := handleMatchMessage_eq_ok.mp hhandled
      rcases matchWithSignFunc_eq_ok.mp hmatch with ⟨_, hsame⟩ | ⟨hnone, _, _, _, _, _, _, hmark⟩
      · rw [hsame]
        exact hcached
      · have hne : rfqID ≠ id := by
          rintro rfl
          rw [hnone] at hcached
          cases hcached
        rw [hmark, SealedBook.cachedOutcome, markMatched_rfqs, if_neg hne]
        exact hcached

/-- A sweep takes an RFQ away as it is or not at all. -/
theorem gc_cachedOutcome {b : SealedBook} {now : Time} (hlive : (b.gc now).rfqs rfqID ≠ none)
    (hcached : b.cachedOutcome rfqID = some o) : (b.gc now).cachedOutcome rfqID = some o := by
  obtain ⟨rfq, hrfq, ho⟩ := Option.bind_eq_some_iff.mp hcached
  simp only [SealedBook.gc, hrfq, Option.filter] at hlive
  simp only [SealedBook.cachedOutcome, SealedBook.gc, hrfq, Option.filter]
  split at hlive
  · rename_i hkeep
    rw [if_pos hkeep]
    exact ho
  · exact absurd rfl hlive

theorem RefusedBefore.cached {epoch : UInt64} {c₀ : σ} {pre later : List (Turn σ)}
    (hrefused : RefusedBefore X S cfg epoch c₀ pre e later rfqID o) :
    (desk X S cfg epoch c₀ (pre ++ .call e :: later)).book.cachedOutcome rfqID = some o := by
  have hlive := hrefused.live
  induction later using List.reverseRecOn with
  | nil =>
    rw [desk_concat]
    exact cached_of_answered hrefused.answered
  | append_singleton later t ih =>
    have hcached := ih ⟨hrefused.answered, hrefused.noMatch,
      fun part hpart => hlive part (hpart.trans (List.prefix_append later [t]))⟩
      (fun part hpart => hlive part (hpart.trans (List.prefix_append later [t])))
    have hnow := hlive (later ++ [t]) (List.prefix_refl _)
    rw [← List.cons_append, ← List.append_assoc, desk_concat] at hnow ⊢
    cases t with
    | call e' => exact exec_cachedOutcome e' hcached
    | gc now => exact gc_cachedOutcome hnow hcached

/-- Whatever has happened since, the answer is the NO_MATCH of the first call. -/
theorem no_match_is_final {epoch : UInt64} {c₀ : σ} {pre later : List (Turn σ)}
    (hrefused : RefusedBefore X S cfg epoch c₀ pre e later rfqID o) {e' : Event σ} {a : Ambient}
    (hagain : e'.matchOn X cfg = some (a, rfqID)) :
    let h := desk X S cfg epoch c₀ (pre ++ .call e :: later)
    Answered X S cfg h e' rfqID o ∧
      ¬ ∃ o', Answered X S cfg h e' rfqID o' ∧ o'.outcome = .matched := by
  intro h
  have hanswered : Answered X S cfg h e' rfqID o := answered_of_cached hrefused.cached hagain
  refine ⟨hanswered, ?_⟩
  rintro ⟨o', hanswered', hmatched⟩
  rw [← hanswered.unique hanswered', hrefused.noMatch] at hmatched
  cases hmatched

variable (X S cfg) in
/-- What the maker is promised: with an eligible quote by now, asking again matches. -/
def RetryMatches (epoch : UInt64) (c₀ : σ) : Prop :=
  ∀ pre e later rfqID o e', RefusedBefore X S cfg epoch c₀ pre e later rfqID o →
    EligibleNow X S cfg (desk X S cfg epoch c₀ (pre ++ .call e :: later)) e' rfqID →
    ∃ o', Answered X S cfg (desk X S cfg epoch c₀ (pre ++ .call e :: later)) e' rfqID o' ∧
      o'.outcome = .matched

end Runs

def Payload.outcome : Payload → Option MatchOutcome
  | .matchResponse o => some o
  | _ => none

theorem eq_matchResponse {p : Option Payload} {o : MatchOutcome} (h : p.bind Payload.outcome = some o) :
    p = some (.matchResponse o) := by
  obtain ⟨p, rfl, hp⟩ := Option.bind_eq_some_iff.mp h
  cases p with
  | rfqAck id t => cases hp
  | quoteAck id b b' => cases hp
  | matchResponse o' => rw [← Option.some.inj hp]

/-! A match is asked for before the first quote comes in. -/
namespace SampleDesk

def sealed : List (Turn Unit) := (submitted.take 1).map .call

def matchingAt (n : Nat) : Event Unit :=
  .instruction (ambient n)
    { instructionID := 8, opType := opHash "WD_RFQ", opCommand := rfqMatch,
      originalMessage := AbiWords.word 7 }

def lateQuote : Event Unit :=
  .direct (ambient 1016)
    { opType := opHash "WD_RFQ", opCommand := quoteSubmit, message := ciphertext "quote" }

/-- The desk after the early match and the late quote. -/
def quoted : Handler Unit :=
  desk externals snapshotter config 0 () (sealed ++ .call (matchingAt 1015) :: [.call lateQuote])

theorem refusedBefore : RefusedBefore externals snapshotter config 0 () sealed (matchingAt 1015)
    [.call lateQuote] 7 (noMatch fun _ => 0) where
  answered := ⟨⟨ambient 1015, rfl⟩, eq_matchResponse (by decide +kernel)⟩
  noMatch := rfl
  live part hpart := by
    have hcases : part = [] ∨ part = [.call lateQuote] := by
      rcases List.prefix_cons_iff.mp hpart with h | ⟨t, rfl, ht⟩
      · exact .inl h
      · exact .inr (by rw [List.prefix_nil.mp ht])
    rcases hcases with rfl | rfl
    · exact Option.ne_none_iff_isSome.mpr (by decide +kernel)
    · exact Option.ne_none_iff_isSome.mpr (by decide +kernel)

/-- By then the quote is eligible. -/
theorem eligibleNow : EligibleNow externals snapshotter config quoted (matchingAt 1020) 7 := by
  have hrfq : quoted.book.rfqs 7 =
      some { SampleBook.request with outcome := some (noMatch fun _ => 0) } := by decide +kernel
  exact ⟨ambient 1020, _, SampleBook.snapshot, 2000000000000000000,
    { SampleBook.quote 3 2010000000000000000 1 with receivedAt := SampleBook.clock 1016 }, rfl, hrfq,
    by decide, by decide, matchSnap_eq_ok.mpr ⟨_, hrfq, rfl⟩,
    ⟨rfl, by decide, by decide, by decide⟩, by decide +kernel, by decide⟩

end SampleDesk

open SampleDesk in
theorem no_match_is_final_sample :
    EligibleNow externals snapshotter config quoted (matchingAt 1020) 7 ∧
      Answered externals snapshotter config quoted (matchingAt 1020) 7 (noMatch fun _ => 0) :=
  ⟨eligibleNow, (no_match_is_final refusedBefore rfl).1⟩

open SampleDesk in
/-- A match asked for too early kills the order. -/
theorem early_match_kills : ¬ RetryMatches externals snapshotter config 0 () := by
  intro hretry
  obtain ⟨o', hanswered, hmatched⟩ := hretry _ _ _ _ _ (matchingAt 1020) refusedBefore eligibleNow
  have hfirst : Answered externals snapshotter config quoted (matchingAt 1020) 7
      (noMatch fun _ => 0) := answered_of_cached refusedBefore.cached rfl
  rw [← hfirst.unique hanswered] at hmatched
  cases hmatched

end WhisperDesk.Fcewire
