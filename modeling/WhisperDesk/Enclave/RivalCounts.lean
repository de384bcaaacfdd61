import WhisperDesk.Enclave.RivalView

/-!
# The reasons of a NO_MATCH

The web route passes the reasons of a NO_MATCH on to the maker who asked. They
count the quotes of every maker on the RFQ, so the maker subtracts its own one
and reads off how its rivals fared.
-/
namespace WhisperDesk.Matcher

theorem ByMaker.own_maker {m : ByMaker} {A : Address} {q : Quote} (hq : m.own A = some q) :
    q.maker = A := by
  obtain ⟨r, hr, rfl⟩ := Option.map_eq_some_iff.mp hq
  simpa using List.find?_some hr

theorem ByMaker.own_isSome {m : ByMaker} {A : Address} :
    (m.own A).isSome = true ↔ ∃ q ∈ m.quotes, q.maker = A := by
  simp [own, lookup, List.find?_isSome]

/-- With one quote of each maker, a maker's own is counted once or not at all. -/
theorem countP_maker {l : List Quote} (hnodup : (l.map Quote.maker).Nodup) (A : Address)
    (P : Quote → Bool) : l.countP (fun q => q.maker = A ∧ P q) =
      if (l.find? fun q => q.maker = A).any P then 1 else 0 := by
  induction l with
  | nil => rfl
  | cons q l ih =>
    rw [List.map_cons, List.nodup_cons] at hnodup
    by_cases hq : q.maker = A
    · subst hq
      have hnone : l.countP (fun r => decide (r.maker = q.maker ∧ P r = true)) = 0 := by
        rw [List.countP_eq_zero]
        intro r hr hmaker
        rw [decide_eq_true_eq] at hmaker
        exact hnodup.1 (List.mem_map.mpr ⟨r, hr, hmaker.1⟩)
      rw [List.countP_cons, hnone, List.find?_cons]
      simp
    · rw [List.countP_cons, ih hnodup.2, List.find?_cons]
      simp [hq]

theorem RFQ.terms_eq {rfq rfq' : RFQ} (hterms : rfq.terms = rfq'.terms) :
    rfq.taker = rfq'.taker ∧ rfq.fxrpAmountRaw = rfq'.fxrpAmountRaw := by
  unfold terms at hterms
  rw [RFQ.mk.injEq] at hterms
  obtain ⟨_, htaker, hamount, _⟩ := hterms
  exact ⟨htaker, hamount⟩

/-- A filter looks at the terms of an RFQ, and at the bond of the quote's maker. -/
theorem rejection_congr {cfg : Config} {rfq rfq' : RFQ} {snap snap' : ChainSnapshot} {q : Quote}
    (hterms : rfq.terms = rfq'.terms) (hbond : snap.freeBondRaw q.maker = snap'.freeBondRaw q.maker)
    (mid : Int) (now : Go.Time) :
    rejection cfg rfq snap mid now q = rejection cfg rfq' snap' mid now q :=
  calc rejection cfg rfq snap mid now q
      = rejection cfg rfq.terms snap mid now q := rfl
    _ = rejection cfg rfq'.terms snap mid now q := by rw [hterms]
    _ = rejection cfg rfq' snap' mid now q := by
      unfold rejection
      rw [hbond]
      rfl

end WhisperDesk.Matcher

namespace WhisperDesk.Fcewire

open Function (update)
open Go
open Matcher
open Reverting
open Selection (rejected kept)
open Unwinding (purge)

section Counts

variable {σ : Type} (X : Externals) (S : Snapshotter σ) (cfg : Config)

/-- What POST /api/maker/match passes on of an outcome that did not match: an
absent count is no count. -/
def matchView (o : MatchOutcome) : Option (Reason → Nat) :=
  if o.outcome = .noMatch then some o.count else none

/-- An RFQ_MATCH that is evaluated over the book. -/
structure Evaluates (h : Handler σ) (e : Event σ) (rfqID : Bytes32) (a : Ambient) (rfq : RFQ)
    (snap : ChainSnapshot) : Prop where
  requested : e.matchOn X cfg = some (a, rfqID)
  fresh : h.book.cachedOutcome rfqID = none
  rfq : h.book.rfqs rfqID = some rfq
  snap : matchSnap S a rfqID h = .ok snap

/-- How many resting quotes of other makers a reason turns away. -/
def rivalsTurnedAway (A : Address) (h : Handler σ) (rfqID : Bytes32) (rfq : RFQ)
    (snap : ChainSnapshot) (now : Time) (r : Reason) : Nat :=
  (h.book.resting rfqID).countP fun q =>
    q.maker ≠ A ∧ rejection cfg.matcher rfq snap (snap.midE18.getD 0) now q = some r

/-- The maker's own quote on an RFQ. -/
def Handler.ownQuote (A : Address) (h : Handler σ) (rfqID : Bytes32) : Option Quote :=
  (h.book.quotes rfqID).bind (ByMaker.own A)

variable {X S cfg} {h : Handler σ} {e : Event σ} {rfqID : Bytes32} {a : Ambient} {rfq : RFQ}
  {snap : ChainSnapshot} {o : MatchOutcome}

/-- A NO_MATCH that was evaluated is `matchCore`'s, as it is. -/
theorem Evaluates.core (hevaluates : Evaluates X S cfg h e rfqID a rfq snap)
    (hanswered : Answered X S cfg h e rfqID o) (hno : o.outcome = .noMatch) :
    matchCore X.toLibraries cfg.matcher cfg.escrowAddr rfq (a.quotesOrder.walk (h.book.resting rfqID))
      snap a.now = .ok o := by
  obtain ⟨snap', hsnap, hmatch⟩ := hanswered.matched hevaluates.requested
  obtain rfl : snap = snap' := Except.ok.inj (hevaluates.snap.symm.trans hsnap)
  rcases matchWithSignFunc_eq_ok.mp hmatch with ⟨hcached, _⟩ | ⟨_, rfq', quotes, u, hread, hu, hsign, _⟩
  · rw [hevaluates.fresh] at hcached
    cases hcached
  · obtain ⟨hrfq, rfl⟩ := snapshotForMatch_eq_ok.mp hread
    obtain rfl : rfq = rfq' := Option.some.inj (hevaluates.rfq.symm.trans hrfq)
    rcases signOutcome_eq_ok.mp hsign with ⟨_, rfl⟩ | ⟨mi, signed, hmi, _, rfl⟩
    · exact (matchSnapshot_eq_ok.mp hu).2
    · -- only a match asks for a signature
      unfold MatchOutcome.toSign at hmi
      rw [if_neg (by rw [show u.outcome = .noMatch from hno]; decide)] at hmi
      cases hmi

/-- The counts of a fresh NO_MATCH. -/
theorem Evaluates.count (hevaluates : Evaluates X S cfg h e rfqID a rfq snap)
    (hanswered : Answered X S cfg h e rfqID o) (hno : o.outcome = .noMatch) :
    o.count = if snap.takerAvailableRaw < rfq.fxrpAmountRaw
      then update (fun _ => 0) .insufficientTakerFunds 1
      else rejected (rejection cfg.matcher rfq snap (snap.midE18.getD 0) a.now)
        (h.book.resting rfqID) := by
  have hcore := hevaluates.core hanswered hno
  cases hmid : freshMid snap with
  | error code =>
    rw [matchCore, hmid] at hcore
    cases hcore
  | ok mid =>
    split_ifs with hfunds
    · rw [matchCore_underfunded hmid hfunds, Except.ok.injEq] at hcore
      rw [← hcore]
      rfl
    · obtain ⟨hsome, hpos, hfresh⟩ := freshMid_eq_ok.mp hmid
      have hready : Ready rfq snap mid := ⟨hsome, hpos, hfresh, UInt64.not_lt.mp hfunds⟩
      have hgetD : snap.midE18.getD 0 = mid := by rw [hsome]; rfl
      rw [matchCore_of_ready hready] at hcore
      rw [hgetD, ← Selection.rejected_perm _ (a.quotesOrder.perm (h.book.resting rfqID))]
      cases hmax : (kept (rejection cfg.matcher rfq snap mid a.now)
          (a.quotesOrder.walk (h.book.resting rfqID))).argmax rank with
      | none =>
        rw [hmax, Except.ok.injEq] at hcore
        rw [← hcore]
        rfl
      | some w =>
        rw [hmax, Except.ok.injEq] at hcore
        rw [← hcore] at hno
        cases hno

/-- Every count is the maker's own quote, if it has one, and its rivals'. -/
theorem rejected_split (A : Address) (r : Reason) :
    rejected (rejection cfg.matcher rfq snap (snap.midE18.getD 0) a.now) (h.book.resting rfqID) r =
      (if (h.ownQuote A rfqID).any (fun q =>
        rejection cfg.matcher rfq snap (snap.midE18.getD 0) a.now q = some r) then 1 else 0) +
        rivalsTurnedAway cfg A h rfqID rfq snap a.now r := by
  have hsplit : ∀ l : List Quote,
      rejected (rejection cfg.matcher rfq snap (snap.midE18.getD 0) a.now) l r =
        l.countP (fun q => q.maker = A ∧
          rejection cfg.matcher rfq snap (snap.midE18.getD 0) a.now q = some r) +
        l.countP (fun q => q.maker ≠ A ∧
          rejection cfg.matcher rfq snap (snap.midE18.getD 0) a.now q = some r) := by
    intro l
    rw [rejected, List.countP_eq_countP_filter_add _ _ fun q => decide (q.maker = A)]
    simp only [List.countP_filter, ← Bool.decide_and, and_comm, ← decide_not]
  rw [hsplit]
  congr 1
  unfold SealedBook.resting Handler.ownQuote
  cases h.book.quotes rfqID with
  | none => rfl
  | some m =>
    have hone := countP_maker m.nodup A fun q =>
      rejection cfg.matcher rfq snap (snap.midE18.getD 0) a.now q = some r
    simp only [decide_eq_true_eq] at hone
    rw [Option.map_some, Option.getD_some, hone, Option.bind_some, ByMaker.own, Option.any_map]
    rfl

end Counts

section TwoRuns

variable {X : Externals} {k : Int64} {cfg : Config} {A : Address} {h h' : Handler ChainCache}
  {rfqID : Bytes32} {a : Ambient} {rfq rfq' : RFQ} {snap snap' : ChainSnapshot}

theorem SameFor.ownQuote (hsame : SameFor A h h') (rfqID : Bytes32) :
    h.ownQuote A rfqID = h'.ownQuote A rfqID := by
  have hjoin : ∀ x : Option ByMaker, x.bind (ByMaker.own A) = (x.map (ByMaker.own A)).join := by
    intro x
    cases x with
    | none => rfl
    | some m => rfl
  unfold Handler.ownQuote
  rw [hjoin, hjoin, hsame.quotes rfqID]

theorem mem_makers_iff {order : MapOrder} :
    A ∈ (order.walk (h.book.resting rfqID)).map Quote.maker ↔ (h.ownQuote A rfqID).isSome = true := by
  rw [((order.perm _).map Quote.maker).mem_iff, List.mem_map]
  unfold SealedBook.resting Handler.ownQuote
  cases h.book.quotes rfqID with
  | none => simp
  | some m => exact ByMaker.own_isSome.symm

/-- The snapshots of two such handlers differ in rivals' bonds at most. -/
theorem SameFor.snapshots (hsame : SameFor A h h') (hrfq : h.book.rfqs rfqID = some rfq)
    (hrfq' : h'.book.rfqs rfqID = some rfq') (hsnap : matchSnap (chainCache k) a rfqID h = .ok snap)
    (hsnap' : matchSnap (chainCache k) a rfqID h' = .ok snap') :
    rfq.terms = rfq'.terms ∧ snap.midE18 = snap'.midE18 ∧
      snap.takerAvailableRaw = snap'.takerAvailableRaw ∧ snap.freeBondRaw A = snap'.freeBondRaw A := by
  obtain ⟨r, hr, rfl⟩ := matchSnap_eq_ok.mp hsnap
  obtain ⟨r', hr', rfl⟩ := matchSnap_eq_ok.mp hsnap'
  obtain rfl : rfq = r := Option.some.inj (hrfq.symm.trans hr)
  obtain rfl : rfq' = r' := Option.some.inj (hrfq'.symm.trans hr')
  have hterms : rfq.terms = rfq'.terms := by
    have hboth := hsame.rfqs rfqID
    rw [hrfq, hrfq'] at hboth
    exact Option.some.inj hboth
  have htaker : rfq.taker = rfq'.taker := (RFQ.terms_eq hterms).1
  have hmid : h.chain.midE18 = h'.chain.midE18 := by
    simpa [ChainCache.seenBy] using congrArg ChainCache.midE18 hsame.chain
  have havail : h.chain.takerAvail = h'.chain.takerAvail := by
    simpa [ChainCache.seenBy] using congrArg ChainCache.takerAvail hsame.chain
  have hbond : h.chain.bondFree A = h'.chain.bondFree A := by
    have hboth := congrFun (congrArg ChainCache.bondFree hsame.chain) A
    simpa [ChainCache.seenBy] using hboth
  refine ⟨hterms, hmid, ?_, ?_⟩
  · simp only [chainCache, ChainCache.snapshot, havail, htaker]
  · simp only [chainCache, ChainCache.snapshot, mem_makers_iff, hsame.ownQuote rfqID, hbond]

/-- Two runs that only rivals' quotes tell apart, up to one RFQ_MATCH that finds
nothing in either, and on. -/
structure TwoRefusals (X : Externals) (k : Int64) (cfg : Config) (A : Address) (epoch : UInt64)
    (c₀ : ChainCache) (pre pre' later later' : List (Turn ChainCache)) (e : Event ChainCache)
    (rfqID : Bytes32) (a : Ambient) (rfq rfq' : RFQ) (snap snap' : ChainSnapshot)
    (o o' : MatchOutcome) : Prop where
  before : RivalsOnly X cfg A pre pre'
  after : RivalsOnly X cfg A later later'
  refused : RefusedBefore X (chainCache k) cfg epoch c₀ pre e later rfqID o
  refused' : RefusedBefore X (chainCache k) cfg epoch c₀ pre' e later' rfqID o'
  evaluates : Evaluates X (chainCache k) cfg (desk X (chainCache k) cfg epoch c₀ pre) e rfqID a rfq snap
  evaluates' : Evaluates X (chainCache k) cfg (desk X (chainCache k) cfg epoch c₀ pre') e rfqID a rfq'
    snap'

variable {epoch : UInt64} {c₀ : ChainCache} {pre pre' later later' : List (Turn ChainCache)}
  {e : Event ChainCache} {o o' : MatchOutcome}

theorem RivalsOnly.refl {turns : List (Turn ChainCache)} (h : ∀ t ∈ turns, t.Polls) :
    RivalsOnly X cfg A turns turns := ⟨h, h, rfl⟩

theorem polls_of_matchOn (hrequest : e.matchOn X cfg = some (a, rfqID)) : (Turn.call e).Polls := by
  rintro f hf
  obtain rfl := Turn.call.inj hf
  cases hrequest

/-- The own quote counts the same in both, so the counts agree where rivals' do. -/
theorem TwoRefusals.count_iff
    (h : TwoRefusals X k cfg A epoch c₀ pre pre' later later' e rfqID a rfq rfq' snap snap' o o') :
    matchView o = matchView o' ↔ snap.takerAvailableRaw < rfq.fxrpAmountRaw ∨
      ∀ r, rivalsTurnedAway cfg A (desk X (chainCache k) cfg epoch c₀ pre) rfqID rfq snap a.now r =
        rivalsTurnedAway cfg A (desk X (chainCache k) cfg epoch c₀ pre') rfqID rfq' snap' a.now r := by
  have hsame := (h.before.same (k := k) epoch c₀).1
  obtain ⟨hterms, hmid, hfunds, hbond⟩ := hsame.snapshots h.evaluates.rfq h.evaluates'.rfq
    h.evaluates.snap h.evaluates'.snap
  have hamount : rfq.fxrpAmountRaw = rfq'.fxrpAmountRaw := (RFQ.terms_eq hterms).2
  have hview : ∀ {u : MatchOutcome}, u.outcome = .noMatch → matchView u = some u.count := by
    intro u hu
    unfold matchView
    rw [if_pos hu]
  rw [hview h.refused.noMatch, hview h.refused'.noMatch, Option.some.injEq,
    h.evaluates.count h.refused.answered h.refused.noMatch,
    h.evaluates'.count h.refused'.answered h.refused'.noMatch, ← hfunds, ← hamount]
  by_cases hunderfunded : snap.takerAvailableRaw < rfq.fxrpAmountRaw
  · simp only [hunderfunded, if_true, true_or]
  · simp only [hunderfunded, if_false, false_or, funext_iff]
    refine forall_congr' fun r => ?_
    rw [rejected_split A r, rejected_split A r, ← hsame.ownQuote rfqID, ← hmid]
    have hown : ((desk X (chainCache k) cfg epoch c₀ pre).ownQuote A rfqID).any (fun q =>
          decide (rejection cfg.matcher rfq snap (snap.midE18.getD 0) a.now q = some r)) =
        ((desk X (chainCache k) cfg epoch c₀ pre).ownQuote A rfqID).any (fun q =>
          decide (rejection cfg.matcher rfq' snap' (snap.midE18.getD 0) a.now q = some r)) := by
      cases hq : (desk X (chainCache k) cfg epoch c₀ pre).ownQuote A rfqID with
      | none => rfl
      | some q =>
        obtain ⟨m, _, hm⟩ := Option.bind_eq_some_iff.mp hq
        have hmaker : q.maker = A := ByMaker.own_maker hm
        rw [← hmaker] at hbond
        rw [Option.any_some, Option.any_some, rejection_congr hterms hbond]
    rw [hown]
    exact Nat.add_left_cancel_iff

/-- The acks and every answer to a match, and exactly when they are the same in
both runs. -/
theorem reasons_tell_rivals
    (h : TwoRefusals X k cfg A epoch c₀ pre pre' later later' e rfqID a rfq rfq' snap snap' o o') :
    (acks X (chainCache k) cfg A epoch c₀ (pre ++ .call e :: later) =
        acks X (chainCache k) cfg A epoch c₀ (pre' ++ .call e :: later') ∧ matchView o = matchView o' ↔
      snap.takerAvailableRaw < rfq.fxrpAmountRaw ∨
        ∀ r, rivalsTurnedAway cfg A (desk X (chainCache k) cfg epoch c₀ pre) rfqID rfq snap a.now r =
          rivalsTurnedAway cfg A (desk X (chainCache k) cfg epoch c₀ pre') rfqID rfq' snap' a.now r) ∧
      ∀ (e' : Event ChainCache) (a' : Ambient), e'.matchOn X cfg = some (a', rfqID) →
        Answered X (chainCache k) cfg (desk X (chainCache k) cfg epoch c₀ (pre ++ .call e :: later)) e'
            rfqID o ∧
          Answered X (chainCache k) cfg (desk X (chainCache k) cfg epoch c₀ (pre' ++ .call e :: later'))
            e' rfqID o' := by
  have hmatch : RivalsOnly X cfg A [.call e] [.call e] :=
    RivalsOnly.refl (List.forall_mem_singleton.mpr (polls_of_matchOn h.evaluates.requested))
  have hacks := ((h.before.append (hmatch.append h.after)).same (k := k) epoch c₀).2
  rw [← h.count_iff]
  constructor
  · constructor
    · exact And.right
    · intro hview
      exact ⟨hacks, hview⟩
  · intro e' a' hagain
    exact ⟨answered_of_cached h.refused.cached hagain, answered_of_cached h.refused'.cached hagain⟩

variable (X k cfg A) in
/-- What the maker is promised: rivals leave no trace in a refusal. -/
def RivalInvisible (epoch : UInt64) (c₀ : ChainCache) : Prop :=
  ∀ pre pre' later later' e rfqID a rfq rfq' snap snap' o o',
    TwoRefusals X k cfg A epoch c₀ pre pre' later later' e rfqID a rfq rfq' snap snap' o o' →
    acks X (chainCache k) cfg A epoch c₀ (pre ++ .call e :: later) =
        acks X (chainCache k) cfg A epoch c₀ (pre' ++ .call e :: later') ∧ matchView o = matchView o'

end TwoRuns

/-! Maker 3 asks for a match when its quote is stale, once alone on the RFQ and
once with maker 5 beside it. -/
namespace SampleRivals

open SampleDesk

def rivalPlaintext : QuotePlaintext :=
  { quotePlaintext with
    maker := 0x30 :: 0x78 :: ByteCodec.hexDigits (ByteCodec.beBytes 20 5)
    sig := hexText (5 :: List.replicate 64 0) }

def externals : Externals :=
  { SampleDesk.externals with
    decodeQuotePlaintext := fun body =>
      if body = ascii "rival" then some rivalPlaintext
      else SampleDesk.externals.decodeQuotePlaintext body }

/-- The chain with the taker and maker 3 funded. -/
def funded : World := after Sample.primitives Sample.world ((Sample.opening 1000 7).take 5)

def poll (n : Nat) : Poll where
  getFeedByIdInWei := some (2000000000000000000, n)
  midAt := SampleBook.clock n
  freeBondUp _ := true
  balancesUp _ := true
  takerAt _ := SampleBook.clock n

def sealing : Turn ChainCache :=
  .call (.instruction (ambient 1000)
    { instructionID := 7, opType := opHash "WD_RFQ", opCommand := rfqSubmit,
      originalMessage := AbiWords.words [2, 0x40, (ciphertext "rfq").length] ++
        AbiWords.padRight (ciphertext "rfq") })

def quoting (n : Nat) (text : String) : Turn ChainCache :=
  .call (.direct (ambient n)
    { opType := opHash "WD_RFQ", opCommand := quoteSubmit, message := ciphertext text })

def polling : Turn ChainCache := .call (.background (ChainCache.refresh (poll 1065) funded))

def matching : Event ChainCache :=
  .instruction (ambient 1070)
    { instructionID := 8, opType := opHash "WD_RFQ", opCommand := rfqMatch,
      originalMessage := AbiWords.word 7 }

def alone : List (Turn ChainCache) := [sealing, quoting 1005 "quote", polling]

def contested : List (Turn ChainCache) :=
  [sealing, quoting 1005 "quote", quoting 1006 "rival", polling]

/-- The snapshot that the match works with after a run. -/
def snapAfter (turns : List (Turn ChainCache)) : ChainSnapshot :=
  let h := desk externals (chainCache 60) config 0 .new turns
  (chainCache 60).snapshot h.chain SampleBook.request.taker ((h.book.resting 7).map Quote.maker)
    (SampleBook.clock 1070)

/-- The counts after `n` stale quotes, as the loop leaves them. -/
def staleCounts : Nat → Reason → Nat
  | 0 => fun _ => 0
  | n + 1 => update (staleCounts n) .stale (staleCounts n .stale + 1)

def stale (n : Nat) : MatchOutcome := noMatch (staleCounts n)

theorem polls {t : Turn ChainCache} (h : t ∈ contested) : t.Polls := by
  rintro f rfl
  have hf : Turn.call (.background f) = polling := by
    simpa [contested, sealing, quoting] using h
  exact ⟨poll 1065, funded, Event.background.inj (Turn.call.inj hf)⟩

theorem rivalsOnly : RivalsOnly externals config 3 alone contested where
  polls t ht := by
    have hsub : alone ⊆ contested := by simp [alone, contested]
    exact polls (hsub ht)
  polls' t ht := polls ht
  purged := by
    have hquote : (quoting 1005 "quote").rival externals config 3 = false := by decide +kernel
    have hrival : (quoting 1006 "rival").rival externals config 3 = true := by decide +kernel
    simp only [alone, contested, purge, List.filter_cons, hquote, hrival]
    rfl

theorem refused {turns : List (Turn ChainCache)} {n : Nat}
    (hanswer : ((matching.answer externals (chainCache 60) config
      (desk externals (chainCache 60) config 0 .new turns)).bind Payload.outcome) = some (stale n)) :
    RefusedBefore externals (chainCache 60) config 0 .new turns matching [] 7 (stale n) := by
  have hanswered : Answered externals (chainCache 60) config _ matching 7 (stale n) :=
    ⟨⟨ambient 1070, rfl⟩, eq_matchResponse hanswer⟩
  refine ⟨hanswered, rfl, ?_⟩
  intro part hpart
  rw [List.prefix_nil.mp hpart, desk_concat]
  intro hnone
  have hcached := cached_of_answered hanswered
  simp only [Turn.exec] at hnone
  rw [SealedBook.cachedOutcome, hnone] at hcached
  cases hcached

theorem evaluates {turns : List (Turn ChainCache)}
    (hrfq : (desk externals (chainCache 60) config 0 .new turns).book.rfqs 7 = some SampleBook.request) :
    Evaluates externals (chainCache 60) config (desk externals (chainCache 60) config 0 .new turns)
      matching 7 (ambient 1070) SampleBook.request (snapAfter turns) where
  requested := rfl
  fresh := by
    rw [SealedBook.cachedOutcome, hrfq]
    rfl
  rfq := hrfq
  snap := matchSnap_eq_ok.mpr ⟨_, hrfq, rfl⟩

theorem twoRefusals : TwoRefusals externals 60 config 3 0 .new alone contested [] [] matching 7
    (ambient 1070) SampleBook.request SampleBook.request (snapAfter alone) (snapAfter contested)
    (stale 1) (stale 2) where
  before := rivalsOnly
  after := ⟨by simp, by simp, rfl⟩
  refused := refused (by decide +kernel)
  refused' := refused (by decide +kernel)
  evaluates := evaluates (by decide +kernel)
  evaluates' := evaluates (by decide +kernel)

end SampleRivals

open SampleDesk (config) in
open SampleRivals in
/-- The acks are the same, and yet the two runs are told apart. -/
theorem reasons_tell_rivals_sample :
    ¬ ((snapAfter alone).takerAvailableRaw < SampleBook.request.fxrpAmountRaw ∨
      ∀ r, rivalsTurnedAway config 3 (desk externals (chainCache 60) config 0 .new alone) 7
          SampleBook.request (snapAfter alone) (SampleBook.clock 1070) r =
        rivalsTurnedAway config 3 (desk externals (chainCache 60) config 0 .new contested) 7
          SampleBook.request (snapAfter contested) (SampleBook.clock 1070) r) := by
  intro hsame
  have hview := ((reasons_tell_rivals twoRefusals).1.mpr hsame).2
  have hcount := congrFun (Option.some.inj hview) .stale
  revert hcount
  decide

open SampleDesk (config) in
open SampleRivals in
/-- A rival's stale quote shows in the reasons. -/
theorem rival_visible : ¬ RivalInvisible externals 60 config 3 0 .new := by
  intro hinvisible
  have hview := (hinvisible _ _ _ _ _ _ _ _ _ _ _ _ _ twoRefusals).2
  have hcount := congrFun (Option.some.inj hview) .stale
  revert hcount
  decide

end WhisperDesk.Fcewire
