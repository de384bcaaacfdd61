import Mathlib.Logic.Relation
import WhisperDesk.Enclave.Match

/-!
# The matching rule

What `matchCore` decides, told without its loop: a quote is eligible when it
passes every filter, the best eligible quote wins, and each other quote counts
under the first filter it fails. The order of the quotes plays no part, and
neither do eligible quotes that lose.
-/
namespace WhisperDesk.Matcher

open Go
open Reverting
open Selection
open Relation (EqvGen)

section Filters

variable (cfg : Config) (rfq : RFQ) (snap : ChainSnapshot) (mid : Int) (now : Time) (q : Quote)

/-- The filter a reason is named after. Taker funds are not a quote's business. -/
def Passes : Reason → Prop
  | .selfMatch => q.maker ≠ rfq.taker
  | .stale => 0 ≤ now.sub q.receivedAt ∧ now.sub q.receivedAt < seconds cfg.quoteTTLSec
  | .undersized => rfq.fxrpAmountRaw ≤ q.maxFxrpRaw
  | .outOfBand =>
    mid * (10000 - cfg.bandBips.toNat) ≤ q.priceE18 * 10000 ∧
      q.priceE18 * 10000 ≤ mid * (10000 + cfg.bandBips.toNat)
  | .belowLimit => rfq.limitPriceE18 ≤ q.priceE18
  | .insufficientBond => rfq.fxrpAmountRaw.toNat / 100 ≤ (snap.freeBondRaw q.maker).toNat
  | .insufficientTakerFunds => True

instance : ∀ r, Decidable (Passes cfg rfq snap mid now q r)
  | .selfMatch => inferInstanceAs (Decidable (_ ≠ _))
  | .stale => inferInstanceAs (Decidable (_ ∧ _))
  | .undersized => inferInstanceAs (Decidable (_ ≤ _))
  | .outOfBand => inferInstanceAs (Decidable (_ ∧ _))
  | .belowLimit => inferInstanceAs (Decidable (_ ≤ _))
  | .insufficientBond => inferInstanceAs (Decidable (_ ≤ _))
  | .insufficientTakerFunds => inferInstanceAs (Decidable True)

/-- The six filters on a quote, in the order they are tried. -/
def filterOrder : List Reason :=
  [.selfMatch, .stale, .undersized, .outOfBand, .belowLimit, .insufficientBond]

def Eligible : Prop := ∀ r ∈ filterOrder, Passes cfg rfq snap mid now q r

instance : Decidable (Eligible cfg rfq snap mid now q) := inferInstanceAs (Decidable (∀ _ ∈ _, _))

def firstFailing : Option Reason := filterOrder.find? (fun r => ¬ Passes cfg rfq snap mid now q r)

theorem requiredBond_le (n : Nat) : requiredBond rfq ≤ n ↔ rfq.fxrpAmountRaw.toNat / 100 ≤ n := by
  unfold requiredBond bondBips
  omega

/-- The chain of `if`s in the loop body finds the first filter that fails. -/
theorem rejection_eq : rejection cfg rfq snap mid now q = firstFailing cfg rfq snap mid now q := by
  have hband : inBand q.priceE18 mid cfg.bandBips = false ↔
      ¬ Passes cfg rfq snap mid now q .outOfBand := by
    simp only [inBand, Passes, decide_eq_false_iff_not, ge_iff_le]
  have hstale : (now.sub q.receivedAt < 0 ∨ now.sub q.receivedAt ≥ seconds cfg.quoteTTLSec) ↔
      ¬ Passes cfg rfq snap mid now q .stale := by
    simp only [Passes, not_and_or, Int64.not_le, Int64.not_lt, ge_iff_le]
  have hsize : q.maxFxrpRaw < rfq.fxrpAmountRaw ↔ ¬ Passes cfg rfq snap mid now q .undersized := by
    simp only [Passes, UInt64.not_le]
  have hlimit : q.priceE18 < rfq.limitPriceE18 ↔ ¬ Passes cfg rfq snap mid now q .belowLimit := by
    simp only [Passes, Int.not_le]
  have hbond : ((snap.freeBondRaw q.maker).toNat : Int) < requiredBond rfq ↔
      ¬ Passes cfg rfq snap mid now q .insufficientBond := by
    simp only [Passes, ← requiredBond_le, Int.not_le]
  have hself : q.maker = rfq.taker ↔ ¬ Passes cfg rfq snap mid now q .selfMatch := by
    simp only [Passes, ne_eq, not_not]
  simp only [rejection, hself, hstale, hsize, hband, hlimit, hbond, firstFailing, filterOrder,
    List.find?_cons, List.find?_nil]
  repeat' split
  all_goals simp_all

theorem rejection_eq_none : rejection cfg rfq snap mid now q = none ↔ Eligible cfg rfq snap mid now q := by
  rw [rejection_eq, firstFailing, List.find?_eq_none]
  simp only [decide_not, Bool.not_eq_true', decide_eq_false_iff_not, not_not]
  exact Iff.rfl

end Filters

variable {L : Libraries} {cfg : Config} {escrow : Address} {rfq : RFQ} {quotes : List Quote}
  {snap : ChainSnapshot} {mid : Int} {now : Time}

/-- How many quotes an outcome counts under a reason. -/
def MatchOutcome.count (o : MatchOutcome) (r : Reason) : Nat := (o.reasons.getD fun _ => 0) r

@[simp] theorem count_matched (reasons : Reason → Nat) (w : Quote) :
    (matched L escrow rfq reasons w now).count = reasons := by
  funext r
  simp only [MatchOutcome.count, matched, nonEmptyReasons]
  split
  · rename_i h
    rw [h]
    rfl
  · rfl

/-- The eligible quote that every other one loses to: a lower price, or the same
price and a later intake. -/
structure Chosen (cfg : Config) (rfq : RFQ) (snap : ChainSnapshot) (mid : Int) (now : Time)
    (quotes : List Quote) (w : Quote) : Prop where
  mem : w ∈ quotes
  eligible : Eligible cfg rfq snap mid now w
  best : ∀ q ∈ quotes, Eligible cfg rfq snap mid now q → q ≠ w →
    q.priceE18 < w.priceE18 ∨ q.priceE18 = w.priceE18 ∧ w.seq < q.seq

theorem Chosen.unique {v w : Quote} (hv : Chosen cfg rfq snap mid now quotes v)
    (hw : Chosen cfg rfq snap mid now quotes w) : v = w := by
  by_contra hne
  have h₁ := rank_lt.mpr (hw.best v hv.mem hv.eligible hne)
  have h₂ := rank_lt.mpr (hv.best w hw.mem hw.eligible (Ne.symm hne))
  exact lt_asymm h₁ h₂

theorem rank_injOn (hseq : (quotes.map Quote.seq).Nodup) :
    ∀ p ∈ quotes, ∀ q ∈ quotes, rank p = rank q → p = q := by
  intro p hp q hq hrank
  exact List.inj_on_of_nodup_map hseq hp hq (rank_inj hrank).2

theorem chosen_of_argmax (hseq : (quotes.map Quote.seq).Nodup) {w : Quote}
    (h : (kept (rejection cfg rfq snap mid now) quotes).argmax rank = some w) :
    Chosen cfg rfq snap mid now quotes w := by
  obtain ⟨hmem, hkeep⟩ := (mem_kept _).mp (List.argmax_mem (by rw [h]; rfl))
  refine ⟨hmem, (rejection_eq_none ..).mp hkeep, ?_⟩
  intro q hq heligible hne
  have hqkept : q ∈ kept (rejection cfg rfq snap mid now) quotes :=
    (mem_kept _).mpr ⟨hq, (rejection_eq_none ..).mpr heligible⟩
  have hle : rank q ≤ rank w := List.le_of_mem_argmax hqkept (by rw [h]; rfl)
  have hrank : rank q ≠ rank w := fun he => hne (rank_injOn hseq q hq w hmem he)
  exact rank_lt.mp (lt_of_le_of_ne hle hrank)

theorem matchCore_perm (h : Ready rfq snap mid) (hseq : (quotes.map Quote.seq).Nodup)
    {quotes' : List Quote} (hperm : quotes'.Perm quotes) :
    matchCore L cfg escrow rfq quotes' snap now = matchCore L cfg escrow rfq quotes snap now := by
  have hinj : ∀ p ∈ kept (rejection cfg rfq snap mid now) quotes,
      ∀ q ∈ kept (rejection cfg rfq snap mid now) quotes, rank p = rank q → p = q :=
    fun p hp q hq => rank_injOn hseq p ((mem_kept _).mp hp).1 q ((mem_kept _).mp hq).1
  rw [matchCore_of_ready h, matchCore_of_ready h, rejected_perm _ hperm,
    argmax_perm hinj (kept_perm _ hperm.symm)]

/-- The matching rule. The instruction that goes out copies the RFQ's id, taker,
amount and XRPL address and the winner's maker and price (`instructionFor`). -/
theorem matching_rule (h : Ready rfq snap mid) (hseq : (quotes.map Quote.seq).Nodup) :
    ∃ o, matchCore L cfg escrow rfq quotes snap now = .ok o ∧
      (o.outcome = .noMatch ↔ ∀ q ∈ quotes, ¬ Eligible cfg rfq snap mid now q) ∧
      (o.outcome = .matched → ∃ w, Chosen cfg rfq snap mid now quotes w ∧
        (∀ v, Chosen cfg rfq snap mid now quotes v → v = w) ∧
        o.wire = some (instructionToWire L (instructionFor escrow rfq w now)) ∧
        o.toSign = some (instructionFor escrow rfq w now)) ∧
      (∀ r, o.count r = quotes.countP fun q => firstFailing cfg rfq snap mid now q = some r) ∧
      ∑ r, o.count r = quotes.countP (fun q => ¬ Eligible cfg rfq snap mid now q) ∧
      ∀ quotes', quotes'.Perm quotes → matchCore L cfg escrow rfq quotes' snap now = .ok o := by
  have hreasons : ∀ r, rejected (rejection cfg rfq snap mid now) quotes r =
      quotes.countP fun q => firstFailing cfg rfq snap mid now q = some r := by
    intro r
    simp only [rejected, rejection_eq]
  have hsum : ∑ r, rejected (rejection cfg rfq snap mid now) quotes r =
      quotes.countP (fun q => ¬ Eligible cfg rfq snap mid now q) := by
    rw [sum_rejected]
    congr 1
    funext q
    rw [Bool.eq_iff_iff, decide_eq_true_eq, ← rejection_eq_none, Option.isSome_iff_ne_none]
  have hcore : matchCore L cfg escrow rfq quotes snap now = _ := matchCore_of_ready h
  have hperm : ∀ quotes' : List Quote, quotes'.Perm quotes →
      matchCore L cfg escrow rfq quotes' snap now = matchCore L cfg escrow rfq quotes snap now :=
    fun _ hp => matchCore_perm h hseq hp
  cases hmax : (kept (rejection cfg rfq snap mid now) quotes).argmax rank with
  | none =>
    rw [hmax] at hcore
    have hkept := List.argmax_eq_none.mp hmax
    refine ⟨_, hcore, ⟨fun _ q hq helig => ?_, fun _ => rfl⟩, (by intro h; cases h), hreasons, hsum,
      fun quotes' hp => (hperm quotes' hp).trans hcore⟩
    have hmem : q ∈ kept (rejection cfg rfq snap mid now) quotes :=
      (mem_kept _).mpr ⟨hq, (rejection_eq_none ..).mpr helig⟩
    rw [hkept] at hmem
    cases hmem
  | some w =>
    rw [hmax] at hcore
    have hw := chosen_of_argmax hseq hmax
    refine ⟨_, hcore, ⟨(by intro h; cases h), fun hnone => absurd hw.eligible (hnone w hw.mem)⟩,
      ?_, ?_, ?_, fun quotes' hp => (hperm quotes' hp).trans hcore⟩
    · intro _
      exact ⟨w, hw, fun v hv => hv.unique hw, rfl, matched_toSign ..⟩
    · rw [count_matched]
      exact hreasons
    · rw [count_matched]
      exact hsum

open SampleBook in
/-- The better of two eligible quotes wins, and the third counts as out of band. -/
theorem matching_rule_sample :
    ∃ o, matchCore libraries defaultConfig 0xE5 request [low, outside, high] snapshot (clock 1020) = .ok o ∧
      o.outcome ≠ .noMatch ∧ o.count .outOfBand = 1 ∧
      matchCore libraries defaultConfig 0xE5 request [outside, high, low] snapshot (clock 1020) = .ok o := by
  obtain ⟨o, ho, hnone, _, hcount, _, hperm⟩ := @matching_rule libraries defaultConfig 0xE5 request
    [low, outside, high] snapshot _ (clock 1020) ready (by decide)
  refine ⟨o, ho, fun h => ?_, ?_, hperm _ (by decide)⟩
  · have helig : Eligible defaultConfig request snapshot 2000000000000000000 (clock 1020) high := by decide
    exact hnone.mp h high (by decide) helig
  · rw [hcount]
    decide

/-- An eligible quote that some other eligible quote of the list beats. -/
structure FairLoser (cfg : Config) (rfq : RFQ) (snap : ChainSnapshot) (now : Time)
    (quotes : List Quote) (q : Quote) : Prop where
  eligible : Eligible cfg rfq snap (snap.midE18.getD 0) now q
  beaten : ∃ w ∈ quotes, Eligible cfg rfq snap (snap.midE18.getD 0) now w ∧
    (q.priceE18 < w.priceE18 ∨ q.priceE18 = w.priceE18 ∧ w.seq < q.seq)

/-- One fair loser put somewhere into a list. -/
inductive AddsLoser (cfg : Config) (rfq : RFQ) (snap : ChainSnapshot) (now : Time) :
    List Quote → List Quote → Prop
  | insert (xs ys : List Quote) (q : Quote) (h : FairLoser cfg rfq snap now (xs ++ ys) q) :
      AddsLoser cfg rfq snap now (xs ++ ys) (xs ++ q :: ys)

theorem matchCore_addsLoser {quotes₁ quotes₂ : List Quote}
    (h : AddsLoser cfg rfq snap now quotes₁ quotes₂) :
    matchCore L cfg escrow rfq quotes₁ snap now = matchCore L cfg escrow rfq quotes₂ snap now := by
  cases h with
  | insert xs ys q h =>
    cases hmid : freshMid snap with
    | error e => rw [matchCore, matchCore, hmid]; rfl
    | ok mid =>
      by_cases hfunds : snap.takerAvailableRaw < rfq.fxrpAmountRaw
      · rw [matchCore_underfunded hmid hfunds, matchCore_underfunded hmid hfunds]
      · obtain ⟨hsome, hpos, hfresh⟩ := freshMid_eq_ok.mp hmid
        have hready : Ready rfq snap mid := ⟨hsome, hpos, hfresh, UInt64.not_lt.mp hfunds⟩
        have hgetD : snap.midE18.getD 0 = mid := by rw [hsome]; rfl
        obtain ⟨hq, w, hw, helig, hbeats⟩ := h
        rw [hgetD, ← rejection_eq_none] at hq helig
        -- the loser is kept, so it is counted under no reason and only loses the scan
        have hcount : rejected (rejection cfg rfq snap mid now) (xs ++ q :: ys) =
            rejected (rejection cfg rfq snap mid now) (xs ++ ys) := by
          funext r
          simp [rejected, List.countP_append, hq]
        have hkept : kept (rejection cfg rfq snap mid now) (xs ++ q :: ys) =
            kept (rejection cfg rfq snap mid now) xs ++ q ::
              kept (rejection cfg rfq snap mid now) ys := by
          simp [kept, List.filter_append, hq]
        have hrest : kept (rejection cfg rfq snap mid now) (xs ++ ys) =
            kept (rejection cfg rfq snap mid now) xs ++ kept (rejection cfg rfq snap mid now) ys :=
          List.filter_append _ _
        have hwkept : w ∈ kept (rejection cfg rfq snap mid now) xs ++
            kept (rejection cfg rfq snap mid now) ys := by
          rw [← hrest]
          exact (mem_kept _).mpr ⟨hw, helig⟩
        rw [matchCore_of_ready hready, matchCore_of_ready hready, hcount, hkept, hrest,
          argmax_insert hwkept (rank_lt.mpr hbeats)]

/-- Equal RFQs and equal outcomes of `matchCore` sign alike. -/
theorem matchWithSignFunc_congr {quotes₁ quotes₂ : List Quote} {book₁ book₂ : SealedBook}
    {order₁ order₂ : MapOrder} {rfqID : Bytes32}
    {sign : MatchInstruction → Except Error SignedMatch}
    (hcore : matchCore L cfg escrow rfq quotes₁ snap now = matchCore L cfg escrow rfq quotes₂ snap now)
    (h₁ : book₁.snapshotForMatch order₁ rfqID = .ok (rfq, quotes₁))
    (h₂ : book₂.snapshotForMatch order₂ rfqID = .ok (rfq, quotes₂)) :
    (matchWithSignFunc L book₁ cfg escrow sign order₁ rfqID snap now).map Prod.fst =
      (matchWithSignFunc L book₂ cfg escrow sign order₂ rfqID snap now).map Prod.fst := by
  have hcached : book₁.cachedOutcome rfqID = book₂.cachedOutcome rfqID := by
    rw [SealedBook.cachedOutcome, SealedBook.cachedOutcome, (snapshotForMatch_eq_ok.mp h₁).1,
      (snapshotForMatch_eq_ok.mp h₂).1]
  unfold matchWithSignFunc
  rw [hcached]
  cases book₂.cachedOutcome rfqID with
  | some cached => rfl
  | none =>
    simp only [h₁, h₂, matchSnapshot, hcore, bind, Except.bind]
    cases revertIf (now.before rfq.windowEndsAt = true) Error.windowOpen with
    | error e => rfl
    | ok u =>
      cases matchCore L cfg escrow rfq quotes₂ snap now with
      | error e => rfl
      | ok o =>
        cases hsign : signOutcome sign o <;> simp [hsign, Except.map, pure, Except.pure]

/-- Two lists that differ in fair losers only have one and the same outcome,
before and after signing. -/
theorem fair_loser_no_trace {quotes₁ quotes₂ : List Quote}
    (h : EqvGen (AddsLoser cfg rfq snap now) quotes₁ quotes₂) :
    matchCore L cfg escrow rfq quotes₁ snap now = matchCore L cfg escrow rfq quotes₂ snap now ∧
      ∀ (sign : MatchInstruction → Except Error SignedMatch) (book₁ book₂ : SealedBook)
        (order₁ order₂ : MapOrder) (rfqID : Bytes32),
        book₁.snapshotForMatch order₁ rfqID = .ok (rfq, quotes₁) →
        book₂.snapshotForMatch order₂ rfqID = .ok (rfq, quotes₂) →
        (matchWithSignFunc L book₁ cfg escrow sign order₁ rfqID snap now).map Prod.fst =
          (matchWithSignFunc L book₂ cfg escrow sign order₂ rfqID snap now).map Prod.fst := by
  have hcore : matchCore L cfg escrow rfq quotes₁ snap now =
      matchCore L cfg escrow rfq quotes₂ snap now := by
    induction h with
    | rel _ _ h => exact matchCore_addsLoser h
    | refl _ => rfl
    | symm _ _ _ ih => exact ih.symm
    | trans _ _ _ _ _ ih₁ ih₂ => exact ih₁.trans ih₂
  exact ⟨hcore, fun _ _ _ _ _ _ h₁ h₂ => matchWithSignFunc_congr hcore h₁ h₂⟩

open SampleBook in
theorem fair_loser_no_trace_sample :
    matchCore libraries defaultConfig 0xE5 request [high, outside] snapshot (clock 1020) =
      matchCore libraries defaultConfig 0xE5 request [high, low, outside] snapshot (clock 1020) :=
  (fair_loser_no_trace (.rel _ _ (.insert [high] [outside] low
    ⟨by decide, high, by decide, by decide, by decide⟩))).1

end WhisperDesk.Matcher
