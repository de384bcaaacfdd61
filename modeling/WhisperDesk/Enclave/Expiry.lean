import WhisperDesk.Enclave.BookRuns

/-!
# How long an RFQ lives

`ExpiresAt` is read by the sweep and by nothing else. An RFQ that is swept in time
is unknown to every later call; one that is not is quoted on and matched as if
its time were not up. The end of the window is checked by every match.
-/
namespace WhisperDesk.Matcher

open Function (update)
open Go
open Reverting

section Runs

variable (L : Libraries) (epoch : UInt64)

/-- The RFQ that a call reads, and when. -/
def Op.reads : Op → Option (Bytes32 × Time)
  | .upsertQuote s now => some (s.rfqID, now)
  | .matchWithSignFunc _ _ _ _ rfqID _ now => some (rfqID, now)
  | _ => none

/-- The outcome that a match computes, rather than finds in the cache. -/
def Op.produced (b : SealedBook) : Op → Option MatchOutcome
  | .matchWithSignFunc cfg escrow sign order rfqID snap now =>
    match b.cachedOutcome rfqID, Matcher.matchWithSignFunc L b cfg escrow sign order rfqID snap now with
    | none, .ok (o, _) => some o
    | _, _ => none
  | _ => none

/-- The call brings `rfq` into the book. -/
structure Brings (before : List Op) (add : Op) (id : Bytes32) (rfq : RFQ) : Prop where
  fresh : (bookAfter L epoch before).rfqs id = none
  added : (bookAfter L epoch (before ++ [add])).rfqs id = some rfq

/-- A sweep past the expiry. -/
def Swept (rfq : RFQ) (ops : List Op) : Prop := ∃ now, Op.gc now ∈ ops ∧ rfq.expiresAt.before now

/-- Whoever comes for an RFQ after its expiry comes after a sweep past the expiry. -/
def SweptInTime (ops : List Op) : Prop :=
  ∀ before add since op rest id now rfq, ops = before ++ add :: (since ++ op :: rest) →
    op.reads = some (id, now) → Brings L epoch before add id rfq → rfq.expiresAt.before now →
    Swept rfq since

/-- What the call accepts or produces, it does while the RFQ has not expired. -/
def InTime (b : SealedBook) (op : Op) : Prop :=
  (op.accepted L b).isSome ∨ (op.produced L b).isSome → ∃ id now rfq, op.reads = some (id, now) ∧
    b.rfqs id = some rfq ∧ rfq.expiresAt.before now = false

variable {L epoch} {b : SealedBook} {op add : Op} {id : Bytes32} {rfq : RFQ}
  {before since ops : List Op}

theorem gc_expired {now : Time} (hrfq : b.rfqs id = some rfq) (hpast : rfq.expiresAt.before now) :
    (b.gc now).rfqs id = none := by
  simp [SealedBook.gc, hrfq, Option.filter, hpast]

/-- Short of a sweep past its expiry, only the cached outcome of an RFQ changes. -/
theorem rfqs_kept (hrfq : b.rfqs id = some rfq)
    (hkept : ∀ now, op = .gc now → ¬ rfq.expiresAt.before now = true) :
    ∃ o, (settle b (op.exec L b)).rfqs id = some { rfq with outcome := o } := by
  cases hexec : op.exec L b with
  | error e => exact ⟨rfq.outcome, hrfq⟩
  | ok b' =>
    rw [settle_ok]
    cases effect_of_ok hexec with
    | @added _ id' _ _ _ _ _ _ _ rfq' hnew =>
      have hne : id ≠ id' := by
        rintro rfl
        rw [hnew] at hrfq
        cases hrfq
      exact ⟨rfq.outcome, (Function.update_of_ne hne ..).trans hrfq⟩
    | quoted byMaker hquotes hnonce => exact ⟨rfq.outcome, hrfq⟩
    | replayed => exact ⟨rfq.outcome, hrfq⟩
    | @matched _ _ _ _ id' _ _ o =>
      rw [markMatched_rfqs]
      split
      · rename_i hid
        subst id
        exact ⟨some o, by rw [hrfq]; rfl⟩
      · exact ⟨rfq.outcome, hrfq⟩
    | @swept now =>
      have hkeep := hkept now rfl
      exact ⟨rfq.outcome, by simp [SealedBook.gc, hrfq, Option.filter, hkeep]⟩

theorem rfqs_step (hrfq : b.rfqs id = some rfq) (hlive : (settle b (op.exec L b)).rfqs id ≠ none) :
    ∃ o, (settle b (op.exec L b)).rfqs id = some { rfq with outcome := o } := by
  apply rfqs_kept hrfq
  rintro now rfl hpast
  exact hlive (gc_expired hrfq hpast)

theorem Brings.lifetime_nil (h : Brings L epoch before add id rfq) :
    Lifetime L epoch before add [] id where
  fresh := h.fresh
  live part hpart := by
    obtain rfl := List.prefix_nil.mp hpart
    rw [h.added]
    exact Option.some_ne_none rfq

/-- Whatever is in the book came in once and has been there since. -/
theorem brought (ops : List Op) (hrfq : (bookAfter L epoch ops).rfqs id = some rfq) :
    ∃ before add since first, ops = before ++ add :: since ∧ Brings L epoch before add id first ∧
      Lifetime L epoch before add since id ∧ ∃ o, rfq = { first with outcome := o } := by
  induction ops using List.reverseRecOn generalizing rfq with
  | nil => cases hrfq
  | append_singleton ops op ih =>
    cases hold : (bookAfter L epoch ops).rfqs id with
    | none =>
      have hbrings : Brings L epoch ops op id rfq := ⟨hold, hrfq⟩
      exact ⟨ops, op, [], rfq, rfl, hbrings, hbrings.lifetime_nil, rfq.outcome, rfl⟩
    | some old =>
      obtain ⟨before, add, since, first, rfl, hbrings, hlife, o, rfl⟩ := ih hold
      rw [bookAfter_concat] at hrfq
      obtain ⟨o', ho'⟩ := rfqs_step hold (by rw [hrfq]; exact Option.some_ne_none rfq)
      refine ⟨before, add, since ++ [op], first, by simp, hbrings, ⟨hbrings.fresh, ?_⟩, o', ?_⟩
      · intro part hpart
        rcases List.prefix_concat_iff.mp hpart with rfl | hpart
        · rw [← List.cons_append, ← List.append_assoc, bookAfter_concat, ho']
          exact Option.some_ne_none _
        · exact hlife.live part hpart
      · rw [ho'] at hrfq
        exact (Option.some.inj hrfq).symm

theorem Lifetime.rfq_eq (hlife : Lifetime L epoch before add since id)
    (hbrings : Brings L epoch before add id rfq) :
    ∃ o, (bookAfter L epoch (before ++ add :: since)).rfqs id = some { rfq with outcome := o } := by
  induction since using List.reverseRecOn with
  | nil => exact ⟨rfq.outcome, hbrings.added⟩
  | append_singleton since op ih =>
    obtain ⟨o, ho⟩ := ih (hlife.part (List.prefix_append since [op]))
    have hlive := hlife.live (since ++ [op]) (List.prefix_refl _)
    rw [← List.cons_append, ← List.append_assoc, bookAfter_concat] at hlive ⊢
    obtain ⟨o', ho'⟩ := rfqs_step ho hlive
    exact ⟨o', ho'⟩

/-- An RFQ does not outlive a sweep past its expiry. -/
theorem Lifetime.not_swept (hlife : Lifetime L epoch before add since id)
    (hbrings : Brings L epoch before add id rfq) : ¬ Swept rfq since := by
  rintro ⟨now, hmem, hpast⟩
  obtain ⟨part, rest, rfl⟩ := List.append_of_mem hmem
  obtain ⟨o, ho⟩ := (hlife.part (List.prefix_append part _)).rfq_eq hbrings
  have hlive := hlife.live (part ++ [.gc now]) ⟨rest, by simp⟩
  rw [← List.cons_append, ← List.append_assoc, bookAfter_concat] at hlive
  exact hlive (gc_expired ho hpast)

/-- And it stays until there is one. -/
theorem Brings.stays (hbrings : Brings L epoch before add id rfq) (hnone : ¬ Swept rfq since) :
    Lifetime L epoch before add since id := by
  induction since using List.reverseRecOn with
  | nil => exact hbrings.lifetime_nil
  | append_singleton since op ih =>
    have hlife := ih fun ⟨now, hmem, hpast⟩ => hnone ⟨now, List.mem_append_left _ hmem, hpast⟩
    obtain ⟨o, ho⟩ := hlife.rfq_eq hbrings
    refine ⟨hbrings.fresh, ?_⟩
    intro part hpart
    rcases List.prefix_concat_iff.mp hpart with rfl | hpart
    · rw [← List.cons_append, ← List.append_assoc, bookAfter_concat]
      have hunswept : ∀ now, op = .gc now → ¬ rfq.expiresAt.before now = true := by
        rintro now rfl hpast
        exact hnone ⟨now, List.mem_append_right _ List.mem_cons_self, hpast⟩
      obtain ⟨o', ho'⟩ := rfqs_kept ho hunswept
      rw [ho']
      exact Option.some_ne_none _
    · exact hlife.live part hpart

/-- The window is looked at by every match that computes. -/
theorem produced_window {o : MatchOutcome} (h : op.produced L b = some o) :
    ∃ id now rfq, op.reads = some (id, now) ∧ b.rfqs id = some rfq ∧
      now.before rfq.windowEndsAt = false := by
  cases op with
  | addRFQ | upsertQuote | gc => cases h
  | matchWithSignFunc cfg escrow sign order rfqID snap now =>
    simp only [Op.produced] at h
    split at h
    · rename_i o' b' hcached hmatch
      rcases matchWithSignFunc_eq_ok.mp hmatch with ⟨hsome, _⟩ | ⟨_, rfq, quotes, u, hsnap, hu, _, _⟩
      · rw [hcached] at hsome
        cases hsome
      · exact ⟨rfqID, now, rfq, rfl, (snapshotForMatch_eq_ok.mp hsnap).1, (matchSnapshot_eq_ok.mp hu).1⟩
    · cases h

/-- What a call accepts or produces is on an RFQ of the book. -/
theorem reads_rfq (hkeys : ∀ id, (b.quotes id).isSome = (b.rfqs id).isSome)
    (h : (op.accepted L b).isSome ∨ (op.produced L b).isSome) :
    ∃ id now rfq, op.reads = some (id, now) ∧ b.rfqs id = some rfq := by
  rcases h with h | h
  · cases op with
    | addRFQ | matchWithSignFunc | gc => cases h
    | upsertQuote s now =>
      cases hexec : (Op.upsertQuote s now).exec L b with
      | error e =>
        rw [Op.accepted, hexec] at h
        cases h
      | ok b' =>
        cases effect_of_ok hexec with
        | quoted byMaker hquotes hnonce =>
          have hkey := hkeys s.rfqID
          rw [hquotes] at hkey
          obtain ⟨rfq, hrfq⟩ := Option.isSome_iff_exists.mp hkey.symm
          exact ⟨s.rfqID, now, rfq, rfl, hrfq⟩
  · obtain ⟨o, ho⟩ := Option.isSome_iff_exists.mp h
    obtain ⟨id, now, rfq, hreads, hrfq, _⟩ := produced_window ho
    exact ⟨id, now, rfq, hreads, hrfq⟩

theorem inTime_of_swept (hswept : SweptInTime L epoch ops) {rest : List Op}
    (hops : ops = before ++ op :: rest) : InTime L (bookAfter L epoch before) op := by
  intro h
  obtain ⟨id, now, rfq, hreads, hrfq⟩ := reads_rfq (kept_bookAfter L epoch before).keys h
  refine ⟨id, now, rfq, hreads, hrfq, ?_⟩
  obtain ⟨early, add, since, first, rfl, hbrings, hlife, o, rfl⟩ := brought before hrfq
  rw [Bool.eq_false_iff]
  intro hpast
  apply hlife.not_swept hbrings
  exact hswept early add since op rest id now first (by rw [hops]; simp) hreads hbrings hpast

/-- No quote is accepted in time for an RFQ that is not in the book. -/
theorem InTime.not_accepted {s : Submission} {now : Time} (h : InTime L b (.upsertQuote s now))
    (hnone : b.rfqs s.rfqID = none) : Op.accepted L (.upsertQuote s now) b = none := by
  by_contra haccepted
  obtain ⟨id, _, rfq, hreads, hrfq, _⟩ := h (.inl (Option.isSome_iff_ne_none.mpr haccepted))
  cases hreads
  rw [hnone] at hrfq
  cases hrfq

end Runs

/-- The lifetime of an RFQ. No run computes an outcome for it before the end of its
window. In a run that sweeps in time no quote is accepted for it and no outcome is
computed for it after its expiry. And until a sweep past its expiry it stays in the
book, where a quote of a higher nonce is accepted however late it comes. -/
theorem rfq_lifetime (L : Libraries) (epoch : UInt64) :
    (∀ ops (op : Op) o, op.produced L (bookAfter L epoch ops) = some o →
      ∃ id now rfq, op.reads = some (id, now) ∧ (bookAfter L epoch ops).rfqs id = some rfq ∧
        Time.before now rfq.windowEndsAt = false) ∧
    (∀ ops, SweptInTime L epoch ops → ∀ before op rest, ops = before ++ op :: rest →
      InTime L (bookAfter L epoch before) op) ∧
    (∀ before add since id rfq, Brings L epoch before add id rfq → ¬ Swept rfq since →
      let b := bookAfter L epoch (before ++ add :: since)
      (∃ o, b.rfqs id = some { rfq with outcome := o }) ∧
      ∀ s now, s.rfqID = id → (∀ q, b.quoteOf id s.maker = some q → q.nonce < s.nonce) →
        (Op.accepted L (.upsertQuote s now) b).isSome) := by
  refine ⟨fun ops op o h => produced_window h, ?_, ?_⟩
  · intro ops hswept before op rest hops
    exact inTime_of_swept hswept hops
  · intro before add since id rfq hbrings hnone b
    obtain ⟨o, ho⟩ := (hbrings.stays hnone).rfq_eq hbrings
    refine ⟨⟨o, ho⟩, ?_⟩
    rintro s now rfl hnonce
    have hkey := (kept_bookAfter L epoch (before ++ add :: since)).keys s.rfqID
    rw [ho, Option.isSome_some, Option.isSome_iff_exists] at hkey
    obtain ⟨byMaker, hquotes⟩ := hkey
    have hexec := exec_upsertQuote (L := L) now hquotes (by
      intro q hq
      apply hnonce q
      rw [SealedBook.quoteOf, hquotes]
      exact hq)
    simp only [Op.accepted, b, hexec, Option.isSome_some]

namespace SampleBook

def matchAt (n : Nat) : Op :=
  .matchWithSignFunc defaultConfig 0xE5
    (fun mi => signWithFunc libraries mi 114 fun _ => some (4 :: List.replicate 64 0)) .asStored
    requestID snapshot (clock n)

/-- A quote within the lifetime of the RFQ, then the sweep, then a quote and a match that
come too late. -/
def swept : List Op :=
  [opening, .upsertQuote (bid 3 1) (clock 1005), .gc (clock 1601),
    .upsertQuote (bid 3 2) (clock 1700), matchAt 1720]

theorem brings_request : Brings libraries 0 [] opening requestID request :=
  ⟨rfl, by decide +kernel⟩

theorem request_of_brings {rfq : RFQ} (h : Brings libraries 0 [] opening requestID rfq) :
    rfq = request :=
  Option.some.inj (h.added.symm.trans brings_request.added)

theorem reads_requestID {op : Op} {id : Bytes32} {now : Time} (hop : op ∈ swept)
    (hreads : op.reads = some (id, now)) : id = requestID := by
  simp only [swept, opening, matchAt, List.mem_cons, List.not_mem_nil, or_false] at hop
  rcases hop with rfl | rfl | rfl | rfl | rfl <;> cases hreads <;> rfl

theorem swept_sweptInTime : SweptInTime libraries 0 swept := by
  intro before add since op rest id now rfq hops hreads hbrings hpast
  obtain rfl : id = requestID := by
    apply reads_requestID _ hreads
    rw [hops]
    simp
  rcases before with _ | ⟨_, _ | ⟨_, _ | ⟨_, _ | ⟨_, before⟩⟩⟩⟩
  · -- brought in by the opening: the first quote comes in time, the others after the sweep
    rcases since with _ | ⟨_, _ | ⟨_, since⟩⟩
    · cases hops
      cases hreads
      rw [request_of_brings hbrings] at hpast
      exact absurd hpast (by decide)
    · cases hops
      cases hreads
    · simp only [swept, List.nil_append, List.cons_append, List.cons.injEq] at hops
      obtain ⟨rfl, rfl, rfl, _⟩ := hops
      obtain rfl := request_of_brings hbrings
      exact ⟨clock 1601, by simp, by decide⟩
  · simp only [swept, List.cons_append, List.cons.injEq] at hops
    obtain ⟨rfl, _⟩ := hops
    exact absurd hbrings.fresh (by decide +kernel)
  · simp only [swept, List.cons_append, List.cons.injEq] at hops
    obtain ⟨rfl, rfl, _⟩ := hops
    exact absurd hbrings.fresh (by decide +kernel)
  · -- the late quote finds no RFQ and brings none
    simp only [swept, List.nil_append, List.cons_append, List.cons.injEq] at hops
    obtain ⟨rfl, rfl, rfl, rfl, _⟩ := hops
    have hnone : (bookAfter libraries 0 [opening, .upsertQuote (bid 3 1) (clock 1005),
        .gc (clock 1601), .upsertQuote (bid 3 2) (clock 1700)]).rfqs requestID = none := by
      decide +kernel
    have hadded := hbrings.added
    rw [List.cons_append, List.cons_append, List.cons_append, List.nil_append, hnone] at hadded
    cases hadded
  · have hlength := congrArg List.length hops
    simp only [swept, List.length_append, List.length_cons, List.length_nil] at hlength
    omega

end SampleBook

open SampleBook in
theorem rfq_lifetime_sample :
    InTime libraries (bookAfter libraries 0 [opening]) (.upsertQuote (bid 3 1) (clock 1005)) ∧
      Op.accepted libraries (.upsertQuote (bid 3 2) (clock 1700))
        (bookAfter libraries 0 (swept.take 3)) = none ∧
      InTime libraries (bookAfter libraries 0 (swept.take 4)) (matchAt 1720) ∧
      (Op.accepted libraries (.upsertQuote (bid 3 1) (clock 9000))
        (bookAfter libraries 0 [opening])).isSome ∧
      (clock 1020).before request.windowEndsAt = false := by
  obtain ⟨hwindow, htimely, hlate⟩ := rfq_lifetime libraries 0
  have hswept := htimely swept swept_sweptInTime
  refine ⟨hswept [opening] _ _ rfl, ?_, hswept (swept.take 4) _ [] rfl, ?_, ?_⟩
  · exact InTime.not_accepted (hswept (swept.take 3) _ [matchAt 1720] rfl) (by decide +kernel)
  · have hnone : ¬ Swept request [] := fun ⟨now, hmem, _⟩ => by cases hmem
    apply (hlate [] opening [] requestID request brings_request hnone).2 (bid 3 1) _ rfl
    intro q hq
    revert q
    decide +kernel
  · obtain ⟨o, ho⟩ : ∃ o, (matchAt 1020).produced libraries (bookAfter libraries 0 (swept.take 2)) =
        some o := Option.isSome_iff_exists.mp (by decide +kernel)
    obtain ⟨id, now, rfq, hreads, hrfq, hwindow⟩ := hwindow (swept.take 2) (matchAt 1020) o ho
    cases hreads
    have hbook : (bookAfter libraries 0 (swept.take 2)).rfqs requestID = some request := by
      decide +kernel
    rw [Option.some.inj (hrfq.symm.trans hbook)] at hwindow
    exact hwindow

open SampleBook in
/-- The RFQ of the sample expires at 1600; nothing sweeps it out. -/
theorem expired_rfq_matched :
    ((bookAfter libraries 0 [opening]).rfqs requestID).map RFQ.expiresAt = some (clock 1600) ∧
      (Op.accepted libraries (.upsertQuote (bid 3 1) (clock 1601))
        (bookAfter libraries 0 [opening])).isSome ∧
      (((matchAt 1620).produced libraries
        (bookAfter libraries 0 [opening, .upsertQuote (bid 3 1) (clock 1601)])).map
          MatchOutcome.outcome) = some .matched := by
  decide +kernel

end WhisperDesk.Matcher
