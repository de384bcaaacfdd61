import WhisperDesk.Enclave.Instruction

/-!
# book.go

The sealed book: RFQs, the latest quote of each maker on each of them, the
intake counter, and the outcome that is cached on a matched RFQ. Every function
here is one critical section. Go walks a map in an order of its own choosing;
the order is a parameter wherever one is walked.
-/
namespace WhisperDesk.Matcher

open Go
open Function (update)
open Reverting (revertIf orRevert bind_eq_ok revertIf_eq_ok orRevert_eq_ok pure_eq_ok)

structure Config where
  minBlockFxrpRaw : UInt64
  bandBips : UInt64
  quoteTTLSec : Int64
  deriving DecidableEq

/-- `DefaultConfig`: the canonical deploy's policy. -/
def defaultConfig : Config where
  minBlockFxrpRaw := 5000000000
  bandBips := 100
  quoteTTLSec := 60

inductive Verdict where
  | matched | noMatch
  deriving DecidableEq, Repr

/-- The keys of the reasons map. -/
inductive Reason where
  | selfMatch | stale | undersized | outOfBand | belowLimit | insufficientBond
  | insufficientTakerFunds
  deriving DecidableEq, Repr

instance : Fintype Reason where
  elems := {.selfMatch, .stale, .undersized, .outOfBand, .belowLimit, .insufficientBond,
    .insufficientTakerFunds}
  complete := by intro r; cases r <;> decide

structure MatchWire where
  matchID : Bytes
  escrow : Bytes
  taker : Bytes
  maker : Bytes
  amountFxrp : Bytes
  priceUsd18 : Bytes
  takerXrplAddress : GoString
  instructionExpiresAt : UInt64
  deriving DecidableEq

/-- `reasons` is the nil map or the counts, zero standing for an absent key. -/
structure MatchOutcome where
  outcome : Verdict
  reasons : Option (Reason → Nat)
  wire : Option MatchWire
  abiEncoded : Bytes
  teeSignature : Bytes
  signed : Option SignedMatch
  deriving DecidableEq

/-- `outcome` is set exactly on a matched RFQ. -/
structure RFQ where
  id : Bytes32
  taker : Address
  fxrpAmountRaw : UInt64
  limitPriceE18 : Int
  xrplAddress : GoString
  receivedAt : Time
  windowEndsAt : Time
  expiresAt : Time
  outcome : Option MatchOutcome
  deriving DecidableEq

structure Quote where
  rfqID : Bytes32
  maker : Address
  priceE18 : Int
  maxFxrpRaw : UInt64
  nonce : UInt64
  receivedAt : Time
  seq : UInt64
  deriving DecidableEq

/-- The quotes on one RFQ, at most one of each maker. -/
structure ByMaker where
  quotes : List Quote
  nodup : (quotes.map Quote.maker).Nodup

namespace ByMaker

def empty : ByMaker := ⟨[], List.nodup_nil⟩

def lookup (m : ByMaker) (maker : Address) : Option Quote :=
  m.quotes.find? (fun q => q.maker = maker)

def insert (m : ByMaker) (q : Quote) : ByMaker where
  quotes := q :: m.quotes.filter (fun r => r.maker ≠ q.maker)
  nodup := by
    rw [List.map_cons, List.nodup_cons]
    constructor
    · simp
    · exact m.nodup.sublist (List.filter_sublist.map _)

theorem mem_insert {m : ByMaker} {q r : Quote} (h : r ∈ (m.insert q).quotes) :
    r = q ∨ r ∈ m.quotes := by
  rcases List.mem_cons.mp h with h | h
  · exact .inl h
  · exact .inr (List.mem_filter.mp h).1

theorem lookup_insert (m : ByMaker) (q : Quote) (A : Address) :
    (m.insert q).lookup A = if q.maker = A then some q else m.lookup A := by
  unfold lookup insert
  rw [List.find?_cons]
  by_cases hq : q.maker = A
  · simp [hq]
  · have hfilter : (m.quotes.filter fun r => r.maker ≠ q.maker).find? (fun r => r.maker = A) =
        m.quotes.find? (fun r => r.maker = A) := by
      rw [List.find?_filter]
      congr 1
      funext r
      by_cases hr : r.maker = A
      · simp [hr, Ne.symm hq]
      · simp [hr]
    simp only [hq, decide_false, if_false, hfilter]

end ByMaker

/-- One order in which a map of quotes is walked. -/
structure MapOrder where
  walk : List Quote → List Quote
  perm : ∀ l, (walk l).Perm l

def MapOrder.asStored : MapOrder := ⟨id, fun _ => .refl _⟩

structure SealedBook where
  rfqs : Bytes32 → Option RFQ
  quotes : Bytes32 → Option ByMaker
  epoch : UInt64
  nextSeq : UInt64

namespace SealedBook

/-- `NewSealedBook`. -/
def new (epoch : UInt64) : SealedBook := ⟨fun _ => none, fun _ => none, epoch, 0⟩

def positive (limitPriceE18 : Option Int) : Except Error Int :=
  match limitPriceE18 with
  | some limit => if 0 < limit then .ok limit else .error .limitNotPositive
  | none => .error .limitNotPositive

/-- RFQ_SUBMIT intake. -/
def addRFQ (b : SealedBook) (cfg : Config) (id : Bytes32) (taker : Address) (fxrpAmountRaw : UInt64)
    (limitPriceE18 : Option Int) (xrplAddress : GoString) (now : Time) (windowSec ttlSec : Int64) :
    Except Error (RFQ × SealedBook) := do
  revertIf (fxrpAmountRaw < cfg.minBlockFxrpRaw) .belowMinBlock
  revertIf (xrplAddress.bytes = []) .emptyXrplAddr
  let limit ← positive limitPriceE18
  revertIf ((b.rfqs id).isSome = true) .rfqExists
  let rfq : RFQ :=
    { id, taker, fxrpAmountRaw, limitPriceE18 := limit, xrplAddress, receivedAt := now,
      windowEndsAt := now.add (seconds windowSec), expiresAt := now.add (seconds ttlSec),
      outcome := none }
  pure (rfq, { b with
    rfqs := update b.rfqs id (some rfq), quotes := update b.quotes id (some ByMaker.empty) })

/-- QUOTE_SUBMIT intake: only a higher nonce replaces the maker's quote. The flag
says whether one was replaced. -/
def upsertQuote (b : SealedBook) (rfqID : Bytes32) (maker : Address) (priceE18 : Int)
    (maxFxrpRaw nonce : UInt64) (now : Time) : Except Error (Bool × SealedBook) := do
  let byMaker ← orRevert (b.quotes rfqID) .rfqUnknown
  let existing := byMaker.lookup maker
  revertIf (existing.any (fun q => nonce ≤ q.nonce) = true) .staleNonce
  let seq := b.nextSeq + 1
  let q : Quote := { rfqID, maker, priceE18, maxFxrpRaw, nonce, receivedAt := now, seq }
  pure (existing.isSome,
    { b with quotes := update b.quotes rfqID (some (byMaker.insert q)), nextSeq := seq })

/-- The quotes resting on an RFQ; a nil map has none. -/
def resting (b : SealedBook) (rfqID : Bytes32) : List Quote :=
  ((b.quotes rfqID).map ByMaker.quotes).getD []

def snapshotForMatch (b : SealedBook) (order : MapOrder) (rfqID : Bytes32) :
    Except Error (RFQ × List Quote) := do
  let rfq ← orRevert (b.rfqs rfqID) .rfqUnknown
  pure (rfq, order.walk (b.resting rfqID))

def markMatched (b : SealedBook) (rfqID : Bytes32) (outcome : MatchOutcome) : SealedBook :=
  match b.rfqs rfqID with
  | some rfq => { b with rfqs := update b.rfqs rfqID (some { rfq with outcome := some outcome }) }
  | none => b

/-- The taker and every maker with a resting quote. -/
def participants (b : SealedBook) (order : MapOrder) (rfqID : Bytes32) :
    Except Error (Address × List Address) := do
  let rfq ← orRevert (b.rfqs rfqID) .rfqUnknown
  pure (rfq.taker, (order.walk (b.resting rfqID)).map Quote.maker)

def cachedOutcome (b : SealedBook) (rfqID : Bytes32) : Option MatchOutcome :=
  (b.rfqs rfqID).bind RFQ.outcome

/-- `GC`: drop the RFQs past their expiry, and the quotes on them. -/
def gc (b : SealedBook) (now : Time) : SealedBook :=
  { b with
    rfqs := fun id => (b.rfqs id).filter fun rfq => ¬ rfq.expiresAt.before now
    quotes := fun id =>
      if (b.rfqs id).any (fun rfq => rfq.expiresAt.before now) then none else b.quotes id }

end SealedBook

section Specs

open SealedBook

variable {b b' : SealedBook} {cfg : Config} {id rfqID : Bytes32} {taker maker : Address}

theorem positive_eq_ok {limitPriceE18 : Option Int} {limit : Int} :
    positive limitPriceE18 = .ok limit ↔ limitPriceE18 = some limit ∧ 0 < limit := by
  cases limitPriceE18 with
  | none => simp [positive]
  | some n =>
    by_cases h : 0 < n
    · simp only [positive, if_pos h, Except.ok.injEq, Option.some.injEq]
      constructor
      · rintro rfl
        exact ⟨rfl, h⟩
      · exact And.left
    · simp only [positive, if_neg h, Option.some.injEq, reduceCtorEq, false_iff, not_and]
      rintro rfl
      exact h

/-- What intake guarantees of an RFQ. -/
structure Admitted (cfg : Config) (rfq : RFQ) : Prop where
  size : cfg.minBlockFxrpRaw ≤ rfq.fxrpAmountRaw
  address : rfq.xrplAddress.bytes ≠ []
  limit_pos : 0 < rfq.limitPriceE18
  unmatched : rfq.outcome = none

theorem addRFQ_eq_ok {amount : UInt64} {limitPriceE18 : Option Int} {xrplAddress : GoString}
    {now : Time} {windowSec ttlSec : Int64} {rfq : RFQ} :
    b.addRFQ cfg id taker amount limitPriceE18 xrplAddress now windowSec ttlSec = .ok (rfq, b') ↔
      Admitted cfg rfq ∧ limitPriceE18 = some rfq.limitPriceE18 ∧ b.rfqs id = none ∧
      rfq = { id, taker, fxrpAmountRaw := amount, limitPriceE18 := rfq.limitPriceE18, xrplAddress,
              receivedAt := now, windowEndsAt := now.add (seconds windowSec),
              expiresAt := now.add (seconds ttlSec), outcome := none } ∧
      b' = { b with
        rfqs := update b.rfqs id (some rfq), quotes := update b.quotes id (some ByMaker.empty) } := by
  simp only [addRFQ, bind_eq_ok, revertIf_eq_ok, positive_eq_ok, pure_eq_ok, Prod.mk.injEq,
    UInt64.not_lt, Bool.not_eq_true, Option.isSome_eq_false_iff, Option.isNone_iff_eq_none]
  constructor
  · rintro ⟨_, hsize, _, haddr, limit, ⟨rfl, hpos⟩, _, hnew, rfl, rfl⟩
    exact ⟨⟨hsize, haddr, hpos, rfl⟩, rfl, hnew, rfl, rfl⟩
  · rintro ⟨hadmitted, hlimit, hnew, hrfq, rfl⟩
    rw [hrfq] at hadmitted
    exact ⟨(), hadmitted.size, (), hadmitted.address, _, ⟨hlimit, hadmitted.limit_pos⟩, (), hnew,
      hrfq.symm, by rw [← hrfq]⟩

theorem upsertQuote_eq_ok {priceE18 : Int} {maxFxrpRaw nonce : UInt64} {now : Time}
    {replaced : Bool} :
    b.upsertQuote rfqID maker priceE18 maxFxrpRaw nonce now = .ok (replaced, b') ↔
      ∃ byMaker, b.quotes rfqID = some byMaker ∧
        (∀ q, byMaker.lookup maker = some q → q.nonce < nonce) ∧
        replaced = (byMaker.lookup maker).isSome ∧
        b' = { b with
          quotes := update b.quotes rfqID (some (byMaker.insert
            ⟨rfqID, maker, priceE18, maxFxrpRaw, nonce, now, b.nextSeq + 1⟩))
          nextSeq := b.nextSeq + 1 } := by
  simp only [upsertQuote, bind_eq_ok, orRevert_eq_ok, revertIf_eq_ok, pure_eq_ok, Prod.mk.injEq,
    Bool.not_eq_true, Option.any_eq_false, decide_eq_false_iff_not, UInt64.not_le]
  constructor
  · rintro ⟨byMaker, hm, _, hnonce, rfl, rfl⟩
    exact ⟨byMaker, hm, hnonce, rfl, rfl⟩
  · rintro ⟨byMaker, hm, hnonce, rfl, rfl⟩
    exact ⟨byMaker, hm, (), hnonce, rfl, rfl⟩

theorem snapshotForMatch_eq_ok {order : MapOrder} {rfq : RFQ} {quotes : List Quote} :
    b.snapshotForMatch order rfqID = .ok (rfq, quotes) ↔
      b.rfqs rfqID = some rfq ∧ order.walk (b.resting rfqID) = quotes := by
  simp only [snapshotForMatch, bind_eq_ok, orRevert_eq_ok, pure_eq_ok, Prod.mk.injEq]
  constructor
  · rintro ⟨_, hrfq, rfl, hquotes⟩
    exact ⟨hrfq, hquotes⟩
  · rintro ⟨hrfq, hquotes⟩
    exact ⟨rfq, hrfq, rfl, hquotes⟩

theorem participants_eq_ok {order : MapOrder} {makers : List Address} :
    b.participants order rfqID = .ok (taker, makers) ↔ ∃ rfq, b.rfqs rfqID = some rfq ∧
      rfq.taker = taker ∧ (order.walk (b.resting rfqID)).map Quote.maker = makers := by
  simp only [participants, bind_eq_ok, orRevert_eq_ok, pure_eq_ok, Prod.mk.injEq]

theorem resting_eq {q : Quote} (h : q ∈ b.resting rfqID) :
    ∃ byMaker, b.quotes rfqID = some byMaker ∧ q ∈ byMaker.quotes := by
  unfold resting at h
  cases hm : b.quotes rfqID with
  | none => simp [hm] at h
  | some byMaker => simpa [hm] using h

@[simp] theorem markMatched_quotes (o : MatchOutcome) : (b.markMatched id o).quotes = b.quotes := by
  unfold markMatched
  cases b.rfqs id <;> rfl

theorem markMatched_rfqs (o : MatchOutcome) (rfqID : Bytes32) :
    (b.markMatched id o).rfqs rfqID =
      if rfqID = id then (b.rfqs id).map fun r => { r with outcome := some o } else b.rfqs rfqID := by
  unfold markMatched
  by_cases h : rfqID = id
  · subst rfqID
    cases hr : b.rfqs id <;> simp [hr]
  · cases b.rfqs id <;> simp [h]

theorem cachedOutcome_markMatched {o o' : MatchOutcome}
    (h : (b.markMatched id o).cachedOutcome rfqID = some o') :
    (rfqID = id ∧ o' = o) ∨ b.cachedOutcome rfqID = some o' := by
  rw [cachedOutcome, markMatched_rfqs] at h
  by_cases hid : rfqID = id
  · rw [if_pos hid] at h
    cases hr : b.rfqs id with
    | none => simp [hr] at h
    | some r =>
      simp only [hr, Option.map_some, Option.bind_some, Option.some.injEq] at h
      exact .inl ⟨hid, h.symm⟩
  · rw [if_neg hid] at h
    exact .inr h

/-- Intake caches nothing: a new RFQ is unmatched. -/
theorem cachedOutcome_addRFQ {amount : UInt64} {limitPriceE18 : Option Int} {xrplAddress : GoString}
    {now : Time} {windowSec ttlSec : Int64} {rfq : RFQ} {o : MatchOutcome}
    (h : b.addRFQ cfg id taker amount limitPriceE18 xrplAddress now windowSec ttlSec = .ok (rfq, b'))
    (ho : b'.cachedOutcome rfqID = some o) : b.cachedOutcome rfqID = some o := by
  obtain ⟨hadmitted, _, _, _, rfl⟩ := addRFQ_eq_ok.mp h
  by_cases hid : rfqID = id
  · subst rfqID
    simp [cachedOutcome, hadmitted.unmatched] at ho
  · simp only [cachedOutcome, Function.update_of_ne hid] at ho
    exact ho

theorem cachedOutcome_upsertQuote {id : Bytes32} {priceE18 : Int} {maxFxrpRaw nonce : UInt64}
    {now : Time} {replaced : Bool}
    (h : b.upsertQuote id maker priceE18 maxFxrpRaw nonce now = .ok (replaced, b')) :
    b'.cachedOutcome rfqID = b.cachedOutcome rfqID := by
  obtain ⟨byMaker, _, _, _, rfl⟩ := upsertQuote_eq_ok.mp h
  rfl

end Specs

end WhisperDesk.Matcher
