import WhisperDesk.General.Unwinding
import WhisperDesk.Enclave.Retry
import WhisperDesk.Enclave.ChainCache

/-!
# What a maker can see of its rivals

Two runs of the desk that differ in the quotes of other makers only. Hiding
those quotes is an unwinding: the acks of a maker come out the same, and so does
everything in the handler that is not about its rivals.
-/
namespace WhisperDesk.Matcher

open Function (update)
open Go
open Reverting

/-- An RFQ apart from its cached outcome. -/
def RFQ.terms (rfq : RFQ) : RFQ := { rfq with outcome := none }

/-- A maker's own quote, apart from its place in the queue. -/
def ByMaker.own (A : Address) (m : ByMaker) : Option Quote :=
  (m.lookup A).map fun q => { q with seq := 0 }

theorem ByMaker.own_insert (m : ByMaker) (q : Quote) (A : Address) :
    (m.insert q).own A = if q.maker = A then some { q with seq := 0 } else m.own A := by
  unfold own
  rw [lookup_insert]
  split_ifs with hq
  · rfl
  · rfl

section Alike

variable {A : Address} {b b' : SealedBook} {cfg : Config}

/-- Intake of an RFQ asks a book one thing: whether the id is taken. -/
theorem addRFQ_alike {id : Bytes32} (hsame : (b.rfqs id).isSome = (b'.rfqs id).isSome)
    (taker : Address) (amount : UInt64) (limit : Option Int) (address : GoString) (now : Time)
    (windowSec ttlSec : Int64) :
    Alike (fun v v' => v.1 = v'.1 ∧
        v.2.rfqs = update b.rfqs id (some v.1) ∧ v'.2.rfqs = update b'.rfqs id (some v.1) ∧
        v.2.quotes = update b.quotes id (some ByMaker.empty) ∧
        v'.2.quotes = update b'.quotes id (some ByMaker.empty))
      (b.addRFQ cfg id taker amount limit address now windowSec ttlSec)
      (b'.addRFQ cfg id taker amount limit address now windowSec ttlSec) := by
  unfold SealedBook.addRFQ
  rw [hsame]
  refine alike_bind fun _ _ => alike_bind fun _ _ => alike_bind fun _ _ => alike_bind fun _ _ => ?_
  exact .ok ⟨rfl, rfl, rfl, rfl, rfl⟩

/-- Intake of a quote asks it for that maker's earlier quote. -/
theorem upsertQuote_alike {rfqID : Bytes32}
    (hsame : (b.quotes rfqID).map (ByMaker.own A) = (b'.quotes rfqID).map (ByMaker.own A))
    (price : Int) (size nonce : UInt64) (now : Time) :
    Alike (fun v v' => v.1 = v'.1 ∧ v.2.rfqs = b.rfqs ∧ v'.2.rfqs = b'.rfqs ∧
        ∃ m m' q q', q.maker = A ∧ q'.maker = A ∧ { q with seq := 0 } = { q' with seq := 0 } ∧
          v.2.quotes = update b.quotes rfqID (some (ByMaker.insert m q)) ∧
          v'.2.quotes = update b'.quotes rfqID (some (ByMaker.insert m' q')))
      (b.upsertQuote rfqID A price size nonce now) (b'.upsertQuote rfqID A price size nonce now) := by
  unfold SealedBook.upsertQuote
  cases hm : b.quotes rfqID with
  | none =>
    rw [hm, Option.map_none, eq_comm, Option.map_eq_none_iff] at hsame
    rw [hsame]
    exact .error _
  | some m =>
    rw [hm, Option.map_some, eq_comm, Option.map_eq_some_iff] at hsame
    obtain ⟨m', hm', hown⟩ := hsame
    rw [hm']
    have hexisting : (m.lookup A).any (fun q => nonce ≤ q.nonce) =
        (m'.lookup A).any (fun q => nonce ≤ q.nonce) ∧
        (m.lookup A).isSome = (m'.lookup A).isSome := by
      unfold ByMaker.own at hown
      cases h : m.lookup A with
      | none =>
        rw [h, Option.map_none, Option.map_eq_none_iff] at hown
        rw [hown]
        exact ⟨rfl, rfl⟩
      | some q =>
        rw [h, Option.map_some, Option.map_eq_some_iff] at hown
        obtain ⟨q', hq', hterms⟩ := hown
        rw [hq']
        have hnonce : q'.nonce = q.nonce := by simpa using congrArg Quote.nonce hterms
        simp [hnonce]
    simp only [orRevert, bind, Except.bind, hexisting.1, hexisting.2]
    cases (revertIf ((m'.lookup A).any (fun q => nonce ≤ q.nonce) = true) Error.staleNonce) with
    | error e => exact .error e
    | ok u =>
      exact .ok ⟨rfl, rfl, rfl, m, m', ⟨rfqID, A, price, size, nonce, now, b.nextSeq + 1⟩,
        ⟨rfqID, A, price, size, nonce, now, b'.nextSeq + 1⟩, rfl, rfl, rfl, rfl, rfl⟩

end Alike

end WhisperDesk.Matcher

namespace WhisperDesk.Fcewire

open Function (update)
open Go
open Matcher
open Reverting
open Unwinding (Unwinds purge shown)

namespace ChainCache

variable {A : Address} {c : ChainCache}

/-- The cache as far as it concerns one maker: of bonds and makers, only its own. -/
def seenBy (A : Address) (c : ChainCache) : ChainCache :=
  { c with
    bondFree := update (fun _ => 0) A (c.bondFree A)
    trackedMakers := c.trackedMakers.filter (· = A) }

theorem seenBy_trackMaker_own : (c.trackMaker A).seenBy A = (c.seenBy A).trackMaker A := by
  unfold trackMaker seenBy
  by_cases hA : A ∈ c.trackedMakers
  · simp [hA]
  · have hnone : c.trackedMakers.filter (fun m => decide (m = A)) = [] := by
      rw [List.filter_eq_nil_iff]
      intro m hm
      rw [decide_eq_true_eq]
      rintro rfl
      exact hA hm
    simp [hA, hnone]

theorem seenBy_trackMaker_rival {m : Address} (hm : m ≠ A) :
    (c.trackMaker m).seenBy A = c.seenBy A := by
  unfold trackMaker seenBy
  by_cases hmem : m ∈ c.trackedMakers
  · simp [hmem]
  · simp [hmem, hm]

theorem seenBy_refreshMaker (p : Poll) (w : World) (m : Address) :
    (c.refreshMaker p w m).seenBy A =
      if m = A then (c.seenBy A).refreshMaker p w m else c.seenBy A := by
  unfold refreshMaker
  cases freeBond p w m with
  | none => simp
  | some amount =>
    by_cases hm : m = A
    · subst hm
      simp [seenBy]
    · simp [seenBy, hm, Function.update_of_ne (Ne.symm hm)]

theorem seenBy_refreshMakers (p : Poll) (w : World) (makers : List Address) :
    (makers.foldl (refreshMaker p w) c).seenBy A =
      (makers.filter (· = A)).foldl (refreshMaker p w) (c.seenBy A) := by
  induction makers generalizing c with
  | nil => rfl
  | cons m makers ih =>
    rw [List.foldl_cons, ih, seenBy_refreshMaker]
    by_cases hm : m = A
    · simp [hm]
    · simp [hm]

theorem seenBy_refreshTakers (p : Poll) (w : World) (takers : List Address) :
    (takers.foldl (refreshTaker p w) c).seenBy A = takers.foldl (refreshTaker p w) (c.seenBy A) := by
  induction takers generalizing c with
  | nil => rfl
  | cons t takers ih =>
    rw [List.foldl_cons, List.foldl_cons, ih]
    congr 1
    unfold refreshTaker
    cases takerBalance p w t with
    | none => rfl
    | some b => rfl

/-- A refresh reads for one maker what it would read without the others. -/
theorem seenBy_refresh (p : Poll) (w : World) : (c.refresh p w).seenBy A = (c.seenBy A).refresh p w := by
  have hmid : (c.refreshMid p).seenBy A = (c.seenBy A).refreshMid p := by
    unfold refreshMid
    cases p.getFeedByIdInWei with
    | none => rfl
    | some v => rfl
  unfold refresh
  rw [seenBy_refreshTakers, seenBy_refreshMakers, ← hmid]
  rfl

end ChainCache

section View

variable {σ : Type} (X : Externals) (S : Snapshotter σ) (cfg : Config) (A : Address)

/-- The maker that a QUOTE_SUBMIT message names, once opened. -/
def quoteMaker (message : Bytes) : Option Address := do
  let plaintext ← X.plaintextOf message
  let body ← depad plaintext cfg.padSize
  let q ← X.decodeQuotePlaintext body
  pure (hexToAddress q.maker)

/-- A quote that names somebody else. -/
def Event.rival (e : Event σ) : Bool :=
  match e.command X cfg with
  | some (.quoteSubmit _ di) => (quoteMaker X cfg di.message).any (· ≠ A)
  | _ => false

/-- The result of a quote that is not a rival's. -/
def Event.ack (e : Event σ) (h : Handler σ) : Option Result :=
  match e.command X cfg with
  | some (.quoteSubmit _ _) => if e.rival X cfg A then none else e.result X S cfg h
  | _ => none

def Turn.rival : Turn σ → Bool
  | .call e => e.rival X cfg A
  | .gc _ => false

def Turn.ack : Turn σ → Handler σ → Option Result
  | .call e, h => e.ack X S cfg A h
  | .gc _, _ => none

/-- The results of the maker's own quotes over a run. -/
def acks (epoch : UInt64) (c₀ : σ) (turns : List (Turn σ)) : List Result :=
  shown (Turn.exec X S cfg) (Turn.ack X S cfg A) ⟨SealedBook.new epoch, c₀⟩ turns

/-- The chain cache changes by itself in refreshes only. -/
def Turn.Polls (t : Turn ChainCache) : Prop :=
  ∀ f, t = .call (.background f) → ∃ p w, f = ChainCache.refresh p w

end View

/-- Two handlers that are one and the same to a maker. -/
structure SameFor (A : Address) (h h' : Handler ChainCache) : Prop where
  rfqs : ∀ id, (h.book.rfqs id).map RFQ.terms = (h'.book.rfqs id).map RFQ.terms
  quotes : ∀ id, (h.book.quotes id).map (ByMaker.own A) = (h'.book.quotes id).map (ByMaker.own A)
  chain : h.chain.seenBy A = h'.chain.seenBy A

namespace SameFor

variable {A : Address} {h h' u u' : Handler ChainCache}

theorem refl (A : Address) (h : Handler ChainCache) : SameFor A h h :=
  ⟨fun _ => rfl, fun _ => rfl, rfl⟩

theorem symm (hsame : SameFor A h h') : SameFor A h' h :=
  ⟨fun id => (hsame.rfqs id).symm, fun id => (hsame.quotes id).symm, hsame.chain.symm⟩

theorem trans {v : Handler ChainCache} (huv : SameFor A u v) {w : Handler ChainCache}
    (hvw : SameFor A v w) : SameFor A u w :=
  ⟨fun id => (huv.rfqs id).trans (hvw.rfqs id), fun id => (huv.quotes id).trans (hvw.quotes id),
    huv.chain.trans hvw.chain⟩

/-- One RFQ is added on both sides. -/
theorem addRFQ (hsame : SameFor A h h') {rfqID : Bytes32} {rfq : RFQ}
    (hrfqs : u.book.rfqs = update h.book.rfqs rfqID (some rfq))
    (hrfqs' : u'.book.rfqs = update h'.book.rfqs rfqID (some rfq))
    (hquotes : u.book.quotes = update h.book.quotes rfqID (some ByMaker.empty))
    (hquotes' : u'.book.quotes = update h'.book.quotes rfqID (some ByMaker.empty))
    (hchain : u.chain.seenBy A = u'.chain.seenBy A) : SameFor A u u' where
  rfqs id := by
    rw [hrfqs, hrfqs']
    by_cases hid : id = rfqID
    · subst hid
      simp only [Function.update_self]
    · simp only [Function.update_of_ne hid, hsame.rfqs id]
  quotes id := by
    rw [hquotes, hquotes']
    by_cases hid : id = rfqID
    · subst hid
      simp only [Function.update_self]
    · simp only [Function.update_of_ne hid, hsame.quotes id]
  chain := hchain

/-- A rival's quote goes in on one side. -/
theorem insert_rival (hsame : SameFor A h h') {q : Quote} {m : ByMaker} (hq : q.maker ≠ A)
    (hm : h.book.quotes q.rfqID = some m) (hrfqs : u.book.rfqs = h.book.rfqs)
    (hquotes : u.book.quotes = update h.book.quotes q.rfqID (some (m.insert q)))
    (hchain : u.chain = h.chain.trackMaker q.maker) : SameFor A u h' where
  rfqs id := by
    rw [hrfqs]
    exact hsame.rfqs id
  quotes id := by
    rw [hquotes]
    by_cases hid : id = q.rfqID
    · subst hid
      rw [Function.update_self, ← hsame.quotes q.rfqID, hm, Option.map_some, Option.map_some,
        ByMaker.own_insert, if_neg hq]
    · rw [Function.update_of_ne hid]
      exact hsame.quotes id
  chain := by rw [hchain, ChainCache.seenBy_trackMaker_rival hq, hsame.chain]

/-- The maker's own quote goes in on both. -/
theorem insert_own (hsame : SameFor A h h') {rfqID : Bytes32} {m m' : ByMaker} {q q' : Quote}
    (hq : q.maker = A) (hq' : q'.maker = A) (hterms : { q with seq := 0 } = { q' with seq := 0 })
    (hrfqs : u.book.rfqs = h.book.rfqs) (hrfqs' : u'.book.rfqs = h'.book.rfqs)
    (hquotes : u.book.quotes = update h.book.quotes rfqID (some (m.insert q)))
    (hquotes' : u'.book.quotes = update h'.book.quotes rfqID (some (m'.insert q')))
    (hchain : u.chain = h.chain.trackMaker A) (hchain' : u'.chain = h'.chain.trackMaker A) :
    SameFor A u u' where
  rfqs id := by
    rw [hrfqs, hrfqs']
    exact hsame.rfqs id
  quotes id := by
    rw [hquotes, hquotes']
    by_cases hid : id = rfqID
    · subst hid
      rw [Function.update_self, Function.update_self, Option.map_some, Option.map_some,
        ByMaker.own_insert, ByMaker.own_insert, if_pos hq, if_pos hq', hterms]
    · rw [Function.update_of_ne hid, Function.update_of_ne hid]
      exact hsame.quotes id
  chain := by
    rw [hchain, hchain', ChainCache.seenBy_trackMaker_own, ChainCache.seenBy_trackMaker_own,
      hsame.chain]

/-- A cached outcome is no part of what the maker sees of a book. -/
theorem markMatched {id : Bytes32} {o : MatchOutcome} (hu : u.book = h.book.markMatched id o)
    (hchain : u.chain = h.chain) : SameFor A u h where
  rfqs rfqID := by
    rw [hu, markMatched_rfqs]
    split_ifs with hid
    · subst hid
      cases h.book.rfqs rfqID with
      | none => rfl
      | some rfq => rfl
    · rfl
  quotes rfqID := by rw [hu, markMatched_quotes]
  chain := by rw [hchain]

/-- A sweep goes by an RFQ's expiry, which is one of its terms. -/
theorem gc (hsame : SameFor A h h') (now : Time) :
    SameFor A { h with book := h.book.gc now } { h' with book := h'.book.gc now } where
  rfqs id := by
    have hkeep : ∀ x : Option RFQ, (x.filter fun rfq => ¬ rfq.expiresAt.before now).map RFQ.terms =
        (x.map RFQ.terms).filter fun rfq => ¬ rfq.expiresAt.before now := by
      intro x
      rw [Option.filter_map]
      rfl
    change ((h.book.rfqs id).filter _).map RFQ.terms = ((h'.book.rfqs id).filter _).map RFQ.terms
    rw [hkeep, hkeep, hsame.rfqs id]
  quotes id := by
    have hdrop : ∀ x : Option RFQ, x.any (fun rfq => rfq.expiresAt.before now) =
        (x.map RFQ.terms).any fun rfq => rfq.expiresAt.before now := by
      intro x
      rw [Option.any_map]
      rfl
    change (if (h.book.rfqs id).any _ then none else h.book.quotes id).map (ByMaker.own A) =
      (if (h'.book.rfqs id).any _ then none else h'.book.quotes id).map (ByMaker.own A)
    rw [hdrop, hdrop (h'.book.rfqs id), hsame.rfqs id]
    split_ifs with hexpired
    · rfl
    · exact hsame.quotes id
  chain := hsame.chain

end SameFor

section Steps

variable {X : Externals} {k : Int64} {cfg : Config} {A : Address} {h h' : Handler ChainCache}

/-- What two handlers that show a maker the same do with one call. -/
def AlikeFor (A : Address) (x y : Except Code (Payload × Handler ChainCache)) : Prop :=
  Alike (fun v w => v.1 = w.1 ∧ SameFor A v.2 w.2) x y

theorem handleRfqSubmit_alike (hsame : SameFor A h h') (a : Ambient) (df : DataFixed) :
    AlikeFor A (handleRfqSubmit X (chainCache k) cfg a df h)
      (handleRfqSubmit X (chainCache k) cfg a df h') := by
  have hnew : (h.book.rfqs df.instructionID).isSome = (h'.book.rfqs df.instructionID).isSome := by
    simpa using congrArg Option.isSome (hsame.rfqs df.instructionID)
  unfold handleRfqSubmit
  -- every check before the book is one and the same computation on both sides
  iterate 11 refine alike_bind fun _ _ => ?_
  refine ((addRFQ_alike hnew _ _ _ _ _ _ _).mapError _).bind ?_
  intro v v' hv
  obtain ⟨hrfq, hrfqs, hrfqs', hquotes, hquotes'⟩ := hv
  refine .ok ⟨?_, hsame.addRFQ hrfqs hrfqs' hquotes hquotes' ?_⟩
  · rw [hrfq]
  · exact congrArg (ChainCache.trackTaker _) hsame.chain

theorem quoteMaker_eq_some {a : Ambient} {message plaintext body : Bytes} {q : QuotePlaintext}
    (hplain : decrypt X a message = some plaintext) (hbody : depad plaintext cfg.padSize = some body)
    (hq : X.decodeQuotePlaintext body = some q) :
    quoteMaker X cfg message = some (hexToAddress q.maker) := by
  simp only [quoteMaker, decrypt_eq_some hplain, hbody, hq, Option.bind_eq_bind, Option.bind_some]
  rfl

/-- The maker's own quote fares alike on both sides. -/
theorem handleQuoteSubmit_alike (hsame : SameFor A h h') (a : Ambient) (di : DirectInstruction)
    (hown : (quoteMaker X cfg di.message).any (· ≠ A) = false) :
    AlikeFor A (handleQuoteSubmit X (chainCache k) cfg a di h)
      (handleQuoteSubmit X (chainCache k) cfg a di h') := by
  unfold handleQuoteSubmit
  refine alike_bind fun plaintext hplain => alike_bind fun body hbody => alike_bind fun q hq => ?_
  rw [orRevert_eq_ok] at hplain hbody hq
  rw [quoteMaker_eq_some hplain hbody hq, Option.any_some, decide_eq_false_iff_not, not_not] at hown
  rw [hown]
  iterate 9 refine alike_bind fun _ _ => ?_
  refine ((upsertQuote_alike (hsame.quotes _) _ _ _ _).mapError _).bind ?_
  intro v v' hv
  obtain ⟨hreplaced, hrfqs, hrfqs', m, m', q, q', hq, hq', hterms, hquotes, hquotes'⟩ := hv
  refine .ok ⟨?_, hsame.insert_own hq hq' hterms hrfqs hrfqs' hquotes hquotes' rfl rfl⟩
  rw [hreplaced]

theorem handleQuoteSubmit_insert {a : Ambient} {di : DirectInstruction} {u : Handler ChainCache}
    {p : Payload} (hok : handleQuoteSubmit X (chainCache k) cfg a di h = .ok (p, u)) :
    ∃ q m, quoteMaker X cfg di.message = some q.maker ∧ h.book.quotes q.rfqID = some m ∧
      u.book.rfqs = h.book.rfqs ∧
      u.book.quotes = update h.book.quotes q.rfqID (some (m.insert q)) ∧
      u.chain = h.chain.trackMaker q.maker := by
  simp only [handleQuoteSubmit, bind_eq_ok, orRevert_eq_ok, mapError_eq_ok, pure_eq_ok,
    Prod.mk.injEq] at hok
  obtain ⟨plaintext, hplain, body, hbody, msg, hmsg, _, _, _, _, price, _, maxSize, _, nonce, _, _, _,
    sig, _, _, _, _, _, ⟨replaced, book⟩, hadd, _, rfl⟩ := hok
  obtain ⟨m, hm, _, _, rfl⟩ := upsertQuote_eq_ok.mp hadd
  exact ⟨⟨_, _, price, maxSize, nonce, a.now, h.book.nextSeq + 1⟩, m,
    quoteMaker_eq_some hplain hbody hmsg, hm, rfl, rfl, rfl⟩

theorem AlikeFor.settle {x y : Except Code (Payload × Handler ChainCache)} (hxy : AlikeFor A x y)
    (hsame : SameFor A h h') :
    SameFor A (Reverting.settle h (x.map Prod.snd)) (Reverting.settle h' (y.map Prod.snd)) := by
  cases hxy with
  | error code => exact hsame
  | ok hv => exact hv.2

theorem AlikeFor.reply {x y : Except Code (Payload × Handler ChainCache)} (hxy : AlikeFor A x y)
    (opType opCommand : Bytes32) :
    (Fcewire.reply opType opCommand h x).1 = (Fcewire.reply opType opCommand h' y).1 := by
  cases hxy with
  | error code => rfl
  | ok hv => simp only [Fcewire.reply, hv.1]

/-- A match shows in the cached outcome only. -/
theorem handleMatchMessage_sameFor (a : Ambient) (data : Bytes) :
    SameFor A (settle h ((handleMatchMessage X (chainCache k) cfg a data h).map Prod.snd)) h := by
  cases hok : handleMatchMessage X (chainCache k) cfg a data h with
  | error code => exact SameFor.refl A h
  | ok v =>
    obtain ⟨p, u⟩ := v
    obtain ⟨id, snap, o, _, _, hmatch, _, hchain⟩ := handleMatchMessage_eq_ok.mp hok
    rcases matchWithSignFunc_eq_ok.mp hmatch with ⟨_, hbook⟩ | ⟨_, _, _, _, _, _, _, hmark⟩
    · exact ⟨fun _ => by rw [← hbook]; rfl, fun _ => by rw [← hbook]; rfl, by rw [← hchain]; rfl⟩
    · exact SameFor.markMatched hmark hchain

theorem rival_eq_true {e : Event ChainCache} : e.rival X cfg A = true ↔
    ∃ a di maker, e.command X cfg = some (.quoteSubmit a di) ∧
      quoteMaker X cfg di.message = some maker ∧ maker ≠ A := by
  unfold Event.rival
  cases hc : e.command X cfg with
  | none => simp
  | some c =>
    cases c with
    | rfqSubmit a df => simp
    | rfqMatch a data => simp
    | quoteSubmit a di => simp [Option.any_eq_true]

end Steps

section Unwinding

variable (X : Externals) (k : Int64) (cfg : Config) (A : Address)

section Turns

variable {X k cfg A} {h h' : Handler ChainCache} {e : Event ChainCache}

/-- A rival's quote leaves what the maker sees. -/
theorem exec_rival (hrival : e.rival X cfg A = true) (hsame : SameFor A h h') :
    SameFor A (e.exec X (chainCache k) cfg h) h' := by
  obtain ⟨a, di, maker, hc, hmaker, hne⟩ := rival_eq_true.mp hrival
  rw [(exec_command hc).1]
  simp only [Command.handle]
  cases hok : handleQuoteSubmit X (chainCache k) cfg a di h with
  | error code => exact hsame
  | ok v =>
    obtain ⟨q, m, hq, hm, hrfqs, hquotes, hchain⟩ := handleQuoteSubmit_insert hok
    obtain rfl : maker = q.maker := Option.some.inj (hmaker.symm.trans hq)
    exact hsame.insert_rival hne hm hrfqs hquotes hchain

/-- Everything else does the same on both sides. -/
theorem exec_sameFor (hpolls : (Turn.call e).Polls) (hnot : e.rival X cfg A = false)
    (hsame : SameFor A h h') :
    SameFor A (e.exec X (chainCache k) cfg h) (e.exec X (chainCache k) cfg h') := by
  cases hc : e.command X cfg with
  | none =>
    by_cases hcall : ∀ f, e ≠ .background f
    · rw [(exec_dispatched hcall).1, (exec_dispatched hcall).1, hc]
      exact hsame
    · obtain ⟨f, hf⟩ := not_forall.mp hcall
      obtain rfl := not_not.mp hf
      obtain ⟨p, w, rfl⟩ := hpolls f rfl
      refine ⟨hsame.rfqs, hsame.quotes, ?_⟩
      simp only [Event.exec, ChainCache.seenBy_refresh, hsame.chain]
  | some c =>
    rw [(exec_command hc).1, (exec_command hc).1]
    cases c with
    | rfqSubmit a df => exact (handleRfqSubmit_alike hsame a df).settle hsame
    | quoteSubmit a di =>
      simp only [Event.rival, hc] at hnot
      exact (handleQuoteSubmit_alike hsame a di hnot).settle hsame
    | rfqMatch a data =>
      exact (handleMatchMessage_sameFor a data).trans
        (hsame.trans (handleMatchMessage_sameFor a data).symm)

theorem ack_sameFor (hrival : e.rival X cfg A = false) (hsame : SameFor A h h') :
    e.ack X (chainCache k) cfg A h = e.ack X (chainCache k) cfg A h' := by
  simp only [Event.ack, hrival]
  cases hc : e.command X cfg with
  | none => rfl
  | some c =>
    cases c with
    | rfqSubmit a df => rfl
    | rfqMatch a data => rfl
    | quoteSubmit a di =>
      simp only [Event.rival, hc] at hrival
      have halike := handleQuoteSubmit_alike (k := k) hsame a di hrival
      simp only [Bool.false_eq_true, if_false]
      cases e with
      | background f => rfl
      | instruction b df =>
        simp only [Event.result, handleInstruction_eq, hc, dispatched, Command.handle]
        exact congrArg some (halike.reply _ _)
      | direct b dj =>
        simp only [Event.result, handleDirect_eq, hc, dispatched, Command.handle]
        exact congrArg some (halike.reply _ _)

end Turns

/-- Rivals' quotes are hidden from a maker's acks. -/
theorem rivals_unwind : Unwinds (Turn.exec X (chainCache k) cfg) (Turn.ack X (chainCache k) cfg A)
    (Turn.rival X cfg A) Turn.Polls (SameFor A) where
  silent t h hrival := by
    cases t with
    | gc now => rfl
    | call e =>
      obtain ⟨a, di, maker, hc, _⟩ := rival_eq_true.mp hrival
      have hrival : e.rival X cfg A = true := hrival
      simp only [Turn.ack, Event.ack, hc, hrival, if_true]
  hides t h h' hrival hsame := by
    cases t with
    | gc now => cases hrival
    | call e => exact exec_rival hrival hsame
  keeps t h h' hpolls hnot hsame := by
    cases t with
    | gc now => exact hsame.gc now
    | call e => exact exec_sameFor hpolls hnot hsame
  shows t h h' hnot hsame := by
    cases t with
    | gc now => rfl
    | call e => exact ack_sameFor hnot hsame

/-- Two runs of the desk that only rivals' quotes tell apart. -/
structure RivalsOnly (turns turns' : List (Turn ChainCache)) : Prop where
  polls : ∀ t ∈ turns, t.Polls
  polls' : ∀ t ∈ turns', t.Polls
  purged : purge (Turn.rival X cfg A) turns = purge (Turn.rival X cfg A) turns'

variable {X k cfg A}

theorem RivalsOnly.append {xs xs' ys ys' : List (Turn ChainCache)} (hxs : RivalsOnly X cfg A xs xs')
    (hys : RivalsOnly X cfg A ys ys') : RivalsOnly X cfg A (xs ++ ys) (xs' ++ ys') where
  polls t ht := (List.mem_append.mp ht).elim (hxs.polls t) (hys.polls t)
  polls' t ht := (List.mem_append.mp ht).elim (hxs.polls' t) (hys.polls' t)
  purged := by
    unfold purge
    rw [List.filter_append, List.filter_append]
    exact congrArg₂ _ hxs.purged hys.purged

/-- Neither the acks nor what is left in the handler tell rivals apart. -/
theorem RivalsOnly.same {turns turns' : List (Turn ChainCache)} (h : RivalsOnly X cfg A turns turns')
    (epoch : UInt64) (c₀ : ChainCache) :
    SameFor A (desk X (chainCache k) cfg epoch c₀ turns) (desk X (chainCache k) cfg epoch c₀ turns') ∧
      acks X (chainCache k) cfg A epoch c₀ turns = acks X (chainCache k) cfg A epoch c₀ turns' :=
  (rivals_unwind X k cfg A).two_runs (SameFor.refl A _) (fun _ _ _ hu hv => hu.trans hv.symm) h.polls
    h.polls' h.purged

end Unwinding

end WhisperDesk.Fcewire
