import WhisperDesk.General.Selection
import WhisperDesk.Contracts.System
import WhisperDesk.Enclave.Book

/-!
# match.go

`matchCore` over a snapshot of the book: six filters in order, then the scan for
the best price and the earliest intake number. Around it `matchWithSignFunc`
looks for a cached outcome, signs what matched and caches the result. The wire
strings an instruction travels in give the instruction back.
-/
namespace WhisperDesk.Matcher

open Go
open Function (update)
open Reverting
open Selection

structure ChainSnapshot where
  midE18 : Option Int
  midAge : Duration
  freeBondRaw : Address → UInt64
  takerAvailableRaw : UInt64

def maxPriceStaleness : Duration := 60 * second

def bondBips : Int := 100

/-- `|price - mid| * 10000 <= bandBips * mid`, on both sides. -/
def inBand (price mid : Int) (bandBips : UInt64) : Bool :=
  price * 10000 ≥ mid * (10000 - bandBips.toNat) ∧ price * 10000 ≤ mid * (10000 + bandBips.toNat)

def requiredBond (rfq : RFQ) : Int := rfq.fxrpAmountRaw.toNat * bondBips / 10000

/-- The loop body: the filter that turns a quote away, or `none` to keep it. -/
def rejection (cfg : Config) (rfq : RFQ) (snap : ChainSnapshot) (mid : Int) (now : Time) (q : Quote) :
    Option Reason :=
  let age := now.sub q.receivedAt
  if q.maker = rfq.taker then some .selfMatch
  else if age < 0 ∨ age ≥ seconds cfg.quoteTTLSec then some .stale
  else if q.maxFxrpRaw < rfq.fxrpAmountRaw then some .undersized
  else if inBand q.priceE18 mid cfg.bandBips = false then some .outOfBand
  else if q.priceE18 < rfq.limitPriceE18 then some .belowLimit
  else if (snap.freeBondRaw q.maker).toNat < requiredBond rfq then some .insufficientBond
  else none

/-- One turn of the winner scan. -/
def better (winner q : Quote) : Quote :=
  match compare q.priceE18 winner.priceE18 with
  | .gt => q
  | .eq => if q.seq < winner.seq then q else winner
  | .lt => winner

def nonEmptyReasons (r : Reason → Nat) : Option (Reason → Nat) := if r = (fun _ => 0) then none else some r

def amountText : Option Int → Bytes
  | some n => bigString n
  | none => [0x3C, 0x6E, 0x69, 0x6C, 0x3E]

variable (L : Libraries)

def instructionToWire (mi : MatchInstruction) : MatchWire where
  matchID := hashHex mi.matchID
  escrow := addressHex L.keccak256 mi.escrow
  taker := addressHex L.keccak256 mi.taker
  maker := addressHex L.keccak256 mi.maker
  amountFxrp := amountText mi.amountFxrp
  priceUsd18 := amountText mi.priceUsd18
  takerXrplAddress := mi.takerXrplAddress
  instructionExpiresAt := mi.instructionExpiresAt

def wireToInstruction (w : MatchWire) : MatchInstruction where
  matchID := hexToHash w.matchID
  escrow := hexToAddress w.escrow
  taker := hexToAddress w.taker
  maker := hexToAddress w.maker
  amountFxrp := setString10 w.amountFxrp
  priceUsd18 := setString10 w.priceUsd18
  takerXrplAddress := w.takerXrplAddress
  instructionExpiresAt := w.instructionExpiresAt

def noMatch (reasons : Reason → Nat) : MatchOutcome where
  outcome := .noMatch
  reasons := some reasons
  wire := none
  abiEncoded := []
  teeSignature := []
  signed := none

/-- The instruction for a winning quote. -/
def instructionFor (escrow : Address) (rfq : RFQ) (winner : Quote) (now : Time) : MatchInstruction where
  matchID := rfq.id
  escrow := escrow
  taker := rfq.taker
  maker := winner.maker
  amountFxrp := some rfq.fxrpAmountRaw.toNat
  priceUsd18 := some winner.priceE18
  takerXrplAddress := rfq.xrplAddress
  instructionExpiresAt := now.unix.toUInt64 + 300

def matched (escrow : Address) (rfq : RFQ) (reasons : Reason → Nat) (winner : Quote) (now : Time) :
    MatchOutcome where
  outcome := .matched
  reasons := nonEmptyReasons reasons
  wire := some (instructionToWire L (instructionFor escrow rfq winner now))
  abiEncoded := []
  teeSignature := []
  signed := none

/-- The cached mid, unless it is unset, not positive or too old. -/
def freshMid (snap : ChainSnapshot) : Except Error Int := do
  let mid ← orRevert snap.midE18 .priceStale
  revertIf (mid ≤ 0) .priceStale
  revertIf (snap.midAge > maxPriceStaleness) .priceStale
  pure mid

def matchCore (cfg : Config) (escrow : Address) (rfq : RFQ) (quotes : List Quote)
    (snap : ChainSnapshot) (now : Time) : Except Error MatchOutcome := do
  let mid ← freshMid snap
  if snap.takerAvailableRaw < rfq.fxrpAmountRaw then
    pure (noMatch (update (fun _ => 0) .insufficientTakerFunds 1))
  else
    let (reasons, eligible) := sieve (rejection cfg rfq snap mid now) quotes
    match eligible with
    | [] => pure (noMatch reasons)
    | first :: rest => pure (matched L escrow rfq reasons (rest.foldl better first) now)

/-- `"0x" + common.Bytes2Hex(b)`. -/
def hexText (b : Bytes) : Bytes := 0x30 :: 0x78 :: ByteCodec.hexDigits b

/-- The instruction an outcome needs signed, if it matched. -/
def MatchOutcome.toSign (o : MatchOutcome) : Option MatchInstruction :=
  if o.outcome = .matched then o.wire.map wireToInstruction else none

def signOutcome (sign : MatchInstruction → Except Error SignedMatch) (o : MatchOutcome) :
    Except Error MatchOutcome :=
  match o.toSign with
  | none => .ok o
  | some mi =>
    match sign mi with
    | .error e => .error (.sign e)
    | .ok signed =>
      .ok { o with
        signed := some signed
        abiEncoded := hexText signed.abiEncoded
        teeSignature := hexText signed.signature }

/-- The window check and `matchCore`, over one snapshot of the book. -/
def matchSnapshot (cfg : Config) (escrow : Address) (rfq : RFQ) (quotes : List Quote)
    (snap : ChainSnapshot) (now : Time) : Except Error MatchOutcome := do
  revertIf (now.before rfq.windowEndsAt = true) .windowOpen
  matchCore L cfg escrow rfq quotes snap now

def matchWithSignFunc (book : SealedBook) (cfg : Config) (escrow : Address)
    (sign : MatchInstruction → Except Error SignedMatch) (order : MapOrder) (rfqID : Bytes32)
    (snap : ChainSnapshot) (now : Time) : Except Error (MatchOutcome × SealedBook) :=
  match book.cachedOutcome rfqID with
  | some cached => .ok (cached, book)
  | none => do
    let (rfq, quotes) ← book.snapshotForMatch order rfqID
    let outcome ← matchSnapshot L cfg escrow rfq quotes snap now
    let outcome ← signOutcome sign outcome
    pure (outcome, book.markMatched rfqID outcome)

/-- The one instruction, if any, that `matchWithSignFunc` calls `sign` with. -/
def signRequest (book : SealedBook) (cfg : Config) (escrow : Address) (order : MapOrder)
    (rfqID : Bytes32) (snap : ChainSnapshot) (now : Time) : Option MatchInstruction :=
  match book.cachedOutcome rfqID, book.snapshotForMatch order rfqID with
  | none, .ok (rfq, quotes) =>
    match matchSnapshot L cfg escrow rfq quotes snap now with
    | .ok outcome => outcome.toSign
    | .error _ => none
  | _, _ => none

/-- Signing through the sign port. -/
def matchWithSigner (book : SealedBook) (cfg : Config) (escrow : Address) (chainID : UInt64)
    (signFn : SignerFunc) (order : MapOrder) (rfqID : Bytes32) (snap : ChainSnapshot) (now : Time) :
    Except Error (MatchOutcome × SealedBook) :=
  matchWithSignFunc L book cfg escrow (fun mi => signWithFunc L mi chainID signFn) order rfqID snap now

section Wire

theorem setString10_amountText (n : Option Int) : setString10 (amountText n) = n := by
  cases n with
  | none => decide
  | some n => exact setString10_bigString n

/-- The detour through wire strings loses nothing. -/
theorem wireToInstruction_instructionToWire (mi : MatchInstruction) :
    wireToInstruction (instructionToWire L mi) = mi := by
  simp only [wireToInstruction, instructionToWire, hexToHash_hashHex, hexToAddress_addressHex,
    setString10_amountText]

theorem fromHex_hexText (b : Bytes) : fromHex (hexText b) = b :=
  fromHex_of_sameHex (List.forall₂_same.mpr fun _ _ => rfl)

@[simp] theorem matched_toSign (escrow : Address) (rfq : RFQ) (reasons : Reason → Nat)
    (winner : Quote) (now : Time) :
    (matched L escrow rfq reasons winner now).toSign = some (instructionFor escrow rfq winner now) :=
  congrArg some (wireToInstruction_instructionToWire L _)

end Wire

section Rule

variable {L} {cfg : Config} {escrow : Address} {rfq : RFQ} {quotes : List Quote}
  {snap : ChainSnapshot} {mid : Int} {now : Time}

/-- Price first, then the earlier intake number. -/
def rank (q : Quote) : Int ×ₗ ℕᵒᵈ := toLex (q.priceE18, OrderDual.toDual q.seq.toNat)

theorem rank_lt {p q : Quote} :
    rank p < rank q ↔ p.priceE18 < q.priceE18 ∨ p.priceE18 = q.priceE18 ∧ q.seq < p.seq := by
  rw [rank, rank, Prod.Lex.toLex_lt_toLex]
  exact Iff.rfl

theorem rank_inj {p q : Quote} (h : rank p = rank q) : p.priceE18 = q.priceE18 ∧ p.seq = q.seq := by
  have hpair := toLex.injective h
  rw [Prod.mk.injEq] at hpair
  exact ⟨hpair.1, UInt64.toNat_inj.mp (OrderDual.toDual.injective hpair.2)⟩

theorem better_eq (winner q : Quote) : better winner q = if rank winner < rank q then q else winner := by
  unfold better
  cases h : compare q.priceE18 winner.priceE18 with
  | lt =>
    have hlt : q.priceE18 < winner.priceE18 := compare_lt_iff_lt.mp h
    have hnot : ¬ rank winner < rank q := by
      rw [rank_lt]
      omega
    rw [if_neg hnot]
  | eq =>
    have heq : q.priceE18 = winner.priceE18 := compare_eq_iff_eq.mp h
    simp [rank_lt, heq]
  | gt =>
    have hgt : q.priceE18 > winner.priceE18 := compare_gt_iff_gt.mp h
    rw [if_pos (rank_lt.mpr (.inl hgt))]

/-- The scan of the source is the scan of the library under `rank`. -/
theorem foldl_better (first : Quote) (rest : List Quote) :
    rest.foldl better first = best rank first rest := by
  have hstep : better = fun a b => if rank a < rank b then b else a := by
    funext a b
    exact better_eq a b
  rw [hstep]
  rfl

theorem freshMid_eq_ok :
    freshMid snap = .ok mid ↔
      snap.midE18 = some mid ∧ 0 < mid ∧ snap.midAge ≤ maxPriceStaleness := by
  simp only [freshMid, bind_eq_ok, orRevert_eq_ok, revertIf_eq_ok, pure_eq_ok, Int.not_le, gt_iff_lt,
    Int64.not_lt]
  constructor
  · rintro ⟨_, hmid, _, hpos, _, hage, rfl⟩
    exact ⟨hmid, hpos, hage⟩
  · rintro ⟨hmid, hpos, hage⟩
    exact ⟨mid, hmid, (), hpos, (), hage, rfl⟩

/-- A snapshot that gets as far as the quotes. -/
structure Ready (rfq : RFQ) (snap : ChainSnapshot) (mid : Int) : Prop where
  midE18 : snap.midE18 = some mid
  mid_pos : 0 < mid
  fresh : snap.midAge ≤ maxPriceStaleness
  funds : rfq.fxrpAmountRaw ≤ snap.takerAvailableRaw

/-- The loop and the scan together: the kept quote of maximal rank wins. -/
theorem matchCore_of_ready (h : Ready rfq snap mid) :
    matchCore L cfg escrow rfq quotes snap now =
      match (kept (rejection cfg rfq snap mid now) quotes).argmax rank with
      | none => .ok (noMatch (rejected (rejection cfg rfq snap mid now) quotes))
      | some w =>
        .ok (matched L escrow rfq (rejected (rejection cfg rfq snap mid now) quotes) w now) := by
  have hmid : freshMid snap = .ok mid := freshMid_eq_ok.mpr ⟨h.midE18, h.mid_pos, h.fresh⟩
  have hfunds : ¬ snap.takerAvailableRaw < rfq.fxrpAmountRaw := UInt64.not_lt.mpr h.funds
  simp only [matchCore, hmid, if_neg hfunds, sieve_eq, bind, Except.bind]
  cases hkept : kept (rejection cfg rfq snap mid now) quotes with
  | nil => rfl
  | cons first rest =>
    rw [← best_eq_argmax, ← foldl_better]
    rfl

theorem matchCore_underfunded (hmid : freshMid snap = .ok mid)
    (h : snap.takerAvailableRaw < rfq.fxrpAmountRaw) :
    matchCore L cfg escrow rfq quotes snap now =
      .ok (noMatch (update (fun _ => 0) .insufficientTakerFunds 1)) := by
  simp only [matchCore, hmid, if_pos h, bind, Except.bind, pure, Except.pure]

/-- Every way `matchCore` can return. -/
theorem matchCore_cases {o : MatchOutcome}
    (h : matchCore L cfg escrow rfq quotes snap now = .ok o) :
    (∃ reasons, o = noMatch reasons) ∨
      ∃ mid w reasons, Ready rfq snap mid ∧ w ∈ quotes ∧ rejection cfg rfq snap mid now w = none ∧
        o = matched L escrow rfq reasons w now := by
  cases hmid : freshMid snap with
  | error e =>
    rw [matchCore, hmid] at h
    cases h
  | ok mid =>
    by_cases hfunds : snap.takerAvailableRaw < rfq.fxrpAmountRaw
    · rw [matchCore_underfunded hmid hfunds, Except.ok.injEq] at h
      exact .inl ⟨_, h.symm⟩
    · obtain ⟨hsome, hpos, hfresh⟩ := freshMid_eq_ok.mp hmid
      have hready : Ready rfq snap mid := ⟨hsome, hpos, hfresh, UInt64.not_lt.mp hfunds⟩
      rw [matchCore_of_ready hready] at h
      cases hmax : (kept (rejection cfg rfq snap mid now) quotes).argmax rank with
      | none =>
        rw [hmax, Except.ok.injEq] at h
        exact .inl ⟨_, h.symm⟩
      | some w =>
        rw [hmax, Except.ok.injEq] at h
        have hw : w ∈ kept (rejection cfg rfq snap mid now) quotes :=
          List.argmax_mem (by rw [hmax]; rfl)
        obtain ⟨hmem, hkeep⟩ := (mem_kept _).mp hw
        exact .inr ⟨mid, w, _, hready, hmem, hkeep, h.symm⟩

theorem matchSnapshot_eq_ok {o : MatchOutcome} :
    matchSnapshot L cfg escrow rfq quotes snap now = .ok o ↔
      now.before rfq.windowEndsAt = false ∧ matchCore L cfg escrow rfq quotes snap now = .ok o := by
  simp only [matchSnapshot, bind_eq_ok, revertIf_eq_ok, Bool.not_eq_true]
  constructor
  · rintro ⟨_, hwindow, ho⟩
    exact ⟨hwindow, ho⟩
  · rintro ⟨hwindow, ho⟩
    exact ⟨(), hwindow, ho⟩

/-- A signed outcome differs from the unsigned one in the three signature fields. -/
theorem signOutcome_eq_ok {sign : MatchInstruction → Except Error SignedMatch} {o o' : MatchOutcome} :
    signOutcome sign o = .ok o' ↔ (o.toSign = none ∧ o' = o) ∨
      ∃ mi s, o.toSign = some mi ∧ sign mi = .ok s ∧
        o' = { o with
          signed := some s, abiEncoded := hexText s.abiEncoded, teeSignature := hexText s.signature } := by
  unfold signOutcome
  cases h : o.toSign with
  | none => simp [eq_comm]
  | some mi =>
    cases hs : sign mi with
    | error e => simp [hs]
    | ok s => simp [hs, eq_comm]

variable {book book' : SealedBook} {order : MapOrder} {rfqID : Bytes32}
  {sign : MatchInstruction → Except Error SignedMatch}

/-- A match is a replay of the cached outcome, or computed, signed and cached. -/
theorem matchWithSignFunc_eq_ok {o : MatchOutcome} :
    matchWithSignFunc L book cfg escrow sign order rfqID snap now = .ok (o, book') ↔
      (book.cachedOutcome rfqID = some o ∧ book' = book) ∨
      (book.cachedOutcome rfqID = none ∧ ∃ rfq quotes u,
        book.snapshotForMatch order rfqID = .ok (rfq, quotes) ∧
        matchSnapshot L cfg escrow rfq quotes snap now = .ok u ∧ signOutcome sign u = .ok o ∧
        book' = book.markMatched rfqID o) := by
  unfold matchWithSignFunc
  cases hcached : book.cachedOutcome rfqID with
  | some cached =>
    simp only [Except.ok.injEq, Prod.mk.injEq, Option.some.injEq, reduceCtorEq, false_and, or_false]
    exact and_congr_right fun _ => eq_comm
  | none =>
    simp only [bind_eq_ok, pure_eq_ok, Prod.mk.injEq, reduceCtorEq, false_and, false_or, true_and]
    constructor
    · rintro ⟨⟨rfq, quotes⟩, hsnap, u, hu, o', ho', rfl, rfl⟩
      exact ⟨rfq, quotes, u, hsnap, hu, ho', rfl⟩
    · rintro ⟨rfq, quotes, u, hsnap, hu, ho', rfl⟩
      exact ⟨(rfq, quotes), hsnap, u, hu, o, ho', rfl, rfl⟩

theorem signRequest_eq_some {mi : MatchInstruction} :
    signRequest L book cfg escrow order rfqID snap now = some mi ↔
      book.cachedOutcome rfqID = none ∧ ∃ rfq quotes u,
        book.snapshotForMatch order rfqID = .ok (rfq, quotes) ∧
        matchSnapshot L cfg escrow rfq quotes snap now = .ok u ∧ u.toSign = some mi := by
  unfold signRequest
  cases hcached : book.cachedOutcome rfqID with
  | some cached => simp
  | none =>
    cases hsnap : book.snapshotForMatch order rfqID with
    | error e => simp
    | ok p =>
      obtain ⟨rfq, quotes⟩ := p
      cases hu : matchSnapshot L cfg escrow rfq quotes snap now with
      | error e => simp [hu]
      | ok u => simp [hu]

/-- What a requested instruction is made of: the RFQ and one kept quote on it. -/
theorem signRequest_cases {mi : MatchInstruction}
    (h : signRequest L book cfg escrow order rfqID snap now = some mi) :
    ∃ rfq mid w, book.rfqs rfqID = some rfq ∧ rfq.outcome = none ∧ w ∈ book.resting rfqID ∧
      Ready rfq snap mid ∧ rejection cfg rfq snap mid now w = none ∧
      mi = instructionFor escrow rfq w now := by
  obtain ⟨hcached, rfq, quotes, u, hsnap, hu, hmi⟩ := signRequest_eq_some.mp h
  obtain ⟨hrfq, rfl⟩ := snapshotForMatch_eq_ok.mp hsnap
  have hnone : rfq.outcome = none := by
    rw [SealedBook.cachedOutcome, hrfq] at hcached
    exact hcached
  rcases matchCore_cases (matchSnapshot_eq_ok.mp hu).2 with ⟨reasons, rfl⟩ | hmatched
  · cases hmi
  · obtain ⟨mid, w, reasons, hready, hw, hkeep, rfl⟩ := hmatched
    rw [matched_toSign, Option.some.injEq] at hmi
    exact ⟨rfq, mid, w, hrfq, hnone, (order.perm _).mem_iff.mp hw, hready, hkeep, hmi.symm⟩

/-- `sign` is consulted about the requested instruction and about no other. -/
theorem matchWithSignFunc_sign {sign' : MatchInstruction → Except Error SignedMatch}
    (h : ∀ mi, signRequest L book cfg escrow order rfqID snap now = some mi → sign mi = sign' mi) :
    matchWithSignFunc L book cfg escrow sign order rfqID snap now =
      matchWithSignFunc L book cfg escrow sign' order rfqID snap now := by
  unfold matchWithSignFunc signRequest at *
  cases hcached : book.cachedOutcome rfqID with
  | some cached => rfl
  | none =>
    cases hsnap : book.snapshotForMatch order rfqID with
    | error e => rfl
    | ok p =>
      obtain ⟨rfq, quotes⟩ := p
      cases hu : matchSnapshot L cfg escrow rfq quotes snap now with
      | error e => simp only [bind, Except.bind, hu]
      | ok u =>
        have hsign : signOutcome sign u = signOutcome sign' u := by
          unfold signOutcome
          cases hmi : u.toSign with
          | none => rfl
          | some mi => simp only [h mi (by simp only [hcached, hsnap, hu, hmi])]
        simp only [bind, Except.bind, hu, hsign]

/-- A request that the signer refuses fails the whole match. -/
theorem matchWithSignFunc_refused {mi : MatchInstruction} {e : Error}
    (h : signRequest L book cfg escrow order rfqID snap now = some mi) (he : sign mi = .error e) :
    matchWithSignFunc L book cfg escrow sign order rfqID snap now = .error (.sign e) := by
  obtain ⟨hcached, rfq, quotes, u, hsnap, hu, hmi⟩ := signRequest_eq_some.mp h
  simp only [matchWithSignFunc, hcached, hsnap, hu, signOutcome, hmi, he, bind, Except.bind]

end Rule

/-! An RFQ at the minimum block and three quotes on it. -/
namespace SampleBook

def libraries : Libraries where
  toPrimitives := WhisperDesk.Sample.primitives
  sigToAddress _ sig := some (BitVec.ofNat 160 (sig.getD 0 0).toNat)
  pack t := some (MatchInstructionLib.encode
    { matchId := t.matchID, escrow := t.escrow, taker := t.taker, maker := t.maker,
      amountFxrp := t.amountFxrp.toNat, priceUsd18 := t.priceUsd18.toNat,
      takerXrplAddress := t.takerXrplAddress.bytes,
      instructionExpiresAt := t.instructionExpiresAt.toNat })

/-- `n` seconds after the epoch. -/
def clock (n : Nat) : Time := ⟨n * 1000000000⟩

def requestID : Bytes32 := 7

def request : RFQ where
  id := requestID
  taker := 2
  fxrpAmountRaw := 5000000000
  limitPriceE18 := 1990000000000000000
  xrplAddress := ⟨[0x72], by decide⟩
  receivedAt := clock 1000
  windowEndsAt := clock 1010
  expiresAt := clock 1600
  outcome := none

def quote (maker : Address) (priceE18 : Int) (seq : UInt64) : Quote :=
  { rfqID := requestID, maker, priceE18, maxFxrpRaw := 5000000000, nonce := 1, receivedAt := clock 1005, seq }

def low : Quote := quote 5 2000000000000000000 1
def high : Quote := quote 3 2010000000000000000 2
def outside : Quote := quote 6 2030000000000000000 3

def snapshot : ChainSnapshot where
  midE18 := some 2000000000000000000
  midAge := 1000000000
  freeBondRaw _ := 500000000
  takerAvailableRaw := 20000000000

theorem ready : Ready request snapshot 2000000000000000000 := ⟨rfl, by decide, by decide, by decide⟩

end SampleBook

end WhisperDesk.Matcher
