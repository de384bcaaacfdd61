import WhisperDesk.Contracts.Liveness
import WhisperDesk.Enclave.ChainCache
import WhisperDesk.Enclave.MatchingRule

/-!
# The prefilter refines the escrow

The enclave filters quotes in Go, over cached and saturated reads; the escrow
checks again in Solidity, over its own storage. Where both run one policy, what
the enclave signs, the escrow locks: each of the escrow's checks follows from a
filter, from intake, or from an invariant of the chain.
-/
namespace WhisperDesk.Fcewire.Refinement

open Go
open Matcher
open AbiWords
open DvPEscrow (Deployment)
open Reverting (bind_eq_ok)

section SignPort

/-- A sign port that holds the key of `signer`: it answers with `R‖S‖V`, a low `S`
and `V` in {0,1}, recovering to `signer` over the hash of the message. -/
def SignsAs (L : Libraries) (signFn : SignerFunc) (signer : Address) : Prop :=
  ∀ message sig, signFn message = some sig → sig.length = 65 →
    (DvPEscrow.splitSignature sig).2.2 < 2 ∧
    (DvPEscrow.splitSignature sig).2.1.toNat ≤ DvPEscrow.secp256k1nHalf ∧
    L.ecrecover (L.keccak256 (MatchInstructionLib.ethPrefix ++ word (L.keccak256 message).toNat))
      ((DvPEscrow.splitSignature sig).2.2 + 27) (DvPEscrow.splitSignature sig).1
      (DvPEscrow.splitSignature sig).2.1 = signer

variable {L : Libraries} {signFn : SignerFunc} {signer : Address} {sig data : Bytes} {env : Env}
  {chainID : UInt64}

/-- Normalizing touches the last byte only. -/
theorem splitSignature_normalizeV (hlen : sig.length = 65)
    (hv : (DvPEscrow.splitSignature sig).2.2 < 2) :
    DvPEscrow.splitSignature (normalizeV sig) = ((DvPEscrow.splitSignature sig).1,
      (DvPEscrow.splitSignature sig).2.1, (DvPEscrow.splitSignature sig).2.2 + 27) := by
  have hlow : sig.getD 64 0 < 27 := by
    have : sig.getD 64 0 < 2 := hv
    grind
  have hset : (sig.set 64 (sig.getD 64 0 + 27)).getD 64 0 = sig.getD 64 0 + 27 := by
    rw [List.getD_eq_getElem _ _ (by rw [List.length_set, hlen]; decide), List.getElem_set_self]
  rw [normalizeV, if_pos hlow]
  unfold DvPEscrow.splitSignature
  rw [hset, List.take_set_of_le (by decide), List.drop_set, if_neg (by decide),
    List.take_set_of_le (by decide)]

theorem signature_accepted (hsigns : SignsAs L signFn signer) (hsigner : signer ≠ 0)
    (hchain : chainID.toNat = env.chainid)
    (hsig : signFn (wdMatchMessage (L.keccak256 data) chainID) = some sig) (hlen : sig.length = 65) :
    DvPEscrow.SignatureAccepted L.toPrimitives env signer data (normalizeV sig) := by
  obtain ⟨hv, hlow, hrecovers⟩ := hsigns _ sig hsig hlen
  have hsplit := splitSignature_normalizeV hlen hv
  have hdigest : L.keccak256 (MatchInstructionLib.ethPrefix ++
      word (L.keccak256 (wdMatchMessage (L.keccak256 data) chainID)).toNat) =
        MatchInstructionLib.ethSignedDigest L.toPrimitives (L.keccak256 data) env.chainid := by
    rw [← hchain, ← ethSignedDigest_eq]
    rfl
  constructor
  · unfold normalizeV
    split
    · rw [List.length_set, hlen]
    · exact hlen
  · rw [hsplit]
    exact hlow
  · rw [DvPEscrow.recoveredSigner, hsplit]
    rw [hdigest] at hrecovers
    exact hrecovers
  · exact hsigner

end SignPort

section Coder

/-- The packed tuple as the escrow's own struct. -/
def onChain (t : MatchInstructionTuple) : MatchInstructionLib.MatchInstruction where
  matchId := t.matchID
  escrow := t.escrow
  taker := t.taker
  maker := t.maker
  amountFxrp := t.amountFxrp.toNat
  priceUsd18 := t.priceUsd18.toNat
  takerXrplAddress := t.takerXrplAddress.bytes
  instructionExpiresAt := t.instructionExpiresAt.toNat

/-- `Pack` writes the ABI encoding of any tuple whose amounts are `uint256`s. -/
def PacksAbi (L : Libraries) : Prop :=
  ∀ t : MatchInstructionTuple, 0 ≤ t.amountFxrp → t.amountFxrp < 2 ^ 256 → 0 ≤ t.priceUsd18 →
    t.priceUsd18 < 2 ^ 256 → L.pack t = some (MatchInstructionLib.encode (onChain t))

theorem decode_pack {L : Libraries} (hpacks : PacksAbi L) {t : MatchInstructionTuple}
    (hamount : 0 ≤ t.amountFxrp) (hamount' : t.amountFxrp < 2 ^ 256) (hprice : 0 ≤ t.priceUsd18)
    (hprice' : t.priceUsd18 < 2 ^ 256) {data : Bytes} (hdata : L.pack t = some data) :
    MatchInstructionLib.decode data = some (onChain t) := by
  rw [hpacks t hamount hamount' hprice hprice', Option.some.injEq] at hdata
  have haddress := t.takerXrplAddress.length_lt
  rw [← hdata]
  apply MatchInstructionLib.decode_encode
  constructor
  · simp only [onChain]
    omega
  · simp only [onChain]
    omega
  · simp only [onChain]
    omega
  · exact t.instructionExpiresAt.toNat_lt

end Coder

/-- What an enclave runs with: its libraries, its policy, the escrow and chain it
signs for, and its sign port. -/
structure Enclave where
  libraries : Libraries
  cfg : Matcher.Config
  escrow : Address
  chainID : UInt64
  signFn : SignerFunc

def Enclave.sign (E : Enclave) (mi : Matcher.MatchInstruction) : Except Error SignedMatch :=
  signWithFunc E.libraries mi E.chainID E.signFn

/-- The enclave is set up for this escrow: equal policy, its address and chain, the
key of its signer, and the ABI coder. -/
structure SetUpFor (E : Enclave) (d : Deployment) (env : Env) (w : World) : Prop where
  minBlock : E.cfg.minBlockFxrpRaw.toNat = d.minBlockFxrp
  bandBips : E.cfg.bandBips.toNat = DvPEscrow.bandBips
  escrow : E.escrow = d.self
  chainID : E.chainID.toNat = env.chainid
  signs : SignsAs E.libraries E.signFn w.escrow.teeSigner
  packs : PacksAbi E.libraries

/-- The state and the block that `lock` meets. -/
structure Callable (env : Env) (w : World) (id : Bytes32) (taker : Address) (mid18 fee : Nat)
    (now : Time) : Prop where
  unlocked : (w.escrow.matchOf id).state = .none
  unpaused : w.escrow.lockPaused = false
  armedUntil : env.timestamp ≤ (w.escrow.balances taker).armedUntil
  onTime : (env.timestamp : Int) ≤ now.unix.toInt + 300
  feeRead : env.calculateFeeById = some fee
  feedRead : ∃ ts, env.getFeedByIdInWei = some (mid18, ts) ∧ ts ≤ env.timestamp ∧
    env.timestamp ≤ ts + DvPEscrow.maxOracleAge
  mid_lt : mid18 < 2 ^ 180
  tags : issuedTags w < 2 ^ 32 - 1

/-- The match a `lock` opened is the one an instruction asks for. -/
structure OpenedAs (mi : Matcher.MatchInstruction) (m : Match) : Prop where
  state : m.state = .locked
  taker : m.taker = mi.taker
  maker : m.maker = mi.maker
  amountFxrp : mi.amountFxrp = some (m.amountFxrp : Int)

section Checks

variable {cfg : Matcher.Config} {rfq : RFQ} {snap : ChainSnapshot} {q : Quote} {mid18 : Nat}
  {now : Time} {env : Env}

/-- Inside the band a price is positive and at most twice the mid. -/
theorem price_bounds (hband : cfg.bandBips.toNat = DvPEscrow.bandBips) (hmid : 0 < mid18)
    (heligible : Eligible cfg rfq snap mid18 now q) :
    0 < q.priceE18 ∧ q.priceE18 ≤ 2 * mid18 := by
  obtain ⟨hlower, hupper⟩ : Passes cfg rfq snap mid18 now q .outOfBand := heligible _ (by decide)
  rw [hband, DvPEscrow.bandBips] at hlower hupper
  omega

theorem band_accepted (hband : cfg.bandBips.toNat = DvPEscrow.bandBips) (hmid : 0 < mid18)
    (hlt : mid18 < 2 ^ 180) (heligible : Eligible cfg rfq snap mid18 now q) {ts : Nat}
    (hpast : ts ≤ env.timestamp) (hrecent : env.timestamp ≤ ts + DvPEscrow.maxOracleAge) :
    DvPEscrow.BandAccepted env mid18 ts q.priceE18.toNat := by
  obtain ⟨hlower, hupper⟩ : Passes cfg rfq snap mid18 now q .outOfBand := heligible _ (by decide)
  obtain ⟨hpos, _⟩ := price_bounds hband hmid heligible
  rw [hband, DvPEscrow.bandBips] at hlower hupper
  constructor
  · omega
  · exact hpast
  · omega
  · rw [DvPEscrow.bandBips]
    omega
  · rw [DvPEscrow.bandBips]
    omega
  · rw [DvPEscrow.bandBips]
    omega

/-- Neither the notional nor the drops it comes to can overflow. -/
theorem notional_bounds (hband : cfg.bandBips.toNat = DvPEscrow.bandBips) (hmid : 0 < mid18)
    (hlt : mid18 < 2 ^ 180) (heligible : Eligible cfg rfq snap mid18 now q) :
    rfq.fxrpAmountRaw.toNat * q.priceE18.toNat < 2 ^ 256 ∧
      rfq.fxrpAmountRaw.toNat * q.priceE18.toNat / mid18 < 2 ^ 128 := by
  obtain ⟨_, hprice⟩ := price_bounds hband hmid heligible
  have hamount : rfq.fxrpAmountRaw.toNat ≤ 2 ^ 64 := Nat.le_of_lt rfq.fxrpAmountRaw.toNat_lt
  have hle : q.priceE18.toNat ≤ 2 * mid18 := by omega
  have hnotional : rfq.fxrpAmountRaw.toNat * q.priceE18.toNat ≤ 2 ^ 64 * (2 * mid18) :=
    Nat.mul_le_mul hamount hle
  constructor
  · omega
  · apply Nat.div_lt_of_lt_mul
    omega

theorem bond_covered {w : World} {mid : Int} (hsnap : Within w rfq.taker snap)
    (heligible : Eligible cfg rfq snap mid now q) :
    DvPEscrow.bondOf rfq.fxrpAmountRaw.toNat ≤ w.ledger.freeBond q.maker := by
  have hbond : rfq.fxrpAmountRaw.toNat / 100 ≤ (snap.freeBondRaw q.maker).toNat := by
    have h : Passes cfg rfq snap mid now q .insufficientBond := heligible _ (by decide)
    unfold Passes at h
    omega
  have hfree := hsnap.freeBond q.maker
  rw [DvPEscrow.bondOf, DvPEscrow.bondBips]
  omega

/-- The signed expiry is 300 seconds after the match, whatever the clock reads. -/
theorem onTime_unexpired (h : (env.timestamp : Int) ≤ now.unix.toInt + 300) :
    env.timestamp ≤ (now.unix.toUInt64 + 300).toNat := by
  have hexpiry := toNat_unix_add (t := now) (n := 300) (by decide)
    (by rw [show ((300 : UInt64).toNat : Int) = 300 from rfl]; omega)
  rw [show ((300 : UInt64).toNat : Int) = 300 from rfl] at hexpiry
  omega

end Checks

section Lock

variable {E : Enclave} {d : Deployment} {env : Env} {w : World} {id : Bytes32} {rfq : RFQ}
  {snap : ChainSnapshot} {q : Quote} {mid18 fee : Nat} {now : Time}

/-- The tuple packed for a winning quote. -/
def winningTuple (escrow : Address) (rfq : RFQ) (q : Quote) (now : Time) : MatchInstructionTuple where
  matchID := rfq.id
  escrow := escrow
  taker := rfq.taker
  maker := q.maker
  amountFxrp := rfq.fxrpAmountRaw.toNat
  priceUsd18 := q.priceE18
  takerXrplAddress := rfq.xrplAddress
  instructionExpiresAt := now.unix.toUInt64 + 300

theorem decode_winningTuple (hpacks : PacksAbi E.libraries)
    (hband : E.cfg.bandBips.toNat = DvPEscrow.bandBips) (hmid : 0 < mid18) (hlt : mid18 < 2 ^ 180)
    (heligible : Eligible E.cfg rfq snap mid18 now q) {data : Bytes}
    (hdata : E.libraries.pack (winningTuple E.escrow rfq q now) = some data) :
    MatchInstructionLib.decode data = some (onChain (winningTuple E.escrow rfq q now)) := by
  obtain ⟨hprice, hprice'⟩ := price_bounds hband hmid heligible
  have hamount := rfq.fxrpAmountRaw.toNat_lt
  apply decode_pack hpacks _ _ _ _ hdata <;> simp only [winningTuple] <;> omega

/-- Every check of `lock`, on the signed bytes of an eligible quote. -/
theorem lock_accepted (hw : Reachable E.libraries.toPrimitives d w) (hsetup : SetUpFor E d env w)
    (hcall : Callable env w id rfq.taker mid18 fee now) (hbound : w.ledger.escrow = d.self)
    (htags : issuedTags w ≠ 2 ^ 32 - 2) (hid : rfq.id = id) (hadmitted : Admitted E.cfg rfq)
    (hready : Ready rfq snap mid18) (heligible : Eligible E.cfg rfq snap mid18 now q)
    (hsnap : Within w rfq.taker snap) {data sig : Bytes}
    (hdata : E.libraries.pack (winningTuple E.escrow rfq q now) = some data)
    (hsig : E.signFn (wdMatchMessage (E.libraries.keccak256 data) E.chainID) = some sig)
    (hlen : sig.length = 65) :
    ∃ ts, DvPEscrow.LockAccepted E.libraries.toPrimitives d env fee data (normalizeV sig) w
      (onChain (winningTuple E.escrow rfq q now)) fee mid18 ts := by
  obtain ⟨ts, hfeed, hpast, hrecent⟩ := hcall.feedRead
  obtain ⟨p, hp⟩ := hw.escrowPool
  have hmid : 0 < mid18 := by
    have := hready.mid_pos
    omega
  have hlt := hcall.mid_lt
  obtain ⟨hnotional, hdrops⟩ := notional_bounds hsetup.bandBips hmid hlt heligible
  have hfunds : (w.escrow.balances rfq.taker).committed + rfq.fxrpAmountRaw.toNat ≤
      (w.escrow.balances rfq.taker).armed := by
    have h := UInt64.le_iff_toNat_le.mp hready.funds
    have := hsnap.funds
    omega
  have hself : rfq.taker ≠ q.maker := by
    have h : Passes E.cfg rfq snap mid18 now q .selfMatch := heligible _ (by decide)
    exact Ne.symm h
  have hmin : d.minBlockFxrp ≤ rfq.fxrpAmountRaw.toNat := by
    rw [← hsetup.minBlock]
    exact UInt64.le_iff_toNat_le.mp hadmitted.size
  have htime := onTime_unexpired hcall.onTime
  have hexpiry := (now.unix.toUInt64 + 300).toNat_lt
  have hwindow := d.settlementWindow.toNat_lt
  refine ⟨ts, ?_⟩
  constructor
  case unpaused => exact hcall.unpaused
  case decoded => exact decode_winningTuple hsetup.packs hsetup.bandBips hmid hlt heligible hdata
  case forThis => exact hsetup.escrow
  case signature =>
    exact signature_accepted hsetup.signs hw.teeSigner_ne_zero hsetup.chainID hsig hlen
  case instruction =>
    subst id
    exact ⟨hcall.unlocked, htime, hself, hmin, fun h => hadmitted.address (List.length_eq_zero_iff.mp h)⟩
  case feeRead => exact hcall.feeRead
  case fee_le => exact Nat.le_refl fee
  case feedRead => exact hfeed
  case band => exact band_accepted hsetup.bandBips hmid hlt heligible hpast hrecent
  case notional_lt => exact hnotional
  case drops_lt => exact hdrops
  case armedUntil => exact hcall.armedUntil
  case armed => exact hfunds
  case committed_lt => exact Nat.lt_of_le_of_lt hfunds (hp.armed_lt rfq.taker)
  case bound => exact hbound.symm
  case bond => exact bond_covered hsnap heligible
  case tag_lt =>
    have hissued := hcall.tags
    rw [hw.nextDestinationTag]
    omega
  case refundable_lt => omega

/-- An accepted `lock` with no surplus to return opens its match. -/
theorem lock_opens {P : Primitives} (callback : World → Except Revert World) {data sig : Bytes}
    {mi : MatchInstructionLib.MatchInstruction} {ts : Nat} (hentered : w.escrow.entered = false)
    (h : DvPEscrow.LockAccepted P d env fee data sig w mi fee mid18 ts) :
    ∃ w', DvPEscrow.lock P d env callback fee data sig w = .ok w' ∧
      w'.escrow.matchOf mi.matchId =
        DvPEscrow.lockedMatch P d env mi mid18 w.escrow.nextDestinationTag := by
  refine ⟨_, DvPEscrow.lock_eq_ok.mpr ⟨hentered, mi, fee, mid18, ts, h, _,
    DvPEscrow.refundSurplus_eq_ok.mpr (.inl ⟨Nat.le_refl fee, rfl⟩), rfl⟩, ?_⟩
  simp only [DvPEscrow.lockedWorld, Function.update_self]

end Lock

section Outcome

variable {E : Enclave} {rfq : RFQ} {snap : ChainSnapshot} {now : Time} {book book' : SealedBook}
  {order : MapOrder} {id : Bytes32} {o : MatchOutcome}

/-- A match that this call computed: the eligible quote that won, and the bytes
that were packed and signed for it. -/
theorem matched_cases (hrfq : book.rfqs id = some rfq) (hunmatched : rfq.outcome = none)
    (h : matchWithSignFunc E.libraries book E.cfg E.escrow E.sign order id snap now = .ok (o, book'))
    (ho : o.outcome = .matched) :
    ∃ mid q data sig, Ready rfq snap mid ∧ Eligible E.cfg rfq snap mid now q ∧
      o.wire = some (instructionToWire E.libraries (instructionFor E.escrow rfq q now)) ∧
      E.libraries.pack (winningTuple E.escrow rfq q now) = some data ∧
      E.signFn (wdMatchMessage (E.libraries.keccak256 data) E.chainID) = some sig ∧
      sig.length = 65 ∧ o.abiEncoded = hexText data ∧ o.teeSignature = hexText (normalizeV sig) := by
  have hcached : book.cachedOutcome id = none := by
    rw [SealedBook.cachedOutcome, hrfq, Option.bind_some, hunmatched]
  rcases matchWithSignFunc_eq_ok.mp h with ⟨hsome, _⟩ | ⟨_, r, quotes, u, hsnapshot, hu, hsign, _⟩
  · rw [hcached] at hsome
    cases hsome
  · obtain ⟨hr, _⟩ := snapshotForMatch_eq_ok.mp hsnapshot
    rw [hrfq, Option.some.injEq] at hr
    subst r
    rcases matchCore_cases (matchSnapshot_eq_ok.mp hu).2 with ⟨reasons, rfl⟩ | hmatched
    · rcases signOutcome_eq_ok.mp hsign with ⟨_, rfl⟩ | ⟨_, _, hnone, _⟩
      · cases ho
      · cases hnone
    · obtain ⟨mid, q, reasons, hready, _, hkeep, rfl⟩ := hmatched
      rcases signOutcome_eq_ok.mp hsign with ⟨hnone, _⟩ | ⟨mi, s, hmi, hs, rfl⟩
      · rw [matched_toSign] at hnone
        cases hnone
      · rw [matched_toSign, Option.some.injEq] at hmi
        subst mi
        obtain ⟨data, sig, signer, hdata, hsig, hlen, _, rfl⟩ := signWithFunc_eq_ok.mp hs
        obtain ⟨amount, price, hamount, hprice, hpack⟩ := abiEncode_eq_ok.mp hdata
        cases hamount
        cases hprice
        exact ⟨mid, q, data, sig, hready, (rejection_eq_none ..).mp hkeep, rfl, hpack, hsig, hlen,
          rfl, rfl⟩

end Outcome

/-- An RFQ as some accepted `AddRFQ` made it. -/
def TakenIn (cfg : Matcher.Config) (id : Bytes32) (rfq : RFQ) : Prop :=
  ∃ (book book' : SealedBook) (amount : UInt64) (limitPriceE18 : Option Int) (xrplAddress : GoString)
    (intake : Time) (windowSec ttlSec : Int64),
    book.addRFQ cfg id rfq.taker amount limitPriceE18 xrplAddress intake windowSec ttlSec =
      .ok (rfq, book')

/-- A MATCHED outcome over a snapshot of the chain state `w`, and a `lock` of it there. -/
structure Prefiltered (E : Enclave) (d : Deployment) (env : Env) (w : World) (book : SealedBook)
    (id : Bytes32) (rfq : RFQ) (mid18 fee : Nat) (now : Time) (o : MatchOutcome) : Prop where
  reachable : Reachable E.libraries.toPrimitives d w
  setup : SetUpFor E d env w
  admitted : TakenIn E.cfg id rfq
  known : ∃ cached, book.rfqs id = some { rfq with outcome := cached }
  computed : ∃ events priceStaleMaxSec makers snap order book',
    snap = (cacheOf w events).snapshot priceStaleMaxSec rfq.taker makers now ∧
    snap.midE18 = some (mid18 : Int) ∧
    matchWithSignFunc E.libraries book E.cfg E.escrow E.sign order id snap now = .ok (o, book')
  matched : o.outcome = .matched
  callable : Callable env w id rfq.taker mid18 fee now

/-! An escrow with a minimum block of one drop, an enclave set up for it, and a book
with one RFQ and one quote. -/
namespace SampleLock

open Sample SampleBook

def deployment : Deployment := { Sample.deployment with minBlockFxrp := 1 }

theorem deployed : Deployed deployment world :=
  ⟨{ args with minBlockFxrp := 1 }, 1, 1, Token.empty, 0, by decide, by decide, _, _, rfl, rfl, rfl⟩

def owner : Account deployment :=
  ⟨1, Sample.owner.ne_zero, Sample.owner.ne_self, Sample.owner.ne_ledger⟩

def taker : Account deployment :=
  ⟨2, Sample.taker.ne_zero, Sample.taker.ne_self, Sample.taker.ne_ledger⟩

def maker : Account deployment :=
  ⟨3, Sample.maker.ne_zero, Sample.maker.ne_self, Sample.maker.ne_ledger⟩

def tx (sender : Account deployment) (call : Call) : Tx deployment :=
  ⟨⟨env 1000, sender, call⟩, [], true⟩

/-- A funded taker and maker, before the ledger knows its escrow. -/
def funding : List (Tx deployment) :=
  [tx owner (.mintFxrp 2 (2 ^ 60)), tx owner (.mintFxrp 3 500000000),
    tx taker (.deposit (2 ^ 60) (2 ^ 63)), tx maker (.depositBond 500000000)]

def binding : Tx deployment := tx owner (.setEscrow 0xE5)

/-- The ids of the one-drop matches that use up tags, all above `requestID`. -/
def lockID (i : Nat) : Bytes32 := BitVec.ofNat 256 (2 ^ 64 + i)

def oneDrop (i : Nat) : MatchInstructionLib.MatchInstruction :=
  { instruction (lockID i) with amountFxrp := 1 }

def lockOne (i : Nat) : Tx deployment :=
  tx owner (.lock 0 (MatchInstructionLib.encode (oneDrop i)) (List.replicate 65 0))

def unbound : World := after primitives world funding

/-- The state after `n` one-drop matches. -/
def locked (n : Nat) : World :=
  after primitives world ((funding ++ [binding]) ++ (List.range n).map lockOne)

def enclave : Enclave where
  libraries := libraries
  cfg := { defaultConfig with minBlockFxrpRaw := 1 }
  escrow := 0xE5
  chainID := 114
  signFn _ := some (4 :: List.replicate 64 0)

def events : List CacheEvent :=
  [.trackTaker 2, .trackMaker 3,
    .refresh ⟨some (2000000000000000000, 1000), clock 1009, fun _ => true, fun _ => true,
      fun _ => clock 1009⟩]

def book : SealedBook where
  rfqs := Function.update (fun _ => none) requestID (some request)
  quotes := Function.update (fun _ => none) requestID (some ⟨[high], by decide⟩)
  epoch := 0
  nextSeq := 2

theorem setUpFor {w : World} (t : Nat) (h : w.escrow.teeSigner = teeSigner) :
    SetUpFor enclave deployment (env t) w where
  minBlock := rfl
  bandBips := rfl
  escrow := rfl
  chainID := rfl
  signs := by
    rintro message sig ⟨⟩ hlen
    rw [h]
    exact ⟨by decide, by decide, rfl⟩
  packs _ _ _ _ _ := rfl

theorem takenIn : TakenIn enclave.cfg requestID request :=
  ⟨.new 0, _, 5000000000, some 1990000000000000000, ⟨[0x72], by decide⟩, clock 1000, 10, 600, rfl⟩

/-- The cache after `events`, with `committed` of the taker's funds in open matches. -/
def cacheWith (committed : Nat) : ChainCache where
  midE18 := some 2000000000000000000
  midFetchAt := some (clock 1009)
  bondFree := Function.update (fun _ => 0) 3 (clampUint64 (some (500000000 : Nat)))
  takerAvail := Function.update (fun _ => 0) 2
    (available (clampUint64 (some (2 ^ 60 : Nat))) (clampUint64 (some committed))
      (UInt64.ofNat (2 ^ 63)) (clock 1009))
  trackedMakers := [3]
  trackedTakers := [2]

/-- Two entries of the chain's mappings are all that `events` read. -/
theorem cacheOf_eq {w : World} {committed : Nat}
    (hbalance : w.escrow.balances 2 = ⟨2 ^ 60, committed, 2 ^ 63⟩)
    (hbond : w.ledger.freeBond 3 = 500000000) : cacheOf w events = cacheWith committed := by
  have hcache : cacheOf w events =
      { midE18 := some 2000000000000000000
        midFetchAt := some (clock 1009)
        bondFree := Function.update (fun _ => 0) 3 (clampUint64 (some (w.ledger.freeBond 3 : Nat)))
        takerAvail := Function.update (fun _ => 0) 2
          (available (clampUint64 (some (w.escrow.balances 2).armed))
            (clampUint64 (some (w.escrow.balances 2).committed))
            (UInt64.ofNat (w.escrow.balances 2).armedUntil) (clock 1009))
        trackedMakers := [3]
        trackedTakers := [2] } := rfl
  rw [hcache, hbalance, hbond, cacheWith]

/-- The state after `n` one-drop matches, as far as the next `lock` looks. -/
structure Drained (n : Nat) (w : World) : Prop where
  unpaused : w.escrow.lockPaused = false
  entered : w.escrow.entered = false
  signer : w.escrow.teeSigner = teeSigner
  balance : w.escrow.balances 2 = ⟨2 ^ 60, n, 2 ^ 63⟩
  bond : w.ledger.freeBond 3 = 500000000
  bound : w.ledger.escrow = 0xE5
  tag : w.escrow.nextDestinationTag = n + 1
  unlocked : ∀ id : Bytes32, id.toNat < 2 ^ 64 ∨ 2 ^ 64 + n ≤ id.toNat →
    (w.escrow.matchOf id).state = .none

theorem lockID_toNat {n : Nat} (hn : n < 2 ^ 32) : (lockID n).toNat = 2 ^ 64 + n := by
  rw [lockID, BitVec.toNat_ofNat]
  exact Nat.mod_eq_of_lt (by omega)

/-- The next one-drop instruction is accepted, a destination tag being left. -/
theorem Drained.accepts {n : Nat} {w : World} (h : Drained n w) (hn : n + 2 < 2 ^ 32) :
    DvPEscrow.LockAccepted primitives deployment (env 1000) 0 (MatchInstructionLib.encode (oneDrop n))
      (List.replicate 65 0) w (oneDrop n) 0 2000000000000000000 1000 := by
  have hid : (lockID n).toNat = 2 ^ 64 + n := lockID_toNat (by omega)
  have htaker : w.escrow.balances (oneDrop n).taker = ⟨2 ^ 60, n, 2 ^ 63⟩ := h.balance
  have hmaker : w.ledger.freeBond (oneDrop n).maker = 500000000 := h.bond
  have hamount : (oneDrop n).amountFxrp = 1 := rfl
  have hprice : (oneDrop n).priceUsd18 = 2010000000000000000 := rfl
  constructor
  case unpaused => exact h.unpaused
  case decoded =>
    apply MatchInstructionLib.decode_encode
    exact ⟨by rw [hamount]; decide, by rw [hprice]; decide, (by decide : takersAddress.length < 2 ^ 64),
      (by decide : 2 ^ 63 < 2 ^ 64)⟩
  case forThis => rfl
  case signature =>
    rw [h.signer]
    exact ⟨rfl, by decide, rfl, by decide⟩
  case instruction =>
    exact ⟨h.unlocked _ (.inr (Nat.le_of_eq hid.symm)), (by decide : 1000 ≤ 2 ^ 63),
      (by decide : (2 : Address) ≠ 3), Nat.le_refl 1, (by decide : takersAddress.length ≠ 0)⟩
  case feeRead => rfl
  case fee_le => exact Nat.le_refl 0
  case feedRead => rfl
  case band =>
    rw [hprice]
    exact ⟨by decide, by decide, by decide, by decide, by decide, by decide⟩
  case notional_lt =>
    rw [hamount, hprice]
    decide
  case drops_lt =>
    rw [hamount, hprice]
    decide
  case armedUntil =>
    rw [htaker]
    exact (by decide : 1000 ≤ 2 ^ 63)
  case armed =>
    rw [htaker, hamount]
    show n + 1 ≤ 2 ^ 60
    omega
  case committed_lt =>
    rw [htaker, hamount]
    show n + 1 < 2 ^ 128
    omega
  case bound => exact h.bound.symm
  case bond =>
    rw [hmaker, hamount]
    decide
  case tag_lt =>
    rw [h.tag]
    omega
  case refundable_lt => decide

theorem Drained.lockOne {n : Nat} {w : World} (h : Drained n w) (hn : n + 2 < 2 ^ 32) :
    Drained (n + 1) (Reverting.settle w ((lockOne n).exec primitives w)) := by
  have hid : (lockID n).toNat = 2 ^ 64 + n := lockID_toNat (by omega)
  have hexec : (SampleLock.lockOne n).exec primitives w = .ok _ :=
    DvPEscrow.lock_eq_ok.mpr ⟨h.entered, oneDrop n, 0, 2000000000000000000, 1000, h.accepts hn, _,
      DvPEscrow.refundSurplus_eq_ok.mpr (.inl ⟨Nat.le_refl 0, rfl⟩), rfl⟩
  rw [hexec, Reverting.settle_ok]
  constructor
  case unpaused => exact h.unpaused
  case entered => rfl
  case signer => exact h.signer
  case balance =>
    simp only [DvPEscrow.lockedWorld, show (oneDrop n).taker = 2 from rfl, Function.update_self,
      h.balance, show (oneDrop n).amountFxrp = 1 from rfl]
  case bond =>
    simp only [DvPEscrow.lockedWorld, DvPEscrow.lockedMatch, show (oneDrop n).maker = 3 from rfl,
      Function.update_self, h.bond, show (oneDrop n).amountFxrp = 1 from rfl]
    decide
  case bound => exact h.bound
  case tag => simp only [DvPEscrow.lockedWorld, h.tag]
  case unlocked =>
    intro id hfree
    have hne : id ≠ (oneDrop n).matchId := by
      rintro rfl
      rw [show (oneDrop n).matchId = lockID n from rfl, hid] at hfree
      omega
    simp only [DvPEscrow.lockedWorld, Function.update_of_ne hne]
    exact h.unlocked id (by omega)

theorem drained {n : Nat} (hn : n + 1 < 2 ^ 32) : Drained n (locked n) := by
  induction n with
  | zero =>
    exact ⟨by decide +kernel, by decide +kernel, by decide +kernel, by decide +kernel,
      by decide +kernel, by decide +kernel, by decide +kernel, fun _ _ => rfl⟩
  | succ n ih =>
    have hlocked : locked (n + 1) =
        Reverting.settle (locked n) ((lockOne n).exec primitives (locked n)) := by
      rw [locked, List.range_succ, List.map_append, ← List.append_assoc]
      exact after_concat _ _ _ _
    rw [hlocked]
    exact (ih (by omega)).lockOne hn

/-- `matchWithSignFunc` over a snapshot of that cache. -/
def runMatch (book : SealedBook) (committed : Nat) (now : Time) :
    Except Error (MatchOutcome × SealedBook) :=
  matchWithSignFunc enclave.libraries book enclave.cfg enclave.escrow enclave.sign .asStored requestID
    ((cacheWith committed).snapshot 60 2 [3] now) now

theorem runMatch_matched (book : SealedBook) (committed : Nat) (now : Time)
    (h : (runMatch book committed now).toOption.map (fun p => p.1.outcome) = some .matched) :
    ∃ o book', runMatch book committed now = .ok (o, book') ∧ o.outcome = .matched := by
  cases hr : runMatch book committed now with
  | error e =>
    rw [hr] at h
    cases h
  | ok p =>
    rw [hr] at h
    exact ⟨p.1, p.2, rfl, Option.some.inj h⟩

theorem prefiltered {w : World} {committed t : Nat} {now : Time} {b book' : SealedBook}
    {o : MatchOutcome} (hw : Reachable primitives deployment w)
    (hsigner : w.escrow.teeSigner = teeSigner)
    (hbalance : w.escrow.balances 2 = ⟨2 ^ 60, committed, 2 ^ 63⟩)
    (hbond : w.ledger.freeBond 3 = 500000000)
    (hunlocked : (w.escrow.matchOf requestID).state = .none) (hunpaused : w.escrow.lockPaused = false)
    (htags : issuedTags w < 2 ^ 32 - 1) (ht : t ≤ 2 ^ 63)
    (htime : (t : Int) ≤ now.unix.toInt + 300)
    (hknown : ∃ cached, b.rfqs requestID = some { request with outcome := cached })
    (hmatch : runMatch b committed now = .ok (o, book')) (ho : o.outcome = .matched) :
    Prefiltered enclave deployment (env t) w b requestID request 2000000000000000000 0 now o where
  reachable := hw
  setup := setUpFor t hsigner
  admitted := takenIn
  known := hknown
  computed := by
    rw [runMatch, ← cacheOf_eq hbalance hbond] at hmatch
    exact ⟨events, 60, [3], _, .asStored, book', rfl, rfl, hmatch⟩
  matched := ho
  callable :=
    { unlocked := hunlocked
      unpaused := hunpaused
      armedUntil := by
        rw [show request.taker = 2 from rfl, hbalance]
        exact ht
      onTime := htime
      feeRead := rfl
      feedRead := ⟨t, rfl, Nat.le_refl t, Nat.le_add_right t _⟩
      mid_lt := by decide
      tags := htags }

theorem issuedTags_locked {n : Nat} (hn : n + 1 < 2 ^ 32) : issuedTags (locked n) = n := by
  have hw : Reachable primitives deployment (locked n) := ⟨world, _, deployed, rfl⟩
  have htag := hw.nextDestinationTag
  rw [(drained hn).tag] at htag
  omega

theorem prefiltered_locked {n t : Nat} {now : Time} {b book' : SealedBook} {o : MatchOutcome}
    (hn : n + 1 < 2 ^ 32) (ht : t ≤ 2 ^ 63) (htime : (t : Int) ≤ now.unix.toInt + 300)
    (hknown : ∃ cached, b.rfqs requestID = some { request with outcome := cached })
    (hmatch : runMatch b n now = .ok (o, book')) (ho : o.outcome = .matched) :
    Prefiltered enclave deployment (env t) (locked n) b requestID request 2000000000000000000 0 now
      o := by
  have h := drained hn
  have htags : issuedTags (locked n) < 2 ^ 32 - 1 := by
    rw [issuedTags_locked hn]
    omega
  exact prefiltered ⟨world, _, deployed, rfl⟩ h.signer h.balance h.bond
    (h.unlocked requestID (.inl (by decide))) h.unpaused htags ht htime hknown hmatch ho

/-- Called again, the book answers with the outcome it keeps. -/
theorem runMatch_replay {o : MatchOutcome} {book' : SealedBook}
    (h : runMatch book 0 (clock 1010) = .ok (o, book')) (now : Time) :
    (∃ cached, book'.rfqs requestID = some { request with outcome := cached }) ∧
      runMatch book' 0 now = .ok (o, book') := by
  rcases matchWithSignFunc_eq_ok.mp h with ⟨hsome, _⟩ | ⟨_, _, _, _, _, _, _, rfl⟩
  · cases hsome
  · exact ⟨⟨some o, rfl⟩, matchWithSignFunc_eq_ok.mpr (.inl ⟨rfl, rfl⟩)⟩

/-- The bytes signed at 1010 are worthless after 1310. -/
theorem runMatch_expires {o : MatchOutcome} {book' : SealedBook} {env : Env} {w : World}
    {sig : Bytes} {mi : MatchInstructionLib.MatchInstruction} {value fee mid18 ts : Nat}
    (h : runMatch book 0 (clock 1010) = .ok (o, book')) (ho : o.outcome = .matched)
    (haccepted : DvPEscrow.LockAccepted enclave.libraries.toPrimitives deployment env value
      (fromHex o.abiEncoded) sig w mi fee mid18 ts) : env.timestamp ≤ 1310 := by
  obtain ⟨mid, q, data, _, hready, heligible, _, hdata, _, _, habi, _⟩ :=
    matched_cases (show book.rfqs requestID = some request from rfl) rfl h ho
  have hmid : mid = (2000000000000000000 : Nat) := (Option.some.inj hready.midE18).symm
  subst mid
  have hdecode := decode_winningTuple (setUpFor (w := Sample.world) 0 rfl).packs rfl (by decide)
    (by decide) heligible hdata
  have hmi := haccepted.decoded
  rw [habi, fromHex_hexText, hdecode, Option.some.injEq] at hmi
  have hunexpired := haccepted.instruction.unexpired
  rw [← hmi] at hunexpired
  exact hunexpired

end SampleLock

section Results

variable {E : Enclave} {d : Deployment} {env : Env} {w : World} {book : SealedBook} {id : Bytes32}
  {rfq : RFQ} {mid18 fee : Nat} {now : Time} {o : MatchOutcome}

/-- What the enclave signs over a snapshot of a reachable state, the escrow locks in
that state: the first outcome of an RFQ, a ledger that is bound to the escrow, and a
destination tag left to hand out. -/
theorem prefilter_refines_lock (h : Prefiltered E d env w book id rfq mid18 fee now o)
    (hfirst : book.cachedOutcome id = none) (hbound : w.ledger.escrow = d.self)
    (htags : issuedTags w ≠ 2 ^ 32 - 2) (callback : World → Except Revert World) :
    ∃ mi w', o.wire = some (instructionToWire E.libraries mi) ∧
      DvPEscrow.lock E.libraries.toPrimitives d env callback fee (fromHex o.abiEncoded)
        (fromHex o.teeSignature) w = .ok w' ∧
      OpenedAs mi (w'.escrow.matchOf id) := by
  obtain ⟨_, _, _, _, _, _, _, _, hadd⟩ := h.admitted
  obtain ⟨hadmitted, _, _, hfields, _⟩ := addRFQ_eq_ok.mp hadd
  have hid : rfq.id = id := by rw [hfields]
  obtain ⟨cached, hrfq⟩ := h.known
  have hcached : cached = none := by
    rw [SealedBook.cachedOutcome, hrfq] at hfirst
    exact hfirst
  have hsame : { rfq with outcome := cached } = rfq := by
    rw [hcached, ← hadmitted.unmatched]
  rw [hsame] at hrfq
  obtain ⟨events, _, _, snap, _, _, hsnap, hmid, hmatch⟩ := h.computed
  obtain ⟨mid, q, data, sig, hready, heligible, hwire, hdata, hsig, hlen, habi, htee⟩ :=
    matched_cases hrfq hadmitted.unmatched hmatch h.matched
  have hmid18 : mid = mid18 := by
    have hsome := hready.midE18
    rw [hmid, Option.some.injEq] at hsome
    exact hsome.symm
  subst mid
  obtain ⟨p, hp⟩ := h.reachable.escrowPool
  have hwithin : Within w rfq.taker snap := by
    rw [hsnap]
    exact (backed_cacheOf hp.committed_le_armed events).snapshot _ _ _ _
  obtain ⟨ts, haccepted⟩ := lock_accepted h.reachable h.setup h.callable hbound htags hid hadmitted
    hready heligible hwithin hdata hsig hlen
  obtain ⟨w', hlock, hopened⟩ := lock_opens callback h.reachable.entered haccepted
  refine ⟨_, w', hwire, ?_, ?_⟩
  · rw [habi, htee, fromHex_hexText, fromHex_hexText]
    exact hlock
  · have hmatchId : (onChain (winningTuple E.escrow rfq q now)).matchId = id := hid
    rw [hmatchId] at hopened
    rw [hopened]
    exact ⟨rfl, rfl, rfl, rfl⟩

end Results

open SampleLock SampleBook in
theorem prefilter_refines_lock_first :
    ∃ (o : MatchOutcome) (mi : Matcher.MatchInstruction) (w' : World),
      o.outcome = .matched ∧ o.wire = some (instructionToWire enclave.libraries mi) ∧
      DvPEscrow.lock Sample.primitives SampleLock.deployment (Sample.env 1010) .ok 0
        (fromHex o.abiEncoded) (fromHex o.teeSignature) (locked 0) = .ok w' ∧
      OpenedAs mi (w'.escrow.matchOf requestID) := by
  obtain ⟨o, book', hmatch, ho⟩ :=
    runMatch_matched book 0 (clock 1010) (by decide +kernel)
  obtain ⟨mi, w', hwire, hlock, hopened⟩ := prefilter_refines_lock
    (prefiltered_locked (n := 0) (t := 1010) (by decide) (by decide) (by decide) ⟨none, rfl⟩ hmatch ho)
    rfl (drained (by decide)).bound (by rw [issuedTags_locked (by decide)]; decide) .ok
  exact ⟨o, mi, w', ho, hwire, hlock, hopened⟩

/-- A MATCHED outcome whose `lock` reverts all the same. -/
structure Refused (E : Enclave) (d : Deployment) (env : Env) (w : World) (book : SealedBook)
    (id : Bytes32) (rfq : RFQ) (mid18 fee : Nat) (now : Time) (o : MatchOutcome) : Prop where
  prefiltered : Prefiltered E d env w book id rfq mid18 fee now o
  reverts : ∀ callback w', DvPEscrow.lock E.libraries.toPrimitives d env callback fee
    (fromHex o.abiEncoded) (fromHex o.teeSignature) w ≠ .ok w'

open SampleLock SampleBook in
/-- Each of the three conditions is needed: before the ledger is bound, in a replay after
the first expiry, and once `2 ^ 32 - 2` tags are issued, the `lock` reverts. -/
theorem prefilter_refused :
    (∃ o, Refused enclave SampleLock.deployment (Sample.env 1010) unbound book requestID request
        2000000000000000000 0 (clock 1010) o ∧
      book.cachedOutcome requestID = none ∧ issuedTags unbound = 0) ∧
    (∃ o book', runMatch book 0 (clock 1010) = .ok (o, book') ∧
      Refused enclave SampleLock.deployment (Sample.env 2000) (locked 0) book' requestID request
        2000000000000000000 0 (clock 2000) o ∧
      (locked 0).ledger.escrow = SampleLock.deployment.self ∧ issuedTags (locked 0) = 0) ∧
    (∃ o, Refused enclave SampleLock.deployment (Sample.env 1010) (locked (2 ^ 32 - 2)) book requestID
        request 2000000000000000000 0 (clock 1010) o ∧
      book.cachedOutcome requestID = none ∧
      (locked (2 ^ 32 - 2)).ledger.escrow = SampleLock.deployment.self ∧
      issuedTags (locked (2 ^ 32 - 2)) = 2 ^ 32 - 2) := by
  obtain ⟨o, book', hmatch, ho⟩ :=
    runMatch_matched book 0 (clock 1010) (by decide +kernel)
  refine ⟨⟨o, ⟨?_, ?_⟩, rfl, by decide +kernel⟩, ⟨o, book', hmatch, ⟨?_, ?_⟩, ?_, ?_⟩, ?_⟩
  · exact prefiltered ⟨Sample.world, _, deployed, rfl⟩ (by decide +kernel) (by decide +kernel)
      (by decide +kernel) (by decide +kernel) (by decide +kernel) (by decide +kernel) (by decide)
      (by decide) ⟨none, rfl⟩ hmatch ho
  · intro callback w' hlock
    obtain ⟨_, _, _, _, _, haccepted, _⟩ := DvPEscrow.lock_eq_ok.mp hlock
    have hbound := haccepted.bound
    revert hbound
    decide +kernel
  · obtain ⟨hknown, hreplay⟩ := runMatch_replay hmatch (clock 2000)
    exact prefiltered_locked (by decide) (by decide) (by decide) hknown hreplay ho
  · intro callback w' hlock
    obtain ⟨_, _, _, _, _, haccepted, _⟩ := DvPEscrow.lock_eq_ok.mp hlock
    have htime := runMatch_expires hmatch ho haccepted
    revert htime
    decide
  · exact (drained (by decide)).bound
  · exact issuedTags_locked (by decide)
  · obtain ⟨o, book', hmatch, ho⟩ :=
      runMatch_matched book (2 ^ 32 - 2) (clock 1010) (by decide +kernel)
    have h := drained (n := 2 ^ 32 - 2) (by decide)
    refine ⟨o, ⟨?_, ?_⟩, rfl, h.bound, issuedTags_locked (by decide)⟩
    · exact prefiltered_locked (by decide) (by decide) (by decide) ⟨none, rfl⟩ hmatch ho
    · intro callback w' hlock
      obtain ⟨_, _, _, _, _, haccepted, _⟩ := DvPEscrow.lock_eq_ok.mp hlock
      have htag := haccepted.tag_lt
      rw [h.tag] at htag
      omega

end WhisperDesk.Fcewire.Refinement
