import WhisperDesk.Enclave.ChainCache
import WhisperDesk.Enclave.MatchingRule

/-!
# How old a match's data can be

The cache beside a record of when each of its values was read, and what the
feed said about its own age. A refresh replaces values one by one and any read may
fail. What `matchCore` checks is the time since the mid was stored, against a constant
of its own: not the feed's timestamp, and nothing about the two balances. A
match keeps the configured limits just when the reads stay within them for as long
as that one check lets the mid be used.
-/
namespace WhisperDesk.Fcewire

open Go
open Matcher
open Selection
open Function (update)

/-- The two age limits of the configuration. -/
structure Cadence where
  priceStaleMaxSec : Int64
  chainSnapshotTTLSec : Int64

/-- A cache with the feed timestamp behind its mid and the instants its balances
were read at. -/
structure Dated where
  cache : ChainCache
  published : Option Nat
  bondReadAt : Address → Option Time
  takerReadAt : Address → Option Time

/-- One step of the background loop or of a handler; a refresh reads one chain state,
its bonds at the given times. -/
inductive Upkeep where
  | trackMaker (addr : Address)
  | trackTaker (addr : Address)
  | refresh (p : Poll) (w : World) (bondAt : Address → Time)

def Upkeep.apply : Upkeep → ChainCache → ChainCache
  | .trackMaker addr, c => c.trackMaker addr
  | .trackTaker addr, c => c.trackTaker addr
  | .refresh p w _, c => c.refresh p w

/-- The cache after a list of steps. -/
def cacheAfter (steps : List Upkeep) : ChainCache := steps.foldl (fun c u => u.apply c) .new

namespace Dated

def new : Dated := ⟨.new, none, fun _ => none, fun _ => none⟩

def readMid (p : Poll) (d : Dated) : Dated :=
  { d with cache := d.cache.refreshMid p, published := (p.getFeedByIdInWei.map Prod.snd).or d.published }

def readMaker (p : Poll) (w : World) (bondAt : Address → Time) (d : Dated) (m : Address) : Dated :=
  { d with
    cache := d.cache.refreshMaker p w m
    bondReadAt := if p.freeBondUp m then update d.bondReadAt m (some (bondAt m)) else d.bondReadAt }

def readTaker (p : Poll) (w : World) (d : Dated) (t : Address) : Dated :=
  { d with
    cache := d.cache.refreshTaker p w t
    takerReadAt := if p.balancesUp t then update d.takerReadAt t (some (p.takerAt t)) else d.takerReadAt }

def refresh (p : Poll) (w : World) (bondAt : Address → Time) (d : Dated) : Dated :=
  let d := d.readMid p
  let makers := d.cache.trackedMakers
  let takers := d.cache.trackedTakers
  let d := makers.foldl (readMaker p w bondAt) d
  takers.foldl (readTaker p w) d

def step (d : Dated) : Upkeep → Dated
  | .trackMaker addr => { d with cache := d.cache.trackMaker addr }
  | .trackTaker addr => { d with cache := d.cache.trackTaker addr }
  | .refresh p w bondAt => d.refresh p w bondAt

/-- The dated cache after a list of steps. -/
def after (steps : List Upkeep) : Dated := steps.foldl step .new

theorem foldl_readMaker_cache (p : Poll) (w : World) (bondAt : Address → Time) (d : Dated)
    (makers : List Address) :
    (makers.foldl (readMaker p w bondAt) d).cache = makers.foldl (ChainCache.refreshMaker p w) d.cache := by
  induction makers generalizing d with
  | nil => rfl
  | cons m makers ih => exact ih (d.readMaker p w bondAt m)

theorem foldl_readTaker_cache (p : Poll) (w : World) (d : Dated) (takers : List Address) :
    (takers.foldl (readTaker p w) d).cache = takers.foldl (ChainCache.refreshTaker p w) d.cache := by
  induction takers generalizing d with
  | nil => rfl
  | cons t takers ih => exact ih (d.readTaker p w t)

theorem step_cache (d : Dated) (u : Upkeep) : (d.step u).cache = u.apply d.cache := by
  cases u with
  | trackMaker addr => rfl
  | trackTaker addr => rfl
  | refresh p w bondAt =>
    simp only [step, refresh, foldl_readTaker_cache, foldl_readMaker_cache]
    rfl

/-- The record only watches: the cache inside is the cache. -/
theorem after_cache (steps : List Upkeep) : (after steps).cache = cacheAfter steps := by
  induction steps using List.reverseRecOn with
  | nil => rfl
  | append_singleton steps u ih =>
    rw [after, List.foldl_concat, step_cache, cacheAfter, List.foldl_concat]
    exact congrArg u.apply ih

end Dated

/-- The limits hold at `now`, for the mid and the two balances of a match. -/
structure Fresh (k : Cadence) (d : Dated) (taker maker : Address) (now : Time) : Prop where
  mid : ∃ ts, d.published = some ts ∧ now.nanos ≤ (ts + k.priceStaleMaxSec.toInt) * 10 ^ 9
  funds : ∃ t, d.takerReadAt taker = some t ∧
    now.nanos ≤ t.nanos + k.chainSnapshotTTLSec.toInt * 10 ^ 9
  bond : ∃ t, d.bondReadAt maker = some t ∧
    now.nanos ≤ t.nanos + k.chainSnapshotTTLSec.toInt * 10 ^ 9

/-- Whatever RFQ, quotes and time it is asked for, a match made from this cache is
fresh. -/
def FailsClosed (L : Libraries) (escrow : Address) (cfg : Matcher.Config) (k : Cadence) (d : Dated) :
    Prop :=
  ∀ rfq quotes makers now o, Admitted cfg rfq →
    matchCore L cfg escrow rfq quotes (d.cache.snapshot k.priceStaleMaxSec rfq.taker makers now) now =
      .ok o →
    o.outcome = .matched → ∃ mi, o.toSign = some mi ∧ Fresh k d mi.taker mi.maker now

/-- The last instant at which a mid stored at `t` passes the age check. -/
def lastUse (t : Time) : Time := ⟨t.nanos + 60 * 10 ^ 9⟩

/-- Everything that could be matched is still fresh when the mid goes out of use. -/
def StaysFresh (cfg : Matcher.Config) (k : Cadence) (d : Dated) : Prop :=
  ∀ mid t taker maker, d.cache.midE18 = some mid → 0 < mid → d.cache.midFetchAt = some t →
    0 < seconds cfg.quoteTTLSec → maker ≠ taker → cfg.minBlockFxrpRaw ≤ d.cache.takerAvail taker →
    cfg.minBlockFxrpRaw.toNat / 100 ≤ (d.cache.bondFree maker).toNat →
    Fresh k d taker maker (lastUse t)

section Exact

variable {L : Libraries} {escrow : Address} {cfg : Matcher.Config} {k : Cadence} {d : Dated}

theorem Fresh.mono {taker maker : Address} {now now' : Time} (h : Fresh k d taker maker now')
    (hle : now.nanos ≤ now'.nanos) : Fresh k d taker maker now := by
  obtain ⟨⟨ts, hts, hmid⟩, ⟨t, ht, hfunds⟩, ⟨u, hu, hbond⟩⟩ := h
  exact ⟨⟨ts, hts, hle.trans hmid⟩, ⟨t, ht, hle.trans hfunds⟩, ⟨u, hu, hle.trans hbond⟩⟩

/-- The age check, in whole numbers: 64 bits saturate far above its limit. -/
theorem sub_le_maxPriceStaleness {now t : Time} :
    now.sub t ≤ maxPriceStaleness ↔ now.nanos ≤ (lastUse t).nanos := by
  have hlimit : maxPriceStaleness.toInt = 60 * 10 ^ 9 := by decide
  have hsub : (now.sub t).toInt = max (-2 ^ 63) (min (2 ^ 63 - 1) (now.nanos - t.nanos)) := by
    rw [Time.sub, Int64.toInt_ofInt_of_le (by omega) (by omega)]
  rw [Int64.le_iff_toInt_le, hlimit, hsub, lastUse]
  simp only
  omega

theorem sub_self (t : Time) : t.sub t = 0 := by
  rw [Time.sub, Int.sub_self]
  decide

/-- The mid and the time it was stored come together. -/
def MidStamped (c : ChainCache) : Prop := c.midE18.isSome = c.midFetchAt.isSome

theorem midStamped_refresh {c : ChainCache} (h : MidStamped c) (p : Poll) (w : World) :
    MidStamped (c.refresh p w) := by
  have hmid : MidStamped (c.refreshMid p) := by
    unfold ChainCache.refreshMid
    cases p.getFeedByIdInWei with
    | none => exact h
    | some feed => rfl
  have hmaker : ∀ (c : ChainCache) m, MidStamped c → MidStamped (c.refreshMaker p w m) := by
    intro c m hc
    unfold ChainCache.refreshMaker
    cases freeBond p w m <;> exact hc
  have htaker : ∀ (c : ChainCache) t, MidStamped c → MidStamped (c.refreshTaker p w t) := by
    intro c t hc
    unfold ChainCache.refreshTaker
    cases takerBalance p w t <;> exact hc
  have hmakers := List.foldlRecOn (c.refreshMid p).trackedMakers _ hmid fun c hc m _ => hmaker c m hc
  exact List.foldlRecOn _ _ hmakers fun c hc t _ => htaker c t hc

theorem midStamped_after (steps : List Upkeep) : MidStamped (Dated.after steps).cache := by
  rw [Dated.after_cache]
  induction steps using List.reverseRecOn with
  | nil => rfl
  | append_singleton steps u ih =>
    rw [cacheAfter, List.foldl_concat]
    cases u with
    | trackMaker addr => exact ih
    | trackTaker addr => exact ih
    | refresh p w bondAt => exact midStamped_refresh ih p w

/-- What a match says about the cache it was made from. -/
theorem usable_of_matched {rfq : RFQ} {quotes : List Quote} {makers : List Address} {now : Time}
    {o : MatchOutcome} (hadmitted : Admitted cfg rfq) (hstamped : MidStamped d.cache)
    (ho : matchCore L cfg escrow rfq quotes
      (d.cache.snapshot k.priceStaleMaxSec rfq.taker makers now) now = .ok o)
    (hmatched : o.outcome = .matched) :
    ∃ mid t w, d.cache.midE18 = some mid ∧ 0 < mid ∧ d.cache.midFetchAt = some t ∧
      now.nanos ≤ (lastUse t).nanos ∧ 0 < seconds cfg.quoteTTLSec ∧ w.maker ≠ rfq.taker ∧
      cfg.minBlockFxrpRaw ≤ d.cache.takerAvail rfq.taker ∧
      cfg.minBlockFxrpRaw.toNat / 100 ≤ (d.cache.bondFree w.maker).toNat ∧
      o.toSign = some (instructionFor escrow rfq w now) := by
  rcases matchCore_cases ho with ⟨reasons, rfl⟩ | ⟨mid, w, reasons, hready, hw, hkeep, rfl⟩
  · cases hmatched
  · have helig := (rejection_eq_none _ _ _ _ _ _).mp hkeep
    have hself : w.maker ≠ rfq.taker := helig .selfMatch (by decide)
    obtain ⟨hage, httl⟩ := helig .stale (by decide)
    have hbond : rfq.fxrpAmountRaw.toNat / 100 ≤
        ((d.cache.snapshot k.priceStaleMaxSec rfq.taker makers now).freeBondRaw w.maker).toNat :=
      helig .insufficientBond (by decide)
    have hmid : d.cache.midE18 = some mid := hready.midE18
    obtain ⟨t, ht⟩ : ∃ t, d.cache.midFetchAt = some t := by
      rw [MidStamped, hmid] at hstamped
      exact Option.isSome_iff_exists.mp hstamped.symm
    have hfresh := hready.fresh
    simp only [ChainCache.snapshot, ht] at hfresh
    have hsize := UInt64.le_iff_toNat_le.mp hadmitted.size
    have hcached : rfq.fxrpAmountRaw.toNat / 100 ≤ (d.cache.bondFree w.maker).toNat := by
      simp only [ChainCache.snapshot] at hbond
      split at hbond
      · exact hbond
      · exact hbond.trans (Nat.zero_le _)
    exact ⟨mid, t, w, hmid, hready.mid_pos, ht, sub_le_maxPriceStaleness.mp hfresh,
      Int64.lt_of_le_of_lt hage httl, hself, UInt64.le_trans hadmitted.size hready.funds,
      (Nat.div_le_div_right hsize).trans hcached, matched_toSign ..⟩

theorem failsClosed_of_staysFresh (hstamped : MidStamped d.cache) (h : StaysFresh cfg k d) :
    FailsClosed L escrow cfg k d := by
  intro rfq quotes makers now o hadmitted ho hmatched
  obtain ⟨mid, t, w, hmid, hpos, ht, hage, httl, hself, hfunds, hbond, hsign⟩ :=
    usable_of_matched hadmitted hstamped ho hmatched
  exact ⟨_, hsign, (h mid t rfq.taker w.maker hmid hpos ht httl hself hfunds hbond).mono hage⟩

/-- The smallest RFQ of a taker at the mid, and a quote on it that just came in. -/
def probe (cfg : Matcher.Config) (taker : Address) (mid : Int) (now : Time) : RFQ where
  id := 0
  taker := taker
  fxrpAmountRaw := cfg.minBlockFxrpRaw
  limitPriceE18 := mid
  xrplAddress := SampleBook.request.xrplAddress
  receivedAt := now
  windowEndsAt := now
  expiresAt := now
  outcome := none

def probeQuote (cfg : Matcher.Config) (maker : Address) (mid : Int) (now : Time) : Quote :=
  ⟨0, maker, mid, cfg.minBlockFxrpRaw, 1, now, 1⟩

/-- Whatever is usable is used by some match, as late as the mid can be. -/
theorem staysFresh_of_failsClosed (h : FailsClosed L escrow cfg k d) : StaysFresh cfg k d := by
  intro mid t taker maker hmid hpos ht httl hself hfunds hbond
  have hadmitted : Admitted cfg (probe cfg taker mid (lastUse t)) :=
    ⟨UInt64.le_refl _, List.cons_ne_nil _ _, hpos, rfl⟩
  have hready : Ready (probe cfg taker mid (lastUse t))
      (d.cache.snapshot k.priceStaleMaxSec taker [maker] (lastUse t)) mid := by
    refine ⟨hmid, hpos, ?_, hfunds⟩
    simp only [ChainCache.snapshot, ht]
    exact sub_le_maxPriceStaleness.mpr (le_refl _)
  have hkeep : rejection cfg (probe cfg taker mid (lastUse t))
      (d.cache.snapshot k.priceStaleMaxSec taker [maker] (lastUse t)) mid (lastUse t)
      (probeQuote cfg maker mid (lastUse t)) = none := by
    rw [rejection_eq_none]
    intro r hr
    cases r with
    | selfMatch => exact hself
    | stale =>
      show 0 ≤ Time.sub _ _ ∧ Time.sub _ _ < seconds cfg.quoteTTLSec
      rw [probeQuote, sub_self]
      exact ⟨Int64.le_refl 0, httl⟩
    | undersized => exact UInt64.le_refl _
    | outOfBand =>
      show mid * (10000 - cfg.bandBips.toNat) ≤ mid * 10000 ∧
        mid * 10000 ≤ mid * (10000 + cfg.bandBips.toNat)
      exact ⟨Int.mul_le_mul_of_nonneg_left (by omega) (by omega),
        Int.mul_le_mul_of_nonneg_left (by omega) (by omega)⟩
    | belowLimit => exact le_refl _
    | insufficientBond =>
      show cfg.minBlockFxrpRaw.toNat / 100 ≤ _
      simpa [ChainCache.snapshot, probeQuote] using hbond
    | insufficientTakerFunds => trivial
  have hkept : kept (rejection cfg (probe cfg taker mid (lastUse t))
      (d.cache.snapshot k.priceStaleMaxSec taker [maker] (lastUse t)) mid (lastUse t))
      [probeQuote cfg maker mid (lastUse t)] = [probeQuote cfg maker mid (lastUse t)] := by
    simp [kept, hkeep]
  have hmatch : matchCore L cfg escrow (probe cfg taker mid (lastUse t))
      [probeQuote cfg maker mid (lastUse t)]
      (d.cache.snapshot k.priceStaleMaxSec taker [maker] (lastUse t)) (lastUse t) = _ :=
    matchCore_of_ready hready
  rw [hkept, List.argmax_singleton] at hmatch
  obtain ⟨mi, hsign, hfresh⟩ := h _ _ [maker] _ _ hadmitted hmatch rfl
  rw [matched_toSign, Option.some.injEq] at hsign
  subst mi
  exact hfresh

end Exact

/-- One cached balance of every address, and when it was read. -/
structure Column where
  value : Address → UInt64
  readAt : Address → Option Time

namespace Column

variable (up : Address → Bool) (amount : Address → UInt64) (instant : Address → Time)

def read (c : Column) (a : Address) : Column :=
  if up a then ⟨update c.value a (amount a), update c.readAt a (some (instant a))⟩ else c

/-- A balance that counts for something is good until `limit`. -/
def Good (ttl : Int) (limit : Time) (c : Column) (a : Address) : Prop :=
  c.value a ≠ 0 → ∃ t, c.readAt a = some t ∧ limit.nanos ≤ t.nanos + ttl

variable {up amount instant} {ttl : Int} {limit : Time} {a : Address}

theorem foldl_good (hread : ∀ a, up a = true → limit.nanos ≤ (instant a).nanos + ttl)
    (addrs : List Address) (c : Column) (h : c.Good ttl limit a ∨ a ∈ addrs ∧ up a = true) :
    (addrs.foldl (read up amount instant) c).Good ttl limit a := by
  induction addrs generalizing c with
  | nil => exact h.resolve_right fun h => by cases h.1
  | cons x addrs ih =>
    apply ih
    by_cases hx : a = x ∧ up a = true
    · obtain ⟨rfl, hup⟩ := hx
      refine .inl fun _ => ⟨instant a, ?_, hread a hup⟩
      rw [read, if_pos hup]
      exact Function.update_self _ _ _
    · rcases h with h | ⟨hmem, hup⟩
      · left
        have hsame : (read up amount instant c x).value a = c.value a ∧
            (read up amount instant c x).readAt a = c.readAt a := by
          unfold read
          split
          · rename_i hupx
            have hne : a ≠ x := fun heq => hx ⟨heq, by rw [heq]; exact hupx⟩
            exact ⟨Function.update_of_ne hne .., Function.update_of_ne hne ..⟩
          · exact ⟨rfl, rfl⟩
        intro hvalue
        rw [hsame.1] at hvalue
        rw [hsame.2]
        exact h hvalue
      · rcases List.mem_cons.mp hmem with rfl | hmem
        · exact absurd ⟨rfl, hup⟩ hx
        · exact .inr ⟨hmem, hup⟩

/-- A read of all the addresses that count for something keeps them good, if it fails for
none of them or they stay good without it. -/
theorem foldl_good_of_tracked (hread : ∀ a, up a = true → limit.nanos ≤ (instant a).nanos + ttl)
    {addrs : List Address} {c : Column} (htracked : ∀ a, c.value a ≠ 0 → a ∈ addrs)
    (h : c.Good ttl limit a ∨ ∀ b ∈ addrs, up b = true) :
    (addrs.foldl (read up amount instant) c).Good ttl limit a := by
  apply foldl_good hread
  rcases h with hgood | hup
  · exact .inl hgood
  · by_cases hvalue : c.value a = 0
    · exact .inl fun hne => absurd hvalue hne
    · exact .inr ⟨htracked a hvalue, hup a (htracked a hvalue)⟩

theorem foldl_value_ne_zero (addrs : List Address) (c : Column)
    (h : (addrs.foldl (read up amount instant) c).value a ≠ 0) : c.value a ≠ 0 ∨ a ∈ addrs := by
  induction addrs generalizing c with
  | nil => exact .inl h
  | cons x addrs ih =>
    by_cases hx : a = x
    · exact .inr (by rw [hx]; exact List.mem_cons_self)
    · rcases ih _ h with hvalue | hmem
      · left
        unfold read at hvalue
        split at hvalue
        · simpa only [Function.update_of_ne hx] using hvalue
        · exact hvalue
      · exact .inr (List.mem_cons_of_mem _ hmem)

theorem foldl_tracked {addrs : List Address} {c : Column} (htracked : ∀ a, c.value a ≠ 0 → a ∈ addrs)
    (h : (addrs.foldl (read up amount instant) c).value a ≠ 0) : a ∈ addrs := by
  rcases foldl_value_ne_zero addrs c h with hvalue | hmem
  · exact htracked a hvalue
  · exact hmem

end Column

namespace Dated

def bonds (d : Dated) : Column := ⟨d.cache.bondFree, d.bondReadAt⟩
def funds (d : Dated) : Column := ⟨d.cache.takerAvail, d.takerReadAt⟩

def bondIn (w : World) (m : Address) : UInt64 := clampUint64 (some (w.ledger.freeBond m))

def fundsIn (p : Poll) (w : World) (t : Address) : UInt64 :=
  let bal := w.escrow.balances t
  available (clampUint64 (some bal.armed)) (clampUint64 (some bal.committed))
    (UInt64.ofNat bal.armedUntil) (p.takerAt t)

def withBonds (d : Dated) (c : Column) : Dated :=
  { d with cache := { d.cache with bondFree := c.value }, bondReadAt := c.readAt }

def withFunds (d : Dated) (c : Column) : Dated :=
  { d with cache := { d.cache with takerAvail := c.value }, takerReadAt := c.readAt }

theorem foldl_readMaker (p : Poll) (w : World) (bondAt : Address → Time) (d : Dated)
    (makers : List Address) :
    makers.foldl (readMaker p w bondAt) d =
      d.withBonds (makers.foldl (Column.read p.freeBondUp (bondIn w) bondAt) d.bonds) := by
  induction makers generalizing d with
  | nil => rfl
  | cons m makers ih =>
    have hstep : d.readMaker p w bondAt m =
        d.withBonds (d.bonds.read p.freeBondUp (bondIn w) bondAt m) := by
      unfold readMaker ChainCache.refreshMaker freeBond Column.read
      cases p.freeBondUp m <;> rfl
    rw [List.foldl_cons, ih, hstep]
    rfl

theorem foldl_readTaker (p : Poll) (w : World) (d : Dated) (takers : List Address) :
    takers.foldl (readTaker p w) d =
      d.withFunds (takers.foldl (Column.read p.balancesUp (fundsIn p w) p.takerAt) d.funds) := by
  induction takers generalizing d with
  | nil => rfl
  | cons t takers ih =>
    have hstep : d.readTaker p w t =
        d.withFunds (d.funds.read p.balancesUp (fundsIn p w) p.takerAt t) := by
      unfold readTaker ChainCache.refreshTaker takerBalance Column.read
      cases p.balancesUp t <;> rfl
    rw [List.foldl_cons, ih, hstep]
    rfl

theorem readMid_tracked (p : Poll) (d : Dated) :
    (d.readMid p).cache.trackedMakers = d.cache.trackedMakers ∧
      (d.readMid p).cache.trackedTakers = d.cache.trackedTakers := by
  unfold readMid ChainCache.refreshMid
  cases p.getFeedByIdInWei <;> exact ⟨rfl, rfl⟩

theorem readMid_columns (p : Poll) (d : Dated) :
    (d.readMid p).bonds = d.bonds ∧ (d.readMid p).funds = d.funds := by
  unfold readMid ChainCache.refreshMid bonds funds
  cases p.getFeedByIdInWei <;> exact ⟨rfl, rfl⟩

/-- A refresh is the feed's column and the two balance columns. -/
theorem refresh_eq (p : Poll) (w : World) (bondAt : Address → Time) (d : Dated) :
    d.refresh p w bondAt =
      ((d.readMid p).withBonds
        (d.cache.trackedMakers.foldl (Column.read p.freeBondUp (bondIn w) bondAt) d.bonds)).withFunds
        (d.cache.trackedTakers.foldl (Column.read p.balancesUp (fundsIn p w) p.takerAt) d.funds) := by
  obtain ⟨hmakers, htakers⟩ := readMid_tracked p d
  obtain ⟨hbonds, hfunds⟩ := readMid_columns p d
  rw [refresh, foldl_readTaker, foldl_readMaker, hmakers, htakers, hbonds]
  exact congrArg (fun c => ((d.readMid p).withBonds _).withFunds (List.foldl _ c _)) hfunds

end Dated

/-- A refresh that keeps to the limits: the feed is not behind by more than the price
limit less the minute a mid is used for, no balance call fails once the feed has
answered, and whatever is read is good until the mid goes out of use. -/
def Timely (k : Cadence) (d : Dated) : Upkeep → Prop
  | .refresh p _ bondAt =>
    (∀ value ts, p.getFeedByIdInWei = some (value, ts) →
      (lastUse p.midAt).nanos ≤ (ts + k.priceStaleMaxSec.toInt) * 10 ^ 9 ∧
      (∀ m ∈ d.cache.trackedMakers, p.freeBondUp m = true) ∧
      ∀ t ∈ d.cache.trackedTakers, p.balancesUp t = true) ∧
    ∀ t, (if p.getFeedByIdInWei.isSome then some p.midAt else d.cache.midFetchAt) = some t →
      (∀ m, p.freeBondUp m = true →
        (lastUse t).nanos ≤ (bondAt m).nanos + k.chainSnapshotTTLSec.toInt * 10 ^ 9) ∧
      ∀ a, p.balancesUp a = true →
        (lastUse t).nanos ≤ (p.takerAt a).nanos + k.chainSnapshotTTLSec.toInt * 10 ^ 9
  | _ => True

/-- What timely refreshes keep true. -/
structure Steady (k : Cadence) (d : Dated) : Prop where
  mid : ∀ t, d.cache.midFetchAt = some t → ∃ ts, d.published = some ts ∧
    (lastUse t).nanos ≤ (ts + k.priceStaleMaxSec.toInt) * 10 ^ 9
  bonds : ∀ t, d.cache.midFetchAt = some t → ∀ m,
    d.bonds.Good (k.chainSnapshotTTLSec.toInt * 10 ^ 9) (lastUse t) m
  funds : ∀ t, d.cache.midFetchAt = some t → ∀ a,
    d.funds.Good (k.chainSnapshotTTLSec.toInt * 10 ^ 9) (lastUse t) a
  makers : ∀ m, d.bonds.value m ≠ 0 → m ∈ d.cache.trackedMakers
  takers : ∀ a, d.funds.value a ≠ 0 → a ∈ d.cache.trackedTakers

section Runs

variable {k : Cadence} {d : Dated}

theorem steady_new : Steady k .new where
  mid t ht := by cases ht
  bonds t ht := by cases ht
  funds t ht := by cases ht
  makers m hm := absurd rfl hm
  takers a ha := absurd rfl ha

theorem Steady.refresh (h : Steady k d) {p : Poll} {w : World} {bondAt : Address → Time}
    (htimely : Timely k d (.refresh p w bondAt)) : Steady k (d.refresh p w bondAt) := by
  obtain ⟨hfeed, hread⟩ := htimely
  have hstored : (d.readMid p).cache.midFetchAt =
      if p.getFeedByIdInWei.isSome then some p.midAt else d.cache.midFetchAt := by
    unfold Dated.readMid ChainCache.refreshMid
    cases p.getFeedByIdInWei <;> rfl
  rw [Dated.refresh_eq]
  refine ⟨?_, ?_, ?_, ?_, ?_⟩
  · intro t ht
    change (d.readMid p).cache.midFetchAt = some t at ht
    rw [hstored] at ht
    change ∃ ts, (p.getFeedByIdInWei.map Prod.snd).or d.published = some ts ∧ _
    cases hanswer : p.getFeedByIdInWei with
    | none =>
      rw [hanswer] at ht
      exact h.mid t ht
    | some feed =>
      rw [hanswer] at ht
      obtain rfl : p.midAt = t := Option.some.inj ht
      exact ⟨feed.2, rfl, (hfeed feed.1 feed.2 hanswer).1⟩
  · intro t ht m
    have ht' := hstored.symm.trans ht
    apply Column.foldl_good_of_tracked (hread t ht').1 h.makers
    cases hanswer : p.getFeedByIdInWei with
    | none =>
      rw [hanswer] at ht'
      exact .inl (h.bonds t ht' m)
    | some feed => exact .inr (hfeed feed.1 feed.2 hanswer).2.1
  · intro t ht a
    have ht' := hstored.symm.trans ht
    apply Column.foldl_good_of_tracked (hread t ht').2 h.takers
    cases hanswer : p.getFeedByIdInWei with
    | none =>
      rw [hanswer] at ht'
      exact .inl (h.funds t ht' a)
    | some feed => exact .inr (hfeed feed.1 feed.2 hanswer).2.2
  · intro m hm
    change m ∈ (d.readMid p).cache.trackedMakers
    rw [(Dated.readMid_tracked p d).1]
    exact Column.foldl_tracked h.makers hm
  · intro a ha
    change a ∈ (d.readMid p).cache.trackedTakers
    rw [(Dated.readMid_tracked p d).2]
    exact Column.foldl_tracked h.takers ha

theorem Steady.step (h : Steady k d) {u : Upkeep} (htimely : Timely k d u) : Steady k (d.step u) := by
  cases u with
  | trackMaker addr =>
    exact ⟨h.mid, h.bonds, h.funds, fun m hm => List.mem_insert_of_mem (h.makers m hm), h.takers⟩
  | trackTaker addr =>
    exact ⟨h.mid, h.bonds, h.funds, h.makers, fun a ha => List.mem_insert_of_mem (h.takers a ha)⟩
  | refresh p w bondAt => exact h.refresh htimely

theorem steady_after (steps : List Upkeep)
    (htimely : ∀ before u rest, steps = before ++ u :: rest → Timely k (Dated.after before) u) :
    Steady k (Dated.after steps) := by
  induction steps using List.reverseRecOn with
  | nil => exact steady_new
  | append_singleton steps u ih =>
    rw [Dated.after, List.foldl_concat]
    apply Steady.step
    · apply ih
      rintro before u' rest rfl
      exact htimely before u' (rest ++ [u]) (by simp)
    · exact htimely steps u [] rfl

theorem staysFresh_of_steady (h : Steady k d) {cfg : Matcher.Config}
    (hmin : 100 ≤ cfg.minBlockFxrpRaw.toNat) : StaysFresh cfg k d := by
  intro mid t taker maker _ _ ht _ _ hfunds hbond
  refine ⟨h.mid t ht, h.funds t ht taker ?_, h.bonds t ht maker ?_⟩
  · intro hzero
    have hle := UInt64.le_iff_toNat_le.mp hfunds
    rw [show d.cache.takerAvail taker = 0 from hzero, UInt64.toNat_zero] at hle
    omega
  · intro hzero
    rw [show d.cache.bondFree maker = 0 from hzero, UInt64.toNat_zero] at hbond
    omega

end Runs

/-- Failing closed on stale data, exactly: after any list of steps, all matches that can
be made keep the configured limits if and only if whatever is usable stays within
them until the mid goes out of use. Timely refreshes see to that, whichever reads
fail, as long as the minimum block needs some bond. -/
theorem fails_closed (L : Libraries) (escrow : Address) (cfg : Matcher.Config) (k : Cadence) :
    (∀ steps, (Dated.after steps).cache = cacheAfter steps ∧
      (FailsClosed L escrow cfg k (Dated.after steps) ↔ StaysFresh cfg k (Dated.after steps))) ∧
    (100 ≤ cfg.minBlockFxrpRaw.toNat → ∀ steps,
      (∀ before u rest, steps = before ++ u :: rest → Timely k (Dated.after before) u) →
      FailsClosed L escrow cfg k (Dated.after steps)) := by
  refine ⟨?_, ?_⟩
  · intro steps
    exact ⟨Dated.after_cache steps, staysFresh_of_failsClosed,
      failsClosed_of_staysFresh (midStamped_after steps)⟩
  · intro hmin steps htimely
    exact failsClosed_of_staysFresh (midStamped_after steps)
      (staysFresh_of_steady (steady_after steps htimely) hmin)

/-! One refresh of one taker and one maker. -/
namespace SampleCache

def world : World :=
  { Sample.world with
    ledger := { Sample.world.ledger with freeBond := fun _ => 1000000000 }
    escrow := { Sample.world.escrow with balances := fun _ => ⟨20000000000, 0, 2000⟩ } }

/-- The feed answers at 1000 with a value of the time `published`. -/
def poll (published : Nat) : Poll where
  getFeedByIdInWei := some (2000000000000000000, published)
  midAt := SampleBook.clock 1000
  freeBondUp _ := true
  balancesUp _ := true
  takerAt _ := SampleBook.clock 1000

def steps (published : Nat) : List Upkeep :=
  [.trackTaker 2, .trackMaker 3, .refresh (poll published) world fun _ => SampleBook.clock 1000]

/-- The limits of `LoadConfig`. -/
def cadence : Cadence := ⟨60, 5⟩

theorem timely (before : List Upkeep) (u : Upkeep) (rest : List Upkeep)
    (h : steps 1000 = before ++ u :: rest) : Timely ⟨60, 60⟩ (Dated.after before) u := by
  match before, h with
  | [], h =>
    cases h
    trivial
  | [_], h =>
    cases h
    trivial
  | [_, _], h =>
    cases h
    refine ⟨?_, ?_⟩
    · rintro value ts hanswer
      cases hanswer
      exact ⟨by decide, fun _ _ => rfl, fun _ _ => rfl⟩
    · intro t ht
      cases ht
      have hgood : (lastUse (SampleBook.clock 1000)).nanos ≤
          (SampleBook.clock 1000).nanos + (60 : Int64).toInt * 10 ^ 9 := by decide
      exact ⟨fun _ _ => hgood, fun _ _ => hgood⟩
  | _ :: _ :: _ :: before, h =>
    have hlength := congrArg List.length h
    simp [steps] at hlength

/-- The sample match at 1020, from a mid that was published at 900. -/
def lateMatch : Except Error MatchOutcome :=
  matchCore SampleBook.libraries Matcher.defaultConfig 0xE5 SampleBook.request [SampleBook.high]
    ((cacheAfter (steps 900)).snapshot cadence.priceStaleMaxSec 2 [3] (SampleBook.clock 1020))
    (SampleBook.clock 1020)

end SampleCache

open SampleCache in
theorem fails_closed_sample :
    FailsClosed SampleBook.libraries 0xE5 Matcher.defaultConfig ⟨60, 60⟩ (Dated.after (steps 1000)) :=
  (fails_closed SampleBook.libraries 0xE5 Matcher.defaultConfig ⟨60, 60⟩).2 (by decide) (steps 1000) timely

open SampleCache in
/-- A mid published two minutes before the match, and balances read 20 s before it. -/
theorem stale_match :
    (∃ o, lateMatch = .ok o ∧ o.outcome = .matched) ∧
      (Dated.after (steps 900)).published = some 900 ∧
      (Dated.after (steps 900)).takerReadAt 2 = some (SampleBook.clock 1000) ∧
      (Dated.after (steps 900)).bondReadAt 3 = some (SampleBook.clock 1000) ∧
      ¬ FailsClosed SampleBook.libraries 0xE5 Matcher.defaultConfig cadence (Dated.after (steps 900)) := by
  have hmatched : lateMatch.toOption.map MatchOutcome.outcome = some .matched := by decide +kernel
  have hlate : ∃ o, lateMatch = .ok o ∧ o.outcome = .matched := by
    cases hr : lateMatch with
    | error e => rw [hr] at hmatched; cases hmatched
    | ok o =>
      rw [hr] at hmatched
      exact ⟨o, rfl, Option.some.inj hmatched⟩
  have hpublished : (Dated.after (steps 900)).published = some 900 := by decide +kernel
  refine ⟨hlate, hpublished, by decide +kernel, by decide +kernel, ?_⟩
  intro hclosed
  obtain ⟨o, ho, houtcome⟩ := hlate
  rw [lateMatch, ← Dated.after_cache] at ho
  have hadmitted : Admitted Matcher.defaultConfig SampleBook.request :=
    ⟨by decide, by decide, by decide, rfl⟩
  obtain ⟨mi, _, hfresh⟩ := hclosed SampleBook.request [SampleBook.high] [3] (SampleBook.clock 1020) o
    hadmitted ho houtcome
  obtain ⟨ts, hts, hage⟩ := hfresh.mid
  rw [hpublished, Option.some.injEq] at hts
  subst ts
  exact absurd hage (by decide)

end WhisperDesk.Fcewire
