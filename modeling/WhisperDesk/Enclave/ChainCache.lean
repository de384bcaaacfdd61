import WhisperDesk.Enclave.Handler

/-!
# snapshot.go and chainreads.go

The background cache that chain snapshots are built from. A refresh reads the
feed, the free bond of every tracked maker and the balance of every tracked
taker, each saturated to 64 bits; a read that fails leaves its entry as it was.
Nothing in the cache exceeds what the chain it was read from has.
-/
namespace WhisperDesk.Fcewire

open Go
open Matcher (ChainSnapshot)
open Function (update)

def clampUint64 : Option Int → UInt64
  | none => 0
  | some v =>
    if v ≤ 0 then 0 else if v < 2 ^ 64 then UInt64.ofNat v.toNat else UInt64.ofNat (2 ^ 64 - 1)

/-- What one refresh meets: the feed's answer, whether each balance call is
answered, and the clock when the mid and when each taker is stored. -/
structure Poll where
  getFeedByIdInWei : Option (Nat × Nat)
  midAt : Time
  freeBondUp : Address → Bool
  balancesUp : Address → Bool
  takerAt : Address → Time

def freeBond (p : Poll) (w : World) (maker : Address) : Option UInt64 :=
  if p.freeBondUp maker then some (clampUint64 (some (w.ledger.freeBond maker))) else none

/-- `armed`, `committed` and `armedUntil`. -/
def takerBalance (p : Poll) (w : World) (taker : Address) : Option (UInt64 × UInt64 × UInt64) :=
  if p.balancesUp taker then
    let bal := w.escrow.balances taker
    some (clampUint64 (some bal.armed), clampUint64 (some bal.committed),
      UInt64.ofNat bal.armedUntil)
  else none

/-- What is left of a taker's balance, nothing once it is no longer armed. -/
def available (armed committed armedUntil : UInt64) (now : Time) : UInt64 :=
  if armed > committed ∧ now.unix.toUInt64 ≤ armedUntil then armed - committed else 0

/-- An absent map entry is the zero value. The tracked addresses are sets, in the
order they are walked. -/
structure ChainCache where
  midE18 : Option Int
  midFetchAt : Option Time
  bondFree : Address → UInt64
  takerAvail : Address → UInt64
  trackedMakers : List Address
  trackedTakers : List Address

namespace ChainCache

/-- `NewChainCache`. -/
def new : ChainCache := ⟨none, none, fun _ => 0, fun _ => 0, [], []⟩

def trackMaker (addr : Address) (c : ChainCache) : ChainCache :=
  { c with trackedMakers := c.trackedMakers.insert addr }

def trackTaker (addr : Address) (c : ChainCache) : ChainCache :=
  { c with trackedTakers := c.trackedTakers.insert addr }

def refreshMid (p : Poll) (c : ChainCache) : ChainCache :=
  match p.getFeedByIdInWei with
  | some (value, _) => { c with midE18 := some value, midFetchAt := some p.midAt }
  | none => c

def refreshMaker (p : Poll) (w : World) (c : ChainCache) (m : Address) : ChainCache :=
  match freeBond p w m with
  | some amount => { c with bondFree := update c.bondFree m amount }
  | none => c

def refreshTaker (p : Poll) (w : World) (c : ChainCache) (t : Address) : ChainCache :=
  match takerBalance p w t with
  | some (armed, committed, armedUntil) =>
    { c with takerAvail := update c.takerAvail t (available armed committed armedUntil (p.takerAt t)) }
  | none => c

def refresh (p : Poll) (w : World) (c : ChainCache) : ChainCache :=
  let c := c.refreshMid p
  let makers := c.trackedMakers
  let takers := c.trackedTakers
  let c := makers.foldl (refreshMaker p w) c
  takers.foldl (refreshTaker p w) c

/-- A mid that was never fetched is given an age past the limit. -/
def snapshot (priceStaleMaxSec : Int64) (c : ChainCache) (taker : Address) (makers : List Address)
    (now : Time) : ChainSnapshot where
  midE18 := c.midE18
  midAge :=
    match c.midFetchAt with
    | none => seconds (priceStaleMaxSec + 1)
    | some t => now.sub t
  freeBondRaw m := if m ∈ makers then c.bondFree m else 0
  takerAvailableRaw := c.takerAvail taker

end ChainCache

/-- The production snapshotter. -/
def chainCache (priceStaleMaxSec : Int64) : Snapshotter ChainCache where
  trackTaker := ChainCache.trackTaker
  trackMaker := ChainCache.trackMaker
  snapshot := ChainCache.snapshot priceStaleMaxSec

/-- What the cache goes through between boot and a snapshot. -/
inductive CacheEvent where
  | trackMaker (addr : Address)
  | trackTaker (addr : Address)
  | refresh (p : Poll)

def CacheEvent.apply (w : World) (c : ChainCache) : CacheEvent → ChainCache
  | .trackMaker addr => c.trackMaker addr
  | .trackTaker addr => c.trackTaker addr
  | .refresh p => c.refresh p w

/-- The cache after a list of events, each refresh reading the chain state `w`. -/
def cacheOf (w : World) (events : List CacheEvent) : ChainCache := events.foldl (CacheEvent.apply w) .new

section Reads

theorem toNat_clampUint64 (n : Nat) : (clampUint64 (some n)).toNat = min n (2 ^ 64 - 1) := by
  unfold clampUint64
  by_cases hz : (n : Int) ≤ 0
  · have hn : n = 0 := by omega
    subst n
    rfl
  · by_cases hlt : (n : Int) < 2 ^ 64
    · have hsmall : n < 2 ^ 64 := by omega
      simp only [if_neg hz, if_pos hlt, Int.toNat_natCast]
      rw [UInt64.toNat_ofNat_of_lt' hsmall]
      omega
    · simp only [if_neg hz, if_neg hlt]
      rw [UInt64.toNat_ofNat_of_lt' (by decide)]
      omega

/-- Saturating both operands first can only make a positive difference smaller: the
smaller operand is below the limit, so it is exact. -/
theorem available_le {armed committed : Nat} {armedUntil : UInt64} {now : Time}
    (h : committed ≤ armed) :
    committed + (available (clampUint64 (some armed)) (clampUint64 (some committed)) armedUntil
      now).toNat ≤ armed := by
  unfold available
  split
  · rename_i hgt
    have hlt := UInt64.lt_iff_toNat_lt.mp hgt.1
    rw [UInt64.toNat_sub_of_le _ _ (UInt64.le_of_lt hgt.1)]
    rw [toNat_clampUint64, toNat_clampUint64] at *
    omega
  · rw [UInt64.toNat_zero]
    omega

end Reads

/-- Every amount in the cache is there on the chain. -/
structure Backed (w : World) (c : ChainCache) : Prop where
  bondFree : ∀ m, (c.bondFree m).toNat ≤ w.ledger.freeBond m
  takerAvail : ∀ t,
    (w.escrow.balances t).committed + (c.takerAvail t).toNat ≤ (w.escrow.balances t).armed

section Invariant

variable {w : World} {c : ChainCache}

theorem Backed.new (hsolvent : ∀ t, (w.escrow.balances t).committed ≤ (w.escrow.balances t).armed) :
    Backed w .new where
  bondFree _ := Nat.zero_le _
  takerAvail t := hsolvent t

theorem Backed.refreshMid (h : Backed w c) (p : Poll) : Backed w (c.refreshMid p) := by
  unfold ChainCache.refreshMid
  cases p.getFeedByIdInWei with
  | none => exact h
  | some feed => exact ⟨h.bondFree, h.takerAvail⟩

theorem Backed.refreshMaker (h : Backed w c) (p : Poll) (m : Address) :
    Backed w (c.refreshMaker p w m) := by
  unfold ChainCache.refreshMaker freeBond
  by_cases hup : p.freeBondUp m = true
  · rw [if_pos hup]
    refine ⟨fun a => ?_, h.takerAvail⟩
    by_cases ha : a = m
    · subst a
      simp only [Function.update_self, toNat_clampUint64]
      omega
    · simp only [Function.update_of_ne ha]
      exact h.bondFree a
  · rw [if_neg hup]
    exact h

theorem Backed.refreshTaker (h : Backed w c)
    (hsolvent : ∀ t, (w.escrow.balances t).committed ≤ (w.escrow.balances t).armed) (p : Poll)
    (t : Address) : Backed w (c.refreshTaker p w t) := by
  unfold ChainCache.refreshTaker takerBalance
  by_cases hup : p.balancesUp t = true
  · rw [if_pos hup]
    refine ⟨h.bondFree, fun a => ?_⟩
    by_cases ha : a = t
    · subst a
      simp only [Function.update_self]
      exact available_le (hsolvent t)
    · simp only [Function.update_of_ne ha]
      exact h.takerAvail a
  · rw [if_neg hup]
    exact h

theorem Backed.apply (h : Backed w c)
    (hsolvent : ∀ t, (w.escrow.balances t).committed ≤ (w.escrow.balances t).armed)
    (e : CacheEvent) : Backed w (e.apply w c) := by
  cases e with
  | trackMaker addr => exact ⟨h.bondFree, h.takerAvail⟩
  | trackTaker addr => exact ⟨h.bondFree, h.takerAvail⟩
  | refresh p =>
    have hmakers := List.foldlRecOn (c.refreshMid p).trackedMakers _ (h.refreshMid p)
      fun _ hc m _ => hc.refreshMaker p m
    exact List.foldlRecOn _ _ hmakers fun _ hc t _ => hc.refreshTaker hsolvent p t

/-- Whatever the cache went through, it promises no more than the chain has. -/
theorem backed_cacheOf
    (hsolvent : ∀ t, (w.escrow.balances t).committed ≤ (w.escrow.balances t).armed)
    (events : List CacheEvent) : Backed w (cacheOf w events) := by
  induction events using List.reverseRecOn with
  | nil => exact .new hsolvent
  | append_singleton events e ih =>
    rw [cacheOf, List.foldl_concat]
    exact ih.apply hsolvent e

/-- A snapshot that the chain can make good on, for this taker and any maker. -/
structure Within (w : World) (taker : Address) (snap : ChainSnapshot) : Prop where
  freeBond : ∀ m, (snap.freeBondRaw m).toNat ≤ w.ledger.freeBond m
  funds : (w.escrow.balances taker).committed + snap.takerAvailableRaw.toNat ≤
    (w.escrow.balances taker).armed

theorem Backed.snapshot (h : Backed w c) (priceStaleMaxSec : Int64) (taker : Address)
    (makers : List Address) (now : Time) :
    Within w taker (c.snapshot priceStaleMaxSec taker makers now) where
  freeBond m := by
    simp only [ChainCache.snapshot]
    split
    · exact h.bondFree m
    · exact Nat.zero_le _
  funds := h.takerAvail taker

end Invariant

end WhisperDesk.Fcewire
