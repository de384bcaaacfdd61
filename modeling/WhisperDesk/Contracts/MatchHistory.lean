import WhisperDesk.Contracts.Settlement

/-!
# Match histories

The escrow's events seen from one match: what was logged about it is what its
stored state calls for, with the stored terms in it. Seen across matches: the
`k`-th lock carries tag `k`, and no payment id stands in two releases.
-/
namespace WhisperDesk

open Function (update)
open Reverting
open DvPEscrow (Deployment LockAccepted lockedMatch bandBips)
open MatchInstructionLib (MatchInstruction)

/-- The match an event of the escrow is about. -/
def Event.matchId : Event → Option Bytes32
  | .matchLocked id .. => some id
  | .matchReleased id .. => some id
  | .matchRefunded id .. => some id
  | _ => none

/-- The destination tag a `MatchLocked` event hands out. -/
def Event.tag : Event → Option Nat
  | .matchLocked _ _ _ _ _ tag .. => some tag
  | _ => none

/-- The payment a `MatchReleased` event is for. -/
def Event.payment : Event → Option Bytes32
  | .matchReleased _ _ _ xrplTxId => some xrplTxId
  | _ => none

/-- Everything the escrow logged about one match, newest first. -/
def matchHistory (id : Bytes32) (log : List Event) : List Event :=
  log.filter (fun e => e.matchId = some id)

def tagsOf (log : List Event) : List Nat := log.filterMap Event.tag
def paymentsOf (log : List Event) : List Bytes32 := log.filterMap Event.payment

theorem matchHistory_cons (id : Bytes32) (e : Event) (log : List Event) :
    matchHistory id (e :: log) = if e.matchId = some id then e :: matchHistory id log
      else matchHistory id log := by
  simp [matchHistory, List.filter_cons]

/-- An event of another match, or of no match, is not in the history. -/
theorem matchHistory_cons_of_ne {id : Bytes32} {e : Event} (log : List Event)
    (h : e.matchId ≠ some id) : matchHistory id (e :: log) = matchHistory id log := by
  rw [matchHistory_cons, if_neg h]

theorem matchHistory_cons_of_eq {id : Bytes32} {e : Event} (log : List Event)
    (h : e.matchId = some id) : matchHistory id (e :: log) = e :: matchHistory id log := by
  rw [matchHistory_cons, if_pos h]

/-- The event that opened a match, from what the match still holds. -/
def Match.lockedEvent (m : Match) (id : Bytes32) (address : Bytes) (price mid18 : Nat) : Event :=
  .matchLocked id m.taker m.maker m.amountFxrp m.xrpDrops m.destinationTag address
    m.paymentDeadline m.refundAfter price mid18

/-- What the event adds to the stored terms: the address behind the hash, and a
price in the band that gives the stored drops. -/
structure Quoted (P : Primitives) (m : Match) (address : Bytes) (price mid18 : Nat) : Prop where
  hash : P.keccak256 address = m.takerXrplAddressHash
  nonempty : address ≠ []
  drops : m.xrpDrops = m.amountFxrp * price / mid18
  lower : mid18 * (10000 - bandBips) ≤ price * 10000
  upper : price * 10000 ≤ mid18 * (10000 + bandBips)

/-- What a match's state calls for in its history. -/
inductive Match.Logged (P : Primitives) (id : Bytes32) (m : Match) : List Event → Prop
  | none (h : m.state = .none) : Logged P id m []
  | locked {address : Bytes} {price mid18 : Nat} (h : m.state = .locked)
      (hquoted : Quoted P m address price mid18) :
      Logged P id m [m.lockedEvent id address price mid18]
  | released {address : Bytes} {price mid18 : Nat} (txId : Bytes32) (h : m.state = .released)
      (hquoted : Quoted P m address price mid18) :
      Logged P id m
        [.matchReleased id m.maker m.amountFxrp txId, m.lockedEvent id address price mid18]
  | refunded {address : Bytes} {price mid18 : Nat} (h : m.state = .refunded)
      (hquoted : Quoted P m address price mid18) :
      Logged P id m
        [.matchRefunded id m.taker m.amountFxrp m.bondAmount, m.lockedEvent id address price mid18]

theorem Match.Logged.of_none {P : Primitives} {id : Bytes32} {m : Match} {history : List Event}
    (h : m.Logged P id history) (hstate : m.state = .none) : history = [] := by
  cases h with
  | none => rfl
  | locked h => rw [hstate] at h; cases h
  | released _ h => rw [hstate] at h; cases h
  | refunded h => rw [hstate] at h; cases h

theorem Match.Logged.of_locked {P : Primitives} {id : Bytes32} {m : Match} {history : List Event}
    (h : m.Logged P id history) (hstate : m.state = .locked) :
    ∃ address price mid18, Quoted P m address price mid18 ∧
      history = [m.lockedEvent id address price mid18] := by
  cases h with
  | none h => rw [hstate] at h; cases h
  | locked h hquoted => exact ⟨_, _, _, hquoted, rfl⟩
  | released _ h => rw [hstate] at h; cases h
  | refunded h => rw [hstate] at h; cases h

/-- The events of the escrow and its tables say the same. -/
structure Recorded (P : Primitives) (w : World) : Prop where
  history : ∀ id, (w.escrow.matchOf id).Logged P id (matchHistory id w.log)
  used : ∀ txId, w.escrow.usedTxId txId = true ↔ txId ∈ paymentsOf w.log
  once : (paymentsOf w.log).Nodup
  tags : tagsOf w.log = (List.range' 1 (tagsOf w.log).length).reverse
  next : w.escrow.nextDestinationTag = (tagsOf w.log).length + 1

namespace Recorded

variable {P : Primitives} {d : Deployment} {w w' : World}

theorem genesis (hw : Genesis w) : Recorded P w where
  history id := by
    rw [hw.matchOf, hw.log]
    exact .none rfl
  used txId := by simp [hw.usedTxId, hw.log, paymentsOf]
  once := by simp [hw.log, paymentsOf]
  tags := by simp [hw.log, tagsOf]
  next := by simp [hw.nextDestinationTag, hw.log, tagsOf]

/-- A change that leaves the escrow's tables alone and logs nothing about a match. -/
theorem frame (hr : Recorded P w) (new : List Event) (hlog : w'.log = new ++ w.log)
    (hnew : ∀ e ∈ new, e.matchId = none) (hmatch : w'.escrow.matchOf = w.escrow.matchOf)
    (hused : w'.escrow.usedTxId = w.escrow.usedTxId)
    (hnext : w'.escrow.nextDestinationTag = w.escrow.nextDestinationTag) : Recorded P w' := by
  have htags : tagsOf w'.log = tagsOf w.log := by
    rw [tagsOf, hlog, List.filterMap_append, List.filterMap_eq_nil_iff.mpr, List.nil_append, tagsOf]
    intro e he
    have hnone := hnew e he
    cases e with
    | matchLocked => cases hnone
    | _ => rfl
  have hpayments : paymentsOf w'.log = paymentsOf w.log := by
    rw [paymentsOf, hlog, List.filterMap_append, List.filterMap_eq_nil_iff.mpr, List.nil_append,
      paymentsOf]
    intro e he
    have hnone := hnew e he
    cases e with
    | matchReleased => cases hnone
    | _ => rfl
  have hhistory (id : Bytes32) : matchHistory id w'.log = matchHistory id w.log := by
    rw [matchHistory, hlog, List.filter_append, List.filter_eq_nil_iff.mpr, List.nil_append,
      matchHistory]
    intro e he
    simp [hnew e he]
  constructor
  · intro id
    rw [hmatch, hhistory]
    exact hr.history id
  · intro txId
    rw [hused, hpayments]
    exact hr.used txId
  · rw [hpayments]; exact hr.once
  · rw [htags]; exact hr.tags
  · rw [hnext, htags]; exact hr.next

theorem lock {env : Env} {value fee mid18 ts : Nat} {data sig : Bytes} {mi : MatchInstruction}
    (hr : Recorded P w) (h : LockAccepted P d env value data sig w mi fee mid18 ts) :
    Recorded P
      { DvPEscrow.lockedWorld P d env value mi fee mid18 w with escrow.entered := true } := by
  have hquoted : Quoted P (lockedMatch P d env mi mid18 w.escrow.nextDestinationTag)
      mi.takerXrplAddress mi.priceUsd18 mid18 :=
    ⟨rfl, fun hnil => h.instruction.address (by rw [hnil]; rfl), rfl, h.band.lower, h.band.upper⟩
  constructor
  case history =>
    intro id
    simp only [DvPEscrow.lockedWorld]
    by_cases hid : id = mi.matchId
    · subst hid
      have hempty := (hr.history mi.matchId).of_none h.instruction.fresh
      rw [Function.update_self, matchHistory_cons_of_eq _ rfl, matchHistory_cons_of_ne _ (by simp [Event.matchId]),
        hempty]
      exact .locked rfl hquoted
    · rw [Function.update_of_ne hid, matchHistory_cons_of_ne _ (by simp [Event.matchId, Ne.symm hid]),
        matchHistory_cons_of_ne _ (by simp [Event.matchId])]
      exact hr.history id
  case used => exact hr.used
  case once => exact hr.once
  case tags =>
    have hnext := hr.next
    have htags := hr.tags
    simp only [DvPEscrow.lockedWorld, lockedMatch, tagsOf, List.filterMap_cons, Event.tag,
      List.length_cons] at hnext htags ⊢
    rw [List.range'_1_concat, List.reverse_append, ← htags, hnext, Nat.add_comm]
    rfl
  case next =>
    have hnext := hr.next
    simp only [DvPEscrow.lockedWorld, lockedMatch, tagsOf, List.filterMap_cons, Event.tag,
      List.length_cons] at hnext ⊢
    rw [hnext]

/-- A locked match is settled by one event more; the terms in the history stay. -/
theorem settle (hr : Recorded P w) {id : Bytes32} {state : MatchState} {e : Event} (rest : List Event)
    (hlog : w'.log = e :: rest ++ w.log) (he : e.matchId = some id)
    (hrest : ∀ e' ∈ rest, e'.matchId = none)
    (hmatch : w'.escrow.matchOf = update w.escrow.matchOf id ((w.escrow.matchOf id).settled state))
    (hlogged : ((w.escrow.matchOf id).settled state).Logged P id
      (e :: matchHistory id w.log)) (j : Bytes32) :
    (w'.escrow.matchOf j).Logged P j (matchHistory j w'.log) := by
  have hskip (i : Bytes32) : matchHistory i (rest ++ w.log) = matchHistory i w.log := by
    rw [matchHistory, List.filter_append, List.filter_eq_nil_iff.mpr, List.nil_append, matchHistory]
    intro e' he'
    simp [hrest e' he']
  rw [hlog, hmatch, List.cons_append]
  by_cases hj : j = id
  · subst hj
    rw [Function.update_self, matchHistory_cons_of_eq _ he, hskip]
    exact hlogged
  · rw [Function.update_of_ne hj, matchHistory_cons_of_ne _ (by simp [he, Ne.symm hj]), hskip]
    exact hr.history j

theorem release {env : Env} {id : Bytes32} {proof : XRPPayment.Proof} (hr : Recorded P w)
    (h : DvPEscrow.release d env id proof w = .ok w') : Recorded P w' := by
  obtain ⟨_, hlocked, hproof, _, _, _, _, _, _, hle, rfl⟩ := DvPEscrow.release_eq_ok.mp h
  obtain ⟨address, price, mid18, hquoted, hhistory⟩ := (hr.history id).of_locked hlocked
  have hunused : proof.txId ∉ paymentsOf w.log := by
    rw [← hr.used]
    exact Bool.eq_false_iff.mp hproof.unused
  constructor
  case history =>
    refine hr.settle [_, _] rfl rfl (by simp [Event.matchId]) rfl ?_
    rw [hhistory]
    exact .released _ rfl ⟨hquoted.hash, hquoted.nonempty, hquoted.drops, hquoted.lower, hquoted.upper⟩
  case used =>
    intro txId
    simp only [paymentsOf, List.filterMap_cons, Event.payment, List.mem_cons]
    by_cases htx : txId = proof.txId
    · subst htx
      simp [XRPPayment.Proof.txId]
    · have hother := hr.used txId
      simp only [paymentsOf, XRPPayment.Proof.txId] at hother htx ⊢
      simp [hother, htx]
  case once =>
    simp only [paymentsOf, List.filterMap_cons, Event.payment]
    exact List.nodup_cons.mpr ⟨hunused, hr.once⟩
  case tags => exact hr.tags
  case next => exact hr.next

theorem refund {env : Env} {id : Bytes32} (hr : Recorded P w)
    (h : DvPEscrow.refund d env id w = .ok w') : Recorded P w' := by
  obtain ⟨_, hlocked, _, _, _, _, _, _, _, hbond, _, hle, rfl⟩ := DvPEscrow.refund_eq_ok.mp h
  obtain ⟨address, price, mid18, hquoted, hhistory⟩ := (hr.history id).of_locked hlocked
  refine ⟨hr.settle [_, _, _] rfl rfl (by simp [Event.matchId]) rfl ?_, hr.used, hr.once,
    hr.tags, hr.next⟩
  rw [hhistory]
  exact .refunded rfl ⟨hquoted.hash, hquoted.nonempty, hquoted.drops, hquoted.lower, hquoted.upper⟩

theorem step (hr : Recorded P w) (h : Step P d w w') : Recorded P w' := by
  cases h with
  | quiet h =>
    rcases h.log with hlog | ⟨_, _, hlog⟩
    · exact hr.frame [] hlog (by simp) h.matchOf h.usedTxId h.nextDestinationTag
    · exact hr.frame [_] hlog (by simp [Event.matchId]) h.matchOf h.usedTxId h.nextDestinationTag
  | transfer => exact hr.frame [_] rfl (by simp [Event.matchId]) rfl rfl rfl
  | mint => exact hr.frame [_] rfl (by simp [Event.matchId]) rfl rfl rfl
  | deposit env sender amount armedUntil h =>
    obtain ⟨_, _, _, _, rfl⟩ := DvPEscrow.deposit_eq_ok.mp h
    exact hr.frame [_, _] rfl (by simp [Event.matchId]) rfl rfl rfl
  | withdraw env sender amount h =>
    obtain ⟨_, _, _, _, _, rfl⟩ := DvPEscrow.withdraw_eq_ok.mp h
    exact hr.frame [_, _] rfl (by simp [Event.matchId]) rfl rfl rfl
  | lock env value data sig mi fee mid18 ts h => exact hr.lock h
  | release env id proof h => exact hr.release h
  | refund env id h => exact hr.refund h
  | depositBond env sender amount h =>
    obtain ⟨_, _, _, _, rfl⟩ := BondLedger.depositBond_eq_ok.mp h
    exact hr.frame [_, _] rfl (by simp [Event.matchId]) rfl rfl rfl
  | withdrawBond env sender amount h =>
    obtain ⟨_, _, _, _, rfl⟩ := BondLedger.withdrawBond_eq_ok.mp h
    exact hr.frame [_, _] rfl (by simp [Event.matchId]) rfl rfl rfl
  | lockBond sender id maker amount h =>
    obtain ⟨_, _, _, rfl⟩ := BondLedger.lockBond_eq_ok.mp h
    exact hr.frame [_] rfl (by simp [Event.matchId]) rfl rfl rfl
  | releaseBond sender id h =>
    obtain ⟨_, _, _, rfl⟩ := BondLedger.releaseBond_eq_ok.mp h
    exact hr.frame [_] rfl (by simp [Event.matchId]) rfl rfl rfl
  | slashBond env sender id recipient h =>
    obtain ⟨_, _, _, _, rfl⟩ := BondLedger.slashBond_eq_ok.mp h
    exact hr.frame [_, _] rfl (by simp [Event.matchId]) rfl rfl rfl

end Recorded

section Results

variable {P : Primitives} {d : Deployment}

/-- Over every run: each match's events are those its state calls for, the tags
handed out are 1, 2, 3, … in the order of the locks, and the payments released
on are the used ones, each used once. -/
theorem match_histories {w₀ : World} (hw₀ : Deployed d w₀) (txs : List (Tx d)) :
    let w := after P w₀ txs
    (∀ id, (w.escrow.matchOf id).Logged P id (matchHistory id w.log)) ∧
    tagsOf w.log = (List.range' 1 (w.escrow.nextDestinationTag - 1)).reverse ∧
    (paymentsOf w.log).Nodup ∧ ∀ txId, w.escrow.usedTxId txId = true ↔ txId ∈ paymentsOf w.log := by
  have hr : Recorded P (after P w₀ txs) :=
    (after_steps w₀ txs).invariant (fun _ _ hu huv => hu.step huv) (Recorded.genesis hw₀.genesis)
  refine ⟨hr.history, ?_, hr.once, hr.used⟩
  rw [hr.next, Nat.add_sub_cancel]
  exact hr.tags

theorem match_histories_settling :
    let w := after Sample.primitives Sample.world (Sample.settling 1000 7)
    paymentsOf w.log = [0xAA] ∧
    (∀ id, (w.escrow.matchOf id).Logged Sample.primitives id (matchHistory id w.log)) ∧
    tagsOf w.log = (List.range' 1 (w.escrow.nextDestinationTag - 1)).reverse ∧
    (paymentsOf w.log).Nodup ∧ ∀ txId, w.escrow.usedTxId txId = true ↔ txId ∈ paymentsOf w.log :=
  ⟨by decide +kernel, match_histories Sample.deployed (Sample.settling 1000 7)⟩

end Results

end WhisperDesk
