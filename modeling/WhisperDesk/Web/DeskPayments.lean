import WhisperDesk.Web.WalletPay
import WhisperDesk.Contracts.Band

/-!
# What the desk pays

A payment is what one prepare request wrote, at most ten minutes before it was
asked for: the address in that request's body, the buffered minimum block, and
the tag counter as that request read it. The counter is the tag of the match
that is locked next, and of no match locked after another one.
-/
namespace WhisperDesk.Web

open Function (update)
open Reverting (settle)
open DvPEscrow (Deployment)
open Trace (Occurred)

namespace Desk

variable (P : Primitives) {d : Deployment}

theorem after_append (s : Desk) (before events : List (DeskEvent d)) :
    s.after P (before ++ events) = (s.after P before).after P events := List.foldl_append

theorem after_concat (s : Desk) (events : List (DeskEvent d)) (e : DeskEvent d) :
    s.after P (events ++ [e]) = (s.after P events).step P e := by
  rw [after_append]
  rfl

section Origin

variable (s₀ : Desk)

/-- A prepare request, number `q`, with that address in its body, gets the run lock. -/
def Requested (q : Nat) (xrplAddress : Bytes) (before : List (DeskEvent d)) (e : DeskEvent d) :
    Prop :=
  (∃ taker, e = .prepare taker xrplAddress) ∧ (s₀.after P before).server.arrived = q ∧
    ((s₀.after P before).server.granted .walletPrepare).isSome

/-- That request reads the tag counter. -/
def TagRead (q : Nat) (xrplAddress : Bytes) (tag : Nat) (before : List (DeskEvent d))
    (e : DeskEvent d) : Prop :=
  e = .readTag q ∧ Occurred (Requested P s₀ q xrplAddress) before ∧
    (s₀.after P before).world.escrow.nextDestinationTag = tag

/-- And it writes the record for `matchId`. -/
def Written (matchId : Bytes32) (record : PrepareRecord) (before : List (DeskEvent d))
    (e : DeskEvent d) : Prop :=
  ∃ q maker mid18, e = .record q matchId maker mid18 ∧
    Occurred (TagRead P s₀ q record.destination record.destinationTag) before ∧
    record = walletRecord d.minBlockFxrp record.destination record.destinationTag
      (s₀.after P before).now

def payment (matchId : Bytes32) (record : PrepareRecord) : XrplPayment :=
  ⟨matchId, record.destination, record.xrpDrops, record.destinationTag⟩

/-- A pay request finds the record within its time. -/
def Asked (p : XrplPayment) (before : List (DeskEvent d)) (e : DeskEvent d) : Prop :=
  e = .pay p.matchId ∧ ∃ record, Occurred (Written P s₀ p.matchId record) before ∧
    (s₀.after P before).now - record.createdAt ≤ prepareRecordTtlMs ∧ p = payment p.matchId record

/-- What a request has got to, it got to by its own events. -/
def PhaseFrom (events : List (DeskEvent d)) (q : Nat) : Option Preparing → Prop
  | some (.started _ xrplAddress) => Occurred (Requested P s₀ q xrplAddress) events
  | some (.tagRead _ xrplAddress tag) => Occurred (TagRead P s₀ q xrplAddress tag) events
  | some (.written _) | none => True

/-- Everything the server holds comes from requests before. -/
structure Origin (events : List (DeskEvent d)) (s : Desk) : Prop where
  preparing : ∀ q, PhaseFrom P s₀ events q (s.preparing q)
  stored : ∀ matchId record, s.prepareStore matchId = some record →
    Occurred (Written P s₀ matchId record) events
  paying : ∀ p ∈ s.paying, Occurred (Asked P s₀ p) events
  sent : ∀ p ∈ s.sent, Occurred (Asked P s₀ p) events

variable {P s₀} {events : List (DeskEvent d)} {s : Desk}

theorem PhaseFrom.concat {q : Nat} {phase : Option Preparing} (h : PhaseFrom P s₀ events q phase)
    (e : DeskEvent d) : PhaseFrom P s₀ (events ++ [e]) q phase := by
  match phase with
  | some (.started _ _) => exact Occurred.concat h e
  | some (.tagRead _ _ _) => exact Occurred.concat h e
  | some (.written _) => trivial
  | none => trivial

namespace Origin

theorem concat (h : Origin P s₀ events s) (e : DeskEvent d) : Origin P s₀ (events ++ [e]) s where
  preparing q := (h.preparing q).concat e
  stored matchId record hr := (h.stored matchId record hr).concat e
  paying p hp := (h.paying p hp).concat e
  sent p hp := (h.sent p hp).concat e

theorem setPhase (h : Origin P s₀ events s) (q : Nat) {phase : Option Preparing}
    (hphase : PhaseFrom P s₀ events q phase) :
    Origin P s₀ events { s with preparing := update s.preparing q phase } where
  preparing q' := by
    by_cases heq : q' = q
    · subst q'
      simpa only [Function.update_self] using hphase
    · simpa only [Function.update_of_ne heq] using h.preparing q'
  stored := h.stored
  paying := h.paying
  sent := h.sent

theorem setRecord (h : Origin P s₀ events s) (matchId : Bytes32) {entry : Option PrepareRecord}
    (hentry : ∀ record ∈ entry, Occurred (Written P s₀ matchId record) events) :
    Origin P s₀ events { s with prepareStore := update s.prepareStore matchId entry } where
  preparing := h.preparing
  stored matchId' record hr := by
    by_cases heq : matchId' = matchId
    · subst matchId'
      have hrecord : entry = some record := by simpa only [Function.update_self] using hr
      exact hentry record hrecord
    · exact h.stored matchId' record (by simpa only [Function.update_of_ne heq] using hr)
  paying := h.paying
  sent := h.sent

theorem ask (h : Origin P s₀ events s) {p : XrplPayment} (hp : Occurred (Asked P s₀ p) events) :
    Origin P s₀ events { s with paying := s.paying ++ [p] } where
  preparing := h.preparing
  stored := h.stored
  paying p' hp' := by
    obtain hold | hnew := List.mem_append.mp hp'
    · exact h.paying p' hold
    · rw [List.mem_singleton.mp hnew]
      exact hp
  sent := h.sent

theorem settled (h : Origin P s₀ events s) (k : Nat) {sent : List XrplPayment}
    (hsent : ∀ p ∈ sent, p ∈ s.sent ∨ p ∈ s.paying) :
    Origin P s₀ events { s with paying := s.paying.eraseIdx k, sent } where
  preparing := h.preparing
  stored := h.stored
  paying p hp := h.paying p (List.mem_of_mem_eraseIdx hp)
  sent p hp := by
    obtain hold | hnew := hsent p hp
    · exact h.sent p hold
    · exact h.paying p hnew

theorem elsewhere (h : Origin P s₀ events s) (server : Server) (world : World) :
    Origin P s₀ events { s with server, world } :=
  ⟨h.preparing, h.stored, h.paying, h.sent⟩

theorem serve (h : Origin P s₀ events s) (e : Event) : Origin P s₀ events (s.serve e) := by
  cases e with
  | tick ms => exact h.elsewhere _ _
  | arrive request => exact h.elsewhere _ _
  | finish q ending =>
    by_cases hmay : s.mayEnd q ending = true
    · rw [Desk.serve, if_pos hmay]
      have hidle : PhaseFrom P s₀ events q none := trivial
      exact (h.setPhase q hidle).elsewhere _ _
    · rw [Desk.serve, if_neg hmay]
      exact h

theorem prepare (h : Origin P s₀ events s) {taker : Address} {xrplAddress : Bytes}
    (hnew : (s.server.granted .walletPrepare).isSome →
      Occurred (Requested P s₀ s.server.arrived xrplAddress) events) :
    Origin P s₀ events (s.prepare taker xrplAddress) := by
  unfold Desk.prepare
  cases hgranted : s.server.granted .walletPrepare with
  | none => exact h.elsewhere _ _
  | some run =>
    have hstarted : PhaseFrom P s₀ events s.server.arrived (some (.started taker xrplAddress)) :=
      hnew (by rw [hgranted]; rfl)
    exact (h.setPhase s.server.arrived hstarted).elsewhere _ _

theorem readTag (h : Origin P s₀ events s) {q : Nat}
    (hnew : ∀ taker xrplAddress, s.preparing q = some (.started taker xrplAddress) →
      Occurred (TagRead P s₀ q xrplAddress s.world.escrow.nextDestinationTag) events) :
    Origin P s₀ events (s.readTag q) := by
  unfold Desk.readTag
  split
  case h_1 taker xrplAddress hphase =>
    have hread : PhaseFrom P s₀ events q
        (some (.tagRead taker xrplAddress s.world.escrow.nextDestinationTag)) :=
      hnew taker xrplAddress hphase
    exact h.setPhase q hread
  case h_2 => exact h

theorem record (h : Origin P s₀ events s) {q : Nat} {matchId : Bytes32} {maker : Address}
    {mid18 : Nat}
    (hnew : ∀ taker xrplAddress tag, s.preparing q = some (.tagRead taker xrplAddress tag) →
      Occurred (Written P s₀ matchId (walletRecord d.minBlockFxrp xrplAddress tag s.now)) events) :
    Origin P s₀ events (s.record d q matchId maker mid18) := by
  unfold Desk.record
  split
  case h_1 taker xrplAddress tag hphase =>
    have hwritten := hnew taker xrplAddress tag hphase
    have hdone : ∀ instruction, PhaseFrom P s₀ events q (some (.written instruction)) :=
      fun _ => trivial
    refine (h.setPhase q (hdone _)).setRecord matchId ?_
    intro record hrecord
    cases hrecord
    exact hwritten
  case h_2 => exact h

theorem pay (h : Origin P s₀ events s) {matchId : Bytes32}
    (hnew : ∀ record, s.prepareStore matchId = some record →
      s.now - record.createdAt ≤ prepareRecordTtlMs →
      Occurred (Asked P s₀ (payment matchId record)) events) :
    Origin P s₀ events (s.pay matchId) := by
  unfold Desk.pay getPrepareRecord
  cases hstored : s.prepareStore matchId with
  | none => exact h
  | some record =>
    by_cases hage : s.now - record.createdAt > prepareRecordTtlMs
    · simp only [if_pos hage]
      refine h.setRecord matchId ?_
      intro record' hnone
      cases hnone
    · simp only [if_neg hage]
      exact h.ask (hnew record hstored (Nat.le_of_not_lt hage))

theorem validated (h : Origin P s₀ events s) (k : Nat) : Origin P s₀ events (s.validated k) := by
  unfold Desk.validated
  cases hp : s.paying[k]? with
  | none => exact h
  | some p =>
    apply h.settled
    intro p' hp'
    obtain hsent | hnew := List.mem_append.mp hp'
    · exact .inl hsent
    · rw [List.mem_singleton.mp hnew]
      exact .inr (List.mem_of_getElem? hp)

end Origin

/-- One event: what it adds is a request's that came before, or now. -/
theorem origin_step (h : Origin P s₀ events (s₀.after P events)) (e : DeskEvent d) :
    Origin P s₀ (events ++ [e]) ((s₀.after P events).step P e) := by
  have hold := h.concat e
  cases e with
  | server e => exact hold.serve e
  | prepare taker xrplAddress =>
    apply hold.prepare
    intro hgranted
    exact .last ⟨⟨taker, rfl⟩, rfl, hgranted⟩
  | readTag q =>
    apply hold.readTag
    intro taker xrplAddress hphase
    have hrequested := h.preparing q
    rw [hphase] at hrequested
    exact .last ⟨rfl, hrequested, rfl⟩
  | record q matchId maker mid18 =>
    apply hold.record
    intro taker xrplAddress tag hphase
    have hread := h.preparing q
    rw [hphase] at hread
    exact .last ⟨q, maker, mid18, rfl, hread, rfl⟩
  | chain tx => exact hold.elsewhere _ _
  | pay matchId =>
    apply hold.pay
    intro record hstored hage
    exact .last ⟨rfl, record, h.stored matchId record hstored, hage, rfl⟩
  | validated k => exact hold.validated k
  | refused k => exact hold.settled k fun _ => .inl

theorem origin (t₀ : Nat) (w₀ : World) (events : List (DeskEvent d)) :
    Origin P (.start t₀ w₀) events ((start t₀ w₀).after P events) := by
  induction events using List.reverseRecOn with
  | nil =>
    constructor
    case preparing =>
      intro q
      trivial
    case stored =>
      intro matchId record hr
      cases hr
    case paying =>
      intro p hp
      cases hp
    case sent =>
      intro p hp
      cases hp
  | append_singleton events e ih =>
    rw [after_concat]
    exact origin_step ih e

end Origin

section Chain

variable {P} {s : Desk} {events : List (DeskEvent d)} {tx : Tx d} {matchId : Bytes32}

/-- A successful call of `lock`. -/
def Locks (P : Primitives) (w : World) (tx : Tx d) : Prop :=
  ∃ value data sig w', tx.call = .lock value data sig ∧ tx.exec P w = .ok w'

/-- One for that match. -/
def LocksMatch (P : Primitives) (w : World) (tx : Tx d) (matchId : Bytes32) : Prop :=
  ∃ value data sig mi w', tx.call = .lock value data sig ∧
    MatchInstructionLib.decode data = some mi ∧ mi.matchId = matchId ∧ tx.exec P w = .ok w'

/-- The transactions among the events. -/
def txs (events : List (DeskEvent d)) : List (Tx d) :=
  events.filterMap fun e =>
    match e with
    | .chain tx => some tx
    | _ => none

theorem world_serve (s : Desk) (e : Event) : (s.serve e).world = s.world := by
  unfold Desk.serve
  split
  · split <;> rfl
  · rfl

/-- Only a transaction moves the chain. -/
theorem world_step (s : Desk) (e : DeskEvent d) :
    (∃ tx, e = .chain tx) ∨ (s.step P e).world = s.world ∧ txs [e] = [] := by
  cases e with
  | chain tx => exact .inl ⟨tx, rfl⟩
  | server e => exact .inr ⟨world_serve s e, rfl⟩
  | prepare taker xrplAddress =>
    refine .inr ⟨?_, rfl⟩
    change (s.prepare taker xrplAddress).world = s.world
    unfold Desk.prepare
    split <;> rfl
  | readTag q =>
    refine .inr ⟨?_, rfl⟩
    change (s.readTag q).world = s.world
    unfold Desk.readTag
    split <;> rfl
  | record q matchId maker mid18 =>
    refine .inr ⟨?_, rfl⟩
    change (s.record d q matchId maker mid18).world = s.world
    unfold Desk.record
    split <;> rfl
  | pay matchId =>
    refine .inr ⟨?_, rfl⟩
    change (s.pay matchId).world = s.world
    unfold Desk.pay
    split <;> rfl
  | validated k =>
    refine .inr ⟨?_, rfl⟩
    change (s.validated k).world = s.world
    unfold Desk.validated
    split <;> rfl
  | refused k => exact .inr ⟨rfl, rfl⟩

/-- The server reads the chain and never moves it. -/
theorem world_after (s : Desk) (events : List (DeskEvent d)) :
    (s.after P events).world = WhisperDesk.after P s.world (txs events) := by
  induction events generalizing s with
  | nil => rfl
  | cons e events ih =>
    have htxs : txs (e :: events) = txs [e] ++ txs events := List.filterMap_append (l := [e])
    have hrun : WhisperDesk.after P s.world (txs (e :: events)) =
        WhisperDesk.after P (WhisperDesk.after P s.world (txs [e])) (txs events) := by
      rw [htxs]
      exact Reverting.run_append ..
    change ((s.step P e).after P events).world = _
    rw [ih, hrun]
    obtain ⟨tx, rfl⟩ | ⟨hworld, hnone⟩ := world_step (P := P) s e
    · rfl
    · rw [hworld, hnone]
      rfl

theorem entered_after (h : s.world.escrow.entered = false) (events : List (DeskEvent d)) :
    (s.after P events).world.escrow.entered = false := by
  rw [world_after]
  exact after_entered h _

theorem tag_locks {w : World} (h : Locks P w tx) :
    (settle w (tx.exec P w)).escrow.nextDestinationTag = w.escrow.nextDestinationTag + 1 := by
  obtain ⟨value, data, sig, w', hcall, hexec⟩ := h
  rw [hexec]
  rw [Tx.exec_lock hcall] at hexec
  obtain ⟨mi, fee, mid18, ts, v, _, hfrozen, rfl⟩ := lock_frozen hexec
  exact hfrozen.nextDestinationTag

/-- Nothing but a successful `lock` moves the counter. -/
theorem tag_keeps {w : World} (hentered : w.escrow.entered = false) (h : ¬ Locks P w tx) :
    (settle w (tx.exec P w)).escrow.nextDestinationTag = w.escrow.nextDestinationTag := by
  cases hexec : tx.exec P w with
  | error e => rfl
  | ok w' =>
    obtain ⟨value, data, sig, _, _, _, _, hcall, _⟩ | ⟨_, htag⟩ :=
      (tx_effect hexec hentered).2.1.terms
    · exact absurd ⟨value, data, sig, w', hcall, hexec⟩ h
    · exact htag

theorem tag_step (hentered : s.world.escrow.entered = false) (e : DeskEvent d) :
    ((∃ tx, e = .chain tx ∧ Locks P s.world tx) ∧ (s.step P e).world.escrow.nextDestinationTag =
      s.world.escrow.nextDestinationTag + 1) ∨
    ((∀ tx, e = .chain tx → ¬ Locks P s.world tx) ∧ (s.step P e).world.escrow.nextDestinationTag =
      s.world.escrow.nextDestinationTag) := by
  by_cases hlocks : ∃ tx, e = .chain tx ∧ Locks P s.world tx
  · obtain ⟨tx, rfl, htx⟩ := hlocks
    exact .inl ⟨⟨tx, rfl, htx⟩, tag_locks htx⟩
  · have hnone : ∀ tx, e = .chain tx → ¬ Locks P s.world tx :=
      fun tx he htx => hlocks ⟨tx, he, htx⟩
    refine .inr ⟨hnone, ?_⟩
    obtain ⟨tx, rfl⟩ | ⟨hworld, _⟩ := world_step (P := P) s e
    · exact tag_keeps hentered (hnone tx rfl)
    · rw [hworld]

/-- Where no `lock` succeeds the counter stays, and anywhere else it has grown. -/
theorem tag_after (hentered : s.world.escrow.entered = false) (events : List (DeskEvent d)) :
    s.world.escrow.nextDestinationTag ≤ (s.after P events).world.escrow.nextDestinationTag ∧
    ((s.after P events).world.escrow.nextDestinationTag = s.world.escrow.nextDestinationTag ↔
      ∀ before tx rest, events = before ++ .chain tx :: rest →
        ¬ Locks P (s.after P before).world tx) := by
  induction events generalizing s with
  | nil =>
    refine ⟨le_rfl, iff_of_true rfl ?_⟩
    intro before tx rest h
    simp at h
  | cons e events ih =>
    obtain ⟨hle, hiff⟩ := ih (s := s.step P e) (entered_after hentered [e])
    change _ ≤ ((s.step P e).after P events).world.escrow.nextDestinationTag ∧
      (((s.step P e).after P events).world.escrow.nextDestinationTag = _ ↔ _)
    obtain ⟨⟨tx, rfl, htx⟩, htag⟩ | ⟨hnone, htag⟩ := tag_step (P := P) hentered e
    · rw [htag] at hle
      refine ⟨by omega, iff_of_false (by omega) ?_⟩
      intro h
      exact h [] tx events rfl htx
    · rw [htag] at hle hiff
      refine ⟨hle, hiff.trans ⟨?_, ?_⟩⟩
      · intro h before tx rest hsplit
        cases before with
        | nil =>
          cases hsplit
          exact hnone tx rfl
        | cons e' before =>
          cases hsplit
          exact h before tx rest rfl
      · intro h before tx rest hsplit
        exact h (e :: before) tx rest (congrArg (e :: ·) hsplit)

/-- The tag that a `lock` takes from the counter is its match's from then on. -/
theorem tag_of_locked (hentered : s.world.escrow.entered = false) (h : LocksMatch P s.world tx matchId)
    (rest : List (DeskEvent d)) :
    ((s.after P (.chain tx :: rest)).world.escrow.matchOf matchId).destinationTag =
      s.world.escrow.nextDestinationTag := by
  obtain ⟨value, data, sig, mi, w', hcall, hdecode, rfl, hexec⟩ := h
  obtain ⟨mi', fee, mid18, ts, haccepted, hstored⟩ := lock_stored hcall hexec
  obtain rfl : mi = mi' := Option.some.inj (hdecode.symm.trans haccepted.decoded)
  have hlocked : (s.step P (.chain tx)).world = w' := congrArg (settle s.world) hexec
  have hworld : (s.after P (.chain tx :: rest)).world = WhisperDesk.after P w' (txs rest) := by
    rw [← hlocked]
    exact world_after (s.step P (.chain tx)) rest
  have hopen : (w'.escrow.matchOf mi.matchId).state ≠ .none := by
    rw [hstored]
    intro h
    cases h
  have hentered' : w'.escrow.entered = false := by
    rw [← hlocked]
    exact entered_after hentered [.chain tx]
  have hterms := after_sameTerms (P := P) (d := d) hentered' hopen (txs rest)
  rw [hworld, hterms.terms, hstored]
  rfl

end Chain

section Once

variable {P} {s : Desk} {events : List (DeskEvent d)} {matchId : Bytes32}

def Records (matchId : Bytes32) (e : DeskEvent d) : Prop :=
  ∃ q maker mid18, e = .record q matchId maker mid18

/-- The random ids do not repeat this one. -/
def RecordedOnce (matchId : Bytes32) (events : List (DeskEvent d)) : Prop :=
  ∀ before e rest, events = before ++ e :: rest → Records matchId e →
    ∀ e' ∈ before, ¬ Records matchId e'

theorem recordedOnce_of_pairwise
    (h : events.Pairwise fun e' e => Records matchId e → ¬ Records matchId e') :
    RecordedOnce matchId events := by
  rintro before e rest rfl he e' he'
  obtain ⟨_, _, hacross⟩ := List.pairwise_append.1 h
  exact hacross e' he' e List.mem_cons_self he

instance (e : DeskEvent d) : Decidable (Records matchId e) :=
  match e with
  | .record q m maker mid18 =>
    decidable_of_iff (m = matchId) ⟨fun h => ⟨q, maker, mid18, h ▸ rfl⟩, by rintro ⟨_, _, _, ⟨⟩⟩; rfl⟩
  | .server _ | .chain _ | .prepare .. | .readTag _ | .pay _ | .validated _ | .refused _ =>
    .isFalse (by rintro ⟨_, _, _, ⟨⟩⟩)

/-- Whatever there is for the match is this record's. -/
structure Only (matchId : Bytes32) (entry : Option PrepareRecord) (s : Desk) : Prop where
  stored : ∀ record, s.prepareStore matchId = some record → entry = some record
  paid : ∀ p, p ∈ s.paying ∨ p ∈ s.sent → p.matchId = matchId →
    ∃ record, entry = some record ∧ p = payment matchId record

theorem Only.pay {entry : Option PrepareRecord} (h : Only matchId entry s) (matchId' : Bytes32) :
    Only matchId entry (s.pay matchId') := by
  unfold Desk.pay getPrepareRecord
  cases hstored : s.prepareStore matchId' with
  | none => exact h
  | some record =>
    by_cases hage : s.now - record.createdAt > prepareRecordTtlMs
    · simp only [if_pos hage]
      refine ⟨?_, h.paid⟩
      intro record' hrecord
      by_cases heq : matchId = matchId'
      · subst matchId'
        simp at hrecord
      · exact h.stored record' (by simpa only [Function.update_of_ne heq] using hrecord)
    · simp only [if_neg hage]
      refine ⟨h.stored, ?_⟩
      rintro p (hpaying | hsent) hp
      · obtain hold | hnew := List.mem_append.mp hpaying
        · exact h.paid p (.inl hold) hp
        · obtain rfl := List.mem_singleton.mp hnew
          subst hp
          exact ⟨record, h.stored record hstored, rfl⟩
      · exact h.paid p (.inr hsent) hp

theorem Only.record {entry : Option PrepareRecord} (h : Only matchId entry s) (q : Nat)
    (matchId' : Bytes32) (maker : Address) (mid18 : Nat) (hne : matchId ≠ matchId') :
    Only matchId entry (s.record d q matchId' maker mid18) := by
  unfold Desk.record
  split
  · refine ⟨?_, h.paid⟩
    intro record hrecord
    rw [putPrepareRecord] at hrecord
    exact h.stored record (by simpa only [Function.update_of_ne hne] using hrecord)
  · exact h

theorem Only.validated {entry : Option PrepareRecord} (h : Only matchId entry s) (k : Nat) :
    Only matchId entry (s.validated k) := by
  unfold Desk.validated
  cases hp : s.paying[k]? with
  | none => exact h
  | some p =>
    refine ⟨h.stored, ?_⟩
    rintro p' (hpaying | hsent) hp'
    · exact h.paid p' (.inl (List.mem_of_mem_eraseIdx hpaying)) hp'
    · obtain hold | hnew := List.mem_append.mp hsent
      · exact h.paid p' (.inr hold) hp'
      · obtain rfl := List.mem_singleton.mp hnew
        exact h.paid p' (.inl (List.mem_of_getElem? hp)) hp'

/-- Only a record event for the match can change what there is for it. -/
theorem Only.step {entry : Option PrepareRecord} (h : Only matchId entry s) {e : DeskEvent d}
    (he : ¬ Records matchId e) : Only matchId entry (s.step P e) := by
  cases e with
  | server e =>
    change Only matchId entry (s.serve e)
    unfold Desk.serve
    split
    · split
      · exact ⟨h.stored, h.paid⟩
      · exact h
    · exact ⟨h.stored, h.paid⟩
  | prepare taker xrplAddress =>
    change Only matchId entry (s.prepare taker xrplAddress)
    unfold Desk.prepare
    split
    · exact ⟨h.stored, h.paid⟩
    · exact ⟨h.stored, h.paid⟩
  | readTag q =>
    change Only matchId entry (s.readTag q)
    unfold Desk.readTag
    split
    · exact ⟨h.stored, h.paid⟩
    · exact h
  | record q matchId' maker mid18 =>
    apply h.record
    intro heq
    subst heq
    exact he ⟨q, maker, mid18, rfl⟩
  | chain tx => exact ⟨h.stored, h.paid⟩
  | pay matchId' => exact h.pay matchId'
  | validated k => exact h.validated k
  | refused k =>
    refine ⟨h.stored, ?_⟩
    rintro p (hpaying | hsent) hp
    · exact h.paid p (.inl (List.mem_of_mem_eraseIdx hpaying)) hp
    · exact h.paid p (.inr hsent) hp

theorem Only.first (h : Only matchId none s) {e : DeskEvent d} (he : Records matchId e) :
    ∃ entry, Only matchId entry (s.step P e) := by
  obtain ⟨q, maker, mid18, rfl⟩ := he
  have hnone (p : XrplPayment) (hp : p ∈ s.paying ∨ p ∈ s.sent) : p.matchId ≠ matchId := by
    intro heq
    obtain ⟨_, hrecord, _⟩ := h.paid p hp heq
    cases hrecord
  change ∃ entry, Only matchId entry (s.record d q matchId maker mid18)
  unfold Desk.record
  split
  case h_1 taker xrplAddress tag _ =>
    refine ⟨some (walletRecord d.minBlockFxrp xrplAddress tag s.now), ?_, ?_⟩
    · intro record hrecord
      simpa [putPrepareRecord] using hrecord
    · intro p hp heq
      exact absurd heq (hnone p hp)
  case h_2 => exact ⟨none, h⟩

/-- One record event, one record: all payments for the match are alike. -/
theorem exists_only (t₀ : Nat) (w₀ : World) (hone : RecordedOnce matchId events) :
    ∃ entry, Only matchId entry ((start t₀ w₀).after P events) ∧
      ((∀ e ∈ events, ¬ Records matchId e) → entry = none) := by
  induction events using List.reverseRecOn with
  | nil =>
    refine ⟨none, ⟨?_, ?_⟩, fun _ => rfl⟩
    · intro record hrecord
      cases hrecord
    · rintro p (hp | hp) <;> cases hp
  | append_singleton events e ih =>
    have hbefore : RecordedOnce matchId events := by
      intro before e' rest hsplit
      exact hone before e' (rest ++ [e]) (by rw [hsplit, List.append_assoc, List.cons_append])
    obtain ⟨entry, honly, hentry⟩ := ih hbefore
    rw [after_concat]
    by_cases he : Records matchId e
    · have hnone := hone events e [] rfl he
      rw [hentry hnone] at honly
      obtain ⟨entry', honly'⟩ := honly.first (P := P) he
      exact ⟨entry', honly', fun hall => absurd he (hall e (by simp))⟩
    · refine ⟨entry, honly.step he, ?_⟩
      intro hall
      exact hentry fun e' he' => hall e' (List.mem_append_left _ he')

end Once

end Desk

section Payments

variable (P : Primitives) {d : Deployment} (s₀ : Desk) (events : List (DeskEvent d))
  (p : XrplPayment)

/-- Where a payment comes from. One prepare request read the counter after
`before`, wrote the record under the payment's id, and within ten minutes a pay
request found it. Address and amount are the prepare request's, the tag is the
counter it read; a match locked after that has this tag if its lock is the first. -/
structure AsWritten (before since : List (DeskEvent d)) (q : Nat) : Prop where
  run : events = before ++ .readTag q :: since
  requested : Occurred (Desk.Requested P s₀ q p.takerAddress) before
  amount : p.amountDrops = d.minBlockFxrp * xrplPayBufferNum / xrplPayBufferDen
  tag : p.destinationTag = (s₀.after P before).world.escrow.nextDestinationTag
  written : ∃ b maker mid18 c rest,
    since = b ++ .record q p.matchId maker mid18 :: (c ++ .pay p.matchId :: rest) ∧
    (s₀.after P (before ++ .readTag q :: (b ++ .record q p.matchId maker mid18 :: c))).now -
      (s₀.after P (before ++ .readTag q :: b)).now ≤ prepareRecordTtlMs
  locked : ∀ b tx c, since = b ++ .chain tx :: c →
    Desk.LocksMatch P (s₀.after P (before ++ .readTag q :: b)).world tx p.matchId →
    (((s₀.after P events).world.escrow.matchOf p.matchId).destinationTag = p.destinationTag ↔
      ∀ b₁ tx₁ b₂, b = b₁ ++ .chain tx₁ :: b₂ →
        ¬ Desk.Locks P (s₀.after P (before ++ .readTag q :: b₁)).world tx₁)

variable {P s₀ events p}

/-- A match has the tag that was read before its lock exactly if no lock came in
between. -/
theorem Desk.tag_locked_iff (hentered : s₀.world.escrow.entered = false) {q : Nat}
    {before b : List (DeskEvent d)} {tx : Tx d} {matchId : Bytes32}
    (hlocks : LocksMatch P (s₀.after P (before ++ .readTag q :: b)).world tx matchId)
    (c : List (DeskEvent d)) :
    ((s₀.after P (before ++ .readTag q :: b ++ .chain tx :: c)).world.escrow.matchOf
        matchId).destinationTag = (s₀.after P before).world.escrow.nextDestinationTag ↔
      ∀ b₁ tx₁ b₂, b = b₁ ++ .chain tx₁ :: b₂ →
        ¬ Locks P (s₀.after P (before ++ .readTag q :: b₁)).world tx₁ := by
  have hreadWorld : (s₀.after P (before ++ [.readTag q])).world = (s₀.after P before).world := by
    rw [after_concat]
    obtain ⟨tx', htx'⟩ | ⟨hworld, _⟩ := world_step (P := P) (s₀.after P before) (.readTag q)
    · cases htx'
    · exact hworld
  have hafter (events : List (DeskEvent d)) : s₀.after P (before ++ .readTag q :: events) =
      (s₀.after P (before ++ [.readTag q])).after P events := by
    rw [← after_append, List.append_assoc, List.singleton_append]
  have hread := entered_after (P := P) hentered (before ++ [.readTag q])
  have hcounter := (tag_after (P := P) hread b).2
  rw [hreadWorld] at hcounter
  have hlocked := tag_of_locked (entered_after (P := P) hentered _) hlocks c
  rw [after_append, hlocked, hafter, hcounter]
  constructor
  · intro h b₁ tx₁ b₂ hb
    rw [hafter]
    exact h b₁ tx₁ b₂ hb
  · intro h b₁ tx₁ b₂ hb
    rw [← hafter]
    exact h b₁ tx₁ b₂ hb

theorem asWritten (hentered : s₀.world.escrow.entered = false)
    (h : Occurred (Desk.Asked P s₀ p) events) : ∃ q before since, AsWritten P s₀ events p before since q := by
  obtain ⟨asked, _, rest, rfl, rfl, record, hwritten, hage, hp⟩ := h
  obtain ⟨prepared, _, c, rfl, q, maker, mid18, rfl, hread, hrecord⟩ := hwritten
  obtain ⟨before, _, b, rfl, rfl, hrequested, htag⟩ := hread
  have hrecordTag : p.destinationTag = record.destinationTag := by rw [hp]; rfl
  refine ⟨q, before, b ++ .record q p.matchId maker mid18 :: (c ++ .pay p.matchId :: rest), ?_⟩
  constructor
  case run => simp
  case requested =>
    have haddress : p.takerAddress = record.destination := by rw [hp]; rfl
    rw [haddress]
    exact hrequested
  case amount =>
    have hdrops : p.amountDrops = record.xrpDrops := by rw [hp]; rfl
    rw [hdrops, hrecord]
    rfl
  case tag => rw [hrecordTag, htag]
  case written =>
    refine ⟨b, maker, mid18, c, rest, rfl, ?_⟩
    have hcreated : record.createdAt = (s₀.after P (before ++ .readTag q :: b)).now := by
      rw [hrecord]
      rfl
    rw [← hcreated]
    rw [List.append_assoc, List.cons_append] at hage
    exact hage
  case locked =>
    intro b' tx c' hsplit hlocks
    have hevents : before ++ .readTag q :: b ++ .record q p.matchId maker mid18 :: c ++
        .pay p.matchId :: rest = before ++ .readTag q :: b' ++ .chain tx :: c' := by
      simp [hsplit]
    rw [hevents, hrecordTag, ← htag]
    exact Desk.tag_locked_iff hentered hlocks c'

/-- What the desk pays for a match is what prepare wrote down for it, with the
tag it read: the match's tag exactly if no `lock` came in between. While the
random ids do not repeat, all payments for one match are the same payment. -/
theorem desk_payments {w₀ : World} (hw₀ : Deployed d w₀) (t₀ : Nat) (events : List (DeskEvent d)) :
    (∀ p ∈ ((Desk.start t₀ w₀).after P events).sent,
      ∃ q before since, AsWritten P (.start t₀ w₀) events p before since q) ∧
    ∀ matchId, Desk.RecordedOnce matchId events →
      ∀ p ∈ ((Desk.start t₀ w₀).after P events).sent,
      ∀ p' ∈ ((Desk.start t₀ w₀).after P events).sent,
      p.matchId = matchId → p'.matchId = matchId → p = p' := by
  constructor
  · intro p hp
    exact asWritten hw₀.genesis.entered ((Desk.origin t₀ w₀ events).sent p hp)
  · intro matchId hone p hp p' hp' hid hid'
    obtain ⟨entry, honly, _⟩ := Desk.exists_only (P := P) t₀ w₀ hone
    obtain ⟨record, hrecord, rfl⟩ := honly.paid p (.inr hp) hid
    obtain ⟨record', hrecord', rfl⟩ := honly.paid p' (.inr hp') hid'
    obtain rfl : record = record' := Option.some.inj (hrecord.symm.trans hrecord')
    rfl

end Payments

/-! A visitor prepares match 7 on the sample chain. -/
namespace SampleWallet

def prepared : List (DeskEvent Sample.deployment) :=
  [.prepare 2 Sample.takersAddress, .readTag 0, .record 0 7 3 2000000000000000000]

/-- The match is locked first, and paid. -/
def paid : List (DeskEvent Sample.deployment) :=
  prepared ++ (Sample.opening 1000 7).map .chain ++ [.pay 7, .validated 0]

/-- And paid again. -/
def paidTwice : List (DeskEvent Sample.deployment) :=
  paid ++ [.pay 7, .validated 0]

/-- Somebody else's match is locked first. -/
def overtaken : List (DeskEvent Sample.deployment) :=
  prepared ++ (Sample.opening 1000 8 ++ Sample.opening 1000 7).map .chain ++ [.pay 7]

def run (events : List (DeskEvent Sample.deployment)) : Desk :=
  (Desk.start 0 Sample.world).after Sample.primitives events

end SampleWallet

open SampleWallet in
theorem desk_payments_sample :
    (run paidTwice).sent =
        [⟨7, Sample.takersAddress, 5100000000, 1⟩, ⟨7, Sample.takersAddress, 5100000000, 1⟩] ∧
      (∀ p ∈ (run paidTwice).sent, ∃ q before since,
        AsWritten Sample.primitives (.start 0 Sample.world) paidTwice p before since q) ∧
      ∀ p ∈ (run paidTwice).sent, ∀ p' ∈ (run paidTwice).sent,
        p.matchId = 7 → p'.matchId = 7 → p = p' :=
  ⟨by decide +kernel, (desk_payments Sample.deployed 0 paidTwice).1,
    (desk_payments Sample.deployed 0 paidTwice).2 7 (Desk.recordedOnce_of_pairwise (by decide +kernel))⟩

section Claimed

variable (P : Primitives) (d : Deployment) (w₀ : World)

/-- A payment under way is for a match that is locked now. -/
def PaysLocked : Prop :=
  ∀ (t₀ : Nat) (events : List (DeskEvent d)) (k : Nat) (p : XrplPayment),
    ((Desk.start t₀ w₀).after P events).paying[k]? = some p →
    (((Desk.start t₀ w₀).after P events).world.escrow.matchOf p.matchId).state = .locked

/-- It carries that match's tag. -/
def PaysTag : Prop :=
  ∀ (t₀ : Nat) (events : List (DeskEvent d)) (k : Nat) (p : XrplPayment),
    ((Desk.start t₀ w₀).after P events).paying[k]? = some p →
    (((Desk.start t₀ w₀).after P events).world.escrow.matchOf p.matchId).destinationTag =
      p.destinationTag

/-- None has been sent for the match before. -/
def PaysOnce : Prop :=
  ∀ (t₀ : Nat) (events : List (DeskEvent d)) (k : Nat) (p : XrplPayment),
    ((Desk.start t₀ w₀).after P events).paying[k]? = some p →
    ∀ p' ∈ ((Desk.start t₀ w₀).after P events).sent, p'.matchId ≠ p.matchId

end Claimed

open SampleWallet in
/-- A pay request before the lock, one for a match that another one overtook,
and a second one for the same match. -/
theorem payments_unchecked :
    ¬ PaysLocked Sample.primitives Sample.deployment Sample.world ∧
      ¬ PaysTag Sample.primitives Sample.deployment Sample.world ∧
      ¬ PaysOnce Sample.primitives Sample.deployment Sample.world := by
  refine ⟨?unlocked, ?overtaken, ?twice⟩
  case unlocked =>
    intro h
    have hlocked := h 0 (prepared ++ [.pay 7]) 0 ⟨7, Sample.takersAddress, 5100000000, 1⟩ (by decide +kernel)
    revert hlocked
    decide +kernel
  case overtaken =>
    intro h
    have htag := h 0 overtaken 0 ⟨7, Sample.takersAddress, 5100000000, 1⟩ (by decide +kernel)
    revert htag
    decide +kernel
  case twice =>
    intro h
    have hnone := h 0 (paid ++ [.pay 7]) 0 ⟨7, Sample.takersAddress, 5100000000, 1⟩ (by decide +kernel)
      ⟨7, Sample.takersAddress, 5100000000, 1⟩ (by decide +kernel)
    exact hnone rfl

end WhisperDesk.Web
