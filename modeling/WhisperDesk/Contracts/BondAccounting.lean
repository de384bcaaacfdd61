import WhisperDesk.Contracts.EscrowAccounting

/-!
# Bond accounting

The ledger is a reserve pool of its own, whoever its escrow is: `freeBond` is
the free part and the active entries are the claims. While its escrow is this
one (or not set yet), the active entries are the locked matches, and the events
of every bond are exactly those its match's state calls for.
-/
namespace WhisperDesk

open Function (update)
open Reverting
open Relation (ReflTransGen)
open Reserve (Claim Pool Move Moves reservedBy)
open DvPEscrow (Deployment)

def LockedBond.claim (lb : LockedBond) : Option (Claim Address) :=
  if lb.active = true then some ⟨lb.maker, lb.amount⟩ else none

/-- What an entry holds back of `maker`'s bond. -/
def LockedBond.activeShare (maker : Address) (lb : LockedBond) : Nat :=
  if lb.active = true ∧ lb.maker = maker then lb.amount else 0

def LockedBond.activeAmount (lb : LockedBond) : Nat := if lb.active = true then lb.amount else 0

theorem LockedBond.shareOf_claim (lb : LockedBond) (a : Address) :
    Reserve.shareOf a lb.claim = lb.activeShare a := by
  unfold LockedBond.claim LockedBond.activeShare
  by_cases hactive : lb.active = true
  · simp [hactive]
  · simp [hactive]

theorem LockedBond.amountOf_claim (lb : LockedBond) : Reserve.amountOf lb.claim = lb.activeAmount := by
  unfold LockedBond.claim LockedBond.activeAmount
  by_cases hactive : lb.active = true
  · simp [hactive]
  · simp [hactive]

def bondDepositedBy (maker : Address) : Event → Nat
  | .bondDeposited m amount => if m = maker then amount else 0
  | _ => 0

def bondWithdrawnBy (maker : Address) : Event → Nat
  | .bondWithdrawn m amount => if m = maker then amount else 0
  | _ => 0

def bondSlashedFrom (maker : Address) : Event → Nat
  | .bondSlashed _ m _ amount => if m = maker then amount else 0
  | _ => 0

/-- The ledger's escrow is this one, or nobody yet. -/
def Bound (d : Deployment) (w : World) : Prop := w.ledger.escrow = 0 ∨ w.ledger.escrow = d.self

theorem Account.not_escrow {d : Deployment} (sender : Account d) {w : World} (h : Bound d w) :
    sender.address ≠ w.ledger.escrow := by
  rcases h with h | h
  · rw [h]; exact sender.ne_zero
  · rw [h]; exact sender.ne_self

section Binding

variable {P : Primitives} {d : Deployment} {w w' : World}

/-- The setter is one-shot, and no call leaves the ledger's guard set. -/
theorem Step.ledger (h : Step P d w w') :
    (w'.ledger.escrow = w.ledger.escrow ∨ w.ledger.escrow = 0) ∧
      (w.ledger.entered = false → w'.ledger.entered = false) := by
  cases h with
  | quiet h => exact ⟨h.escrow, fun he => h.ledgerEntered.trans he⟩
  | transfer => exact ⟨.inl rfl, id⟩
  | mint => exact ⟨.inl rfl, id⟩
  | deposit env sender amount armedUntil h =>
    obtain ⟨_, _, _, _, rfl⟩ := DvPEscrow.deposit_eq_ok.mp h
    exact ⟨.inl rfl, id⟩
  | withdraw env sender amount h =>
    obtain ⟨_, _, _, _, _, rfl⟩ := DvPEscrow.withdraw_eq_ok.mp h
    exact ⟨.inl rfl, id⟩
  | lock => exact ⟨.inl rfl, id⟩
  | release env matchId proof h =>
    obtain ⟨_, _, _, _, _, _, _, _, _, _, rfl⟩ := DvPEscrow.release_eq_ok.mp h
    exact ⟨.inl rfl, id⟩
  | refund env matchId h =>
    obtain ⟨_, _, _, _, _, _, _, _, _, _, _, _, rfl⟩ := DvPEscrow.refund_eq_ok.mp h
    exact ⟨.inl rfl, id⟩
  | depositBond env sender amount h =>
    obtain ⟨_, _, _, _, rfl⟩ := BondLedger.depositBond_eq_ok.mp h
    exact ⟨.inl rfl, fun _ => rfl⟩
  | withdrawBond env sender amount h =>
    obtain ⟨_, _, _, _, rfl⟩ := BondLedger.withdrawBond_eq_ok.mp h
    exact ⟨.inl rfl, fun _ => rfl⟩
  | lockBond sender matchId maker amount h =>
    obtain ⟨_, _, _, rfl⟩ := BondLedger.lockBond_eq_ok.mp h
    exact ⟨.inl rfl, id⟩
  | releaseBond sender matchId h =>
    obtain ⟨_, _, _, rfl⟩ := BondLedger.releaseBond_eq_ok.mp h
    exact ⟨.inl rfl, id⟩
  | slashBond env sender matchId recipient h =>
    obtain ⟨_, _, _, _, rfl⟩ := BondLedger.slashBond_eq_ok.mp h
    exact ⟨.inl rfl, id⟩

theorem Steps.escrow (h : Steps P d w w') (hw : w.ledger.escrow ≠ 0) :
    w'.ledger.escrow = w.ledger.escrow := by
  induction h with
  | refl => rfl
  | tail _ hlast ih =>
    rcases hlast.ledger.1 with he | he
    · exact he.trans ih
    · exact absurd (ih.symm.trans he) hw

theorem Steps.ledgerEntered (h : Steps P d w w') (hw : w.ledger.entered = false) :
    w'.ledger.entered = false :=
  Steps.invariant (I := fun w => w.ledger.entered = false) (fun _ _ hu huv => huv.ledger.2 hu) h hw

theorem Bound.of_step (hbound : Bound d w') (h : Step P d w w') : Bound d w := by
  rcases h.ledger.1 with he | he
  · rw [Bound, ← he]; exact hbound
  · exact .inl he

end Binding

/-- The bond an event is about. -/
def Event.bondId : Event → Option Bytes32
  | .bondLocked id _ _ => some id
  | .bondReleased id _ _ => some id
  | .bondSlashed id _ _ _ => some id
  | _ => none

/-- Everything that ever happened to one bond, newest first. -/
def bondHistory (id : Bytes32) (log : List Event) : List Event :=
  log.filter (fun e => e.bondId = some id)

@[simp] theorem bondHistory_nil (id : Bytes32) : bondHistory id [] = [] := rfl

theorem bondHistory_cons (id : Bytes32) (e : Event) (log : List Event) :
    bondHistory id (e :: log) = if e.bondId = some id then e :: bondHistory id log
      else bondHistory id log := by
  simp [bondHistory, List.filter_cons]

/-- What should have happened to a match's bond, by the state of the match. -/
def Match.bondEvents (id : Bytes32) (m : Match) : List Event :=
  match m.state with
  | .none => []
  | .locked => [.bondLocked id m.maker m.bondAmount]
  | .released => [.bondReleased id m.maker m.bondAmount, .bondLocked id m.maker m.bondAmount]
  | .refunded => [.bondSlashed id m.maker m.taker m.bondAmount, .bondLocked id m.maker m.bondAmount]

/-- The two contracts agree on which bonds are out, and for what. -/
structure Bonded (w : World) : Prop where
  active : ∀ id, (w.escrow.matchOf id).state = .locked ↔ (w.ledger.lockedBonds id).active = true
  terms : ∀ id, (w.escrow.matchOf id).state = .locked →
    (w.ledger.lockedBonds id).maker = (w.escrow.matchOf id).maker ∧
      (w.ledger.lockedBonds id).amount = (w.escrow.matchOf id).bondAmount
  history : ∀ id, bondHistory id w.log = (w.escrow.matchOf id).bondEvents id

namespace Bonded

variable {P : Primitives} {d : Deployment} {w w' : World}

theorem genesis (hw : Genesis w) : Bonded w where
  active id := by simp [hw.matchOf, hw.lockedBonds, Match.zero]
  terms id h := by simp [hw.matchOf, Match.zero] at h
  history id := by simp [hw.log, hw.matchOf, Match.zero, Match.bondEvents]

theorem frame (hb : Bonded w) (hmatch : w'.escrow.matchOf = w.escrow.matchOf)
    (hbonds : w'.ledger.lockedBonds = w.ledger.lockedBonds)
    (hlog : ∀ id, bondHistory id w'.log = bondHistory id w.log) : Bonded w' where
  active id := by rw [hmatch, hbonds]; exact hb.active id
  terms id := by rw [hmatch, hbonds]; exact hb.terms id
  history id := by rw [hmatch, hlog]; exact hb.history id

/-- One match and its bond change together; the rest of both tables stays. -/
theorem update (hb : Bonded w) (id : Bytes32) (m : Match) (lb : LockedBond)
    (hmatch : w'.escrow.matchOf = Function.update w.escrow.matchOf id m)
    (hbonds : w'.ledger.lockedBonds = Function.update w.ledger.lockedBonds id lb)
    (hactive : m.state = .locked ↔ lb.active = true)
    (hterms : m.state = .locked → lb.maker = m.maker ∧ lb.amount = m.bondAmount)
    (hhistory : bondHistory id w'.log = m.bondEvents id)
    (hother : ∀ j, j ≠ id → bondHistory j w'.log = bondHistory j w.log) : Bonded w' := by
  constructor
  · intro j
    rw [hmatch, hbonds]
    by_cases hj : j = id
    · subst hj; simp only [Function.update_self]; exact hactive
    · simp only [Function.update_of_ne hj]; exact hb.active j
  · intro j
    rw [hmatch, hbonds]
    by_cases hj : j = id
    · subst hj; simp only [Function.update_self]; exact hterms
    · simp only [Function.update_of_ne hj]; exact hb.terms j
  · intro j
    rw [hmatch]
    by_cases hj : j = id
    · subst hj; simp only [Function.update_self]; exact hhistory
    · simp only [Function.update_of_ne hj]; exact (hother j hj).trans (hb.history j)

theorem lock {env : Env} {value fee mid18 ts : Nat} {data sig : Bytes}
    {mi : MatchInstructionLib.MatchInstruction} (hb : Bonded w)
    (h : DvPEscrow.LockAccepted P d env value data sig w mi fee mid18 ts) :
    Bonded { DvPEscrow.lockedWorld P d env value mi fee mid18 w with escrow.entered := true } := by
  have hold := hb.history mi.matchId
  simp only [Match.bondEvents, h.instruction.fresh] at hold
  refine hb.update mi.matchId
    (DvPEscrow.lockedMatch P d env mi mid18 w.escrow.nextDestinationTag)
    ⟨mi.maker, DvPEscrow.bondOf mi.amountFxrp, true⟩ rfl rfl (by simp [DvPEscrow.lockedMatch])
    (fun _ => ⟨rfl, rfl⟩) ?_ ?_
  · simp [DvPEscrow.lockedWorld, bondHistory_cons, Event.bondId, hold, Match.bondEvents,
      DvPEscrow.lockedMatch]
  · intro j hj
    simp [DvPEscrow.lockedWorld, bondHistory_cons, Event.bondId, Ne.symm hj]

theorem release {env : Env} {id : Bytes32} {proof : XRPPayment.Proof} (hb : Bonded w)
    (h : DvPEscrow.release d env id proof w = .ok w') : Bonded w' := by
  obtain ⟨_, hlocked, _, _, _, _, _, _, _, _, rfl⟩ := DvPEscrow.release_eq_ok.mp h
  have hold := hb.history id
  obtain ⟨hmaker, hamount⟩ := hb.terms id hlocked
  simp only [Match.bondEvents, hlocked] at hold
  refine hb.update id ((w.escrow.matchOf id).settled .released)
    { w.ledger.lockedBonds id with active := false } rfl rfl (by simp [Match.settled])
    (by simp [Match.settled]) ?_ ?_
  · simp [bondHistory_cons, Event.bondId, hold, Match.bondEvents, Match.settled, hmaker, hamount]
  · intro j hj
    simp [bondHistory_cons, Event.bondId, Ne.symm hj]

theorem refund {env : Env} {id : Bytes32} (hb : Bonded w)
    (h : DvPEscrow.refund d env id w = .ok w') : Bonded w' := by
  obtain ⟨_, hlocked, _, _, _, _, _, _, _, _, _, _, rfl⟩ := DvPEscrow.refund_eq_ok.mp h
  have hold := hb.history id
  obtain ⟨hmaker, hamount⟩ := hb.terms id hlocked
  simp only [Match.bondEvents, hlocked] at hold
  refine hb.update id ((w.escrow.matchOf id).settled .refunded)
    { w.ledger.lockedBonds id with active := false } rfl rfl (by simp [Match.settled])
    (by simp [Match.settled]) ?_ ?_
  · simp [bondHistory_cons, Event.bondId, hold, Match.bondEvents, Match.settled, hmaker, hamount]
  · intro j hj
    simp [bondHistory_cons, Event.bondId, Ne.symm hj]

/-- While the ledger is bound, only the escrow's own three calls touch a bond. -/
theorem step (hb : Bonded w) (hbound : Bound d w) (h : Step P d w w') : Bonded w' := by
  cases h with
  | quiet h =>
    refine hb.frame h.matchOf h.lockedBonds (fun id => ?_)
    rcases h.log with hlog | ⟨_, _, hlog⟩ <;> simp [hlog, bondHistory_cons, Event.bondId]
  | transfer => exact hb.frame rfl rfl (fun id => by simp [bondHistory_cons, Event.bondId])
  | mint => exact hb.frame rfl rfl (fun id => by simp [bondHistory_cons, Event.bondId])
  | deposit env sender amount armedUntil h =>
    obtain ⟨_, _, _, _, rfl⟩ := DvPEscrow.deposit_eq_ok.mp h
    exact hb.frame rfl rfl (fun id => by simp [bondHistory_cons, Event.bondId])
  | withdraw env sender amount h =>
    obtain ⟨_, _, _, _, _, rfl⟩ := DvPEscrow.withdraw_eq_ok.mp h
    exact hb.frame rfl rfl (fun id => by simp [bondHistory_cons, Event.bondId])
  | lock env value data sig mi fee mid18 ts h => exact hb.lock h
  | release env id proof h => exact hb.release h
  | refund env id h => exact hb.refund h
  | depositBond env sender amount h =>
    obtain ⟨_, _, _, _, rfl⟩ := BondLedger.depositBond_eq_ok.mp h
    exact hb.frame rfl rfl (fun id => by simp [bondHistory_cons, Event.bondId])
  | withdrawBond env sender amount h =>
    obtain ⟨_, _, _, _, rfl⟩ := BondLedger.withdrawBond_eq_ok.mp h
    exact hb.frame rfl rfl (fun id => by simp [bondHistory_cons, Event.bondId])
  | lockBond sender id maker amount h =>
    exact absurd (BondLedger.lockBond_eq_ok.mp h).1 (sender.not_escrow hbound)
  | releaseBond sender id h =>
    exact absurd (BondLedger.releaseBond_eq_ok.mp h).1 (sender.not_escrow hbound)
  | slashBond env sender id recipient h =>
    exact absurd (BondLedger.slashBond_eq_ok.mp h).1 (sender.not_escrow hbound)

theorem steps (hb : Bound d w → Bonded w) (h : Steps P d w w') : Bound d w' → Bonded w' :=
  Steps.invariant (I := fun w => Bound d w → Bonded w)
    (fun _ _ hu huv hv => (hu (hv.of_step huv)).step (hv.of_step huv) huv) h hb

end Bonded

/-- The ledger's storage, log and FXRP balance read as a pool. Only while the
escrow is this one does every unit paid out leave through a slash: another one
could lock over an active entry. -/
structure LedgerPool (d : Deployment) (p : Pool Address Bytes32) (w : World) : Prop where
  free : ∀ a, w.ledger.freeBond a = p.free a
  reserved : p.reserved = fun id => (w.ledger.lockedBonds id).claim
  credited : ∀ a, p.credited a = emitted (bondDepositedBy a) w.log
  debited : ∀ a, p.debited a = emitted (bondWithdrawnBy a) w.log
  paid : Bound d w → ∀ a, p.paid a = emitted (bondSlashedFrom a) w.log
  held : p.held = w.fxrp.balanceOf d.bondLedger

/-- Nothing is deposited, withdrawn or slashed between two states. -/
structure NoFlow (d : Deployment) (w w' : World) : Prop where
  deposits : ∀ a, emitted (bondDepositedBy a) w'.log = emitted (bondDepositedBy a) w.log
  withdrawals : ∀ a, emitted (bondWithdrawnBy a) w'.log = emitted (bondWithdrawnBy a) w.log
  slashes : Bound d w' →
    Bound d w ∧ ∀ a, emitted (bondSlashedFrom a) w'.log = emitted (bondSlashedFrom a) w.log

/-- A deposit, a withdrawal or a slashing of bond. -/
def bondFlow : Event → Bool
  | .bondDeposited .. | .bondWithdrawn .. | .bondSlashed .. => true
  | _ => false

theorem NoFlow.of_log {d : Deployment} {w w' : World} (new : List Event)
    (hlog : w'.log = new ++ w.log) (hnew : ∀ e ∈ new, bondFlow e = false)
    (hbound : Bound d w' → Bound d w) : NoFlow d w w' := by
  have hzero (weigh : Event → Nat) (hweigh : ∀ e, bondFlow e = false → weigh e = 0) :
      emitted weigh w'.log = emitted weigh w.log := by
    rw [hlog]
    exact emitted_append_of_zero w.log fun e he => hweigh e (hnew e he)
  refine ⟨fun a => hzero _ ?_, fun a => hzero _ ?_, fun hb => ⟨hbound hb, fun a => hzero _ ?_⟩⟩
  all_goals
    intro e he
    cases e with
    | bondDeposited => cases he
    | bondWithdrawn => cases he
    | bondSlashed => cases he
    | _ => rfl

namespace LedgerPool

variable {P : Primitives} {d : Deployment} {p : Pool Address Bytes32} {w w' : World}

theorem genesis (hw : Genesis w) :
    LedgerPool d (Pool.fresh Address Bytes32 (w.fxrp.balanceOf d.bondLedger)) w where
  free a := by simp [hw.freeBond, Pool.fresh]
  reserved := by
    funext id
    simp [hw.lockedBonds, Pool.fresh, LockedBond.claim]
  credited a := by simp [hw.log, Pool.fresh]
  debited a := by simp [hw.log, Pool.fresh]
  paid _ a := by simp [hw.log, Pool.fresh]
  held := rfl

theorem claim_of_active (hp : LedgerPool d p w) {id : Bytes32}
    (h : (w.ledger.lockedBonds id).active = true) :
    p.reserved id = some ⟨(w.ledger.lockedBonds id).maker, (w.ledger.lockedBonds id).amount⟩ := by
  rw [hp.reserved]
  simp [LockedBond.claim, h]

theorem no_claim (hp : LedgerPool d p w) {id : Bytes32}
    (h : ¬ (w.ledger.lockedBonds id).active = true) : p.reserved id = none := by
  rw [hp.reserved]
  simp [LockedBond.claim, h]

/-- One maker's free bond is written, as in a pool that leaves the others alone. -/
theorem free_update (hp : LedgerPool d p w) {q : Pool Address Bytes32} {maker : Address} {x : Nat}
    (hframe : Pool.Frame maker p q) (hself : x = q.free maker) (a : Address) :
    update w.ledger.freeBond maker x a = q.free a := by
  by_cases ha : a = maker
  · subst ha
    rw [Function.update_self]
    exact hself
  · rw [Function.update_of_ne ha, hframe.free a ha]
    exact hp.free a

/-- A change that leaves the bonds alone, except that FXRP may come in. -/
theorem receive (hp : LedgerPool d p w) (x : Nat) (hfree : w'.ledger.freeBond = w.ledger.freeBond)
    (hbonds : w'.ledger.lockedBonds = w.ledger.lockedBonds)
    (hflow : NoFlow d w w')
    (hheld : w'.fxrp.balanceOf d.bondLedger = w.fxrp.balanceOf d.bondLedger + x) :
    LedgerPool d (p.receive x) w' where
  free a := by rw [hfree]; exact hp.free a
  reserved := by rw [hbonds]; exact hp.reserved
  credited a := by rw [hflow.deposits]; exact hp.credited a
  debited a := by rw [hflow.withdrawals]; exact hp.debited a
  paid hb a := by rw [(hflow.slashes hb).2]; exact hp.paid (hflow.slashes hb).1 a
  held := by rw [hheld, ← hp.held]; rfl

theorem depositBond {env : Env} {sender : Account d} {amount : Nat} (hp : LedgerPool d p w)
    (h : BondLedger.depositBond d.bondLedger env sender.address amount w = .ok w') :
    LedgerPool d (p.credit sender.address amount) w' := by
  obtain ⟨_, _, _, hle, rfl⟩ := BondLedger.depositBond_eq_ok.mp h
  have hmove := w.fxrp.move_apply sender.address d.bondLedger d.bondLedger amount hle
  rw [if_neg sender.ne_ledger.symm, if_pos rfl] at hmove
  constructor
  case free =>
    refine hp.free_update (p.frame_credit sender.address amount) ?_
    rw [hp.free]
    simp only [Pool.credit, Function.update_self]
  case reserved => exact hp.reserved
  case credited =>
    intro a
    refine (Mapping.update_add_apply p.credited sender.address amount a).trans ?_
    simp only [hp.credited, emitted_cons, bondDepositedBy]; omega
  case debited =>
    intro a
    exact (hp.debited a).trans (by simp [bondWithdrawnBy])
  case paid =>
    intro hb a
    exact (hp.paid hb a).trans (by simp [bondSlashedFrom])
  case held =>
    have := hp.held
    simp only [Pool.credit]; omega

theorem withdrawBond {env : Env} {sender : Account d} {amount : Nat} (hp : LedgerPool d p w)
    (h : BondLedger.withdrawBond d.bondLedger env sender.address amount w = .ok w') :
    ∃ hx : amount ≤ p.free sender.address, LedgerPool d (p.debit sender.address amount hx) w' := by
  obtain ⟨_, hfree, _, hle, rfl⟩ := BondLedger.withdrawBond_eq_ok.mp h
  have hmove := w.fxrp.move_apply d.bondLedger sender.address d.bondLedger amount hle
  rw [if_pos rfl, if_neg sender.ne_ledger.symm] at hmove
  have hx : amount ≤ p.free sender.address := (hp.free _) ▸ hfree
  refine ⟨hx, ?_⟩
  constructor
  case free =>
    refine hp.free_update (p.frame_debit sender.address amount hx) ?_
    rw [hp.free]
    simp only [Pool.debit, Function.update_self]
  case reserved => exact hp.reserved
  case credited =>
    intro a
    exact (hp.credited a).trans (by simp [bondDepositedBy])
  case debited =>
    intro a
    refine (Mapping.update_add_apply p.debited sender.address amount a).trans ?_
    simp only [hp.debited, emitted_cons, bondWithdrawnBy]; omega
  case paid =>
    intro hb a
    exact (hp.paid hb a).trans (by simp [bondSlashedFrom])
  case held =>
    have := hp.held
    simp only [Pool.debit]; omega

/-- What `lockBond` writes, over an entry that is not active. -/
theorem reserve {id : Bytes32} {maker : Address} {amount : Nat} (hp : LedgerPool d p w)
    (hfree : amount ≤ w.ledger.freeBond maker)
    (hinactive : ¬ (w.ledger.lockedBonds id).active = true)
    (hfree' : w'.ledger.freeBond = update w.ledger.freeBond maker (w.ledger.freeBond maker - amount))
    (hbonds : w'.ledger.lockedBonds = update w.ledger.lockedBonds id ⟨maker, amount, true⟩)
    (hflow : NoFlow d w w') (hfxrp : w'.fxrp = w.fxrp) :
    ∃ p', Moves p p' ∧ LedgerPool d p' w' := by
  have hi := hp.no_claim hinactive
  have hx : amount ≤ p.free maker := (hp.free maker) ▸ hfree
  refine ⟨p.reserve id ⟨maker, amount⟩ hx hi, .single (.reserve p id _ hx hi), ?_⟩
  constructor
  case free =>
    rw [hfree']
    refine hp.free_update (p.frame_reserve id ⟨maker, amount⟩ hx hi) ?_
    rw [hp.free]
    simp only [Pool.reserve, Function.update_self]
  case reserved =>
    rw [hbonds]
    exact Mapping.view_update hp.reserved (by simp [LockedBond.claim])
  case credited => intro a; rw [hflow.deposits]; exact hp.credited a
  case debited => intro a; rw [hflow.withdrawals]; exact hp.debited a
  case paid => intro hb a; rw [(hflow.slashes hb).2]; exact hp.paid (hflow.slashes hb).1 a
  case held => rw [hfxrp]; exact hp.held

/-- What `releaseBond` writes. -/
theorem giveBack {id : Bytes32} {x : Nat} (hp : LedgerPool d p w)
    (hactive : (w.ledger.lockedBonds id).active = true)
    (hfree : w'.ledger.freeBond = update w.ledger.freeBond (w.ledger.lockedBonds id).maker
      (w.ledger.freeBond (w.ledger.lockedBonds id).maker + (w.ledger.lockedBonds id).amount))
    (hbonds : w'.ledger.lockedBonds =
      update w.ledger.lockedBonds id { w.ledger.lockedBonds id with active := false })
    (hflow : NoFlow d w w')
    (hheld : w'.fxrp.balanceOf d.bondLedger = w.fxrp.balanceOf d.bondLedger + x) :
    ∃ p', Moves p p' ∧ LedgerPool d p' w' := by
  have hi := hp.claim_of_active hactive
  refine ⟨(p.giveBack id _ hi).receive x,
    .tail (.single (.giveBack p id _ hi)) (.receive _ x), ?_⟩
  constructor
  case free =>
    rw [hfree]
    refine hp.free_update ((p.frame_giveBack id _ hi).receive x) ?_
    rw [hp.free]
    simp only [Pool.receive, Pool.giveBack, Function.update_self]
  case reserved =>
    rw [hbonds]
    exact Mapping.view_update hp.reserved (by simp [LockedBond.claim])
  case credited => intro a; rw [hflow.deposits]; exact hp.credited a
  case debited => intro a; rw [hflow.withdrawals]; exact hp.debited a
  case paid => intro hb a; rw [(hflow.slashes hb).2]; exact hp.paid (hflow.slashes hb).1 a
  case held =>
    have := hp.held
    simp only [Pool.receive, Pool.giveBack]; omega

/-- What `slashBond` writes; the recipient may be the ledger itself. -/
theorem payOut {id : Bytes32} {x : Nat} (hp : LedgerPool d p w)
    (hactive : (w.ledger.lockedBonds id).active = true)
    (hfree : w'.ledger.freeBond = w.ledger.freeBond)
    (hbonds : w'.ledger.lockedBonds =
      update w.ledger.lockedBonds id { w.ledger.lockedBonds id with active := false })
    (hdeposit : ∀ a, emitted (bondDepositedBy a) w'.log = emitted (bondDepositedBy a) w.log)
    (hwithdraw : ∀ a, emitted (bondWithdrawnBy a) w'.log = emitted (bondWithdrawnBy a) w.log)
    (hslash : Bound d w' → Bound d w ∧
      ∀ a, emitted (bondSlashedFrom a) w'.log = emitted (bondSlashedFrom a) w.log +
        (if (w.ledger.lockedBonds id).maker = a then (w.ledger.lockedBonds id).amount else 0))
    (hheld : w'.fxrp.balanceOf d.bondLedger + (w.ledger.lockedBonds id).amount =
      w.fxrp.balanceOf d.bondLedger + x) :
    ∃ p', Moves p p' ∧ LedgerPool d p' w' := by
  have hi := hp.claim_of_active hactive
  refine ⟨(p.payOut id _ hi).receive x, .tail (.single (.payOut p id _ hi)) (.receive _ x), ?_⟩
  constructor
  case free => intro a; rw [hfree]; exact hp.free a
  case reserved =>
    rw [hbonds]
    exact Mapping.view_update hp.reserved (by simp [LockedBond.claim])
  case credited => intro a; rw [hdeposit]; exact hp.credited a
  case debited => intro a; rw [hwithdraw]; exact hp.debited a
  case paid =>
    intro hb a
    rw [(hslash hb).2, ← hp.paid (hslash hb).1 a]
    exact Mapping.update_add_apply ..
  case held =>
    have hle := p.claim_le_held id _ hi
    have := hp.held
    simp only [Pool.receive, Pool.payOut] at hle ⊢; omega

theorem moves_trans {q : Pool Address Bytes32} (hq : Moves p q)
    (h : ∃ p', Moves q p' ∧ LedgerPool d p' w') : ∃ p', Moves p p' ∧ LedgerPool d p' w' := by
  obtain ⟨p', hp', hv⟩ := h
  exact ⟨p', hq.trans hp', hv⟩

/-- An entry is written over an active one: its old maker's bond stays behind in
the ledger with nobody to claim it. -/
theorem abandon {id : Bytes32} (hp : LedgerPool d p w) (hbound : ¬ Bound d w)
    (hactive : (w.ledger.lockedBonds id).active = true) :
    ∃ p', Moves p p' ∧ LedgerPool d p' { w with
      ledger.lockedBonds := update w.ledger.lockedBonds id
        { w.ledger.lockedBonds id with active := false } } :=
  hp.payOut hactive rfl rfl (fun _ => rfl) (fun _ => rfl) (fun hb => absurd hb hbound) rfl

theorem lockBond {sender : Account d} {id : Bytes32} {maker : Address} {amount : Nat}
    (hp : LedgerPool d p w) (h : BondLedger.lockBond sender.address id maker amount w = .ok w') :
    ∃ p', Moves p p' ∧ LedgerPool d p' w' := by
  obtain ⟨hsender, hfree, hlt, rfl⟩ := BondLedger.lockBond_eq_ok.mp h
  have hbound : ¬ Bound d w := fun hb => sender.not_escrow hb hsender
  by_cases hactive : (w.ledger.lockedBonds id).active = true
  · obtain ⟨q, hq, hqw⟩ := hp.abandon hbound hactive
    exact moves_trans hq (hqw.reserve hfree (by simp) rfl (Function.update_idem ..).symm
      (.of_log [_] rfl (by simp [bondFlow]) fun hb => hb) rfl)
  · exact hp.reserve hfree hactive rfl rfl (.of_log [_] rfl (by simp [bondFlow]) fun hb => hb) rfl

/-- Every step of the system is a sequence of moves of the ledger's pool. -/
theorem step (hp : LedgerPool d p w) (hbonded : Bound d w → Bonded w) (h : Step P d w w') :
    ∃ p', Moves p p' ∧ LedgerPool d p' w' := by
  have received (x : Nat) {v : World} (hv : LedgerPool d (p.receive x) v) :
      ∃ p', Moves p p' ∧ LedgerPool d p' v := ⟨_, .single (.receive p x), hv⟩
  have hbound : Bound d w' → Bound d w := fun hb => hb.of_step h
  cases h with
  | quiet h =>
    apply received 0
    apply hp.receive 0 h.freeBond h.lockedBonds
    · rcases h.log with hlog | ⟨a, b, hlog⟩
      · exact .of_log [] hlog (by simp) hbound
      · exact .of_log [_] hlog (by simp [bondFlow]) hbound
    · rw [h.fxrp]
      rfl
  | transfer src dst amount hle =>
    have hmove := w.fxrp.move_apply src.address dst d.bondLedger amount hle
    rw [if_neg src.ne_ledger.symm] at hmove
    exact received _ (hp.receive _ rfl rfl (.of_log [_] rfl (by simp [bondFlow]) hbound)
      hmove)
  | mint dst amount hlt =>
    obtain ⟨x, hx⟩ := Nat.exists_eq_add_of_le (w.fxrp.le_mint dst d.bondLedger amount hlt)
    exact received x (hp.receive x rfl rfl (.of_log [_] rfl (by simp [bondFlow]) hbound)
      hx)
  | deposit env sender amount armedUntil h =>
    obtain ⟨_, _, _, hle, rfl⟩ := DvPEscrow.deposit_eq_ok.mp h
    have hmove := w.fxrp.move_apply sender.address d.self d.bondLedger amount hle
    rw [if_neg sender.ne_ledger.symm] at hmove
    exact received _ (hp.receive _ rfl rfl (.of_log [_, _] rfl (by simp [bondFlow]) hbound)
      hmove)
  | withdraw env sender amount h =>
    obtain ⟨_, _, _, _, hle, rfl⟩ := DvPEscrow.withdraw_eq_ok.mp h
    have hmove := w.fxrp.move_apply d.self sender.address d.bondLedger amount hle
    rw [if_neg d.distinct.symm] at hmove
    exact received _ (hp.receive _ rfl rfl (.of_log [_, _] rfl (by simp [bondFlow]) hbound)
      hmove)
  | lock env value data sig mi fee mid18 ts h =>
    have hinactive : ¬ (w.ledger.lockedBonds mi.matchId).active = true := by
      rw [← (hbonded (.inr h.bound.symm)).active mi.matchId, h.instruction.fresh]
      decide
    exact hp.reserve h.bond hinactive rfl rfl (.of_log [_, _] rfl (by simp [bondFlow]) hbound) rfl
  | release env id proof h =>
    obtain ⟨_, _, _, _, _, _, hactive, _, _, hle, rfl⟩ := DvPEscrow.release_eq_ok.mp h
    have hmove := w.fxrp.move_apply d.self (w.escrow.matchOf id).maker d.bondLedger _ hle
    rw [if_neg d.distinct.symm] at hmove
    exact hp.giveBack hactive rfl rfl (.of_log [_, _, _] rfl (by simp [bondFlow]) hbound)
      hmove
  | refund env id h =>
    obtain ⟨_, _, _, _, _, _, _, hactive, _, hbond, _, hle, rfl⟩ := DvPEscrow.refund_eq_ok.mp h
    have hslash := w.fxrp.move_apply d.bondLedger (w.escrow.matchOf id).taker d.bondLedger _ hbond
    have hmove := (w.fxrp.move _ _ _ hbond).move_apply d.self (w.escrow.matchOf id).taker
      d.bondLedger _ hle
    rw [if_pos rfl] at hslash
    rw [if_neg d.distinct.symm, Nat.add_zero] at hmove
    have hheld := congrArg (· + (w.ledger.lockedBonds id).amount) hmove
    simp only [Nat.add_right_comm _ _ (w.ledger.lockedBonds id).amount, hslash] at hheld
    exact hp.payOut hactive rfl rfl (fun a => by simp [bondDepositedBy])
      (fun a => by simp [bondWithdrawnBy])
      (fun hb => ⟨hbound hb, fun a => by simp [bondSlashedFrom, Nat.add_comm]⟩)
      (hheld.trans (Nat.add_assoc _ _ _))
  | depositBond env sender amount h => exact ⟨_, .single (.credit p _ _), hp.depositBond h⟩
  | withdrawBond env sender amount h =>
    obtain ⟨hx, hv⟩ := hp.withdrawBond h
    exact ⟨_, .single (.debit p _ _ hx), hv⟩
  | lockBond sender id maker amount h => exact hp.lockBond h
  | releaseBond sender id h =>
    obtain ⟨_, hactive, _, rfl⟩ := BondLedger.releaseBond_eq_ok.mp h
    exact hp.giveBack (x := 0) hactive rfl rfl (.of_log [_] rfl (by simp [bondFlow]) hbound)
      rfl
  | slashBond env sender id recipient h =>
    obtain ⟨_, hactive, _, hle, rfl⟩ := BondLedger.slashBond_eq_ok.mp h
    have hmove := w.fxrp.move_apply d.bondLedger recipient d.bondLedger _ hle
    rw [if_pos rfl] at hmove
    exact hp.payOut hactive rfl rfl (fun a => by simp [bondDepositedBy])
      (fun a => by simp [bondWithdrawnBy])
      (fun hb => ⟨hbound hb, fun a => by simp [bondSlashedFrom, Nat.add_comm]⟩) hmove

theorem steps (hp : LedgerPool d p w) (hbonded : Bound d w → Bonded w) (h : Steps P d w w') :
    ∃ p', Moves p p' ∧ LedgerPool d p' w' := by
  induction h with
  | refl => exact ⟨p, .refl, hp⟩
  | tail hinit hlast ih =>
    obtain ⟨q, hq, hqw⟩ := ih
    exact moves_trans hq (hqw.step (Bonded.steps hbonded hinit) hlast)

end LedgerPool

section Results

variable {P : Primitives} {d : Deployment} {w : World}

/-- Every run of the deployed system refines a run of the ledger's pool. -/
theorem ledger_refines_pool {w₀ : World} (hw₀ : Deployed d w₀) (txs : List (Tx d)) :
    ∃ p, Moves (Pool.fresh Address Bytes32 (w₀.fxrp.balanceOf d.bondLedger)) p ∧
      LedgerPool d p (after P w₀ txs) :=
  (LedgerPool.genesis hw₀.genesis).steps (fun _ => Bonded.genesis hw₀.genesis) (after_steps w₀ txs)

theorem Reachable.ledgerPool (h : Reachable P d w) : ∃ p, LedgerPool d p w := by
  obtain ⟨w₀, txs, hw₀, rfl⟩ := h
  obtain ⟨p, _, hp⟩ := ledger_refines_pool hw₀ txs
  exact ⟨p, hp⟩

theorem Reachable.bonded (h : Reachable P d w) (hbound : Bound d w) : Bonded w := by
  obtain ⟨w₀, txs, hw₀, rfl⟩ := h
  exact Bonded.steps (fun _ => Bonded.genesis hw₀.genesis) (after_steps w₀ txs) hbound

/-- Escrow and ledger agree on every bond over every run, and the ledger can
pay what it owes. -/
theorem bond_accounting {w₀ : World} (hw₀ : Deployed d w₀) (txs : List (Tx d))
    (hbound : Bound d (after P w₀ txs)) :
    let w := after P w₀ txs
    (∀ id,
      ((w.escrow.matchOf id).state = .locked ↔ (w.ledger.lockedBonds id).active = true) ∧
      ((w.escrow.matchOf id).state = .locked →
        (w.ledger.lockedBonds id).maker = (w.escrow.matchOf id).maker ∧
        (w.ledger.lockedBonds id).amount = (w.escrow.matchOf id).bondAmount) ∧
      bondHistory id w.log = (w.escrow.matchOf id).bondEvents id) ∧
    (∀ maker,
      w.ledger.freeBond maker + emitted (bondWithdrawnBy maker) w.log +
        Mapping.total w.ledger.lockedBonds (LockedBond.activeShare maker) +
        emitted (bondSlashedFrom maker) w.log = emitted (bondDepositedBy maker) w.log) ∧
    ∑ maker, w.ledger.freeBond maker + Mapping.total w.ledger.lockedBonds LockedBond.activeAmount ≤
      w.fxrp.balanceOf d.bondLedger := by
  have hbonded := Reachable.bonded ⟨w₀, txs, hw₀, rfl⟩ hbound
  obtain ⟨p, _, hp⟩ := ledger_refines_pool hw₀ txs
  refine ⟨fun id => ⟨hbonded.active id, hbonded.terms id, hbonded.history id⟩, fun maker => ?_, ?_⟩
  · have hbalanced := p.balanced maker
    have hreserved : reservedBy p.reserved maker =
        Mapping.total (after P w₀ txs).ledger.lockedBonds (LockedBond.activeShare maker) := by
      rw [reservedBy, hp.reserved]
      exact Finset.sum_congr rfl (fun id _ => LockedBond.shareOf_claim _ maker)
    rw [← hp.free, hp.credited, hp.debited, hp.paid hbound, hreserved] at hbalanced
    omega
  · have hsolvent := p.solvent
    have hreserved : Mapping.total p.reserved Reserve.amountOf =
        Mapping.total (after P w₀ txs).ledger.lockedBonds LockedBond.activeAmount := by
      rw [hp.reserved]
      exact Finset.sum_congr rfl (fun id _ => LockedBond.amountOf_claim _)
    rw [hp.held, hreserved, Finset.sum_congr rfl (fun a _ => (hp.free a).symm)] at hsolvent
    exact hsolvent

theorem bond_accounting_opening :
    let w := after Sample.primitives Sample.world (Sample.opening 1000 7)
    (w.ledger.lockedBonds 7).active = true ∧
    (∀ id,
      ((w.escrow.matchOf id).state = .locked ↔ (w.ledger.lockedBonds id).active = true) ∧
      ((w.escrow.matchOf id).state = .locked →
        (w.ledger.lockedBonds id).maker = (w.escrow.matchOf id).maker ∧
        (w.ledger.lockedBonds id).amount = (w.escrow.matchOf id).bondAmount) ∧
      bondHistory id w.log = (w.escrow.matchOf id).bondEvents id) ∧
    (∀ maker,
      w.ledger.freeBond maker + emitted (bondWithdrawnBy maker) w.log +
        Mapping.total w.ledger.lockedBonds (LockedBond.activeShare maker) +
        emitted (bondSlashedFrom maker) w.log = emitted (bondDepositedBy maker) w.log) ∧
    ∑ maker, w.ledger.freeBond maker + Mapping.total w.ledger.lockedBonds LockedBond.activeAmount ≤
      w.fxrp.balanceOf Sample.deployment.bondLedger :=
  ⟨by decide +kernel, bond_accounting Sample.deployed (Sample.opening 1000 7)
    (.inr (by decide +kernel))⟩

end Results

end WhisperDesk
