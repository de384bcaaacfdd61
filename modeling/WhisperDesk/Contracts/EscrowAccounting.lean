import WhisperDesk.General.Reserve
import WhisperDesk.Contracts.System

/-!
# Escrow accounting

The escrow keeps two counters per taker, adjusted by five operations. They are
a reserve pool read off two numbers: `committed` is the reserved part, `armed`
the free and the reserved part together, and the FXRP balance is what is held.
Every step of the system is a sequence of pool moves.
-/
namespace WhisperDesk

open Function (update)
open Reverting
open Relation (ReflTransGen)
open Reserve (Claim Pool Move Moves reservedBy)
open DvPEscrow (Deployment)

/-- The principal a match holds back, while it does. -/
def Match.claim (m : Match) : Option (Claim Address) :=
  if m.state = .locked then some ⟨m.taker, m.amountFxrp⟩ else none

/-- What a locked match takes of `taker`'s balance. -/
def Match.lockedShare (taker : Address) (m : Match) : Nat :=
  if m.state = .locked ∧ m.taker = taker then m.amountFxrp else 0

/-- What a settled match took from `taker` for good. -/
def Match.settledShare (taker : Address) (m : Match) : Nat :=
  if (m.state = .released ∨ m.state = .refunded) ∧ m.taker = taker then m.amountFxrp else 0

def depositedBy (taker : Address) : Event → Nat
  | .deposited t amount _ => if t = taker then amount else 0
  | _ => 0

def withdrawnBy (taker : Address) : Event → Nat
  | .withdrawn t amount => if t = taker then amount else 0
  | _ => 0

/-- A match settled one way or the other: nothing else of it changes. -/
def Match.settled (m : Match) (state : MatchState) : Match := { m with state := state }

theorem Match.shareOf_claim (m : Match) (a : Address) :
    Reserve.shareOf a m.claim = m.lockedShare a := by
  unfold Match.claim Match.lockedShare
  by_cases hs : m.state = .locked
  · simp [hs]
  · simp [hs]

/-- The escrow's storage, log and FXRP balance read as a pool. -/
structure EscrowPool (d : Deployment) (p : Pool Address Bytes32) (w : World) : Prop where
  armed : ∀ a, (w.escrow.balances a).armed = p.free a + reservedBy p.reserved a
  committed : ∀ a, (w.escrow.balances a).committed = reservedBy p.reserved a
  reserved : p.reserved = fun id => (w.escrow.matchOf id).claim
  credited : ∀ a, p.credited a = emitted (depositedBy a) w.log
  debited : ∀ a, p.debited a = emitted (withdrawnBy a) w.log
  paid : ∀ a, p.paid a = Mapping.total w.escrow.matchOf (Match.settledShare a)
  held : p.held = w.fxrp.balanceOf d.self
  armed_lt : ∀ a, (w.escrow.balances a).armed < 2 ^ 128

namespace EscrowPool

variable {P : Primitives} {d : Deployment} {p : Pool Address Bytes32} {w w' : World}

theorem genesis (hw : Genesis w) :
    EscrowPool d (Pool.fresh Address Bytes32 (w.fxrp.balanceOf d.self)) w where
  armed a := by simp [hw.balances, Pool.fresh, reservedBy, Mapping.total]
  committed a := by simp [hw.balances, Pool.fresh, reservedBy, Mapping.total]
  reserved := by
    funext id
    simp [hw.matchOf, Pool.fresh, Match.claim, Match.zero]
  credited a := by simp [hw.log, Pool.fresh]
  debited a := by simp [hw.log, Pool.fresh]
  paid a := by
    rw [hw.matchOf]
    exact (Mapping.total_eq_zero _ _ (fun _ => by simp [Match.settledShare, Match.zero])).symm
  held := rfl
  armed_lt a := by simp [hw.balances]

/-- A change that leaves the escrow alone, except that it may be sent FXRP. -/
theorem receive (hp : EscrowPool d p w) (x : Nat)
    (hbalances : w'.escrow.balances = w.escrow.balances)
    (hmatch : w'.escrow.matchOf = w.escrow.matchOf)
    (hdeposit : ∀ a, emitted (depositedBy a) w'.log = emitted (depositedBy a) w.log)
    (hwithdraw : ∀ a, emitted (withdrawnBy a) w'.log = emitted (withdrawnBy a) w.log)
    (hheld : w'.fxrp.balanceOf d.self = w.fxrp.balanceOf d.self + x) :
    EscrowPool d (p.receive x) w' where
  armed a := by rw [hbalances]; exact hp.armed a
  committed a := by rw [hbalances]; exact hp.committed a
  reserved := by rw [hmatch]; exact hp.reserved
  credited a := by rw [hdeposit]; exact hp.credited a
  debited a := by rw [hwithdraw]; exact hp.debited a
  paid a := by rw [hmatch]; exact hp.paid a
  held := by rw [hheld, ← hp.held]; rfl
  armed_lt a := by rw [hbalances]; exact hp.armed_lt a

theorem committed_le_armed (hp : EscrowPool d p w) (a : Address) :
    (w.escrow.balances a).committed ≤ (w.escrow.balances a).armed := by
  rw [hp.committed, hp.armed]
  omega

theorem free_eq (hp : EscrowPool d p w) (a : Address) :
    p.free a = (w.escrow.balances a).armed - (w.escrow.balances a).committed := by
  rw [hp.committed, hp.armed]
  omega

theorem claim_of_locked (hp : EscrowPool d p w) {id : Bytes32}
    (h : (w.escrow.matchOf id).state = .locked) :
    p.reserved id = some ⟨(w.escrow.matchOf id).taker, (w.escrow.matchOf id).amountFxrp⟩ := by
  rw [hp.reserved]
  simp [Match.claim, h]

theorem no_claim (hp : EscrowPool d p w) {id : Bytes32}
    (h : (w.escrow.matchOf id).state ≠ .locked) : p.reserved id = none := by
  rw [hp.reserved]
  simp [Match.claim, h]

/-- One balance may be replaced by another that fits a uint128. -/
theorem armed_lt_update (hp : EscrowPool d p w) {a : Address} {b : TakerBalance}
    (hb : b.armed < 2 ^ 128) (a' : Address) : (update w.escrow.balances a b a').armed < 2 ^ 128 :=
  (Function.forall_update_iff w.escrow.balances fun _ b => b.armed < 2 ^ 128).mpr
    ⟨hb, fun a' _ => hp.armed_lt a'⟩ a'

/-- One taker's balance is written: `armed` and `committed` follow a pool that leaves the others alone. -/
theorem armed_update (hp : EscrowPool d p w) {q : Pool Address Bytes32} {taker : Address}
    {b : TakerBalance} (hframe : Pool.Frame taker p q)
    (hself : b.armed = q.free taker + reservedBy q.reserved taker) (a : Address) :
    (update w.escrow.balances taker b a).armed = q.free a + reservedBy q.reserved a := by
  by_cases ha : a = taker
  · subst ha
    rw [Function.update_self]
    exact hself
  · rw [Function.update_of_ne ha, hframe.free a ha, hframe.reserved a ha]
    exact hp.armed a

theorem committed_update (hp : EscrowPool d p w) {q : Pool Address Bytes32} {taker : Address}
    {b : TakerBalance} (hframe : Pool.Frame taker p q)
    (hself : b.committed = reservedBy q.reserved taker) (a : Address) :
    (update w.escrow.balances taker b a).committed = reservedBy q.reserved a := by
  by_cases ha : a = taker
  · subst ha
    rw [Function.update_self]
    exact hself
  · rw [Function.update_of_ne ha, hframe.reserved a ha]
    exact hp.committed a

theorem deposit {env : Env} {sender : Account d} {amount armedUntil : Nat} (hp : EscrowPool d p w)
    (h : DvPEscrow.deposit d env sender.address amount armedUntil w = .ok w') :
    EscrowPool d (p.credit sender.address amount) w' := by
  obtain ⟨_, hlt, _, hle, rfl⟩ := DvPEscrow.deposit_eq_ok.mp h
  have hmove := w.fxrp.move_apply sender.address d.self d.self amount hle
  rw [if_neg sender.ne_self.symm, if_pos rfl] at hmove
  have hframe := p.frame_credit sender.address amount
  constructor
  case armed =>
    refine hp.armed_update hframe ?_
    have ha := hp.armed sender.address
    simp only [Pool.credit, Function.update_self]; omega
  case committed => exact hp.committed_update hframe (hp.committed sender.address)
  case reserved => exact hp.reserved
  case credited =>
    intro a
    refine (Mapping.update_add_apply p.credited sender.address amount a).trans ?_
    simp only [hp.credited, emitted_cons, depositedBy]; omega
  case debited =>
    intro a
    exact (hp.debited a).trans (by simp [withdrawnBy])
  case paid => exact hp.paid
  case held =>
    have := hp.held
    simp only [Pool.credit]; omega
  case armed_lt => exact hp.armed_lt_update hlt

theorem withdraw {env : Env} {sender : Account d} {amount : Nat} (hp : EscrowPool d p w)
    (h : DvPEscrow.withdraw d env sender.address amount w = .ok w') :
    ∃ hx : amount ≤ p.free sender.address, EscrowPool d (p.debit sender.address amount hx) w' := by
  obtain ⟨_, _, havail, _, hle, rfl⟩ := DvPEscrow.withdraw_eq_ok.mp h
  have hfree := hp.free_eq sender.address
  have hsmall : (w.escrow.balances sender.address).armed - amount < 2 ^ 128 :=
    Nat.lt_of_le_of_lt (Nat.sub_le _ _) (hp.armed_lt _)
  have hmove := w.fxrp.move_apply d.self sender.address d.self amount hle
  rw [if_pos rfl, if_neg sender.ne_self.symm] at hmove
  rw [narrow_of_lt hsmall]
  have hx : amount ≤ p.free sender.address := by omega
  have hframe := p.frame_debit sender.address amount hx
  refine ⟨hx, ?_⟩
  constructor
  case armed =>
    refine hp.armed_update hframe ?_
    have ha := hp.armed sender.address
    simp only [Pool.debit, Function.update_self]; omega
  case committed => exact hp.committed_update hframe (hp.committed sender.address)
  case reserved => exact hp.reserved
  case credited =>
    intro a
    exact (hp.credited a).trans (by simp [depositedBy])
  case debited =>
    intro a
    refine (Mapping.update_add_apply p.debited sender.address amount a).trans ?_
    simp only [hp.debited, emitted_cons, withdrawnBy]; omega
  case paid => exact hp.paid
  case held =>
    have := hp.held
    simp only [Pool.debit]; omega
  case armed_lt => exact hp.armed_lt_update hsmall

theorem lock {env : Env} {value fee mid18 ts : Nat} {data sig : Bytes}
    {mi : MatchInstructionLib.MatchInstruction} (hp : EscrowPool d p w)
    (h : DvPEscrow.LockAccepted P d env value data sig w mi fee mid18 ts) :
    ∃ (hx : mi.amountFxrp ≤ p.free mi.taker) (hi : p.reserved mi.matchId = none),
      EscrowPool d (p.reserve mi.matchId ⟨mi.taker, mi.amountFxrp⟩ hx hi)
        { DvPEscrow.lockedWorld P d env value mi fee mid18 w with escrow.entered := true } := by
  have hfree := hp.free_eq mi.taker
  have harmed := h.armed
  have hnone : (w.escrow.matchOf mi.matchId).state ≠ .locked := by rw [h.instruction.fresh]; decide
  have hi := hp.no_claim hnone
  have hx : mi.amountFxrp ≤ p.free mi.taker := by omega
  have hframe := p.frame_reserve mi.matchId ⟨mi.taker, mi.amountFxrp⟩ hx hi
  have hreserved := p.reservedBy_reserve mi.matchId ⟨mi.taker, mi.amountFxrp⟩ hx hi
  refine ⟨hx, hi, ?_⟩
  constructor
  case armed =>
    refine hp.armed_update hframe ?_
    have ha := hp.armed mi.taker
    rw [hreserved]
    simp only [Pool.reserve, Function.update_self]; omega
  case committed =>
    refine hp.committed_update hframe ?_
    rw [hreserved]
    exact congrArg (· + mi.amountFxrp) (hp.committed mi.taker)
  case reserved => exact Mapping.view_update hp.reserved (by simp [DvPEscrow.lockedMatch, Match.claim])
  case credited =>
    intro a
    exact (hp.credited a).trans (by simp [DvPEscrow.lockedWorld, depositedBy])
  case debited =>
    intro a
    exact (hp.debited a).trans (by simp [DvPEscrow.lockedWorld, withdrawnBy])
  case paid =>
    intro a
    refine (hp.paid a).trans (Eq.symm ?_)
    refine Mapping.total_update_of_eq _ _ _ _ ?_
    simp [Match.settledShare, DvPEscrow.lockedMatch, h.instruction.fresh]
  case held => exact hp.held
  case armed_lt => exact hp.armed_lt_update (hp.armed_lt mi.taker)

/-- A locked match is settled either way: its principal leaves the pool, and
`x` units may come in besides. -/
theorem settle {id : Bytes32} {state : MatchState} {x : Nat} (hp : EscrowPool d p w)
    (hlocked : (w.escrow.matchOf id).state = .locked) (hstate : state = .released ∨ state = .refunded)
    (hbalances : w'.escrow.balances = update w.escrow.balances (w.escrow.matchOf id).taker
      (DvPEscrow.settledBalance (w.escrow.balances (w.escrow.matchOf id).taker)
        (w.escrow.matchOf id).amountFxrp))
    (hmatch : w'.escrow.matchOf =
      update w.escrow.matchOf id ((w.escrow.matchOf id).settled state))
    (hdeposit : ∀ a, emitted (depositedBy a) w'.log = emitted (depositedBy a) w.log)
    (hwithdraw : ∀ a, emitted (withdrawnBy a) w'.log = emitted (withdrawnBy a) w.log)
    (hheld : w'.fxrp.balanceOf d.self + (w.escrow.matchOf id).amountFxrp =
      w.fxrp.balanceOf d.self + x) :
    ∃ p', Moves p p' ∧ EscrowPool d p' w' := by
  have hi := hp.claim_of_locked hlocked
  have hne : state ≠ .locked := by rcases hstate with rfl | rfl <;> decide
  have hframe := (p.frame_payOut id _ hi).receive x
  have hreserved := p.reservedBy_payOut id _ hi
  refine ⟨(p.payOut id _ hi).receive x,
    .tail (.single (.payOut p id _ hi)) (.receive _ x), ?_⟩
  constructor
  case armed =>
    rw [hbalances]
    refine hp.armed_update hframe ?_
    have ha := hp.armed (w.escrow.matchOf id).taker
    simp only [Pool.receive, Pool.payOut, DvPEscrow.settledBalance] at hreserved ⊢; omega
  case committed =>
    rw [hbalances]
    refine hp.committed_update hframe ?_
    have ha := hp.committed (w.escrow.matchOf id).taker
    simp only [Pool.receive, Pool.payOut, DvPEscrow.settledBalance] at hreserved ⊢; omega
  case reserved =>
    rw [hmatch]
    exact Mapping.view_update hp.reserved (by simp [Match.claim, Match.settled, hne])
  case credited => intro a; rw [hdeposit]; exact hp.credited a
  case debited => intro a; rw [hwithdraw]; exact hp.debited a
  case paid =>
    intro a
    have htotal := Mapping.total_update w.escrow.matchOf id
      ((w.escrow.matchOf id).settled state) (Match.settledShare a)
    have hold : Match.settledShare a (w.escrow.matchOf id) = 0 := by
      simp [Match.settledShare, hlocked]
    have hnew : Match.settledShare a ((w.escrow.matchOf id).settled state) =
        if (w.escrow.matchOf id).taker = a then (w.escrow.matchOf id).amountFxrp else 0 := by
      simp [Match.settledShare, Match.settled, hstate]
    have hpaid := hp.paid a
    rw [hold, hnew] at htotal
    rw [hmatch]
    simp only [Pool.receive, Pool.payOut, Mapping.update_add_apply]; omega
  case held =>
    have hle := p.claim_le_held id _ hi
    have := hp.held
    simp only [Pool.receive, Pool.payOut] at hle ⊢; omega
  case armed_lt =>
    rw [hbalances]
    exact hp.armed_lt_update (Nat.lt_of_le_of_lt (Nat.sub_le _ _) (hp.armed_lt _))

theorem release {env : Env} {id : Bytes32} {proof : XRPPayment.Proof} (hp : EscrowPool d p w)
    (h : DvPEscrow.release d env id proof w = .ok w') : ∃ p', Moves p p' ∧ EscrowPool d p' w' := by
  obtain ⟨_, hlocked, _, _, _, _, _, _, _, hle, rfl⟩ := DvPEscrow.release_eq_ok.mp h
  have hmove := w.fxrp.move_apply d.self (w.escrow.matchOf id).maker d.self _ hle
  rw [if_pos rfl] at hmove
  exact hp.settle hlocked (.inl rfl) rfl rfl (fun a => by simp [depositedBy])
    (fun a => by simp [withdrawnBy]) hmove

theorem refund {env : Env} {id : Bytes32} (hp : EscrowPool d p w)
    (h : DvPEscrow.refund d env id w = .ok w') : ∃ p', Moves p p' ∧ EscrowPool d p' w' := by
  obtain ⟨_, hlocked, _, _, _, _, _, _, _, hbond, _, hle, rfl⟩ := DvPEscrow.refund_eq_ok.mp h
  have hslash := w.fxrp.move_apply d.bondLedger (w.escrow.matchOf id).taker d.self _ hbond
  have hmove := (w.fxrp.move _ _ _ hbond).move_apply d.self (w.escrow.matchOf id).taker d.self _ hle
  rw [if_neg d.distinct, Nat.add_zero] at hslash
  rw [if_pos rfl, hslash, Nat.add_assoc] at hmove
  exact hp.settle hlocked (.inr rfl) rfl rfl (fun a => by simp [depositedBy])
    (fun a => by simp [withdrawnBy]) hmove

/-- Every step of the system is a sequence of moves of the escrow's pool. -/
theorem step (hp : EscrowPool d p w) (h : Step P d w w') : ∃ p', Moves p p' ∧ EscrowPool d p' w' := by
  have received (x : Nat) {v : World} (hv : EscrowPool d (p.receive x) v) :
      ∃ p', Moves p p' ∧ EscrowPool d p' v := ⟨_, .single (.receive p x), hv⟩
  cases h with
  | quiet h =>
    refine received 0 (hp.receive 0 h.balances h.matchOf ?_ ?_ (by rw [h.fxrp]; rfl))
    · intro a
      rcases h.log with hlog | ⟨_, _, hlog⟩ <;> simp [hlog, depositedBy]
    · intro a
      rcases h.log with hlog | ⟨_, _, hlog⟩ <;> simp [hlog, withdrawnBy]
  | transfer src dst amount hle =>
    have hmove := w.fxrp.move_apply src.address dst d.self amount hle
    rw [if_neg src.ne_self.symm] at hmove
    exact received _ (hp.receive _ rfl rfl (fun a => by simp [depositedBy])
      (fun a => by simp [withdrawnBy]) hmove)
  | mint dst amount hlt =>
    obtain ⟨x, hx⟩ := Nat.exists_eq_add_of_le (w.fxrp.le_mint dst d.self amount hlt)
    exact received x (hp.receive x rfl rfl (fun a => by simp [depositedBy])
      (fun a => by simp [withdrawnBy]) hx)
  | deposit env sender amount armedUntil h =>
    exact ⟨_, .single (.credit p sender.address amount), hp.deposit h⟩
  | withdraw env sender amount h =>
    obtain ⟨hx, hv⟩ := hp.withdraw h
    exact ⟨_, .single (.debit p sender.address amount hx), hv⟩
  | lock env value data sig mi fee mid18 ts h =>
    obtain ⟨hx, hi, hv⟩ := hp.lock h
    exact ⟨_, .single (.reserve p mi.matchId _ hx hi), hv⟩
  | release env id proof h => exact hp.release h
  | refund env id h => exact hp.refund h
  | depositBond env sender amount h =>
    obtain ⟨_, _, _, hle, rfl⟩ := BondLedger.depositBond_eq_ok.mp h
    have hmove := w.fxrp.move_apply sender.address d.bondLedger d.self amount hle
    rw [if_neg sender.ne_self.symm] at hmove
    exact received _ (hp.receive _ rfl rfl (fun a => by simp [depositedBy])
      (fun a => by simp [withdrawnBy]) hmove)
  | withdrawBond env sender amount h =>
    obtain ⟨_, _, _, hle, rfl⟩ := BondLedger.withdrawBond_eq_ok.mp h
    have hmove := w.fxrp.move_apply d.bondLedger sender.address d.self amount hle
    rw [if_neg d.distinct] at hmove
    exact received _ (hp.receive _ rfl rfl (fun a => by simp [depositedBy])
      (fun a => by simp [withdrawnBy]) hmove)
  | lockBond sender id maker amount h =>
    obtain ⟨_, _, _, rfl⟩ := BondLedger.lockBond_eq_ok.mp h
    exact received 0 (hp.receive 0 rfl rfl (fun a => by simp [depositedBy])
      (fun a => by simp [withdrawnBy]) rfl)
  | releaseBond sender id h =>
    obtain ⟨_, _, _, rfl⟩ := BondLedger.releaseBond_eq_ok.mp h
    exact received 0 (hp.receive 0 rfl rfl (fun a => by simp [depositedBy])
      (fun a => by simp [withdrawnBy]) rfl)
  | slashBond env sender id recipient h =>
    obtain ⟨_, _, _, hle, rfl⟩ := BondLedger.slashBond_eq_ok.mp h
    have hmove := w.fxrp.move_apply d.bondLedger recipient d.self _ hle
    rw [if_neg d.distinct] at hmove
    exact received _ (hp.receive _ rfl rfl (fun a => by simp [depositedBy])
      (fun a => by simp [withdrawnBy]) hmove)

theorem steps (hp : EscrowPool d p w) (h : Steps P d w w') :
    ∃ p', Moves p p' ∧ EscrowPool d p' w' := by
  induction h with
  | refl => exact ⟨p, .refl, hp⟩
  | tail _ hlast ih =>
    obtain ⟨q, hq, hqw⟩ := ih
    obtain ⟨q', hq', hqw'⟩ := hqw.step hlast
    exact ⟨q', hq.trans hq', hqw'⟩

end EscrowPool

section Results

variable {P : Primitives} {d : Deployment} {w : World}

/-- Every run of the deployed system refines a run of the abstract pool. -/
theorem escrow_refines_pool {w₀ : World} (hw₀ : Deployed d w₀) (txs : List (Tx d)) :
    ∃ p, Moves (Pool.fresh Address Bytes32 (w₀.fxrp.balanceOf d.self)) p ∧
      EscrowPool d p (after P w₀ txs) :=
  (EscrowPool.genesis hw₀.genesis).steps (after_steps w₀ txs)

theorem Reachable.escrowPool (h : Reachable P d w) : ∃ p, EscrowPool d p w := by
  obtain ⟨w₀, txs, hw₀, rfl⟩ := h
  obtain ⟨p, _, hp⟩ := escrow_refines_pool hw₀ txs
  exact ⟨p, hp⟩

/-- The four counters stay in step over every run. -/
theorem escrow_accounting {w₀ : World} (hw₀ : Deployed d w₀) (txs : List (Tx d)) :
    let w := after P w₀ txs
    (∀ taker,
      (w.escrow.balances taker).committed = Mapping.total w.escrow.matchOf (Match.lockedShare taker) ∧
      (w.escrow.balances taker).committed ≤ (w.escrow.balances taker).armed ∧
      (w.escrow.balances taker).armed + emitted (withdrawnBy taker) w.log +
        Mapping.total w.escrow.matchOf (Match.settledShare taker) =
          emitted (depositedBy taker) w.log) ∧
    ∑ taker, (w.escrow.balances taker).armed ≤ w.fxrp.balanceOf d.self := by
  obtain ⟨p, _, hp⟩ := escrow_refines_pool (P := P) hw₀ txs
  refine ⟨fun taker => ⟨?_, hp.committed_le_armed taker, ?_⟩, ?_⟩
  · rw [hp.committed, reservedBy, hp.reserved]
    exact Finset.sum_congr rfl (fun id _ => Match.shareOf_claim _ taker)
  · rw [hp.armed, ← hp.debited, ← hp.paid, ← hp.credited]
    exact p.balanced taker
  · rw [← hp.held, Finset.sum_congr rfl (fun a _ => hp.armed a)]
    exact p.sum_position_le_held

theorem escrow_accounting_opening :
    let w := after Sample.primitives Sample.world (Sample.opening 1000 7)
    (w.escrow.matchOf 7).state = .locked ∧
    (∀ taker,
      (w.escrow.balances taker).committed = Mapping.total w.escrow.matchOf (Match.lockedShare taker) ∧
      (w.escrow.balances taker).committed ≤ (w.escrow.balances taker).armed ∧
      (w.escrow.balances taker).armed + emitted (withdrawnBy taker) w.log +
        Mapping.total w.escrow.matchOf (Match.settledShare taker) =
          emitted (depositedBy taker) w.log) ∧
    ∑ taker, (w.escrow.balances taker).armed ≤ w.fxrp.balanceOf Sample.deployment.self :=
  ⟨by decide +kernel, escrow_accounting Sample.deployed (Sample.opening 1000 7)⟩

end Results

end WhisperDesk
