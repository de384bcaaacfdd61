import WhisperDesk.General.EventLog
import WhisperDesk.Contracts.Settlement

/-!
# The events are a complete record

What an observer who reads nothing but events can know of the two contracts and
the token. Every event says enough to update such a mirror, and no call changes
what the mirror holds without the events to say so, a `lock`'s callback and the
calls nested in it included.
-/
namespace WhisperDesk

open Function (update)
open Reverting
open EventLog
open DvPEscrow (Deployment settledBalance)

/-- The mirror of the events: all that is stored but the admin switches, the
ledger's binding and the two guards, which no event reports. -/
structure Mirror where
  teeSigner : Address
  balances : Address → TakerBalance
  matchOf : Bytes32 → Match
  nextDestinationTag : Nat
  usedTxId : Bytes32 → Bool
  freeBond : Address → Nat
  lockedBonds : Bytes32 → LockedBond
  fxrp : Address → Nat

def World.mirror (w : World) : Mirror where
  teeSigner := w.escrow.teeSigner
  balances := w.escrow.balances
  matchOf := w.escrow.matchOf
  nextDestinationTag := w.escrow.nextDestinationTag
  usedTxId := w.escrow.usedTxId
  freeBond := w.ledger.freeBond
  lockedBonds := w.ledger.lockedBonds
  fxrp := w.fxrp.balanceOf

/-- The lock time an event's refund time goes back to, both `uint40`. -/
def lockedAtOf (d : Deployment) (refundAfter : Nat) : Nat :=
  narrow 40 (refundAfter + 2 ^ 40 - d.settlementWindow.toNat)

theorem lockedAtOf_narrow (d : Deployment) (timestamp : Nat) :
    lockedAtOf d (narrow 40 (timestamp + d.settlementWindow.toNat)) = narrow 40 timestamp := by
  have hwindow : d.settlementWindow.toNat < 2 ^ 32 := d.settlementWindow.toNat_lt
  simp only [lockedAtOf, narrow]
  omega

namespace Mirror

/-- A transfer out of the zero address is a mint. -/
def moveFxrp (v : Mirror) (src dst : Address) (amount : Nat) : Mirror :=
  if src = 0 then { v with fxrp := update v.fxrp dst (v.fxrp dst + amount) }
  else { v with fxrp := Token.moved v.fxrp src dst amount }

theorem moveFxrp_of_ne (v : Mirror) {src : Address} (dst : Address) (amount : Nat) (h : src ≠ 0) :
    v.moveFxrp src dst amount = { v with fxrp := Token.moved v.fxrp src dst amount } := if_neg h

theorem moveFxrp_zero (v : Mirror) (dst : Address) (amount : Nat) :
    v.moveFxrp 0 dst amount = { v with fxrp := update v.fxrp dst (v.fxrp dst + amount) } := if_pos rfl

def settle (v : Mirror) (matchId : Bytes32) (state : MatchState) (amount : Nat) : Mirror :=
  let m := v.matchOf matchId
  { v with
    matchOf := update v.matchOf matchId (m.settled state)
    balances := update v.balances m.taker (settledBalance (v.balances m.taker) amount) }

def closeBond (v : Mirror) (matchId : Bytes32) : Mirror :=
  { v with
    lockedBonds := update v.lockedBonds matchId { v.lockedBonds matchId with active := false } }

/-- What one event tells the mirror. -/
def apply (P : Primitives) (d : Deployment) (e : Event) (v : Mirror) : Mirror :=
  match e with
  | .transfer src dst amount => v.moveFxrp src dst amount
  | .deposited taker amount armedUntil =>
    { v with
      balances := update v.balances taker
        { v.balances taker with armed := (v.balances taker).armed + amount, armedUntil := armedUntil } }
  | .withdrawn taker amount =>
    { v with
      balances := update v.balances taker
        { v.balances taker with armed := (v.balances taker).armed - amount } }
  | .matchLocked matchId taker maker amountFxrp xrpDrops destinationTag takerXrplAddress
      paymentDeadline refundAfter _ _ =>
    { v with
      balances := update v.balances taker
        { v.balances taker with committed := (v.balances taker).committed + amountFxrp }
      nextDestinationTag := destinationTag + 1
      matchOf := update v.matchOf matchId
        { taker := taker
          destinationTag := destinationTag
          lockedAt := lockedAtOf d refundAfter
          state := .locked
          maker := maker
          paymentDeadline := paymentDeadline
          refundAfter := refundAfter
          amountFxrp := amountFxrp
          xrpDrops := xrpDrops
          bondAmount := DvPEscrow.bondOf amountFxrp
          takerXrplAddressHash := P.keccak256 takerXrplAddress } }
  | .matchReleased matchId _ amountFxrp xrplTxId =>
    { v.settle matchId .released amountFxrp with usedTxId := update v.usedTxId xrplTxId true }
  | .matchRefunded matchId _ amountFxrp _ => v.settle matchId .refunded amountFxrp
  | .teeSignerUpdated _ newSigner => { v with teeSigner := newSigner }
  | .bondDeposited maker amount =>
    { v with freeBond := update v.freeBond maker (v.freeBond maker + amount) }
  | .bondWithdrawn maker amount =>
    { v with freeBond := update v.freeBond maker (v.freeBond maker - amount) }
  | .bondLocked matchId maker amount =>
    { v with
      freeBond := update v.freeBond maker (v.freeBond maker - amount)
      lockedBonds := update v.lockedBonds matchId ⟨maker, amount, true⟩ }
  | .bondReleased matchId maker amount =>
    { v.closeBond matchId with freeBond := update v.freeBond maker (v.freeBond maker + amount) }
  | .bondSlashed matchId _ _ _ => v.closeBond matchId

end Mirror

/-- Whoever folds the log into a mirror. -/
def indexer (P : Primitives) (d : Deployment) : Observer Event Mirror World where
  view := World.mirror
  log := World.log
  apply := Mirror.apply P d

/-- Every taker's `armed` fits the `uint128` it is stored in. -/
def ArmedFits (w : World) : Prop := ∀ a, (w.escrow.balances a).armed < 2 ^ 128

section Calls

variable {P : Primitives} {d : Deployment} {env : Env} {w w' : World} {sender : Address}
  {matchId : Bytes32}

theorem transfer_tells {src dst : Address} {amount : Nat} (hsrc : src ≠ 0)
    (hle : amount ≤ w.fxrp.balanceOf src) :
    (indexer P d).Tells w { w with
      fxrp := w.fxrp.move src dst amount hle, log := .transfer src dst amount :: w.log } :=
  ⟨[_], rfl, by simp [indexer, World.mirror, Mirror.apply, Mirror.moveFxrp_of_ne _ _ _ hsrc, Token.move]⟩

theorem mint_tells {dst : Address} {amount : Nat} (hlt : w.fxrp.totalSupply + amount < 2 ^ 256) :
    (indexer P d).Tells w { w with
      fxrp := w.fxrp.mint dst amount hlt, log := .transfer 0 dst amount :: w.log } :=
  ⟨[_], rfl, (Mirror.moveFxrp_zero w.mirror dst amount).symm⟩

theorem deposit_tells {amount armedUntil : Nat} (hsender : sender ≠ 0)
    (h : DvPEscrow.deposit d env sender amount armedUntil w = .ok w') : (indexer P d).Tells w w' := by
  obtain ⟨_, _, _, hle, rfl⟩ := DvPEscrow.deposit_eq_ok.mp h
  refine ⟨[_, _], rfl, ?_⟩
  simp [indexer, World.mirror, Mirror.apply, Mirror.moveFxrp_of_ne _ _ _ hsender, Token.move]

theorem withdraw_tells {amount : Nat} (hfits : ArmedFits w)
    (h : DvPEscrow.withdraw d env sender amount w = .ok w') : (indexer P d).Tells w w' := by
  obtain ⟨_, _, _, _, hle, rfl⟩ := DvPEscrow.withdraw_eq_ok.mp h
  have hlt := Nat.lt_of_le_of_lt (Nat.sub_le _ amount) (hfits sender)
  refine ⟨[_, _], rfl, ?_⟩
  simp [indexer, World.mirror, Mirror.apply, Mirror.moveFxrp_of_ne _ _ _ d.self_ne_zero, Token.move,
    narrow_of_lt hlt]

/-- `lock` logs the bond before the match; together they hold every field it stored. -/
theorem lockedWorld_tells {value fee mid18 : Nat} {mi : MatchInstructionLib.MatchInstruction}
    {entered : Bool} :
    (indexer P d).Tells w
      { DvPEscrow.lockedWorld P d env value mi fee mid18 w with escrow.entered := entered } := by
  refine ⟨[_, _], rfl, ?_⟩
  simp [indexer, World.mirror, Mirror.apply, DvPEscrow.lockedWorld, DvPEscrow.lockedMatch,
    lockedAtOf_narrow]

theorem release_tells {proof : XRPPayment.Proof}
    (h : DvPEscrow.release d env matchId proof w = .ok w') : (indexer P d).Tells w w' := by
  obtain ⟨_, _, _, _, _, _, _, _, _, hle, rfl⟩ := DvPEscrow.release_eq_ok.mp h
  refine ⟨[_, _, _], rfl, ?_⟩
  simp [indexer, World.mirror, Mirror.apply, Mirror.settle, Mirror.closeBond, Match.settled,
    Mirror.moveFxrp_of_ne _ _ _ d.self_ne_zero, Token.move]

theorem refund_tells (hledger : d.bondLedger ≠ 0)
    (h : DvPEscrow.refund d env matchId w = .ok w') : (indexer P d).Tells w w' := by
  obtain ⟨_, _, _, _, _, _, _, _, _, hbond, _, hle, rfl⟩ := DvPEscrow.refund_eq_ok.mp h
  refine ⟨[_, _, _, _], rfl, ?_⟩
  simp [indexer, World.mirror, Mirror.apply, Mirror.settle, Mirror.closeBond, Match.settled,
    Mirror.moveFxrp_of_ne _ _ _ d.self_ne_zero, Mirror.moveFxrp_of_ne _ _ _ hledger, Token.move]

theorem depositBond_tells {this : Address} {amount : Nat} (hsender : sender ≠ 0)
    (h : BondLedger.depositBond this env sender amount w = .ok w') : (indexer P d).Tells w w' := by
  obtain ⟨_, _, _, hle, rfl⟩ := BondLedger.depositBond_eq_ok.mp h
  refine ⟨[_, _], rfl, ?_⟩
  simp [indexer, World.mirror, Mirror.apply, Mirror.moveFxrp_of_ne _ _ _ hsender, Token.move]

theorem withdrawBond_tells {amount : Nat} (hledger : d.bondLedger ≠ 0)
    (h : BondLedger.withdrawBond d.bondLedger env sender amount w = .ok w') :
    (indexer P d).Tells w w' := by
  obtain ⟨_, _, _, hle, rfl⟩ := BondLedger.withdrawBond_eq_ok.mp h
  refine ⟨[_, _], rfl, ?_⟩
  simp [indexer, World.mirror, Mirror.apply, Mirror.moveFxrp_of_ne _ _ _ hledger, Token.move]

theorem lockBond_tells {maker : Address} {amount : Nat}
    (h : BondLedger.lockBond sender matchId maker amount w = .ok w') : (indexer P d).Tells w w' := by
  obtain ⟨_, _, _, rfl⟩ := BondLedger.lockBond_eq_ok.mp h
  exact ⟨[_], rfl, by simp [indexer, World.mirror, Mirror.apply]⟩

theorem releaseBond_tells (h : BondLedger.releaseBond sender matchId w = .ok w') :
    (indexer P d).Tells w w' := by
  obtain ⟨_, _, _, rfl⟩ := BondLedger.releaseBond_eq_ok.mp h
  exact ⟨[_], rfl, by simp [indexer, World.mirror, Mirror.apply, Mirror.closeBond]⟩

theorem slashBond_tells {recipient : Address} (hledger : d.bondLedger ≠ 0)
    (h : BondLedger.slashBond d.bondLedger env sender matchId recipient w = .ok w') :
    (indexer P d).Tells w w' := by
  obtain ⟨_, _, _, hle, rfl⟩ := BondLedger.slashBond_eq_ok.mp h
  refine ⟨[_, _], rfl, ?_⟩
  simp [indexer, World.mirror, Mirror.apply, Mirror.closeBond, Mirror.moveFxrp_of_ne _ _ _ hledger,
    Token.move]

/-- `lock`'s own events come first, then whatever its callback logged. -/
theorem lock_tells {callback : World → Except Revert World} {value : Nat} {data sig : Bytes}
    (hfits : ArmedFits w)
    (hcallback : ∀ u v, u.escrow.entered = true → ArmedFits u → callback u = .ok v →
      (indexer P d).Tells u v)
    (h : DvPEscrow.lock P d env callback value data sig w = .ok w') : (indexer P d).Tells w w' := by
  obtain ⟨_, mi, fee, mid18, ts, haccepted, v, hv, rfl⟩ := DvPEscrow.lock_eq_ok.mp h
  have hlock : (indexer P d).Tells w
      { DvPEscrow.lockedWorld P d env value mi fee mid18 w with escrow.entered := true } :=
    lockedWorld_tells
  rcases DvPEscrow.refundSurplus_eq_ok.mp hv with ⟨_, rfl⟩ | ⟨_, hv⟩
  · exact hlock.trans (.quiet rfl rfl)
  · refine (hlock.trans (.trans ?_ (hcallback _ _ rfl ?_ hv))).trans (.quiet rfl rfl)
    · exact .quiet rfl rfl
    · refine (Function.forall_update_iff w.escrow.balances fun _ b => b.armed < 2 ^ 128).mpr ⟨?_, ?_⟩
      · exact hfits mi.taker
      · exact fun a _ => hfits a

end Calls

section Runs

variable {P : Primitives} {d : Deployment} {w w' : World}

theorem exec_tells {env : Env} {callback : World → Except Revert World} {sender : Account d}
    {call : Call} (hledger : d.bondLedger ≠ 0) (hfits : ArmedFits w)
    (hcallback : ∀ u v, u.escrow.entered = true → ArmedFits u → callback u = .ok v →
      (indexer P d).Tells u v)
    (h : call.exec P d env callback sender w = .ok w') : (indexer P d).Tells w w' := by
  cases call with
  | deposit amount armedUntil => exact deposit_tells sender.ne_zero h
  | withdraw amount => exact withdraw_tells hfits h
  | lock value data sig => exact lock_tells hfits hcallback h
  | release matchId proof => exact release_tells h
  | refund matchId => exact refund_tells hledger h
  | setTeeSigner newSigner =>
    obtain ⟨_, _, rfl⟩ := DvPEscrow.setTeeSigner_eq_ok.mp h
    exact ⟨[_], rfl, rfl⟩
  | setFeeTreasury t =>
    obtain ⟨_, _, rfl⟩ := DvPEscrow.setFeeTreasury_eq_ok.mp h
    exact .quiet rfl rfl
  | setLockPaused p =>
    obtain ⟨_, rfl⟩ := DvPEscrow.setLockPaused_eq_ok.mp h
    exact .quiet rfl rfl
  | syncFromRegistry =>
    cases h
    exact .refl _
  | depositBond amount => exact depositBond_tells sender.ne_zero h
  | withdrawBond amount => exact withdrawBond_tells hledger h
  | lockBond matchId maker amount => exact lockBond_tells h
  | releaseBond matchId => exact releaseBond_tells h
  | slashBond matchId recipient => exact slashBond_tells hledger h
  | setEscrow e =>
    obtain ⟨_, _, _, rfl⟩ := BondLedger.setEscrow_eq_ok.mp h
    exact .quiet rfl rfl
  | transferFxrp dst amount =>
    obtain ⟨_, hle, rfl⟩ := fxrpTransfer_eq_ok.mp h
    exact transfer_tells sender.ne_zero hle
  | mintFxrp dst amount =>
    simp only [Call.exec, fxrpMint] at h
    split at h
    · rename_i hlt
      cases h
      exact mint_tells hlt
    · cases h

/-- The nested calls run under the escrow's guard, which keeps `armed` as it was. -/
theorem callback_tells {tx : Tx d} (hledger : d.bondLedger ≠ 0) (hentered : w.escrow.entered = true)
    (hfits : ArmedFits w) (h : tx.callback P w = .ok w') : (indexer P d).Tells w w' := by
  unfold Tx.callback at h
  split at h
  · cases h
    refine (run_invariant (P := fun v => (indexer P d).Tells w v ∧ Frozen d w v) (Msg.exec P)
      tx.nested ⟨.refl w, Frozen.refl w⟩ ?_).1
    rintro m _ u v ⟨hu, hfrozen⟩ hv
    have huentered : u.escrow.entered = true := by rw [hfrozen.entered, hentered]
    have hufits : ArmedFits u := by
      unfold ArmedFits
      rw [hfrozen.balances]
      exact hfits
    refine ⟨hu.trans (exec_tells hledger hufits (fun a b _ _ hab => ?_) hv),
      hfrozen.trans (exec_frozen huentered hv)⟩
    cases hab
    exact .refl _
  · cases h

theorem tx_tells {tx : Tx d} (hledger : d.bondLedger ≠ 0) (hfits : ArmedFits w)
    (h : tx.exec P w = .ok w') : (indexer P d).Tells w w' :=
  exec_tells hledger hfits (fun _ _ hentered hu hv => callback_tells hledger hentered hu hv) h

theorem Deployed.bondLedger_ne_zero {w₀ : World} (h : Deployed d w₀) : d.bondLedger ≠ 0 := by
  obtain ⟨args, sender, ledgerSender, fxrp, native, hself, hne, e, l, he, hl, rfl⟩ := h
  simp only [DvPEscrow.constructor, bind_eq_ok, revertIf_eq_ok] at he
  obtain ⟨_, _, _, _, _, hledger, _, _, _, _, he⟩ := he
  split at he
  · simp only [pure_eq_ok, Prod.mk.injEq] at he
    have hsame : args.bondLedger = d.bondLedger := congrArg Deployment.bondLedger he.1
    rw [← hsame]
    exact hledger
  · cases he

theorem after_armedFits {w₀ : World} (hw₀ : Deployed d w₀) (txs : List (Tx d)) :
    ArmedFits (after P w₀ txs) := by
  obtain ⟨p, _, hp⟩ := escrow_refines_pool (P := P) hw₀ txs
  exact hp.armed_lt

/-- From any point of a run on, the new events account for every change the mirror shows. -/
theorem after_tells {w₀ : World} (hw₀ : Deployed d w₀) (pre txs : List (Tx d)) :
    (indexer P d).Tells (after P w₀ pre) (after P w₀ (pre ++ txs)) := by
  induction txs using List.reverseRecOn with
  | nil =>
    rw [List.append_nil]
    exact .refl _
  | append_singleton txs tx ih =>
    rw [← List.append_assoc, after_concat]
    rcases settle_cases (after P w₀ (pre ++ txs)) (tx.exec P (after P w₀ (pre ++ txs))) with h | h
    · exact ih.trans (tx_tells hw₀.bondLedger_ne_zero (after_armedFits hw₀ _) h)
    · rw [h]
      exact ih

/-- An observer who starts from the deployment, or from a checkpoint of it, and
folds in the events knows every balance, match, bond and used payment id. -/
theorem mirror_replays {w₀ : World} (hw₀ : Deployed d w₀) (pre txs : List (Tx d)) :
    (after P w₀ pre).mirror = replay (Mirror.apply P d) w₀.mirror (after P w₀ pre).log ∧
    ∃ new, (after P w₀ (pre ++ txs)).log = new ++ (after P w₀ pre).log ∧
      (after P w₀ (pre ++ txs)).mirror = replay (Mirror.apply P d) (after P w₀ pre).mirror new :=
  ⟨(after_tells hw₀ [] pre).replayed hw₀.genesis.log, after_tells hw₀ pre txs⟩

theorem mirror_replays_settling :
    let w := after Sample.primitives Sample.world (Sample.opening 1000 7)
    let w' := after Sample.primitives Sample.world (Sample.settling 1000 7)
    w.mirror = replay (Mirror.apply Sample.primitives Sample.deployment) Sample.world.mirror w.log ∧
    ∃ new, w'.log = new ++ w.log ∧
      w'.mirror = replay (Mirror.apply Sample.primitives Sample.deployment) w.mirror new :=
  mirror_replays Sample.deployed (Sample.opening 1000 7) _

end Runs

end WhisperDesk
