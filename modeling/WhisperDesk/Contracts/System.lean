import Mathlib.Logic.Relation
import WhisperDesk.Contracts.EscrowSpecs

/-!
# The deployed system

Both contracts and the token under arbitrary callers. A transaction is one call
with what it sees of the chain; a `lock` that returns a surplus hands control to
its sender, who may make any further calls first. `Step` says once what a call
can do, so an invariant needs one case per kind of effect.
-/
namespace WhisperDesk

open Function (update)
open Reverting
open Relation (ReflTransGen)
open DvPEscrow (Deployment)
open MatchInstructionLib (MatchInstruction)

/-- An address that can send a transaction or a contract call of its own: not
zero, and not the escrow or the ledger, whose code makes no such calls. -/
structure Account (d : Deployment) where
  address : Address
  ne_zero : address ≠ 0
  ne_self : address ≠ d.self
  ne_ledger : address ≠ d.bondLedger

/-- Every external entry point of the two contracts, and FXRP moving elsewhere. -/
inductive Call where
  | deposit (amount : Nat) (armedUntil : UInt64)
  | withdraw (amount : Nat)
  | lock (value : Nat) (instructionData teeSignature : Bytes)
  | release (matchId : Bytes32) (proof : XRPPayment.Proof)
  | refund (matchId : Bytes32)
  | setTeeSigner (newSigner : Address)
  | setFeeTreasury (t : Address)
  | setLockPaused (p : Bool)
  | syncFromRegistry
  | depositBond (amount : Nat)
  | withdrawBond (amount : Nat)
  | lockBond (matchId : Bytes32) (maker : Address) (amount : Nat)
  | releaseBond (matchId : Bytes32)
  | slashBond (matchId : Bytes32) (recipient : Address)
  | setEscrow (e : Address)
  | transferFxrp (dst : Address) (amount : Nat)
  | mintFxrp (dst : Address) (amount : Nat)
  deriving DecidableEq

/-- The five functions under the escrow's `nonReentrant`. -/
def Call.guarded : Call → Bool
  | .deposit .. | .withdraw .. | .lock .. | .release .. | .refund .. => true
  | _ => false

variable {d : Deployment}

def fxrpMint (dst : Address) (amount : Nat) (w : World) : Except Revert World :=
  if h : w.fxrp.totalSupply + amount < 2 ^ 256 then
    .ok { w with fxrp := w.fxrp.mint dst amount h, log := .transfer 0 dst amount :: w.log }
  else .error .fxrpReverted

def Call.exec (P : Primitives) (d : Deployment) (env : Env)
    (callback : World → Except Revert World) (sender : Account d) :
    Call → World → Except Revert World
  | .deposit amount armedUntil => DvPEscrow.deposit d env sender.address amount armedUntil.toNat
  | .withdraw amount => DvPEscrow.withdraw d env sender.address amount
  | .lock value data sig => DvPEscrow.lock P d env callback value data sig
  | .release matchId proof => DvPEscrow.release d env matchId proof
  | .refund matchId => DvPEscrow.refund d env matchId
  | .setTeeSigner newSigner => DvPEscrow.setTeeSigner sender.address newSigner
  | .setFeeTreasury t => DvPEscrow.setFeeTreasury sender.address t
  | .setLockPaused p => DvPEscrow.setLockPaused sender.address p
  | .syncFromRegistry => DvPEscrow.syncFromRegistry
  | .depositBond amount => BondLedger.depositBond d.bondLedger env sender.address amount
  | .withdrawBond amount => BondLedger.withdrawBond d.bondLedger env sender.address amount
  | .lockBond matchId maker amount => BondLedger.lockBond sender.address matchId maker amount
  | .releaseBond matchId => BondLedger.releaseBond sender.address matchId
  | .slashBond matchId recipient =>
    BondLedger.slashBond d.bondLedger env sender.address matchId recipient
  | .setEscrow e => BondLedger.setEscrow sender.address e
  | .transferFxrp dst amount => fxrpTransfer env sender.address dst amount .fxrpReverted
  | .mintFxrp dst amount => fxrpMint dst amount

/-- One call by one account. -/
structure Msg (d : Deployment) where
  env : Env
  sender : Account d
  call : Call

/-- A transaction: a call, what its sender does when a surplus comes back, and
whether the sender then takes the money. -/
structure Tx (d : Deployment) extends Msg d where
  nested : List (Msg d)
  takes : Bool

/-- A call during the surplus refund. A second `lock` cannot get as far as its
own refund, so it needs no callback. -/
def Msg.exec (P : Primitives) (m : Msg d) : World → Except Revert World :=
  m.call.exec P d m.env .ok m.sender

def Tx.callback (P : Primitives) (tx : Tx d) (w : World) : Except Revert World :=
  if tx.takes then .ok (run (Msg.exec P) w tx.nested) else .error (.escrow .nativeTransferFailed)

def Tx.exec (P : Primitives) (tx : Tx d) : World → Except Revert World :=
  tx.call.exec P d tx.env (tx.callback P) tx.sender

/-- The state right after both constructors ran, over any FXRP balances. -/
def Deployed (d : Deployment) (w : World) : Prop :=
  ∃ (args : DvPEscrow.ConstructorArgs) (sender ledgerSender : Address) (fxrp : Token) (native : Nat)
    (hself : d.self ≠ 0) (hledger : d.self ≠ args.bondLedger) (e : EscrowState) (l : LedgerState),
    DvPEscrow.constructor d.self sender args hself hledger = .ok (d, e) ∧
    BondLedger.constructor args.fxrp ledgerSender = .ok l ∧ w = ⟨e, l, fxrp, native, []⟩

/-- The state after a list of transactions; a reverted one changes nothing. -/
def after (P : Primitives) (w₀ : World) (txs : List (Tx d)) : World := run (Tx.exec P) w₀ txs

def Reachable (P : Primitives) (d : Deployment) (w : World) : Prop :=
  ∃ (w₀ : World) (txs : List (Tx d)), Deployed d w₀ ∧ after P w₀ txs = w

/-- What the constructors leave in storage. -/
structure Genesis (w : World) : Prop where
  balances : w.escrow.balances = fun _ => ⟨0, 0, 0⟩
  matchOf : w.escrow.matchOf = fun _ => Match.zero
  nextDestinationTag : w.escrow.nextDestinationTag = 1
  usedTxId : w.escrow.usedTxId = fun _ => false
  entered : w.escrow.entered = false
  escrow : w.ledger.escrow = 0
  freeBond : w.ledger.freeBond = fun _ => 0
  lockedBonds : w.ledger.lockedBonds = fun _ => ⟨0, 0, false⟩
  ledgerEntered : w.ledger.entered = false
  log : w.log = []
  teeSigner : w.escrow.teeSigner ≠ 0

theorem Deployed.genesis {w : World} (h : Deployed d w) : Genesis w := by
  obtain ⟨args, sender, ledgerSender, fxrp, native, hself, hledger, e, l, he, hl, rfl⟩ := h
  simp only [BondLedger.constructor, bind_eq_ok, pure_eq_ok] at hl
  obtain ⟨_, _, rfl⟩ := hl
  simp only [DvPEscrow.constructor, bind_eq_ok] at he
  obtain ⟨_, hsigner, _, _, _, _, _, _, _, _, he⟩ := he
  split at he
  · simp only [pure_eq_ok, Prod.mk.injEq] at he
    obtain ⟨_, rfl⟩ := he
    exact ⟨rfl, rfl, rfl, rfl, rfl, rfl, rfl, rfl, rfl, rfl, revertIf_eq_ok.mp hsigner⟩
  · cases he

/-- A change that moves no money and touches no match. -/
structure Quiet (w w' : World) : Prop where
  balances : w'.escrow.balances = w.escrow.balances
  matchOf : w'.escrow.matchOf = w.escrow.matchOf
  nextDestinationTag : w'.escrow.nextDestinationTag = w.escrow.nextDestinationTag
  usedTxId : w'.escrow.usedTxId = w.escrow.usedTxId
  freeBond : w'.ledger.freeBond = w.ledger.freeBond
  lockedBonds : w'.ledger.lockedBonds = w.ledger.lockedBonds
  ledgerEntered : w'.ledger.entered = w.ledger.entered
  escrow : w'.ledger.escrow = w.ledger.escrow ∨ w.ledger.escrow = 0
  fxrp : w'.fxrp = w.fxrp
  log : w'.log = w.log ∨ ∃ a b, w'.log = .teeSignerUpdated a b :: w.log
  teeSigner : w.escrow.teeSigner ≠ 0 → w'.escrow.teeSigner ≠ 0

/-- The effect of one successful call, a surplus refund counted separately. -/
inductive Step (P : Primitives) (d : Deployment) : World → World → Prop
  | quiet {w w' : World} (h : Quiet w w') : Step P d w w'
  | transfer {w : World} (src : Account d) (dst : Address) (amount : Nat)
      (h : amount ≤ w.fxrp.balanceOf src.address) :
      Step P d w { w with
        fxrp := w.fxrp.move src.address dst amount h
        log := .transfer src.address dst amount :: w.log }
  | mint {w : World} (dst : Address) (amount : Nat) (h : w.fxrp.totalSupply + amount < 2 ^ 256) :
      Step P d w { w with
        fxrp := w.fxrp.mint dst amount h, log := .transfer 0 dst amount :: w.log }
  | deposit {w w' : World} (env : Env) (sender : Account d) (amount armedUntil : Nat)
      (h : DvPEscrow.deposit d env sender.address amount armedUntil w = .ok w') : Step P d w w'
  | withdraw {w w' : World} (env : Env) (sender : Account d) (amount : Nat)
      (h : DvPEscrow.withdraw d env sender.address amount w = .ok w') : Step P d w w'
  | lock {w : World} (env : Env) (value : Nat) (data sig : Bytes) (mi : MatchInstruction)
      (fee mid18 ts : Nat)
      (h : DvPEscrow.LockAccepted P d env value data sig w mi fee mid18 ts) :
      Step P d w { DvPEscrow.lockedWorld P d env value mi fee mid18 w with escrow.entered := true }
  | release {w w' : World} (env : Env) (matchId : Bytes32) (proof : XRPPayment.Proof)
      (h : DvPEscrow.release d env matchId proof w = .ok w') : Step P d w w'
  | refund {w w' : World} (env : Env) (matchId : Bytes32)
      (h : DvPEscrow.refund d env matchId w = .ok w') : Step P d w w'
  | depositBond {w w' : World} (env : Env) (sender : Account d) (amount : Nat)
      (h : BondLedger.depositBond d.bondLedger env sender.address amount w = .ok w') : Step P d w w'
  | withdrawBond {w w' : World} (env : Env) (sender : Account d) (amount : Nat)
      (h : BondLedger.withdrawBond d.bondLedger env sender.address amount w = .ok w') : Step P d w w'
  | lockBond {w w' : World} (sender : Account d) (matchId : Bytes32) (maker : Address) (amount : Nat)
      (h : BondLedger.lockBond sender.address matchId maker amount w = .ok w') : Step P d w w'
  | releaseBond {w w' : World} (sender : Account d) (matchId : Bytes32)
      (h : BondLedger.releaseBond sender.address matchId w = .ok w') : Step P d w w'
  | slashBond {w w' : World} (env : Env) (sender : Account d) (matchId : Bytes32)
      (recipient : Address)
      (h : BondLedger.slashBond d.bondLedger env sender.address matchId recipient w = .ok w') :
      Step P d w w'

abbrev Steps (P : Primitives) (d : Deployment) : World → World → Prop := ReflTransGen (Step P d)

section Steps

variable {P : Primitives} {w w' : World}

/-- `lock` is its own step, then the callback, between two quiet ones. -/
theorem lock_steps {env : Env} {callback : World → Except Revert World} {value : Nat}
    {data sig : Bytes} (hcallback : ∀ u v, callback u = .ok v → Steps P d u v)
    (h : DvPEscrow.lock P d env callback value data sig w = .ok w') : Steps P d w w' := by
  obtain ⟨_, mi, fee, mid18, ts, haccepted, v, hv, rfl⟩ := DvPEscrow.lock_eq_ok.mp h
  have hlock := Step.lock env value data sig mi fee mid18 ts haccepted
  have hreturn : Step P d v { v with escrow.entered := false } :=
    .quiet ⟨rfl, rfl, rfl, rfl, rfl, rfl, rfl, .inl rfl, rfl, .inl rfl, id⟩
  rcases DvPEscrow.refundSurplus_eq_ok.mp hv with ⟨_, rfl⟩ | ⟨_, hv⟩
  · exact (ReflTransGen.single hlock).tail hreturn
  · refine (ReflTransGen.trans (ReflTransGen.tail (.single hlock) ?_) (hcallback _ _ hv)).tail hreturn
    exact .quiet ⟨rfl, rfl, rfl, rfl, rfl, rfl, rfl, .inl rfl, rfl, .inl rfl, id⟩

theorem exec_steps {env : Env} {callback : World → Except Revert World} {sender : Account d}
    {call : Call} (hcallback : ∀ u v, callback u = .ok v → Steps P d u v)
    (h : call.exec P d env callback sender w = .ok w') : Steps P d w w' := by
  cases call with
  | deposit amount armedUntil => exact .single (.deposit env sender amount armedUntil.toNat h)
  | withdraw amount => exact .single (.withdraw env sender amount h)
  | lock value data sig => exact lock_steps hcallback h
  | release matchId proof => exact .single (.release env matchId proof h)
  | refund matchId => exact .single (.refund env matchId h)
  | setTeeSigner newSigner =>
    obtain ⟨_, hsigner, rfl⟩ := DvPEscrow.setTeeSigner_eq_ok.mp h
    exact .single (.quiet
      ⟨rfl, rfl, rfl, rfl, rfl, rfl, rfl, .inl rfl, rfl, .inr ⟨_, _, rfl⟩, fun _ => hsigner⟩)
  | setFeeTreasury t =>
    obtain ⟨_, _, rfl⟩ := DvPEscrow.setFeeTreasury_eq_ok.mp h
    exact .single (.quiet ⟨rfl, rfl, rfl, rfl, rfl, rfl, rfl, .inl rfl, rfl, .inl rfl, id⟩)
  | setLockPaused p =>
    obtain ⟨_, rfl⟩ := DvPEscrow.setLockPaused_eq_ok.mp h
    exact .single (.quiet ⟨rfl, rfl, rfl, rfl, rfl, rfl, rfl, .inl rfl, rfl, .inl rfl, id⟩)
  | syncFromRegistry =>
    cases h
    exact .refl
  | depositBond amount => exact .single (.depositBond env sender amount h)
  | withdrawBond amount => exact .single (.withdrawBond env sender amount h)
  | lockBond matchId maker amount => exact .single (.lockBond sender matchId maker amount h)
  | releaseBond matchId => exact .single (.releaseBond sender matchId h)
  | slashBond matchId recipient => exact .single (.slashBond env sender matchId recipient h)
  | setEscrow e =>
    obtain ⟨_, hzero, _, rfl⟩ := BondLedger.setEscrow_eq_ok.mp h
    exact .single (.quiet ⟨rfl, rfl, rfl, rfl, rfl, rfl, rfl, .inr hzero, rfl, .inl rfl, id⟩)
  | transferFxrp dst amount =>
    obtain ⟨_, hle, rfl⟩ := fxrpTransfer_eq_ok.mp h
    exact .single (.transfer sender dst amount hle)
  | mintFxrp dst amount =>
    simp only [Call.exec, fxrpMint] at h
    split at h
    · rename_i hlt
      cases h
      exact .single (.mint dst amount hlt)
    · cases h

theorem callback_steps {tx : Tx d} (h : tx.callback P w = .ok w') : Steps P d w w' := by
  unfold Tx.callback at h
  split at h
  · cases h
    refine run_invariant (P := fun v => Steps P d w v) (Msg.exec P) tx.nested .refl ?_
    intro m _ u v hu hv
    refine hu.trans (exec_steps (fun a b hab => ?_) hv)
    cases hab
    exact .refl
  · cases h

theorem tx_steps {tx : Tx d} (h : tx.exec P w = .ok w') : Steps P d w w' :=
  exec_steps (fun _ _ => callback_steps) h

theorem after_steps (w : World) (txs : List (Tx d)) : Steps P d w (after P w txs) := by
  refine run_invariant (P := fun v => Steps P d w v) (Tx.exec P) txs .refl ?_
  intro tx _ u v hu hv
  exact hu.trans (tx_steps hv)

/-- A fact that every step preserves is preserved by every sequence of steps. -/
theorem Steps.invariant {I : World → Prop} (hstep : ∀ u v, I u → Step P d u v → I v)
    (h : Steps P d w w') (hw : I w) : I w' := by
  induction h with
  | refl => exact hw
  | tail _ hlast ih => exact hstep _ _ ih hlast

theorem Reachable.invariant {I : World → Prop} (h : Reachable P d w)
    (hgenesis : ∀ w₀, Genesis w₀ → I w₀) (hstep : ∀ u v, I u → Step P d u v → I v) : I w := by
  obtain ⟨w₀, txs, hdeployed, rfl⟩ := h
  exact (after_steps w₀ txs).invariant hstep (hgenesis w₀ hdeployed.genesis)

/-- Each `MatchLocked` event carries a tag of its own. -/
def tagIssued : Event → Nat
  | .matchLocked .. => 1
  | _ => 0

def issuedTags (w : World) : Nat := emitted tagIssued w.log

/-- A change that opens no match and leaves the escrow a signer. -/
structure OpensNothing (w w' : World) : Prop where
  teeSigner : w.escrow.teeSigner ≠ 0 → w'.escrow.teeSigner ≠ 0
  nextDestinationTag : w'.escrow.nextDestinationTag = w.escrow.nextDestinationTag
  log : ∃ new, w'.log = new ++ w.log ∧ ∀ e ∈ new, tagIssued e = 0

theorem Step.opens_or_not (h : Step P d w w') :
    (∃ env value mi fee mid18,
      w' = { DvPEscrow.lockedWorld P d env value mi fee mid18 w with escrow.entered := true }) ∨
    OpensNothing w w' := by
  cases h with
  | lock env value data sig mi fee mid18 ts h => exact .inl ⟨env, value, mi, fee, mid18, rfl⟩
  | quiet h =>
    right
    refine ⟨h.teeSigner, h.nextDestinationTag, ?_⟩
    rcases h.log with hlog | ⟨a, b, hlog⟩
    · exact ⟨[], hlog, by simp⟩
    · exact ⟨[_], hlog, by simp [tagIssued]⟩
  | transfer => exact .inr ⟨id, rfl, [_], rfl, by simp [tagIssued]⟩
  | mint => exact .inr ⟨id, rfl, [_], rfl, by simp [tagIssued]⟩
  | deposit env sender amount armedUntil h =>
    obtain ⟨_, _, _, _, rfl⟩ := DvPEscrow.deposit_eq_ok.mp h
    exact .inr ⟨id, rfl, [_, _], rfl, by simp [tagIssued]⟩
  | withdraw env sender amount h =>
    obtain ⟨_, _, _, _, _, rfl⟩ := DvPEscrow.withdraw_eq_ok.mp h
    exact .inr ⟨id, rfl, [_, _], rfl, by simp [tagIssued]⟩
  | release env matchId proof h =>
    obtain ⟨_, _, _, _, _, _, _, _, _, _, rfl⟩ := DvPEscrow.release_eq_ok.mp h
    exact .inr ⟨id, rfl, [_, _, _], rfl, by simp [tagIssued]⟩
  | refund env matchId h =>
    obtain ⟨_, _, _, _, _, _, _, _, _, _, _, _, rfl⟩ := DvPEscrow.refund_eq_ok.mp h
    exact .inr ⟨id, rfl, [_, _, _, _], rfl, by simp [tagIssued]⟩
  | depositBond env sender amount h =>
    obtain ⟨_, _, _, _, rfl⟩ := BondLedger.depositBond_eq_ok.mp h
    exact .inr ⟨id, rfl, [_, _], rfl, by simp [tagIssued]⟩
  | withdrawBond env sender amount h =>
    obtain ⟨_, _, _, _, rfl⟩ := BondLedger.withdrawBond_eq_ok.mp h
    exact .inr ⟨id, rfl, [_, _], rfl, by simp [tagIssued]⟩
  | lockBond sender matchId maker amount h =>
    obtain ⟨_, _, _, rfl⟩ := BondLedger.lockBond_eq_ok.mp h
    exact .inr ⟨id, rfl, [_], rfl, by simp [tagIssued]⟩
  | releaseBond sender matchId h =>
    obtain ⟨_, _, _, rfl⟩ := BondLedger.releaseBond_eq_ok.mp h
    exact .inr ⟨id, rfl, [_], rfl, by simp [tagIssued]⟩
  | slashBond env sender matchId recipient h =>
    obtain ⟨_, _, _, _, rfl⟩ := BondLedger.slashBond_eq_ok.mp h
    exact .inr ⟨id, rfl, [_, _], rfl, by simp [tagIssued]⟩

/-- Only the owner's setter replaces the signer, and it refuses the zero address. -/
theorem Reachable.teeSigner_ne_zero (h : Reachable P d w) : w.escrow.teeSigner ≠ 0 := by
  apply h.invariant
  · intro w₀ hgenesis
    exact hgenesis.teeSigner
  · intro u v hu hstep
    rcases hstep.opens_or_not with ⟨env, value, mi, fee, mid18, rfl⟩ | hnot
    · exact hu
    · exact hnot.teeSigner hu

/-- The counter starts at 1 and moves with `lock` only. -/
theorem Reachable.nextDestinationTag (h : Reachable P d w) :
    w.escrow.nextDestinationTag = issuedTags w + 1 := by
  apply h.invariant
  · intro w₀ hgenesis
    rw [hgenesis.nextDestinationTag, issuedTags, hgenesis.log, emitted_nil]
  · intro u v hu hstep
    rcases hstep.opens_or_not with ⟨env, value, mi, fee, mid18, rfl⟩ | hnot
    · simp only [issuedTags, DvPEscrow.lockedWorld, emitted_cons, tagIssued] at hu ⊢
      omega
    · obtain ⟨new, hlog, hnew⟩ := hnot.log
      rw [hnot.nextDestinationTag, hu, issuedTags, issuedTags, hlog, emitted_append_of_zero _ hnew]

end Steps

section Guard

variable {P : Primitives}

/-- What the escrow's guard protects: while it is set nobody changes these, and
no FXRP leaves the escrow. -/
structure Frozen (d : Deployment) (w w' : World) : Prop where
  balances : w'.escrow.balances = w.escrow.balances
  matchOf : w'.escrow.matchOf = w.escrow.matchOf
  nextDestinationTag : w'.escrow.nextDestinationTag = w.escrow.nextDestinationTag
  usedTxId : w'.escrow.usedTxId = w.escrow.usedTxId
  entered : w'.escrow.entered = w.escrow.entered
  escrow : w.ledger.escrow ≠ 0 → w'.ledger.escrow = w.ledger.escrow
  held : w.fxrp.balanceOf d.self ≤ w'.fxrp.balanceOf d.self
  log : ∃ new, w'.log = new ++ w.log ∧ ∀ dst amount, .transfer d.self dst amount ∉ new

theorem Frozen.refl (w : World) : Frozen d w w :=
  ⟨rfl, rfl, rfl, rfl, rfl, fun _ => rfl, Nat.le_refl _, [], rfl, by simp⟩

theorem Frozen.trans {u v w : World} (h : Frozen d u v) (h' : Frozen d v w) : Frozen d u w := by
  obtain ⟨new, hnew, hno⟩ := h.log
  obtain ⟨new', hnew', hno'⟩ := h'.log
  refine ⟨h'.balances.trans h.balances, h'.matchOf.trans h.matchOf,
    h'.nextDestinationTag.trans h.nextDestinationTag, h'.usedTxId.trans h.usedTxId,
    h'.entered.trans h.entered, ?_, Nat.le_trans h.held h'.held, new' ++ new, ?_, ?_⟩
  · intro hne
    have hv := h.escrow hne
    exact (h'.escrow (by rwa [hv])).trans hv
  · rw [hnew', hnew, List.append_assoc]
  · intro dst amount hmem
    rcases List.mem_append.mp hmem with hmem | hmem
    · exact hno' dst amount hmem
    · exact hno dst amount hmem

/-- The calls that do not pass through the escrow's guard leave what it protects
alone. -/
theorem unguarded_frozen {env : Env} {callback : World → Except Revert World} {sender : Account d}
    {call : Call} {w w' : World} (hguard : call.guarded = false)
    (h : call.exec P d env callback sender w = .ok w') : Frozen d w w' := by
  have hledger : d.bondLedger ≠ d.self := d.distinct.symm
  cases call with
  | deposit => cases hguard
  | withdraw => cases hguard
  | lock => cases hguard
  | release => cases hguard
  | refund => cases hguard
  | setTeeSigner newSigner =>
    obtain ⟨_, _, rfl⟩ := DvPEscrow.setTeeSigner_eq_ok.mp h
    exact ⟨rfl, rfl, rfl, rfl, rfl, fun _ => rfl, Nat.le_refl _, [_], rfl, by simp⟩
  | setFeeTreasury t =>
    obtain ⟨_, _, rfl⟩ := DvPEscrow.setFeeTreasury_eq_ok.mp h
    exact ⟨rfl, rfl, rfl, rfl, rfl, fun _ => rfl, Nat.le_refl _, [], rfl, by simp⟩
  | setLockPaused p =>
    obtain ⟨_, rfl⟩ := DvPEscrow.setLockPaused_eq_ok.mp h
    exact ⟨rfl, rfl, rfl, rfl, rfl, fun _ => rfl, Nat.le_refl _, [], rfl, by simp⟩
  | syncFromRegistry =>
    cases h
    exact Frozen.refl _
  | depositBond amount =>
    obtain ⟨_, _, _, hle, rfl⟩ := BondLedger.depositBond_eq_ok.mp h
    exact ⟨rfl, rfl, rfl, rfl, rfl, fun _ => rfl, w.fxrp.le_move _ _ _ _ hle sender.ne_self.symm,
      [_, _], rfl, by simp [sender.ne_self.symm]⟩
  | withdrawBond amount =>
    obtain ⟨_, _, _, hle, rfl⟩ := BondLedger.withdrawBond_eq_ok.mp h
    exact ⟨rfl, rfl, rfl, rfl, rfl, fun _ => rfl, w.fxrp.le_move _ _ _ _ hle hledger.symm, [_, _], rfl,
      by simp [hledger.symm]⟩
  | lockBond matchId maker amount =>
    obtain ⟨_, _, _, rfl⟩ := BondLedger.lockBond_eq_ok.mp h
    exact ⟨rfl, rfl, rfl, rfl, rfl, fun _ => rfl, Nat.le_refl _, [_], rfl, by simp⟩
  | releaseBond matchId =>
    obtain ⟨_, _, _, rfl⟩ := BondLedger.releaseBond_eq_ok.mp h
    exact ⟨rfl, rfl, rfl, rfl, rfl, fun _ => rfl, Nat.le_refl _, [_], rfl, by simp⟩
  | slashBond matchId recipient =>
    obtain ⟨_, _, _, hle, rfl⟩ := BondLedger.slashBond_eq_ok.mp h
    exact ⟨rfl, rfl, rfl, rfl, rfl, fun _ => rfl, w.fxrp.le_move _ _ _ _ hle hledger.symm, [_, _], rfl,
      by simp [hledger.symm]⟩
  | setEscrow e =>
    obtain ⟨_, hzero, _, rfl⟩ := BondLedger.setEscrow_eq_ok.mp h
    exact ⟨rfl, rfl, rfl, rfl, rfl, fun hne => absurd hzero hne, Nat.le_refl _, [], rfl,
      by simp⟩
  | transferFxrp dst amount =>
    obtain ⟨_, hle, rfl⟩ := fxrpTransfer_eq_ok.mp h
    exact ⟨rfl, rfl, rfl, rfl, rfl, fun _ => rfl, w.fxrp.le_move _ _ _ _ hle sender.ne_self.symm, [_],
      rfl, by simp [sender.ne_self.symm]⟩
  | mintFxrp dst amount =>
    simp only [Call.exec, fxrpMint] at h
    split at h
    · rename_i hlt
      cases h
      refine ⟨rfl, rfl, rfl, rfl, rfl, fun _ => rfl, w.fxrp.le_mint _ _ _ hlt, [_], rfl, ?_⟩
      intro src n hmem
      rw [List.mem_singleton, Event.transfer.injEq] at hmem
      exact d.self_ne_zero hmem.1
    · cases h

theorem guarded_entered {env : Env} {callback : World → Except Revert World} {sender : Account d}
    {call : Call} {w w' : World} (hguard : call.guarded = true)
    (h : call.exec P d env callback sender w = .ok w') : w.escrow.entered = false := by
  cases call with
  | deposit => exact (DvPEscrow.deposit_eq_ok.mp h).1
  | withdraw => exact (DvPEscrow.withdraw_eq_ok.mp h).1
  | lock => exact (DvPEscrow.lock_eq_ok.mp h).1
  | release => exact (DvPEscrow.release_eq_ok.mp h).1
  | refund => exact (DvPEscrow.refund_eq_ok.mp h).1
  | _ => cases hguard

theorem exec_frozen {env : Env} {callback : World → Except Revert World} {sender : Account d}
    {call : Call} {w w' : World} (hentered : w.escrow.entered = true)
    (h : call.exec P d env callback sender w = .ok w') : Frozen d w w' := by
  refine unguarded_frozen (Bool.eq_false_iff.mpr fun hguard => ?_) h
  have hopen := guarded_entered hguard h
  rw [hentered] at hopen
  cases hopen

theorem callback_frozen {tx : Tx d} {w w' : World} (hentered : w.escrow.entered = true)
    (h : tx.callback P w = .ok w') : Frozen d w w' := by
  unfold Tx.callback at h
  split at h
  · cases h
    refine run_invariant (P := fun v => Frozen d w v) (Msg.exec P) tx.nested (Frozen.refl w) ?_
    intro m _ u v hu hv
    exact hu.trans (exec_frozen (by rw [hu.entered, hentered]) hv)
  · cases h

end Guard

/-! A deployment with the canonical parameters and a run that opens one match. -/
namespace Sample

def deployment : Deployment where
  self := 0xE5
  bondLedger := 0xB0
  expectedSourceId := bytes32OfAscii "XRP"
  settlementWindow := 1800
  attestationBudget := 360
  minBlockFxrp := 5000000000
  distinct := by decide
  self_ne_zero := by decide
  budget_lt := by decide

def owner : Account deployment := ⟨1, by decide, by decide, by decide⟩
def taker : Account deployment := ⟨2, by decide, by decide, by decide⟩
def maker : Account deployment := ⟨3, by decide, by decide, by decide⟩
def teeSigner : Address := 4

def primitives : Primitives where
  keccak256 data := BitVec.ofNat 256 (ByteCodec.ofBE data)
  ecrecover _ _ _ _ := teeSigner

def ascii (s : String) : Bytes := s.toList.map fun c => UInt8.ofNat c.toNat

def takersAddress : Bytes := ascii "rN7n7otQDd6FczFgLdSqtcsAUxDkw6fzRH"

/-- A payment for the match `opening` locks. -/
def proof (timestamp : Nat) : XRPPayment.Proof where
  merkleProof := []
  data :=
    { attestationType := DvPEscrow.expectedAttestationType
      sourceId := bytes32OfAscii "XRP"
      votingRound := 0
      lowestUsedTimestamp := timestamp
      requestBody := { transactionId := 0xAA, proofOwner := 0xE5 }
      responseBody :=
        { blockNumber := 1, blockTimestamp := timestamp, sourceAddress := [],
          sourceAddressHash := 0, receivingAddressHash := primitives.keccak256 takersAddress,
          intendedReceivingAddressHash := primitives.keccak256 takersAddress,
          spentAmount := 5025000010,
          intendedSpentAmount := 5025000010, receivedAmount := 5025000000,
          intendedReceivedAmount := 5025000000, hasMemoData := false, firstMemoData := [],
          hasDestinationTag := true, destinationTag := 1, status := 0 } }

/-- The verifier knows that one payment, made at time 1000. -/
def env (timestamp : Nat) : Env where
  timestamp := timestamp
  chainid := 114
  calculateFeeById := some 0
  getFeedByIdInWei := some (2000000000000000000, timestamp)
  verifyXRPPayment p := decide (p = proof 1000)
  fxrp _ _ _ := .accepts

def args : DvPEscrow.ConstructorArgs where
  fxrp := 0xF0
  bondLedger := 0xB0
  teeSigner := teeSigner
  ftsoV2 := 0xF1
  fdcVerification := 0xF2
  expectedSourceId := bytes32OfAscii "XRP"
  feeTreasury := 1
  settlementWindow := 1800
  attestationBudget := 360
  minBlockFxrp := 5000000000

def world : World where
  escrow :=
    { owner := 1, teeSigner := teeSigner, feeTreasury := 1, lockPaused := false,
      balances := fun _ => ⟨0, 0, 0⟩, matchOf := fun _ => Match.zero, nextDestinationTag := 1,
      usedTxId := fun _ => false, entered := false }
  ledger :=
    { owner := 1, escrow := 0, freeBond := fun _ => 0, lockedBonds := fun _ => ⟨0, 0, false⟩,
      entered := false }
  fxrp := Token.empty
  native := 0
  log := []

theorem deployed : Deployed deployment world :=
  ⟨args, 1, 1, Token.empty, 0, by decide, by decide, _, _, rfl, rfl, rfl⟩

def instruction (matchId : Bytes32) : MatchInstruction where
  matchId := matchId
  escrow := 0xE5
  taker := 2
  maker := 3
  amountFxrp := 5000000000
  priceUsd18 := 2010000000000000000
  takerXrplAddress := takersAddress
  instructionExpiresAt := 2 ^ 63

def tx (timestamp : Nat) (sender : Account deployment) (call : Call) : Tx deployment :=
  ⟨⟨env timestamp, sender, call⟩, [], true⟩

/-- Fund a taker and a maker, bind the ledger and lock one match. -/
def opening (timestamp : Nat) (matchId : Bytes32) : List (Tx deployment) :=
  [tx timestamp owner (.mintFxrp 2 20000000000), tx timestamp owner (.mintFxrp 3 500000000),
    tx timestamp owner (.setEscrow 0xE5), tx timestamp taker (.deposit 20000000000 (2 ^ 63)),
    tx timestamp maker (.depositBond 500000000),
    tx timestamp owner (.lock 0 (MatchInstructionLib.encode (instruction matchId))
      (List.replicate 65 0))]

/-- `opening`, and then its release. -/
def settling (timestamp : Nat) (matchId : Bytes32) : List (Tx deployment) :=
  opening timestamp matchId ++ [tx timestamp maker (.release matchId (proof timestamp))]

end Sample

end WhisperDesk
