import WhisperDesk.Contracts.Settlement

/-!
# Bystanders

An account that sends no call, over a run of anybody else's: takers, makers,
the owner, whoever holds the signing key, and whatever they do inside a
surplus refund. Only a lock takes hold of its funds, and a lock says so in the
log; without one, nothing it could withdraw or spend before is gone after.
-/
namespace WhisperDesk

open Function (update)
open Reverting
open DvPEscrow (Deployment)

/-- The events by which a lock takes hold of an account's funds. -/
def Event.takesFrom (a : Address) : Event → Prop
  | .matchLocked _ taker .. => taker = a
  | .bondLocked _ maker _ => maker = a
  | _ => False

/-- Nothing of an account's unreserved funds is gone, and its lock-up is as long as it was. -/
structure Undrained (a : Address) (w w' : World) : Prop where
  available : (w'.escrow.balances a).armed + (w.escrow.balances a).committed =
    (w.escrow.balances a).armed + (w'.escrow.balances a).committed
  armedUntil : (w'.escrow.balances a).armedUntil = (w.escrow.balances a).armedUntil
  freeBond : w.ledger.freeBond a ≤ w'.ledger.freeBond a
  wallet : w.fxrp.balanceOf a ≤ w'.fxrp.balanceOf a

namespace Undrained

variable {a : Address} {u v w w' : World}

theorem refl (w : World) : Undrained a w w := ⟨rfl, rfl, Nat.le_refl _, Nat.le_refl _⟩

theorem trans (h : Undrained a u v) (h' : Undrained a v w) : Undrained a u w where
  available := by
    have h₁ := h.available
    have h₂ := h'.available
    omega
  armedUntil := h'.armedUntil.trans h.armedUntil
  freeBond := Nat.le_trans h.freeBond h'.freeBond
  wallet := Nat.le_trans h.wallet h'.wallet

/-- A change of other accounts' counters, whatever it pays out. -/
theorem of_balances (hbalances : w'.escrow.balances a = w.escrow.balances a)
    (hbond : w.ledger.freeBond a ≤ w'.ledger.freeBond a)
    (hwallet : w.fxrp.balanceOf a ≤ w'.fxrp.balanceOf a) : Undrained a w w' :=
  ⟨by rw [hbalances], by rw [hbalances], hbond, hwallet⟩

/-- A settled match leaves both of its taker's counters by the same amount. -/
theorem of_settled {taker : Address} {amount : Nat}
    (hbalances : w'.escrow.balances = update w.escrow.balances taker
      (DvPEscrow.settledBalance (w.escrow.balances taker) amount))
    (hcommitted : amount ≤ (w.escrow.balances taker).committed)
    (harmed : amount ≤ (w.escrow.balances taker).armed)
    (hbond : w.ledger.freeBond a ≤ w'.ledger.freeBond a)
    (hwallet : w.fxrp.balanceOf a ≤ w'.fxrp.balanceOf a) : Undrained a w w' := by
  by_cases ha : a = taker
  · subst ha
    refine ⟨?_, ?_, hbond, hwallet⟩
    · rw [hbalances, Function.update_self]
      simp only [DvPEscrow.settledBalance]; omega
    · rw [hbalances, Function.update_self]
      rfl
  · exact of_balances (by rw [hbalances, Function.update_of_ne ha]) hbond hwallet

end Undrained

theorem le_update_add {f : Address → Nat} {b : Address} {n : Nat} (a : Address) :
    f a ≤ update f b (f b + n) a := by
  by_cases ha : a = b
  · subst ha
    rw [Function.update_self]
    exact Nat.le_add_right ..
  · rw [Function.update_of_ne ha]

/-- The change spares `a`, unless one of the events it logged takes from `a`. -/
def Spares (a : Address) (w w' : World) : Prop :=
  ∃ new, w'.log = new ++ w.log ∧ ((∀ e ∈ new, ¬ e.takesFrom a) → Undrained a w w')

namespace Spares

variable {a : Address} {u v w w' : World}

theorem of_undrained (new : List Event) (hlog : w'.log = new ++ w.log) (h : Undrained a w w') : Spares a w w' :=
  ⟨new, hlog, fun _ => h⟩

theorem refl (w : World) : Spares a w w := of_undrained [] rfl (Undrained.refl w)

theorem trans (h : Spares a u v) (h' : Spares a v w) : Spares a u w := by
  obtain ⟨new, hlog, hkept⟩ := h
  obtain ⟨new', hlog', hkept'⟩ := h'
  refine ⟨new' ++ new, by rw [hlog', hlog, List.append_assoc], fun hnone => ?_⟩
  have hfirst := hkept fun e he => hnone e (List.mem_append_right _ he)
  exact hfirst.trans (hkept' fun e he => hnone e (List.mem_append_left _ he))

end Spares

section Calls

variable {P : Primitives} {d : Deployment} {w w' : World} {a : Account d}

/-- The lock, or the events that say whose funds it took. -/
theorem lockedWorld_spares {env : Env} {value fee mid18 : Nat}
    {mi : MatchInstructionLib.MatchInstruction} {entered : Bool} :
    Spares a.address w
      { DvPEscrow.lockedWorld P d env value mi fee mid18 w with escrow.entered := entered } := by
  refine ⟨[_, _], rfl, fun hnone => ?_⟩
  have htaker : a.address ≠ mi.taker := fun h => hnone _ List.mem_cons_self h.symm
  have hmaker : a.address ≠ mi.maker :=
    fun h => hnone _ (List.mem_cons_of_mem _ List.mem_cons_self) h.symm
  refine .of_balances ?_ ?_ (Nat.le_refl _)
  · exact Function.update_of_ne htaker ..
  · exact (Function.update_of_ne hmaker ..).ge

theorem lock_spares {env : Env} {callback : World → Except Revert World} {value : Nat}
    {data sig : Bytes} (hcallback : ∀ u v, callback u = .ok v → Spares a.address u v)
    (h : DvPEscrow.lock P d env callback value data sig w = .ok w') : Spares a.address w w' := by
  obtain ⟨_, mi, fee, mid18, ts, haccepted, v, hv, rfl⟩ := DvPEscrow.lock_eq_ok.mp h
  have hlock : Spares a.address w
      { DvPEscrow.lockedWorld P d env value mi fee mid18 w with escrow.entered := true } :=
    lockedWorld_spares
  have hreturn : Spares a.address v { v with escrow.entered := false } :=
    .of_undrained [] rfl (.of_balances rfl (Nat.le_refl _) (Nat.le_refl _))
  rcases DvPEscrow.refundSurplus_eq_ok.mp hv with ⟨_, rfl⟩ | ⟨_, hv⟩
  · exact hlock.trans hreturn
  · refine (hlock.trans (.trans ?_ (hcallback _ _ hv))).trans hreturn
    exact .of_undrained [] rfl (.of_balances rfl (Nat.le_refl _) (Nat.le_refl _))

theorem exec_spares {env : Env} {callback : World → Except Revert World} {sender : Account d}
    {call : Call} (hsender : sender.address ≠ a.address)
    (hcallback : ∀ u v, callback u = .ok v → Spares a.address u v)
    (h : call.exec P d env callback sender w = .ok w') : Spares a.address w w' := by
  have hne : a.address ≠ sender.address := hsender.symm
  cases call with
  | deposit amount armedUntil =>
    obtain ⟨_, _, _, hle, rfl⟩ := DvPEscrow.deposit_eq_ok.mp h
    exact .of_undrained [_, _] rfl (.of_balances (Function.update_of_ne hne ..) (Nat.le_refl _)
      (w.fxrp.le_move _ _ _ _ hle hne))
  | withdraw amount =>
    obtain ⟨_, _, _, _, hle, rfl⟩ := DvPEscrow.withdraw_eq_ok.mp h
    exact .of_undrained [_, _] rfl (.of_balances (Function.update_of_ne hne ..) (Nat.le_refl _)
      (w.fxrp.le_move _ _ _ _ hle a.ne_self))
  | lock value data sig => exact lock_spares hcallback h
  | release matchId proof =>
    obtain ⟨_, _, _, hcommitted, harmed, _, _, _, _, hle, rfl⟩ := DvPEscrow.release_eq_ok.mp h
    exact .of_undrained [_, _, _] rfl (.of_settled rfl hcommitted harmed (le_update_add _)
      (w.fxrp.le_move _ _ _ _ hle a.ne_self))
  | refund matchId =>
    obtain ⟨_, _, _, _, hcommitted, harmed, _, _, _, hbond, _, hle, rfl⟩ :=
      DvPEscrow.refund_eq_ok.mp h
    have hslash := w.fxrp.le_move d.bondLedger (w.escrow.matchOf matchId).taker a.address _ hbond
      a.ne_ledger
    exact .of_undrained [_, _, _, _] rfl (.of_settled rfl hcommitted harmed (Nat.le_refl _)
      (Nat.le_trans hslash (Token.le_move _ _ _ _ _ hle a.ne_self)))
  | setTeeSigner newSigner =>
    obtain ⟨_, _, rfl⟩ := DvPEscrow.setTeeSigner_eq_ok.mp h
    exact .of_undrained [_] rfl (.of_balances rfl (Nat.le_refl _) (Nat.le_refl _))
  | setFeeTreasury t =>
    obtain ⟨_, _, rfl⟩ := DvPEscrow.setFeeTreasury_eq_ok.mp h
    exact .of_undrained [] rfl (.of_balances rfl (Nat.le_refl _) (Nat.le_refl _))
  | setLockPaused p =>
    obtain ⟨_, rfl⟩ := DvPEscrow.setLockPaused_eq_ok.mp h
    exact .of_undrained [] rfl (.of_balances rfl (Nat.le_refl _) (Nat.le_refl _))
  | syncFromRegistry =>
    cases h
    exact .refl _
  | depositBond amount =>
    obtain ⟨_, _, _, hle, rfl⟩ := BondLedger.depositBond_eq_ok.mp h
    exact .of_undrained [_, _] rfl (.of_balances rfl (le_update_add _) (w.fxrp.le_move _ _ _ _ hle hne))
  | withdrawBond amount =>
    obtain ⟨_, _, _, hle, rfl⟩ := BondLedger.withdrawBond_eq_ok.mp h
    exact .of_undrained [_, _] rfl (.of_balances rfl (Function.update_of_ne hne ..).ge
      (w.fxrp.le_move _ _ _ _ hle a.ne_ledger))
  | lockBond matchId maker amount =>
    obtain ⟨_, _, _, rfl⟩ := BondLedger.lockBond_eq_ok.mp h
    refine ⟨[_], rfl, fun hnone => ?_⟩
    have hmaker : a.address ≠ maker := fun h => hnone _ List.mem_cons_self h.symm
    exact .of_balances rfl (Function.update_of_ne hmaker ..).ge (Nat.le_refl _)
  | releaseBond matchId =>
    obtain ⟨_, _, _, rfl⟩ := BondLedger.releaseBond_eq_ok.mp h
    exact .of_undrained [_] rfl (.of_balances rfl (le_update_add _) (Nat.le_refl _))
  | slashBond matchId recipient =>
    obtain ⟨_, _, _, hle, rfl⟩ := BondLedger.slashBond_eq_ok.mp h
    exact .of_undrained [_, _] rfl (.of_balances rfl (Nat.le_refl _) (w.fxrp.le_move _ _ _ _ hle a.ne_ledger))
  | setEscrow e =>
    obtain ⟨_, _, _, rfl⟩ := BondLedger.setEscrow_eq_ok.mp h
    exact .of_undrained [] rfl (.of_balances rfl (Nat.le_refl _) (Nat.le_refl _))
  | transferFxrp dst amount =>
    obtain ⟨_, hle, rfl⟩ := fxrpTransfer_eq_ok.mp h
    exact .of_undrained [_] rfl (.of_balances rfl (Nat.le_refl _) (w.fxrp.le_move _ _ _ _ hle hne))
  | mintFxrp dst amount =>
    simp only [Call.exec, fxrpMint] at h
    split at h
    · rename_i hlt
      cases h
      exact .of_undrained [_] rfl (.of_balances rfl (Nat.le_refl _) (w.fxrp.le_mint _ _ _ hlt))
    · cases h

end Calls

theorem Reachable.after {P : Primitives} {d : Deployment} {w : World} (h : Reachable P d w)
    (txs : List (Tx d)) : Reachable P d (after P w txs) := by
  obtain ⟨w₀, pre, hw₀, rfl⟩ := h
  exact ⟨w₀, pre ++ txs, hw₀, run_append (Tx.exec P) w₀ pre txs⟩

theorem Reachable.ledgerEntered {P : Primitives} {d : Deployment} {w : World} (h : Reachable P d w) :
    w.ledger.entered = false := by
  obtain ⟨w₀, txs, hw₀, rfl⟩ := h
  exact (after_steps w₀ txs).ledgerEntered hw₀.genesis.ledgerEntered

/-- The account sends neither the transaction nor a call inside it. -/
def Tx.Without {d : Deployment} (a : Account d) (tx : Tx d) : Prop :=
  tx.sender.address ≠ a.address ∧ ∀ m ∈ tx.nested, m.sender.address ≠ a.address

section Runs

variable {P : Primitives} {d : Deployment} {a : Account d} {w w' : World}

theorem tx_spares {tx : Tx d} (hwithout : tx.Without a) (h : tx.exec P w = .ok w') :
    Spares a.address w w' := by
  refine exec_spares hwithout.1 (fun u v hv => ?_) h
  unfold Tx.callback at hv
  split at hv
  · cases hv
    refine run_invariant (P := fun v => Spares a.address u v) (Msg.exec P) tx.nested (.refl u) ?_
    intro m hm x y hx hy
    refine hx.trans (exec_spares (hwithout.2 m hm) (fun _ _ hab => ?_) hy)
    cases hab
    exact .refl _
  · cases hv

theorem after_spares {txs : List (Tx d)} (hwithout : ∀ tx ∈ txs, tx.Without a) :
    Spares a.address w (after P w txs) := by
  refine run_invariant (P := fun v => Spares a.address w v) (Tx.exec P) txs (.refl w) ?_
  intro tx htx u v hu hv
  exact hu.trans (tx_spares (hwithout tx htx) hv)

/-- Whatever all the others do, an account that sends nothing and is named by no
lock keeps what it could withdraw, its free bond and its FXRP. -/
theorem bystander_kept (w : World) (txs : List (Tx d)) (a : Account d)
    (hwithout : ∀ tx ∈ txs, tx.Without a) :
    ∃ new, (after P w txs).log = new ++ w.log ∧
      ((∀ e ∈ new, ¬ e.takesFrom a.address) → Undrained a.address w (after P w txs)) :=
  after_spares hwithout

/-- The taker of a locked match stands by while its maker settles it, and keeps all it has. -/
theorem bystander_kept_settling :
    let w := after Sample.primitives Sample.world (Sample.opening 1000 7)
    let release := Sample.tx 1000 Sample.maker (.release 7 (Sample.proof 1000))
    ((after Sample.primitives w [release]).escrow.matchOf 7).state = .released ∧
      Undrained 2 w (after Sample.primitives w [release]) := by
  intro w release
  refine ⟨by decide +kernel, ?_⟩
  obtain ⟨new, hlog, hkept⟩ := bystander_kept (P := Sample.primitives) w [release] Sample.taker (by
    intro tx htx
    rw [List.mem_singleton.mp htx]
    exact ⟨by decide, by simp [release, Sample.tx]⟩)
  have hnew : new = (after Sample.primitives w [release]).log.take
      ((after Sample.primitives w [release]).log.length - w.log.length) := by
    rw [hlog, List.length_append, Nat.add_sub_cancel, List.take_left]
  have hevents : (after Sample.primitives w [release]).log.take
      ((after Sample.primitives w [release]).log.length - w.log.length) =
        [.matchReleased 7 3 5000000000 0xAA, .transfer 0xE5 3 5000000000, .bondReleased 7 3 50000000] := by
    decide +kernel
  apply hkept
  rw [hnew, hevents]
  simp [Event.takesFrom]

end Runs

end WhisperDesk
