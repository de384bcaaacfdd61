import WhisperDesk.Contracts.EscrowViews

/-!
# Reentrancy from the surplus refund

A `lock` that hands back a surplus runs its sender's code, which may call either
contract again, directly or through frames of its own that revert. The escrow's
guard is set all along and every write of `lock` is made by then, so the calls
that take effect could as well have been made after it.
-/
namespace WhisperDesk

open Reverting
open DvPEscrow (Deployment lockedWorld)

/-- Code that was handed control: calls one after the other, frames of other
contracts of its own among them, and an end that returns or reverts. A failing
call or frame is caught; `onRefund` is what a call's sender does if it is called
back itself. -/
inductive Script (d : Deployment) where
  | returns
  | reverts
  | call (m : Msg d) (onRefund next : Script d)
  | enter (frame next : Script d)

namespace Script

variable {d : Deployment}

def exec (P : Primitives) : Script d → World → Except Revert World
  | .returns, w => .ok w
  | .reverts, _ => .error (.escrow .nativeTransferFailed)
  | .call m onRefund next, w =>
    next.exec P (settle w (m.call.exec P d m.env (onRefund.exec P) m.sender w))
  | .enter frame next, w => next.exec P (settle w (frame.exec P w))

/-- The calls that took effect, in order: those that succeeded in no frame that
reverted. -/
def kept (P : Primitives) : Script d → World → List (Msg d)
  | .returns, _ => []
  | .reverts, _ => []
  | .call m onRefund next, w =>
    match m.call.exec P d m.env (onRefund.exec P) m.sender w with
    | .ok v => m :: next.kept P v
    | .error _ => next.kept P w
  | .enter frame next, w =>
    match frame.exec P w with
    | .ok v => frame.kept P w ++ next.kept P v
    | .error _ => next.kept P w

/-- Every call made, in reverted frames too, and how it ended. -/
def made (P : Primitives) : Script d → World → List (Msg d × Except Revert World)
  | .returns, _ => []
  | .reverts, _ => []
  | .call m onRefund next, w =>
    let result := m.call.exec P d m.env (onRefund.exec P) m.sender w
    (m, result) :: next.made P (settle w result)
  | .enter frame next, w => frame.made P w ++ next.made P (settle w (frame.exec P w))

end Script

/-- Calls one after the other that all have to succeed. -/
def inTurn (P : Primitives) {d : Deployment} (w : World) (msgs : List (Msg d)) : Except Revert World :=
  msgs.foldlM (fun w m => m.exec P w) w

/-- Sets the escrow's guard and its native balance. -/
def holding (entered : Bool) (native : Nat) : EscrowView where
  escrow e := { e with entered := entered }
  native _ := native
  log l := l
  log_cons _ _ _ := rfl

def World.reopened (w : World) : World := { w with escrow.entered := false }

section Calls

variable {P : Primitives} {d : Deployment} {w w' : World}

theorem unguarded_holding {call : Call} (hguard : call.guarded = false) (entered : Bool)
    (native : Nat) (env : Env) (callback : World → Except Revert World) (sender : Account d) :
    Commutes (holding entered native).apply (call.exec P d env callback sender) := by
  cases call with
  | setTeeSigner newSigner =>
    intro w
    simp only [Call.exec, DvPEscrow.setTeeSigner, map_bind]
    exact bind_congr fun _ => bind_congr fun _ => rfl
  | setFeeTreasury t =>
    intro w
    simp only [Call.exec, DvPEscrow.setFeeTreasury, map_bind]
    exact bind_congr fun _ => bind_congr fun _ => rfl
  | setLockPaused p =>
    intro w
    simp only [Call.exec, DvPEscrow.setLockPaused, map_bind]
    exact bind_congr fun _ => rfl
  | syncFromRegistry => exact fun _ => rfl
  | depositBond amount => exact (holding entered native).depositBond _ env _ amount
  | withdrawBond amount => exact (holding entered native).withdrawBond _ env _ amount
  | lockBond matchId maker amount => exact (holding entered native).lockBond _ matchId maker amount
  | releaseBond matchId => exact (holding entered native).releaseBond _ matchId
  | slashBond matchId recipient =>
    exact (holding entered native).slashBond _ env _ matchId recipient
  | setEscrow e => exact (holding entered native).setEscrow _ e
  | transferFxrp dst amount => exact (holding entered native).fxrpTransfer env _ dst amount _
  | mintFxrp dst amount => exact (holding entered native).fxrpMint dst amount
  | _ => cases hguard

/-- Put back as they were, the guard and the balance are where the call left them. -/
theorem unguarded_holds {call : Call} (hguard : call.guarded = false) {env : Env}
    {callback : World → Except Revert World} {sender : Account d}
    (h : call.exec P d env callback sender w = .ok w') :
    w'.escrow.entered = w.escrow.entered ∧ w'.native = w.native := by
  have hsame := (unguarded_holding (P := P) hguard w.escrow.entered w.native env callback sender).ok h
  have heq : w' = (holding w.escrow.entered w.native).apply w' := Except.ok.inj (h.symm.trans hsame)
  constructor
  · rw [heq]; rfl
  · rw [heq]; rfl

theorem unguarded_reopened {call : Call} (hguard : call.guarded = false) {env : Env}
    {callback callback' : World → Except Revert World} {sender : Account d}
    (h : call.exec P d env callback sender w = .ok w') :
    call.exec P d env callback' sender w.reopened = .ok w'.reopened := by
  have hnative := (unguarded_holds hguard h).2
  have hok := (unguarded_holding (P := P) hguard false w.native env callback sender).ok h
  have hcallback : call.exec P d env callback' sender = call.exec P d env callback sender := by
    cases call with
    | lock => cases hguard
    | _ => rfl
  rw [hcallback]
  refine Eq.trans hok ?_
  rw [← hnative]
  rfl

theorem nonReentrant_entered (hentered : w.escrow.entered = true)
    (body : World → Except Revert World) : DvPEscrow.nonReentrant body w = .error .reentrantCall := by
  unfold DvPEscrow.nonReentrant revertIf
  rw [if_pos hentered]
  rfl

theorem guarded_reentrant {call : Call} (hguard : call.guarded = true)
    (hentered : w.escrow.entered = true) (env : Env) (callback : World → Except Revert World)
    (sender : Account d) : call.exec P d env callback sender w = .error .reentrantCall := by
  cases call with
  | deposit => simp only [Call.exec, DvPEscrow.deposit, nonReentrant_entered hentered]
  | withdraw => simp only [Call.exec, DvPEscrow.withdraw, nonReentrant_entered hentered]
  | lock => simp only [Call.exec, DvPEscrow.lock, nonReentrant_entered hentered]
  | release => simp only [Call.exec, DvPEscrow.release, nonReentrant_entered hentered]
  | refund => simp only [Call.exec, DvPEscrow.refund, nonReentrant_entered hentered]
  | _ => cases hguard

/-- A `lock` whose sender is called back is the `lock` of a silent sender, and then
the callback under the guard. -/
theorem lock_with_callback {env : Env} {callback : World → Except Revert World} {value fee : Nat}
    {data sig : Bytes} (hfee : env.calculateFeeById = some fee) (hsurplus : fee < value)
    (h : DvPEscrow.lock P d env callback value data sig w = .ok w') :
    ∃ w₁ v, DvPEscrow.lock P d env .ok value data sig w = .ok w₁ ∧ w₁.native = w.native ∧
      callback { w₁ with escrow.entered := true } = .ok v ∧ v.reopened = w' := by
  obtain ⟨hentered, mi, fee', mid18, ts, haccepted, v, hv, rfl⟩ := DvPEscrow.lock_eq_ok.mp h
  obtain rfl : fee' = fee := Option.some.inj (haccepted.feeRead.symm.trans hfee)
  rcases DvPEscrow.refundSurplus_eq_ok.mp hv with ⟨hle, _⟩ | ⟨_, hcallback⟩
  · omega
  · let left : World :=
      { lockedWorld P d env value mi fee' mid18 w with
        native := (lockedWorld P d env value mi fee' mid18 w).native - (value - fee') }
    refine ⟨{ left with escrow.entered := false }, v, ?_, ?_, hcallback, rfl⟩
    · exact DvPEscrow.lock_eq_ok.mpr ⟨hentered, mi, fee', mid18, ts, haccepted, _,
        DvPEscrow.refundSurplus_eq_ok.mpr (.inr ⟨hsurplus, rfl⟩), rfl⟩
    · show w.native + value - fee' - (value - fee') = w.native
      omega

end Calls

section Scripts

variable {P : Primitives} {d : Deployment} {w w' : World}

/-- One call under the guard: it reverts and is not kept, or it would have gone
through after the guard as well. -/
theorem call_replayed (m : Msg d) (callback : World → Except Revert World)
    (hentered : w.escrow.entered = true) (h : m.call.exec P d m.env callback m.sender w = .ok w') :
    w'.escrow.entered = true ∧ w'.native = w.native ∧ m.exec P w.reopened = .ok w'.reopened := by
  have hguard : m.call.guarded = false := by
    refine Bool.eq_false_iff.mpr fun hguard => ?_
    rw [guarded_reentrant hguard hentered] at h
    cases h
  obtain ⟨hkept, hnative⟩ := unguarded_holds hguard h
  exact ⟨hkept.trans hentered, hnative, unguarded_reopened hguard h⟩

/-- A script that returns leaves what its kept calls leave when they are made after
the guard, one by one. -/
theorem Script.replayed (s : Script d) (hentered : w.escrow.entered = true)
    (h : s.exec P w = .ok w') :
    w'.escrow.entered = true ∧ w'.native = w.native ∧
      inTurn P w.reopened (s.kept P w) = .ok w'.reopened := by
  induction s generalizing w w' with
  | returns =>
    cases h
    exact ⟨hentered, rfl, rfl⟩
  | reverts => cases h
  | call m onRefund next _ ih =>
    simp only [exec] at h
    cases hcall : m.call.exec P d m.env (onRefund.exec P) m.sender w with
    | error e =>
      rw [hcall] at h
      simp only [kept, hcall]
      exact ih hentered h
    | ok v =>
      rw [hcall] at h
      obtain ⟨hv, hnative, hreplay⟩ := call_replayed m _ hentered hcall
      obtain ⟨hw', hnative', hrest⟩ := ih hv h
      refine ⟨hw', hnative'.trans hnative, ?_⟩
      simp only [kept, hcall, inTurn, List.foldlM_cons, hreplay]
      exact hrest
  | enter frame next ihframe ih =>
    simp only [exec] at h
    cases hframe : frame.exec P w with
    | error e =>
      rw [hframe] at h
      simp only [kept, hframe]
      exact ih hentered h
    | ok v =>
      rw [hframe] at h
      obtain ⟨hv, hnative, hreplay⟩ := ihframe hentered hframe
      obtain ⟨hw', hnative', hrest⟩ := ih hv h
      refine ⟨hw', hnative'.trans hnative, ?_⟩
      simp only [inTurn] at hreplay hrest
      simp only [kept, hframe, inTurn, List.foldlM_append, hreplay]
      exact hrest

theorem settle_entered (hentered : w.escrow.entered = true) {result : Except Revert World}
    (h : ∀ v, result = .ok v → v.escrow.entered = true) :
    (settle w result).escrow.entered = true :=
  settle_preserves (P := fun v : World => v.escrow.entered = true) hentered h

/-- Under the guard every call back into a guarded function reverts, and no code of
its caller runs. -/
theorem Script.made_reentrant (s : Script d) (hentered : w.escrow.entered = true) {m : Msg d}
    {result : Except Revert World} (hmade : (m, result) ∈ s.made P w)
    (hguard : m.call.guarded = true) : result = .error .reentrantCall := by
  induction s generalizing w with
  | returns => cases hmade
  | reverts => cases hmade
  | call m' onRefund next _ ih =>
    rcases List.mem_cons.mp hmade with heq | hmade
    · cases heq
      exact guarded_reentrant hguard hentered ..
    · exact ih (settle_entered hentered fun v hv => (call_replayed m' _ hentered hv).1) hmade
  | enter frame next ihframe ih =>
    rcases List.mem_append.mp hmade with hmade | hmade
    · exact ihframe hentered hmade
    · exact ih (settle_entered hentered fun v hv => (frame.replayed hentered hv).1) hmade

/-- Reentrancy from the surplus refund is harmless. Whatever tree of calls the sender
of a `lock` makes when a surplus comes back, if the `lock` succeeds it leaves what it
leaves for a silent sender with the calls that took effect made afterwards, each of
which then succeeds; every call back into a guarded function reverted, and the
escrow's native balance is what it was. -/
theorem reentrancy_harmless {env : Env} (script : Script d) {value fee : Nat} {data sig : Bytes}
    (hfee : env.calculateFeeById = some fee) (hsurplus : fee < value)
    (h : DvPEscrow.lock P d env (script.exec P) value data sig w = .ok w') :
    ∃ w₁, DvPEscrow.lock P d env .ok value data sig w = .ok w₁ ∧
      let start := { w₁ with escrow.entered := true }
      inTurn P w₁ (script.kept P start) = .ok w' ∧
      (∀ m result, (m, result) ∈ script.made P start → m.call.guarded = true →
        result = .error .reentrantCall) ∧
      w'.native = w.native := by
  obtain ⟨w₁, v, hlock, hnative, hscript, rfl⟩ := lock_with_callback hfee hsurplus h
  obtain ⟨_, hkept, hreplay⟩ := script.replayed rfl hscript
  have hopen : w₁.escrow.entered = false := by
    obtain ⟨_, _, _, _, _, _, _, _, rfl⟩ := DvPEscrow.lock_eq_ok.mp hlock
    rfl
  refine ⟨w₁, hlock, ?_, fun m result hmade hguard => script.made_reentrant rfl hmade hguard,
    hkept.trans hnative⟩
  have hreopened : World.reopened { w₁ with escrow.entered := true } = w₁ := by
    unfold World.reopened
    rw [← hopen]
  rw [hreopened] at hreplay
  exact hreplay

/-- During the refund: a withdrawal under the guard, a bond withdrawal in a frame
that reverts, and one that takes effect. -/
def Sample.intruding : Script Sample.deployment :=
  .call ⟨Sample.env 1000, Sample.taker, .withdraw 1⟩ .returns
    (.enter (.call ⟨Sample.env 1000, Sample.maker, .withdrawBond 2⟩ .returns .reverts)
      (.call ⟨Sample.env 1000, Sample.maker, .withdrawBond 1⟩ .returns .returns))

theorem reentrancy_harmless_intruding :
    let w := after Sample.primitives Sample.world ((Sample.opening 1000 7).take 5)
    let data := MatchInstructionLib.encode (Sample.instruction 7)
    ∃ w' w₁, DvPEscrow.lock Sample.primitives Sample.deployment (Sample.env 1000) .ok 5 data
        (List.replicate 65 0) w = .ok w₁ ∧
      let start := { w₁ with escrow.entered := true }
      inTurn Sample.primitives w₁ (Sample.intruding.kept Sample.primitives start) = .ok w' ∧
      (∀ m result, (m, result) ∈ Sample.intruding.made Sample.primitives start →
        m.call.guarded = true → result = .error .reentrantCall) ∧
      w'.native = w.native := by
  intro w data
  have hok : (DvPEscrow.lock Sample.primitives Sample.deployment (Sample.env 1000)
      (Sample.intruding.exec Sample.primitives) 5 data (List.replicate 65 0) w).isOk = true := by
    decide +kernel
  obtain ⟨w', h⟩ := exists_ok_of_isOk hok
  have hfee : (Sample.env 1000).calculateFeeById = some 0 := rfl
  exact ⟨w', reentrancy_harmless Sample.intruding hfee (by decide) h⟩

end Scripts

section Connection

variable {P : Primitives} {d : Deployment}

/-- The callback of a transaction as a script. -/
def Tx.script (tx : Tx d) : Script d :=
  tx.nested.foldr (fun m next => .call m .returns next) (if tx.takes then .returns else .reverts)

theorem callback_eq_script (P : Primitives) (tx : Tx d) : tx.callback P = tx.script.exec P := by
  funext w
  unfold Tx.callback Tx.script
  generalize tx.nested = nested
  induction nested generalizing w with
  | nil => cases tx.takes <;> rfl
  | cons m nested ih =>
    refine Eq.trans ?_ (ih (settle w (m.exec P w)))
    rfl

/-- A script takes no step the system does not know. -/
theorem Script.steps (s : Script d) {w w' : World} (h : s.exec P w = .ok w') : Steps P d w w' := by
  have after {u v : World} (r : Except Revert World) (hr : ∀ u', r = .ok u' → Steps P d u u')
      (hrest : Steps P d (settle u r) v) : Steps P d u v :=
    (settle_preserves (P := fun u' => Steps P d u u') .refl hr).trans hrest
  induction s generalizing w w' with
  | returns =>
    cases h
    exact .refl
  | reverts => cases h
  | call m onRefund next ihrefund ih =>
    exact after _ (fun u' hu' => exec_steps (fun _ _ hcallback => ihrefund hcallback) hu') (ih h)
  | enter frame next ihframe ih => exact after _ (fun u' hu' => ihframe hu') (ih h)

end Connection

end WhisperDesk
