import WhisperDesk.Contracts.BondAccounting

/-!
# Delivery versus payment

What one transaction can do to the matches, the tag counter and the used
payment ids, a `lock`'s callback included; from that, over whole runs, the life
cycle of a match, the uniqueness of destination tags and the payment behind
every release.
-/
namespace WhisperDesk

open Function (update)
open Reverting
open DvPEscrow (Deployment LockAccepted ProofAccepted lockedMatch refundGrace)
open MatchInstructionLib (MatchInstruction)

def XRPPayment.Proof.txId (proof : XRPPayment.Proof) : Bytes32 :=
  proof.data.requestBody.transactionId

/-- What a successful transaction did to the settlement tables. -/
inductive Effect (P : Primitives) {d : Deployment} (tx : Tx d) (w w' : World) : Prop
  | none (hmatch : w'.escrow.matchOf = w.escrow.matchOf)
      (htag : w'.escrow.nextDestinationTag = w.escrow.nextDestinationTag)
      (hused : w'.escrow.usedTxId = w.escrow.usedTxId)
  | lock (value : Nat) (data sig : Bytes) (mi : MatchInstruction) (fee mid18 ts : Nat)
      (hcall : tx.call = .lock value data sig)
      (haccepted : LockAccepted P d tx.env value data sig w mi fee mid18 ts)
      (hmatch : w'.escrow.matchOf = update w.escrow.matchOf mi.matchId
        (lockedMatch P d tx.env mi mid18 w.escrow.nextDestinationTag))
      (htag : w'.escrow.nextDestinationTag = w.escrow.nextDestinationTag + 1)
      (hused : w'.escrow.usedTxId = w.escrow.usedTxId)
  | release (id : Bytes32) (proof : XRPPayment.Proof) (hcall : tx.call = .release id proof)
      (hlocked : (w.escrow.matchOf id).state = .locked)
      (haccepted : ProofAccepted d tx.env w.escrow.usedTxId (w.escrow.matchOf id) proof)
      (hmatch : w'.escrow.matchOf =
        update w.escrow.matchOf id ((w.escrow.matchOf id).settled .released))
      (htag : w'.escrow.nextDestinationTag = w.escrow.nextDestinationTag)
      (hused : w'.escrow.usedTxId = update w.escrow.usedTxId proof.txId true)
  | refund (id : Bytes32) (hcall : tx.call = .refund id)
      (hlocked : (w.escrow.matchOf id).state = .locked)
      (htime : (w.escrow.matchOf id).refundAfter + refundGrace < tx.env.timestamp)
      (hmatch : w'.escrow.matchOf =
        update w.escrow.matchOf id ((w.escrow.matchOf id).settled .refunded))
      (htag : w'.escrow.nextDestinationTag = w.escrow.nextDestinationTag)
      (hused : w'.escrow.usedTxId = w.escrow.usedTxId)

/-- The three ways FXRP leaves the escrow. -/
inductive Payout {d : Deployment} (tx : Tx d) (w w' : World) : Address → Nat → Prop
  | withdraw (amount : Nat) (hcall : tx.call = .withdraw amount) :
      Payout tx w w' tx.sender.address amount
  | refund (id : Bytes32) (hcall : tx.call = .refund id)
      (hlocked : (w.escrow.matchOf id).state = .locked)
      (hstate : w'.escrow.matchOf id = (w.escrow.matchOf id).settled .refunded) :
      Payout tx w w' (w.escrow.matchOf id).taker (w.escrow.matchOf id).amountFxrp
  | release (id : Bytes32) (proof : XRPPayment.Proof) (hcall : tx.call = .release id proof)
      (hlocked : (w.escrow.matchOf id).state = .locked)
      (haccepted : ProofAccepted d tx.env w.escrow.usedTxId (w.escrow.matchOf id) proof)
      (hstate : w'.escrow.matchOf id = (w.escrow.matchOf id).settled .released) :
      Payout tx w w' (w.escrow.matchOf id).maker (w.escrow.matchOf id).amountFxrp

/-- None, then locked, then released or refunded; nothing else of a match changes. -/
def MatchStep (m m' : Match) : Prop :=
  m' = m ∨ (m.state = .none ∧ m'.state = .locked) ∨
    (m.state = .locked ∧ (m' = m.settled .released ∨ m' = m.settled .refunded))

section Transactions

variable {P : Primitives} {d : Deployment} {tx : Tx d} {w w' : World}

/-- What is left of a successful `lock` once its callback has run. -/
theorem lock_frozen {env : Env} {value : Nat} {data sig : Bytes}
    (h : DvPEscrow.lock P d env (tx.callback P) value data sig w = .ok w') :
    ∃ mi fee mid18 ts v, LockAccepted P d env value data sig w mi fee mid18 ts ∧
      Frozen d { DvPEscrow.lockedWorld P d env value mi fee mid18 w with escrow.entered := true } v ∧
      w' = { v with escrow.entered := false } := by
  obtain ⟨_, mi, fee, mid18, ts, haccepted, v, hv, rfl⟩ := DvPEscrow.lock_eq_ok.mp h
  refine ⟨mi, fee, mid18, ts, v, haccepted, ?_, rfl⟩
  rcases DvPEscrow.refundSurplus_eq_ok.mp hv with ⟨_, rfl⟩ | ⟨_, hv⟩
  · exact Frozen.refl _
  · have hf := callback_frozen (by rfl) hv
    exact ⟨hf.balances, hf.matchOf, hf.nextDestinationTag, hf.usedTxId, hf.entered, hf.escrow, hf.held,
      hf.log⟩

theorem lockedWorld_log (P : Primitives) (d : Deployment) (env : Env) (value : Nat)
    (mi : MatchInstruction) (fee mid18 : Nat) (w : World) :
    ∃ new, (DvPEscrow.lockedWorld P d env value mi fee mid18 w).log = new ++ w.log ∧
      ∀ dst amount, .transfer d.self dst amount ∉ new :=
  ⟨[_, _], rfl, by simp⟩

/-- One transaction, callback included: what it did to the tables and where the
escrow's FXRP went. -/
theorem tx_effect (h : tx.exec P w = .ok w') (hentered : w.escrow.entered = false) :
    w'.escrow.entered = false ∧ Effect P tx w w' ∧
      (w.fxrp.balanceOf d.self ≤ w'.fxrp.balanceOf d.self ∨ ∃ dst amount, Payout tx w w' dst amount ∧
        w.fxrp.balanceOf d.self ≤ w'.fxrp.balanceOf d.self + amount) ∧
      ∃ new, w'.log = new ++ w.log ∧
        ∀ dst amount, .transfer d.self dst amount ∈ new → Payout tx w w' dst amount := by
  by_cases hguard : tx.call.guarded = true
  · unfold Tx.exec at h
    cases hcall : tx.call with
    | deposit amount armedUntil =>
      rw [hcall] at h
      obtain ⟨_, _, _, hle, rfl⟩ := DvPEscrow.deposit_eq_ok.mp h
      refine ⟨rfl, .none rfl rfl rfl, .inl (w.fxrp.le_move _ _ _ _ hle tx.sender.ne_self.symm), [_, _],
        rfl, ?_⟩
      intro dst n hmem
      simp [tx.sender.ne_self.symm] at hmem
    | withdraw amount =>
      rw [hcall] at h
      obtain ⟨_, _, _, _, hle, rfl⟩ := DvPEscrow.withdraw_eq_ok.mp h
      refine ⟨rfl, .none rfl rfl rfl, .inr ⟨_, _, .withdraw amount hcall, w.fxrp.le_move_add _ _ _ _ hle⟩,
        [_, _], rfl, ?_⟩
      intro dst n hmem
      simp only [List.mem_cons, Event.transfer.injEq, List.not_mem_nil, or_false, reduceCtorEq,
        false_or, true_and] at hmem
      obtain ⟨rfl, rfl⟩ := hmem
      exact .withdraw n hcall
    | lock value data sig =>
      rw [hcall] at h
      obtain ⟨mi, fee, mid18, ts, v, haccepted, hfrozen, rfl⟩ := lock_frozen h
      obtain ⟨new, hnew, hnone⟩ := hfrozen.log
      obtain ⟨old, hold, hnone'⟩ := lockedWorld_log P d tx.env value mi fee mid18 w
      refine ⟨rfl, .lock value data sig mi fee mid18 ts hcall haccepted hfrozen.matchOf
        hfrozen.nextDestinationTag hfrozen.usedTxId, .inl hfrozen.held, new ++ old, ?_, ?_⟩
      · rw [List.append_assoc, ← hold]
        exact hnew
      · intro dst n hmem
        rcases List.mem_append.mp hmem with hmem | hmem
        · exact absurd hmem (hnone dst n)
        · exact absurd hmem (hnone' dst n)
    | release id proof =>
      rw [hcall] at h
      obtain ⟨_, hlocked, hproof, _, _, _, _, _, _, hle, rfl⟩ := DvPEscrow.release_eq_ok.mp h
      refine ⟨rfl, .release id proof hcall hlocked hproof rfl rfl rfl,
        .inr ⟨_, _, .release id proof hcall hlocked hproof (Function.update_self ..),
          w.fxrp.le_move_add _ _ _ _ hle⟩, [_, _, _], rfl, ?_⟩
      intro dst n hmem
      simp only [List.mem_cons, Event.transfer.injEq, List.not_mem_nil, or_false, reduceCtorEq,
        false_or, true_and] at hmem
      obtain ⟨rfl, rfl⟩ := hmem
      exact .release id proof hcall hlocked hproof (Function.update_self ..)
    | refund id =>
      rw [hcall] at h
      obtain ⟨_, hlocked, _, htime, _, _, _, _, _, hbond, _, hle, rfl⟩ := DvPEscrow.refund_eq_ok.mp h
      have hslash := w.fxrp.le_move d.bondLedger (w.escrow.matchOf id).taker d.self _ hbond d.distinct
      refine ⟨rfl, .refund id hcall hlocked htime rfl rfl rfl,
        .inr ⟨_, _, .refund id hcall hlocked (Function.update_self ..),
          Nat.le_trans hslash (Token.le_move_add _ _ _ _ _ hle)⟩, [_, _, _, _], rfl, ?_⟩
      intro dst n hmem
      simp only [List.mem_cons, Event.transfer.injEq, List.not_mem_nil, or_false, reduceCtorEq,
        false_or, true_and, d.distinct, false_and] at hmem
      obtain ⟨rfl, rfl⟩ := hmem
      exact .refund id hcall hlocked (Function.update_self ..)
    | _ => rw [hcall] at hguard; cases hguard
  · have hfrozen := unguarded_frozen (Bool.eq_false_iff.mpr hguard) h
    obtain ⟨new, hnew, hnone⟩ := hfrozen.log
    exact ⟨hfrozen.entered.trans hentered,
      .none hfrozen.matchOf hfrozen.nextDestinationTag hfrozen.usedTxId, .inl hfrozen.held, new, hnew,
      fun dst n hmem => absurd hmem (hnone dst n)⟩

theorem Effect.matchStep (h : Effect P tx w w') (id : Bytes32) :
    MatchStep (w.escrow.matchOf id) (w'.escrow.matchOf id) := by
  cases h with
  | none hmatch => exact .inl (by rw [hmatch])
  | lock value data sig mi fee mid18 ts hcall haccepted hmatch =>
    rw [hmatch]
    by_cases hid : id = mi.matchId
    · subst hid
      rw [Function.update_self]
      exact .inr (.inl ⟨haccepted.instruction.fresh, rfl⟩)
    · exact .inl (Function.update_of_ne hid ..)
  | release j proof hcall hlocked haccepted hmatch =>
    rw [hmatch]
    by_cases hid : id = j
    · subst hid
      rw [Function.update_self]
      exact .inr (.inr ⟨hlocked, .inl rfl⟩)
    · exact .inl (Function.update_of_ne hid ..)
  | refund j hcall hlocked htime hmatch =>
    rw [hmatch]
    by_cases hid : id = j
    · subst hid
      rw [Function.update_self]
      exact .inr (.inr ⟨hlocked, .inr rfl⟩)
    · exact .inl (Function.update_of_ne hid ..)

end Transactions

section Runs

variable {P : Primitives} {d : Deployment} {w₀ : World}

theorem after_concat (P : Primitives) (w₀ : World) (pre : List (Tx d)) (tx : Tx d) :
    after P w₀ (pre ++ [tx]) = settle (after P w₀ pre) (tx.exec P (after P w₀ pre)) :=
  run_concat (Tx.exec P) w₀ pre tx

theorem after_entered (hw₀ : w₀.escrow.entered = false) (txs : List (Tx d)) :
    (after P w₀ txs).escrow.entered = false :=
  run_invariant (P := fun w => w.escrow.entered = false) (Tx.exec P) txs hw₀
    (fun _ _ _ _ hentered h => (tx_effect h hentered).1)

theorem Reachable.entered {w : World} (h : Reachable P d w) : w.escrow.entered = false := by
  obtain ⟨w₀, txs, hdeployed, rfl⟩ := h
  exact after_entered hdeployed.genesis.entered txs

/-- The next transaction of a run, successful or not. -/
theorem after_effect (hw₀ : w₀.escrow.entered = false) (pre : List (Tx d)) (tx : Tx d) :
    let w := after P w₀ pre
    let w' := after P w₀ (pre ++ [tx])
    Effect P tx w w' ∧
      (w.fxrp.balanceOf d.self ≤ w'.fxrp.balanceOf d.self ∨ ∃ dst amount, Payout tx w w' dst amount ∧
        w.fxrp.balanceOf d.self ≤ w'.fxrp.balanceOf d.self + amount) ∧
      ∃ new, w'.log = new ++ w.log ∧
        ∀ dst amount, .transfer d.self dst amount ∈ new → Payout tx w w' dst amount := by
  rw [after_concat]
  rcases settle_cases (after P w₀ pre) (tx.exec P (after P w₀ pre)) with h | h
  · exact (tx_effect h (after_entered hw₀ pre)).2
  · rw [h]
    exact ⟨.none rfl rfl rfl, .inl (Nat.le_refl _), [], rfl, by simp⟩

/-- Induction over a run by the effects of its transactions. -/
theorem after_induction {I : List (Tx d) → World → Prop} (hw₀ : w₀.escrow.entered = false)
    (hnil : I [] w₀)
    (hstep : ∀ pre tx w', I pre (after P w₀ pre) → Effect P tx (after P w₀ pre) w' →
      Steps P d (after P w₀ pre) w' → I (pre ++ [tx]) w') (txs : List (Tx d)) : I txs (after P w₀ txs) := by
  refine run_history (Tx.exec P) txs hnil ?_ ?_
  · intro pre tx w' hpre h
    exact hstep pre tx w' hpre (tx_effect h (after_entered hw₀ pre)).2.1 (tx_steps h)
  · intro pre tx hpre
    exact hstep pre tx _ hpre (.none rfl rfl rfl) .refl

end Runs

/-- Open or settled matches carry different tags, all below the counter. -/
structure TagsDistinct (w : World) : Prop where
  below : ∀ id, (w.escrow.matchOf id).state ≠ .none →
    (w.escrow.matchOf id).destinationTag < w.escrow.nextDestinationTag
  injective : ∀ id id', (w.escrow.matchOf id).state ≠ .none → (w.escrow.matchOf id').state ≠ .none →
    (w.escrow.matchOf id).destinationTag = (w.escrow.matchOf id').destinationTag → id = id'

/-- The terms a `lock` fixed, seen from any later state of the match. -/
structure Match.SameTerms (m m' : Match) : Prop where
  opened : m'.state = .none ↔ m.state = .none
  terms : m' = m.settled m'.state

theorem Match.SameTerms.refl (m : Match) : m.SameTerms m := ⟨Iff.rfl, rfl⟩

theorem Match.SameTerms.trans {m m' m'' : Match} (h : m.SameTerms m') (h' : m'.SameTerms m'') :
    m.SameTerms m'' := by
  refine ⟨h'.opened.trans h.opened, ?_⟩
  rw [h'.terms, h.terms]
  rfl

/-- A transaction either opens one unused id or keeps the terms of every match. -/
theorem Effect.terms {P : Primitives} {d : Deployment} {tx : Tx d} {w w' : World}
    (h : Effect P tx w w') :
    (∃ value data sig mi fee mid18 ts, tx.call = .lock value data sig ∧
      LockAccepted P d tx.env value data sig w mi fee mid18 ts ∧
      w'.escrow.matchOf = update w.escrow.matchOf mi.matchId
        (lockedMatch P d tx.env mi mid18 w.escrow.nextDestinationTag) ∧
      w'.escrow.nextDestinationTag = w.escrow.nextDestinationTag + 1) ∨
    ((∀ id, (w.escrow.matchOf id).SameTerms (w'.escrow.matchOf id)) ∧
      w'.escrow.nextDestinationTag = w.escrow.nextDestinationTag) := by
  have settling (j : Bytes32) (s : MatchState) (hs : s ≠ .none)
      (hlocked : (w.escrow.matchOf j).state = .locked)
      (hmatch : w'.escrow.matchOf = update w.escrow.matchOf j ((w.escrow.matchOf j).settled s))
      (id : Bytes32) : (w.escrow.matchOf id).SameTerms (w'.escrow.matchOf id) := by
    rw [hmatch]
    by_cases hid : id = j
    · subst hid
      rw [Function.update_self]
      exact ⟨by simp [Match.settled, hs, hlocked], rfl⟩
    · rw [Function.update_of_ne hid]
      exact Match.SameTerms.refl _
  cases h with
  | none hmatch htag hused => exact .inr ⟨fun id => by rw [hmatch]; exact .refl _, htag⟩
  | lock value data sig mi fee mid18 ts hcall haccepted hmatch htag hused =>
    exact .inl ⟨value, data, sig, mi, fee, mid18, ts, hcall, haccepted, hmatch, htag⟩
  | release j proof hcall hlocked haccepted hmatch htag hused =>
    exact .inr ⟨settling j .released (by decide) hlocked hmatch, htag⟩
  | refund j hcall hlocked htime hmatch htag hused =>
    exact .inr ⟨settling j .refunded (by decide) hlocked hmatch, htag⟩

/-- The terms of an open match are fixed, whatever happens later. -/
theorem after_sameTerms {P : Primitives} {d : Deployment} {w : World}
    (hentered : w.escrow.entered = false) {id : Bytes32} (hopen : (w.escrow.matchOf id).state ≠ .none)
    (txs : List (Tx d)) : (w.escrow.matchOf id).SameTerms ((after P w txs).escrow.matchOf id) := by
  refine after_induction (P := P)
    (I := fun _ w' => (w.escrow.matchOf id).SameTerms (w'.escrow.matchOf id)) hentered
    (Match.SameTerms.refl _) ?_ txs
  intro pre tx w' hpre heffect _
  rcases heffect.terms with ⟨_, _, _, mi, _, _, _, _, haccepted, hmatch, _⟩ | ⟨hterms, _⟩
  · have hne : id ≠ mi.matchId := by
      rintro rfl
      exact hopen (hpre.opened.mp haccepted.instruction.fresh)
    rw [hmatch, Function.update_of_ne hne]
    exact hpre
  · exact hpre.trans (hterms id)

namespace TagsDistinct

variable {P : Primitives} {d : Deployment} {tx : Tx d} {w w' : World}

theorem genesis (hw : Genesis w) : TagsDistinct w where
  below id h := absurd (by rw [hw.matchOf]; rfl) h
  injective id _ h := absurd (by rw [hw.matchOf]; rfl) h

theorem effect (ht : TagsDistinct w) (h : Effect P tx w w') : TagsDistinct w' := by
  rcases h.terms with ⟨_, _, _, mi, _, mid18, _, _, haccepted, hmatch, htag⟩ | ⟨hterms, htag⟩
  · -- the new match takes the counter's value, which every older tag is below
    have hnew : (lockedMatch P d tx.env mi mid18 w.escrow.nextDestinationTag).destinationTag =
        w.escrow.nextDestinationTag := rfl
    constructor
    · intro id
      rw [hmatch, htag]
      by_cases hid : id = mi.matchId
      · subst hid
        rw [Function.update_self, hnew]
        omega
      · rw [Function.update_of_ne hid]
        intro hopen
        have := ht.below id hopen
        omega
    · intro id id'
      rw [hmatch]
      by_cases hid : id = mi.matchId <;> by_cases hid' : id' = mi.matchId
      · intro _ _ _; rw [hid, hid']
      · subst hid
        rw [Function.update_self, Function.update_of_ne hid', hnew]
        intro _ hopen heq
        have := ht.below id' hopen
        omega
      · subst hid'
        rw [Function.update_self, Function.update_of_ne hid, hnew]
        intro hopen _ heq
        have := ht.below id hopen
        omega
      · rw [Function.update_of_ne hid, Function.update_of_ne hid']
        exact ht.injective id id'
  · have tag_eq (id : Bytes32) : (w'.escrow.matchOf id).destinationTag =
        (w.escrow.matchOf id).destinationTag := by
      rw [(hterms id).terms]; rfl
    constructor
    · intro id hopen
      rw [tag_eq, htag]
      exact ht.below id (mt (hterms id).opened.mpr hopen)
    · intro id id' hopen hopen'
      rw [tag_eq, tag_eq]
      exact ht.injective id id' (mt (hterms id).opened.mpr hopen)
        (mt (hterms id').opened.mpr hopen')

end TagsDistinct

/-- The payment that released each match, and that no payment released two. -/
structure ReleaseHistory (P : Primitives) (d : Deployment) (w₀ : World) (txs : List (Tx d)) (w : World)
    (proofOf : Bytes32 → XRPPayment.Proof) : Prop where
  accepted : ∀ id, (w.escrow.matchOf id).state = .released →
    ∃ before tx later, txs = before ++ tx :: later ∧ tx.call = .release id (proofOf id) ∧
      ProofAccepted d tx.env (after P w₀ before).escrow.usedTxId (w.escrow.matchOf id) (proofOf id)
  used : ∀ txId, w.escrow.usedTxId txId = true ↔
    ∃ id, (w.escrow.matchOf id).state = .released ∧ (proofOf id).txId = txId
  injective : ∀ id id', (w.escrow.matchOf id).state = .released →
    (w.escrow.matchOf id').state = .released → (proofOf id).txId = (proofOf id').txId → id = id'

/-- The proof checks read none of what settling a match changes. -/
theorem proofAccepted_settled {d : Deployment} {env : Env} {used : Bytes32 → Bool} {m : Match}
    {proof : XRPPayment.Proof} {s : MatchState} (h : ProofAccepted d env used m proof) :
    ProofAccepted d env used (m.settled s) proof :=
  ⟨h.owner, h.unused, h.verified, h.attestationType, h.sourceId, h.status, h.receiver, h.hasTag,
    h.tag, h.amount_pos, h.amount, h.afterLock, h.beforeDeadline⟩

namespace ReleaseHistory

variable {P : Primitives} {d : Deployment} {w₀ w w' : World} {txs : List (Tx d)} {tx : Tx d}
  {proofOf : Bytes32 → XRPPayment.Proof}

theorem genesis (hw : Genesis w) : ReleaseHistory P d w₀ [] w proofOf where
  accepted id h := by rw [hw.matchOf] at h; cases h
  used txId := by
    rw [hw.usedTxId, hw.matchOf]
    constructor
    · intro h; cases h
    · rintro ⟨_, h, _⟩; cases h
  injective id id' h := by rw [hw.matchOf] at h; cases h

/-- Nothing was released, whatever else happened. -/
theorem keep (hh : ReleaseHistory P d w₀ txs w proofOf)
    (hreleased : ∀ id, (w'.escrow.matchOf id).state = .released →
      w'.escrow.matchOf id = w.escrow.matchOf id)
    (hkept : ∀ id, (w.escrow.matchOf id).state = .released →
      w'.escrow.matchOf id = w.escrow.matchOf id)
    (hused : w'.escrow.usedTxId = w.escrow.usedTxId) :
    ReleaseHistory P d w₀ (txs ++ [tx]) w' proofOf where
  accepted id h := by
    have heq := hreleased id h
    rw [heq] at h
    obtain ⟨before, tx', later, hsplit, hcall, haccepted⟩ := hh.accepted id h
    refine ⟨before, tx', later ++ [tx], ?_, hcall, ?_⟩
    · rw [hsplit, List.append_assoc, List.cons_append]
    · rw [heq]; exact haccepted
  used txId := by
    rw [hused, hh.used]
    constructor
    · rintro ⟨id, h, htx⟩
      exact ⟨id, by rw [hkept id h]; exact h, htx⟩
    · rintro ⟨id, h, htx⟩
      exact ⟨id, by rw [← hreleased id h]; exact h, htx⟩
  injective id id' h h' := by
    rw [hreleased id h] at h
    rw [hreleased id' h'] at h'
    exact hh.injective id id' h h'

theorem release (hh : ReleaseHistory P d w₀ txs (after P w₀ txs) proofOf) {id : Bytes32}
    {proof : XRPPayment.Proof} (hcall : tx.call = .release id proof)
    (hlocked : ((after P w₀ txs).escrow.matchOf id).state = .locked)
    (haccepted : ProofAccepted d tx.env (after P w₀ txs).escrow.usedTxId
      ((after P w₀ txs).escrow.matchOf id) proof)
    (hmatch : w'.escrow.matchOf = update (after P w₀ txs).escrow.matchOf id
      (((after P w₀ txs).escrow.matchOf id).settled .released))
    (hused : w'.escrow.usedTxId = update (after P w₀ txs).escrow.usedTxId proof.txId true) :
    ReleaseHistory P d w₀ (txs ++ [tx]) w' (update proofOf id proof) := by
  have hself : w'.escrow.matchOf id = ((after P w₀ txs).escrow.matchOf id).settled .released := by
    rw [hmatch, Function.update_self]
  have hother (j : Bytes32) (hj : j ≠ id) :
      w'.escrow.matchOf j = (after P w₀ txs).escrow.matchOf j := by
    rw [hmatch, Function.update_of_ne hj]
  -- the new payment's id was unused, so no older release has it
  have hfresh (j : Bytes32) (hj : ((after P w₀ txs).escrow.matchOf j).state = .released) :
      (proofOf j).txId ≠ proof.txId := by
    intro heq
    have hbefore := (hh.used proof.txId).mpr ⟨j, hj, heq⟩
    rw [show (after P w₀ txs).escrow.usedTxId proof.txId = false from haccepted.unused] at hbefore
    cases hbefore
  constructor
  · intro j hj
    by_cases hid : j = id
    · subst hid
      rw [Function.update_self, hself]
      exact ⟨txs, tx, [], rfl, hcall, proofAccepted_settled haccepted⟩
    · rw [hother j hid] at hj ⊢
      obtain ⟨before, tx', later, hsplit, hcall', haccepted'⟩ := hh.accepted j hj
      rw [Function.update_of_ne hid]
      exact ⟨before, tx', later ++ [tx], by rw [hsplit, List.append_assoc, List.cons_append], hcall',
        haccepted'⟩
  · intro txId
    rw [hused]
    by_cases htx : txId = proof.txId
    · subst htx
      rw [Function.update_self]
      refine ⟨fun _ => ⟨id, by rw [hself]; rfl, by rw [Function.update_self]⟩, fun _ => rfl⟩
    · rw [Function.update_of_ne htx, hh.used]
      constructor
      · rintro ⟨j, hj, hjtx⟩
        have hid : j ≠ id := by rintro rfl; rw [hlocked] at hj; cases hj
        exact ⟨j, by rw [hother j hid]; exact hj, by rw [Function.update_of_ne hid]; exact hjtx⟩
      · rintro ⟨j, hj, hjtx⟩
        by_cases hid : j = id
        · subst hid
          rw [Function.update_self] at hjtx
          exact absurd hjtx.symm htx
        · rw [Function.update_of_ne hid] at hjtx
          exact ⟨j, by rw [← hother j hid]; exact hj, hjtx⟩
  · intro j j' hj hj'
    by_cases hid : j = id <;> by_cases hid' : j' = id
    · intro _; rw [hid, hid']
    · subst hid
      rw [Function.update_self, Function.update_of_ne hid']
      rw [hother j' hid'] at hj'
      intro heq
      exact absurd heq.symm (hfresh j' hj')
    · subst hid'
      rw [Function.update_self, Function.update_of_ne hid]
      rw [hother j hid] at hj
      intro heq
      exact absurd heq (hfresh j hj)
    · rw [Function.update_of_ne hid, Function.update_of_ne hid']
      rw [hother j hid] at hj
      rw [hother j' hid'] at hj'
      exact hh.injective j j' hj hj'

theorem effect (hh : ReleaseHistory P d w₀ txs (after P w₀ txs) proofOf)
    (h : Effect P tx (after P w₀ txs) w') :
    ∃ proofOf', ReleaseHistory P d w₀ (txs ++ [tx]) w' proofOf' := by
  cases h with
  | none hmatch htag hused =>
    exact ⟨proofOf, hh.keep (fun id _ => by rw [hmatch]) (fun id _ => by rw [hmatch]) hused⟩
  | lock value data sig mi fee mid18 ts hcall haccepted hmatch htag hused =>
    refine ⟨proofOf, hh.keep ?_ ?_ hused⟩
    · intro id hid
      rw [hmatch] at hid ⊢
      by_cases heq : id = mi.matchId
      · subst heq
        rw [Function.update_self] at hid
        cases hid
      · rw [Function.update_of_ne heq]
    · intro id hid
      have heq : id ≠ mi.matchId := by
        rintro rfl
        rw [haccepted.instruction.fresh] at hid
        cases hid
      rw [hmatch, Function.update_of_ne heq]
  | release id proof hcall hlocked haccepted hmatch htag hused =>
    exact ⟨_, hh.release hcall hlocked haccepted hmatch hused⟩
  | refund j hcall hlocked htime hmatch htag hused =>
    refine ⟨proofOf, hh.keep ?_ ?_ hused⟩
    · intro id hid
      rw [hmatch] at hid ⊢
      by_cases heq : id = j
      · subst heq
        rw [Function.update_self] at hid
        cases hid
      · rw [Function.update_of_ne heq]
    · intro id hid
      have heq : id ≠ j := by
        rintro rfl
        rw [hlocked] at hid
        cases hid
      rw [hmatch, Function.update_of_ne heq]

end ReleaseHistory

section Results

variable {P : Primitives} {d : Deployment} {w₀ : World}

theorem Deployed.tagsDistinct (hw₀ : Deployed d w₀) (txs : List (Tx d)) :
    TagsDistinct (after P w₀ txs) :=
  after_induction (I := fun _ w => TagsDistinct w) hw₀.genesis.entered (.genesis hw₀.genesis)
    (fun _ _ _ ht h _ => ht.effect h) txs

theorem Deployed.releaseHistory (hw₀ : Deployed d w₀) (txs : List (Tx d)) :
    ∃ proofOf, ReleaseHistory P d w₀ txs (after P w₀ txs) proofOf := by
  have := after_induction (P := P)
    (I := fun txs w => w = after P w₀ txs → ∃ proofOf, ReleaseHistory P d w₀ txs w proofOf)
    hw₀.genesis.entered
    (fun _ => ⟨fun _ => ⟨[], ⟨0, 0, 0, 0, ⟨0, 0⟩, ⟨0, 0, [], 0, 0, 0, 0, 0, 0, 0, false, [], false, 0, 0⟩⟩⟩,
      .genesis hw₀.genesis⟩) ?_ txs rfl
  · exact this
  · intro pre tx w' hpre h _ _
    obtain ⟨proofOf, hh⟩ := hpre rfl
    exact hh.effect h

/-- FXRP leaves only by the three payouts, every release has a payment of its
own, tags never repeat and a match only moves forward. -/
theorem dvp_safety (hw₀ : Deployed d w₀) (txs : List (Tx d)) :
    (∀ before tx later, txs = before ++ tx :: later →
      let w := after P w₀ before
      let w' := after P w₀ (before ++ [tx])
      (w.fxrp.balanceOf d.self ≤ w'.fxrp.balanceOf d.self ∨ ∃ dst amount, Payout tx w w' dst amount ∧
        w.fxrp.balanceOf d.self ≤ w'.fxrp.balanceOf d.self + amount) ∧
      (∃ new, w'.log = new ++ w.log ∧
        ∀ dst amount, .transfer d.self dst amount ∈ new → Payout tx w w' dst amount) ∧
      ∀ id, MatchStep (w.escrow.matchOf id) (w'.escrow.matchOf id)) ∧
    (∃ proofOf, ReleaseHistory P d w₀ txs (after P w₀ txs) proofOf) ∧
    TagsDistinct (after P w₀ txs) := by
  refine ⟨?_, hw₀.releaseHistory txs, hw₀.tagsDistinct txs⟩
  intro before tx later _
  obtain ⟨heffect, hheld, hlog⟩ := after_effect (P := P) hw₀.genesis.entered before tx
  exact ⟨hheld, hlog, heffect.matchStep⟩

theorem dvp_safety_settling :
    let P := Sample.primitives
    let w₀ := Sample.world
    let d := Sample.deployment
    let txs := Sample.settling 1000 7
    ((after P w₀ txs).escrow.matchOf 7).state = .released ∧
    (∀ before tx later, txs = before ++ tx :: later →
      let w := after P w₀ before
      let w' := after P w₀ (before ++ [tx])
      (w.fxrp.balanceOf d.self ≤ w'.fxrp.balanceOf d.self ∨ ∃ dst amount, Payout tx w w' dst amount ∧
        w.fxrp.balanceOf d.self ≤ w'.fxrp.balanceOf d.self + amount) ∧
      (∃ new, w'.log = new ++ w.log ∧
        ∀ dst amount, .transfer d.self dst amount ∈ new → Payout tx w w' dst amount) ∧
      ∀ id, MatchStep (w.escrow.matchOf id) (w'.escrow.matchOf id)) ∧
    (∃ proofOf, ReleaseHistory P d w₀ txs (after P w₀ txs) proofOf) ∧
    TagsDistinct (after P w₀ txs) :=
  ⟨by decide +kernel, dvp_safety Sample.deployed (Sample.settling 1000 7)⟩

end Results

end WhisperDesk
