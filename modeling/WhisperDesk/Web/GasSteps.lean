import WhisperDesk.Web.GasDrip

/-!
# What a step of the gas drip can do

A claim is one turn: it is refused, or takes its slot and the counter up. Nothing else touches
these; the owner's account only ever gets and pays, and never pays more than it has.
-/
namespace WhisperDesk.Web

open Function (update)

section Claims

variable {claims claims' : GasClaims} {address : Address} {now : Nat}

theorem claim_granted (h : checkAndRecordGasClaim claims address now = (none, claims')) :
    (∀ last, claims.lastGasClaim address = some last → last + gasRateLimitMs ≤ now) ∧
      (claims.onDay (utcDay now)).gasSpentToday + gasDripWei ≤ gasDailyBudgetWei ∧
      claims' =
        { lastGasClaim := update (claims.onDay (utcDay now)).lastGasClaim address (some now)
          gasSpentToday := (claims.onDay (utcDay now)).gasSpentToday + gasDripWei
          gasBudgetDay := (claims.onDay (utcDay now)).gasBudgetDay } := by
  unfold checkAndRecordGasClaim at h
  by_cases hlimited : claims.rateLimited address now
  · rw [if_pos hlimited] at h
    cases h
  · rw [if_neg hlimited] at h
    by_cases hbudget : (claims.onDay (utcDay now)).gasSpentToday + gasDripWei > gasDailyBudgetWei
    · simp only [if_pos hbudget] at h
      cases h
    · simp only [if_neg hbudget] at h
      cases h
      refine ⟨?_, Nat.le_of_not_lt hbudget, rfl⟩
      intro last hlast
      have hage : gasRateLimitMs ≤ now - last := by
        by_contra hrecent
        exact hlimited ⟨last, hlast, Nat.lt_of_not_le hrecent⟩
      have hpos : 0 < gasRateLimitMs := by decide
      omega

theorem claim_refused {refusal : GasClaimRefusal}
    (h : checkAndRecordGasClaim claims address now = (some refusal, claims')) :
    claims' = claims ∨ claims' = claims.onDay (utcDay now) := by
  unfold checkAndRecordGasClaim at h
  by_cases hlimited : claims.rateLimited address now
  · rw [if_pos hlimited] at h
    cases h
    exact .inl rfl
  · rw [if_neg hlimited] at h
    by_cases hbudget : (claims.onDay (utcDay now)).gasSpentToday + gasDripWei > gasDailyBudgetWei
    · simp only [if_pos hbudget] at h
      cases h
      exact .inr rfl
    · simp only [if_neg hbudget] at h
      cases h

end Claims

namespace GasDesk

/-- A claim that is granted, once the counter is of today. -/
def grant (s : GasDesk) (address : Address) (read : OwnerAccount) : GasDesk :=
  { s with
    claims :=
      { lastGasClaim := update s.claims.lastGasClaim address (some s.now)
        gasSpentToday := s.claims.gasSpentToday + gasDripWei
        gasBudgetDay := s.claims.gasBudgetDay }
    sending := s.sending ++ [⟨⟨address, s.now⟩, read⟩]
    granted := s.granted ++ [⟨address, s.now⟩]
    standing := s.standing ++ [⟨address, s.now⟩] }

/-- What a claim finds on the counter. -/
def onToday (s : GasDesk) : GasDesk := { s with claims := s.claims.onDay (utcDay s.now) }

/-- A step that leaves the claims and the sends as they are. -/
structure Quiet (s s' : GasDesk) : Prop where
  now : s.now ≤ s'.now
  claims : s'.claims = s.claims
  granted : s'.granted = s.granted
  standing : s'.standing = s.standing
  sending : s'.sending = s.sending
  covered : ∀ c ∈ s'.covered, c ∈ s.covered ∨
    c.2 = s.owner ∧ gasOwnerReserveWei + gasDripWei ≤ s.owner.balance
  received : s.owner.received ≤ s'.owner.received
  paid : s.owner.paid ≤ s'.owner.paid
  solvent : s.owner.paid ≤ s.owner.received → s'.owner.paid ≤ s'.owner.received

inductive Turn (s : GasDesk) : GasEvent → GasDesk → Prop
  | quiet {e : GasEvent} {s' : GasDesk} (h : Quiet s s') : Turn s e s'
  /-- A claim goes as far as the counter. -/
  | counted {e : GasEvent} {covered : List (Address × OwnerAccount)}
      (hsub : covered.Sublist s.covered) : Turn s e { s.onToday with covered := covered }
  | granted {e : GasEvent} {address : Address} {read : OwnerAccount} {k : Nat}
      (hread : (address, read) ∈ s.covered)
      (hspaced : ∀ last, s.claims.lastGasClaim address = some last → last + gasRateLimitMs ≤ s.now)
      (hbudget : s.onToday.claims.gasSpentToday + gasDripWei ≤ gasDailyBudgetWei) :
      Turn s e { s.onToday.grant address read with covered := s.covered.eraseIdx k }
  | sent {k fee : Nat} {send : GasSend} {balanceOf : Address → Nat}
      (hsend : s.sending[k]? = some send) (hfunds : gasDripWei + fee ≤ s.owner.balance) :
      Turn s (.sent k fee) { s with
        sending := s.sending.eraseIdx k
        owner :=
          { received := s.owner.received + if send.address = s.ownerAddress then gasDripWei else 0
            paid := s.owner.paid + (gasDripWei + fee) }
        balanceOf := balanceOf }
  | failed {k fee : Nat} {send : GasSend} (hsend : s.sending[k]? = some send)
      (hfunds : fee ≤ s.owner.balance) :
      Turn s (.sendFailed k fee) { s with
        sending := s.sending.eraseIdx k
        standing := s.standing.erase send.toGasGrant
        owner := { s.owner with paid := s.owner.paid + fee } }

section Today

variable {s : GasDesk}

/-- The counter is of today already, or starts anew. -/
theorem onToday_cases (s : GasDesk) :
    s.claims.gasBudgetDay = some (utcDay s.now) ∧ s.onToday = s ∨
      s.claims.gasBudgetDay ≠ some (utcDay s.now) ∧ s.onToday = { s with claims := { s.claims with
        gasBudgetDay := some (utcDay s.now), gasSpentToday := 0 } } := by
  unfold onToday GasClaims.onDay
  by_cases hday : s.claims.gasBudgetDay = some (utcDay s.now)
  · rw [if_neg (not_not.mpr hday.symm)]
    exact .inl ⟨hday, rfl⟩
  · rw [if_pos (Ne.symm hday)]
    exact .inr ⟨hday, rfl⟩

theorem onToday_day (s : GasDesk) : s.onToday.claims.gasBudgetDay = some (utcDay s.now) := by
  obtain ⟨hday, hsame⟩ | ⟨_, hnew⟩ := s.onToday_cases
  · rw [hsame, hday]
  · rw [hnew]

theorem onToday_slots (s : GasDesk) : s.onToday.claims.lastGasClaim = s.claims.lastGasClaim := by
  obtain ⟨_, hsame⟩ | ⟨_, hnew⟩ := s.onToday_cases
  · rw [hsame]
  · rw [hnew]

end Today

section Steps

variable (s : GasDesk)

theorem Quiet.refl : Quiet s s :=
  ⟨le_rfl, rfl, rfl, rfl, rfl, fun _ hc => .inl hc, le_rfl, le_rfl, id⟩

theorem turn_claim (k : Nat) : Turn s (.claim k) (s.claim k) := by
  cases hk : s.covered[k]? with
  | none =>
    have hstep : s.claim k = s := by simp only [claim, hk]
    rw [hstep]
    exact .quiet (.refl s)
  | some c =>
    obtain ⟨address, read⟩ := c
    cases hclaim : checkAndRecordGasClaim s.claims address s.now with
    | mk refusal claims =>
      cases refusal with
      | some refusal =>
        have hstep : s.claim k = { s with covered := s.covered.eraseIdx k, claims := claims } := by
          simp only [claim, hk, hclaim]
        rw [hstep]
        obtain rfl | rfl := claim_refused hclaim
        · exact .quiet { Quiet.refl s with
            covered := fun c hc => .inl (List.mem_of_mem_eraseIdx hc) }
        · exact .counted (List.eraseIdx_sublist _ _)
      | none =>
        obtain ⟨hspaced, hbudget, rfl⟩ := claim_granted hclaim
        have hstep : s.claim k =
            { s.onToday.grant address read with covered := s.covered.eraseIdx k } := by
          simp only [claim, hk, hclaim]
          rfl
        rw [hstep]
        exact .granted (List.mem_of_getElem? hk) hspaced hbudget

theorem receives_frame (address : Address) (amount : Nat) :
    ∃ balanceOf, s.receives address amount = { s with
      owner :=
        { received := s.owner.received + if address = s.ownerAddress then amount else 0
          paid := s.owner.paid }
      balanceOf := balanceOf } := by
  unfold receives
  by_cases howner : address = s.ownerAddress
  · rw [if_pos howner, if_pos howner]
    exact ⟨_, rfl⟩
  · rw [if_neg howner, if_neg howner]
    exact ⟨_, rfl⟩

theorem balanceRead_frame (k : Nat) :
    ∃ arrived needy, s.balanceRead k = { s with arrived := arrived, needy := needy } := by
  unfold balanceRead
  split
  · exact ⟨_, _, rfl⟩
  · split
    · exact ⟨_, _, rfl⟩
    · exact ⟨_, _, rfl⟩

/-- A request goes on to its claim only with the reserve and a drip on the owner's account. -/
theorem ownerRead_cases (k : Nat) :
    ∃ needy, s.ownerRead k = { s with needy := needy } ∨
      ∃ address, gasOwnerReserveWei + gasDripWei ≤ s.owner.balance ∧
        s.ownerRead k = { s with needy := needy, covered := s.covered ++ [(address, s.owner)] } := by
  unfold ownerRead
  cases hk : s.needy[k]? with
  | none => exact ⟨s.needy, .inl rfl⟩
  | some address =>
    by_cases hreserve : (s.owner.balance : Int) - gasDripWei < gasOwnerReserveWei
    · simp only [if_pos hreserve]
      exact ⟨_, .inl rfl⟩
    · simp only [if_neg hreserve]
      exact ⟨_, .inr ⟨address, by omega, rfl⟩⟩

variable {s} {k fee : Nat} {send : GasSend}

theorem sent_funded (hsend : s.sending[k]? = some send) (hfunds : gasDripWei + fee ≤ s.owner.balance) :
    ∃ balanceOf, s.sent k fee = { s with
      sending := s.sending.eraseIdx k
      owner :=
        { received := s.owner.received + if send.address = s.ownerAddress then gasDripWei else 0
          paid := s.owner.paid + (gasDripWei + fee) }
      balanceOf := balanceOf } := by
  obtain ⟨balanceOf, hreceives⟩ := receives_frame
    ({ s with sending := s.sending.eraseIdx k }.pays (gasDripWei + fee)) send.address gasDripWei
  refine ⟨balanceOf, ?_⟩
  simp only [sent, hsend, if_pos hfunds, hreceives]
  rfl

theorem sendFailed_funded (hsend : s.sending[k]? = some send) (hfunds : fee ≤ s.owner.balance) :
    s.sendFailed k fee = { s with
      sending := s.sending.eraseIdx k
      standing := s.standing.erase send.toGasGrant
      owner := { s.owner with paid := s.owner.paid + fee } } := by
  simp only [sendFailed, hsend, if_pos hfunds]
  rfl

/-- A send ends only where the owner's account has its price. -/
theorem sent_cases (s : GasDesk) (k fee : Nat) : s.sent k fee = s ∨
    ∃ send, s.sending[k]? = some send ∧ gasDripWei + fee ≤ s.owner.balance := by
  unfold sent
  cases hk : s.sending[k]? with
  | none => exact .inl rfl
  | some send =>
    by_cases hfunds : gasDripWei + fee ≤ s.owner.balance
    · exact .inr ⟨send, rfl, hfunds⟩
    · exact .inl (if_neg hfunds)

theorem sendFailed_cases (s : GasDesk) (k fee : Nat) : s.sendFailed k fee = s ∨
    ∃ send, s.sending[k]? = some send ∧ fee ≤ s.owner.balance := by
  unfold sendFailed
  cases hk : s.sending[k]? with
  | none => exact .inl rfl
  | some send =>
    by_cases hfunds : fee ≤ s.owner.balance
    · exact .inr ⟨send, rfl, hfunds⟩
    · exact .inl (if_neg hfunds)

/-- One case for each kind of step. -/
theorem turn (s : GasDesk) (e : GasEvent) : Turn s e (s.step e) := by
  cases e with
  | elapse ms => exact .quiet { Quiet.refl s with now := Nat.le_add_right .. }
  | arrive address => exact .quiet { Quiet.refl s with }
  | balanceRead k =>
    obtain ⟨arrived, needy, hframe⟩ := s.balanceRead_frame k
    change Turn s _ (s.balanceRead k)
    rw [hframe]
    exact .quiet { Quiet.refl s with }
  | balanceUnread k => exact .quiet { Quiet.refl s with }
  | ownerRead k =>
    change Turn s _ (s.ownerRead k)
    obtain ⟨needy, hframe | ⟨address, henough, hframe⟩⟩ := s.ownerRead_cases k
    · rw [hframe]
      exact .quiet { Quiet.refl s with }
    · rw [hframe]
      refine .quiet { Quiet.refl s with covered := ?_ }
      intro c hc
      rcases List.mem_append.mp hc with hold | hnew
      · exact .inl hold
      · rw [List.mem_singleton.mp hnew]
        exact .inr ⟨rfl, henough⟩
  | ownerUnread k => exact .quiet { Quiet.refl s with }
  | claim k => exact s.turn_claim k
  | sent k fee =>
    change Turn s _ (s.sent k fee)
    obtain hsame | ⟨send, hsend, hfunds⟩ := s.sent_cases k fee
    · rw [hsame]
      exact .quiet (.refl s)
    · obtain ⟨balanceOf, hsent⟩ := sent_funded hsend hfunds
      rw [hsent]
      exact .sent hsend hfunds
  | sendFailed k fee =>
    change Turn s _ (s.sendFailed k fee)
    obtain hsame | ⟨send, hsend, hfunds⟩ := s.sendFailed_cases k fee
    · rw [hsame]
      exact .quiet (.refl s)
    · rw [sendFailed_funded hsend hfunds]
      exact .failed hsend hfunds
  | ownerPays amount =>
    change Turn s _ (if amount ≤ s.owner.balance then s.pays amount else s)
    by_cases hfunds : amount ≤ s.owner.balance
    · rw [if_pos hfunds]
      refine .quiet { Quiet.refl s with paid := Nat.le_add_right .., solvent := ?_ }
      intro hsolvent
      unfold OwnerAccount.balance at hfunds
      change s.owner.paid + amount ≤ s.owner.received
      omega
    · rw [if_neg hfunds]
      exact .quiet (.refl s)
  | ownerReceives amount =>
    obtain ⟨balanceOf, hframe⟩ := s.receives_frame s.ownerAddress amount
    change Turn s _ (s.receives s.ownerAddress amount)
    rw [hframe]
    exact .quiet { Quiet.refl s with
      received := Nat.le_add_right ..
      solvent := fun hsolvent => hsolvent.trans (Nat.le_add_right ..) }
  | balanceMoves address balance => exact .quiet { Quiet.refl s with }

end Steps

end GasDesk

end WhisperDesk.Web
