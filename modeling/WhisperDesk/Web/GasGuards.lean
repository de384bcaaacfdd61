import WhisperDesk.Web.GasSteps
import WhisperDesk.General.Trace

/-!
# What the guards of the gas drip keep

The slots and the day's counter are checked and written in one turn, so the grants of an address
are ten minutes apart and those of a day within the budget, in whatever order the requests come.
The reserve is looked at turns before the drip is sent, and a send that fails gives nothing back:
both hold just where the owner's account has gained what it lost in between, and where no claim
that still counts fails.
-/
namespace WhisperDesk.Web

open Function (update)
open Trace (Always AlwaysFrom always_concat)

namespace GasDesk

def grantsOn (grants : List GasGrant) (day : Nat) : Nat :=
  grants.countP fun grant => utcDay grant.claimedAt = day

/-- The drips authorised stay within each day's budget and each address's ten minutes. -/
structure Bounded (s : GasDesk) : Prop where
  budget : ∀ day, gasDripWei * grantsOn s.granted day ≤ gasDailyBudgetWei
  spaced : s.granted.Pairwise fun first later =>
    first.address = later.address → first.claimedAt + gasRateLimitMs ≤ later.claimedAt

/-- Each slot and the counter are what the claims that have not failed make them. -/
structure Accounted (s : GasDesk) : Prop where
  slot : ∀ address, s.claims.lastGasClaim address =
    ((s.standing.filter fun grant => grant.address = address).getLast?).map GasGrant.claimedAt
  counter : ∀ day ∈ s.claims.gasBudgetDay,
    s.claims.gasSpentToday = gasDripWei * grantsOn s.standing day

/-- A drip leaves the owner's account the reserve. -/
def KeepsReserve (s : GasDesk) : GasEvent → Prop
  | .sent k fee => ∀ send ∈ s.sending[k]?, gasDripWei + fee ≤ s.owner.balance →
    gasOwnerReserveWei ≤ (s.sent k fee).owner.balance
  | _ => True

/-- What a drip takes from the owner's account. -/
def dripCost (s : GasDesk) (address : Address) (fee : Nat) : Nat :=
  if address = s.ownerAddress then fee else gasDripWei + fee

/-- What the owner's account has paid since the request has read it, and the drip, is covered by
what it had over the reserve then and what it has got since. -/
def Covers (s : GasDesk) (send : GasSend) (fee : Nat) : Prop :=
  (s.owner.paid - send.read.paid) + s.dripCost send.address fee ≤
    (send.read.balance - gasOwnerReserveWei) + (s.owner.received - send.read.received)

/-- The claim is not in its slot or on the counter any more. -/
def Outdated (s : GasDesk) (grant : GasGrant) : Prop :=
  s.claims.lastGasClaim grant.address ≠ some grant.claimedAt ∧
    s.claims.gasBudgetDay ≠ some (utcDay grant.claimedAt)

/-- A drip that is sent is covered, a send that fails is outdated. -/
def Unhindered (s : GasDesk) : GasEvent → Prop
  | .sent k fee => ∀ send ∈ s.sending[k]?, gasDripWei + fee ≤ s.owner.balance → s.Covers send fee
  | .sendFailed k fee => ∀ send ∈ s.sending[k]?, fee ≤ s.owner.balance → s.Outdated send.toGasGrant
  | _ => True

section Claimed

variable {s s' : GasDesk} {address : Address}

/-- Slots, counter and grants agree. -/
structure Claimed (s : GasDesk) : Prop extends Bounded s where
  slot : ∀ grant ∈ s.granted, ∃ last,
    s.claims.lastGasClaim grant.address = some last ∧ grant.claimedAt ≤ last
  days : ∀ grant ∈ s.granted, ∃ day,
    s.claims.gasBudgetDay = some day ∧ utcDay grant.claimedAt ≤ day
  today : ∀ day, s.claims.gasBudgetDay = some day →
    day ≤ utcDay s.now ∧ s.claims.gasSpentToday = gasDripWei * grantsOn s.granted day
  standing : s.standing.Sublist s.granted
  sending : ∀ send ∈ s.sending, send.toGasGrant ∈ s.standing
  distinct : (s.sending.map GasSend.toGasGrant).Nodup

theorem grantsOn_concat (grants : List GasGrant) (grant : GasGrant) (day : Nat) :
    grantsOn (grants ++ [grant]) day =
      grantsOn grants day + if utcDay grant.claimedAt = day then 1 else 0 := by
  simp [grantsOn, List.countP_append, List.countP_singleton]

/-- No grant is of a day that the counter has not seen. -/
theorem Claimed.none_today (h : Claimed s) (hday : s.claims.gasBudgetDay ≠ some (utcDay s.now)) :
    grantsOn s.granted (utcDay s.now) = 0 := by
  rw [grantsOn, List.countP_eq_zero]
  intro grant hgrant
  obtain ⟨day, hcounted, hle⟩ := h.days grant hgrant
  have hpast : day ≠ utcDay s.now := fun heq => hday (heq ▸ hcounted)
  have hnow := (h.today day hcounted).1
  simp only [decide_eq_true_eq]
  omega

namespace Claimed

theorem quiet (h : Claimed s) (hquiet : Quiet s s') : Claimed s' := by
  obtain ⟨hnow, hclaims, hgranted, hstanding, hsending, _⟩ := hquiet
  constructor
  case toBounded =>
    constructor
    case budget => exact hgranted ▸ h.budget
    case spaced => exact hgranted ▸ h.spaced
  case slot => exact hgranted ▸ hclaims ▸ h.slot
  case days => exact hgranted ▸ hclaims ▸ h.days
  case today =>
    intro day hday
    rw [hclaims] at hday ⊢
    obtain ⟨hle, hspent⟩ := h.today day hday
    exact ⟨hle.trans (Nat.div_le_div_right hnow), hgranted ▸ hspent⟩
  case standing => exact hgranted ▸ hstanding ▸ h.standing
  case sending => exact hsending ▸ hstanding ▸ h.sending
  case distinct => exact hsending ▸ h.distinct

/-- A new day's counter starts with none of its grants made. -/
theorem counted (h : Claimed s) : Claimed s.onToday := by
  obtain ⟨_, hsame⟩ | ⟨hday, hnew⟩ := s.onToday_cases
  · rw [hsame]
    exact h
  · rw [hnew]
    refine { h with days := ?_, today := ?_ }
    · intro grant hgrant
      obtain ⟨day, hcounted, hle⟩ := h.days grant hgrant
      exact ⟨_, rfl, hle.trans (h.today day hcounted).1⟩
    · rintro day ⟨⟩
      refine ⟨le_rfl, ?_⟩
      change 0 = gasDripWei * grantsOn s.granted (utcDay s.now)
      rw [h.none_today hday, Nat.mul_zero]

/-- What a new claim of an address has waited for. -/
theorem apart (h : Claimed s)
    (hspaced : ∀ last, s.claims.lastGasClaim address = some last → last + gasRateLimitMs ≤ s.now) :
    ∀ grant ∈ s.granted, grant.address = address → grant.claimedAt + gasRateLimitMs ≤ s.now := by
  rintro grant hgrant rfl
  obtain ⟨last, hlast, hle⟩ := h.slot grant hgrant
  have hlater := hspaced last hlast
  omega

theorem bounded_grant (h : Claimed s) (read : OwnerAccount)
    (hday : s.claims.gasBudgetDay = some (utcDay s.now))
    (hspaced : ∀ last, s.claims.lastGasClaim address = some last → last + gasRateLimitMs ≤ s.now)
    (hbudget : s.claims.gasSpentToday + gasDripWei ≤ gasDailyBudgetWei) :
    Bounded (s.grant address read) where
  budget := by
    intro day
    change gasDripWei * grantsOn (s.granted ++ [⟨address, s.now⟩]) day ≤ gasDailyBudgetWei
    rw [grantsOn_concat]
    by_cases hnow : utcDay s.now = day
    · rw [if_pos hnow, ← hnow, Nat.mul_add, ← (h.today _ hday).2]
      omega
    · rw [if_neg hnow]
      exact h.budget day
  spaced := by
    change List.Pairwise _ (s.granted ++ [_])
    rw [List.pairwise_append]
    refine ⟨h.spaced, List.pairwise_singleton _ _, ?_⟩
    intro first hfirst later hlater hsame
    rw [List.mem_singleton.mp hlater] at hsame ⊢
    exact h.apart hspaced first hfirst hsame

theorem grant (h : Claimed s) (read : OwnerAccount)
    (hday : s.claims.gasBudgetDay = some (utcDay s.now))
    (hspaced : ∀ last, s.claims.lastGasClaim address = some last → last + gasRateLimitMs ≤ s.now)
    (hbudget : s.claims.gasSpentToday + gasDripWei ≤ gasDailyBudgetWei) :
    Claimed (s.grant address read) := by
  constructor
  case toBounded => exact h.bounded_grant read hday hspaced hbudget
  case slot =>
    intro grant hgrant
    rcases List.mem_append.mp hgrant with hold | hnew
    · by_cases hsame : grant.address = address
      · refine ⟨s.now, ?_, ?_⟩
        · rw [hsame]
          exact Function.update_self ..
        · exact (Nat.le_add_right ..).trans (h.apart hspaced grant hold hsame)
      · obtain ⟨last, hlast, hle⟩ := h.slot grant hold
        exact ⟨last, (Function.update_of_ne hsame ..).trans hlast, hle⟩
    · rw [List.mem_singleton.mp hnew]
      exact ⟨s.now, Function.update_self .., le_rfl⟩
  case days =>
    intro grant hgrant
    rcases List.mem_append.mp hgrant with hold | hnew
    · exact h.days grant hold
    · rw [List.mem_singleton.mp hnew]
      exact ⟨_, hday, le_rfl⟩
  case today =>
    intro day hcounted
    obtain rfl : utcDay s.now = day := Option.some.inj (hday.symm.trans hcounted)
    refine ⟨le_rfl, ?_⟩
    change s.claims.gasSpentToday + gasDripWei = gasDripWei * grantsOn (s.granted ++ [_]) _
    rw [grantsOn_concat, if_pos rfl, Nat.mul_add, ← (h.today _ hday).2, Nat.mul_one]
  case standing => exact h.standing.append_right _
  case sending =>
    intro send hsend
    rcases List.mem_append.mp hsend with hold | hnew
    · exact List.mem_append_left _ (h.sending send hold)
    · rw [List.mem_singleton.mp hnew]
      exact List.mem_append_right _ (List.mem_singleton_self _)
  case distinct =>
    change ((s.sending ++ [_]).map GasSend.toGasGrant).Nodup
    rw [List.map_append, List.nodup_append]
    refine ⟨h.distinct, List.nodup_singleton _, ?_⟩
    intro grant hgrant new hnew heq
    obtain ⟨send, hsend, rfl⟩ := List.mem_map.mp hgrant
    have hstands := h.standing.subset (h.sending send hsend)
    rw [List.mem_singleton.mp hnew] at heq
    have hlate := h.apart hspaced _ hstands (congrArg GasGrant.address heq)
    have hat : send.toGasGrant.claimedAt = s.now := congrArg GasGrant.claimedAt heq
    have hpos : 0 < gasRateLimitMs := by decide
    omega

theorem unsend (h : Claimed s) (k : Nat) : Claimed { s with sending := s.sending.eraseIdx k } :=
  { h with
    sending := fun send hsend => h.sending send (List.mem_of_mem_eraseIdx hsend)
    distinct := by
      change ((s.sending.eraseIdx k).map GasSend.toGasGrant).Nodup
      rw [← List.eraseIdx_map]
      exact h.distinct.sublist (List.eraseIdx_sublist _ _) }

theorem nodup (h : Claimed s) : s.standing.Nodup := by
  refine List.Nodup.sublist h.standing (h.spaced.imp ?_)
  rintro first later hspaced rfl
  have hlate := hspaced rfl
  have hpos : 0 < gasRateLimitMs := by decide
  omega

/-- No other send is of the same grant. -/
theorem other_grant (h : Claimed s) {k : Nat} {send other : GasSend}
    (hsend : s.sending[k]? = some send) (hother : other ∈ s.sending.eraseIdx k) :
    other.toGasGrant ≠ send.toGasGrant := by
  obtain ⟨hk, rfl⟩ := List.getElem?_eq_some_iff.mp hsend
  have hperm := (List.getElem_cons_eraseIdx_perm hk).map GasSend.toGasGrant
  have hnodup := hperm.nodup_iff.mpr h.distinct
  rw [List.map_cons, List.nodup_cons] at hnodup
  intro heq
  exact hnodup.1 (heq ▸ List.mem_map_of_mem hother)

theorem failed (h : Claimed s) {k : Nat} {send : GasSend} (hsend : s.sending[k]? = some send) :
    Claimed { s with
      sending := s.sending.eraseIdx k, standing := s.standing.erase send.toGasGrant } :=
  { h.unsend k with
    standing := List.erase_sublist.trans h.standing
    sending := by
      intro other hother
      refine (List.mem_erase_of_ne (h.other_grant hsend hother)).mpr ?_
      exact h.sending other (List.mem_of_mem_eraseIdx hother) }

theorem step (h : Claimed s) (e : GasEvent) : Claimed (s.step e) := by
  have hturn := s.turn e
  generalize s.step e = s' at hturn ⊢
  cases hturn with
  | quiet hquiet => exact h.quiet hquiet
  | counted hsub => exact { h.counted with }
  | granted hread hspaced hbudget =>
    rw [← s.onToday_slots] at hspaced
    exact { h.counted.grant _ s.onToday_day hspaced hbudget with }
  | sent hsend hfunds => exact { h.unsend _ with }
  | failed hsend hfunds => exact { h.failed hsend with }

end Claimed

theorem claimed (now : Nat) (ownerAddress : Address) (owner : Nat) (balanceOf : Address → Nat)
    (events : List GasEvent) : Claimed ((start now ownerAddress owner balanceOf).after events) := by
  induction events using List.reverseRecOn with
  | nil =>
    constructor
    case toBounded => exact ⟨fun _ => Nat.zero_le _, List.Pairwise.nil⟩
    case today =>
      intro day hday
      cases hday
    case standing => exact List.Sublist.refl _
    case distinct => exact List.nodup_nil
    all_goals
      intro x hx
      cases hx
  | append_singleton events e ih =>
    rw [after_concat]
    exact ih.step e

end Claimed

section Watched

/-- What a request has read of the owner's account was enough, and lies behind the account. -/
structure Seen (owner read : OwnerAccount) : Prop where
  enough : gasOwnerReserveWei + gasDripWei ≤ read.balance
  received : read.received ≤ owner.received
  paid : read.paid ≤ owner.paid

structure Watched (s : GasDesk) : Prop where
  solvent : s.owner.paid ≤ s.owner.received
  covered : ∀ c ∈ s.covered, Seen s.owner c.2
  sending : ∀ send ∈ s.sending, Seen s.owner send.read

variable {s s' : GasDesk}

theorem Seen.later {owner later read : OwnerAccount} (h : Seen owner read)
    (hreceived : owner.received ≤ later.received) (hpaid : owner.paid ≤ later.paid) :
    Seen later read where
  enough := h.enough
  received := h.received.trans hreceived
  paid := h.paid.trans hpaid

namespace Watched

theorem later (h : Watched s) {owner : OwnerAccount} (hsolvent : owner.paid ≤ owner.received)
    (hreceived : s.owner.received ≤ owner.received) (hpaid : s.owner.paid ≤ owner.paid) :
    Watched { s with owner := owner } where
  solvent := hsolvent
  covered c hc := (h.covered c hc).later hreceived hpaid
  sending send hsend := (h.sending send hsend).later hreceived hpaid

theorem spend (h : Watched s) {amount : Nat} (hfunds : amount ≤ s.owner.balance) :
    Watched { s with owner := { s.owner with paid := s.owner.paid + amount } } := by
  have hsolvent := h.solvent
  unfold OwnerAccount.balance at hfunds
  exact h.later (by change s.owner.paid + amount ≤ s.owner.received; omega) le_rfl (Nat.le_add_right ..)

theorem earn (h : Watched s) (amount : Nat) :
    Watched { s with owner := { s.owner with received := s.owner.received + amount } } :=
  h.later (h.solvent.trans (Nat.le_add_right ..)) (Nat.le_add_right ..) le_rfl

theorem unsend (h : Watched s) (k : Nat) : Watched { s with sending := s.sending.eraseIdx k } :=
  { h with sending := fun send hsend => h.sending send (List.mem_of_mem_eraseIdx hsend) }

theorem quiet (h : Watched s) (hquiet : Quiet s s') : Watched s' where
  solvent := hquiet.solvent h.solvent
  covered := by
    intro c hc
    rcases hquiet.covered c hc with hold | ⟨hread, henough⟩
    · exact (h.covered c hold).later hquiet.received hquiet.paid
    · rw [hread]
      exact ⟨henough, hquiet.received, hquiet.paid⟩
  sending := by
    intro send hsend
    rw [hquiet.sending] at hsend
    exact (h.sending send hsend).later hquiet.received hquiet.paid

theorem step (h : Watched s) (e : GasEvent) : Watched (s.step e) := by
  have hturn := s.turn e
  generalize s.step e = s' at hturn ⊢
  cases hturn with
  | quiet hquiet => exact h.quiet hquiet
  | counted hsub => exact ⟨h.solvent, fun c hc => h.covered c (hsub.subset hc), h.sending⟩
  | granted hread hspaced hbudget =>
    refine ⟨h.solvent, fun c hc => h.covered c (List.mem_of_mem_eraseIdx hc), ?_⟩
    intro send hsend
    rcases List.mem_append.mp hsend with hold | hnew
    · exact h.sending send hold
    · rw [List.mem_singleton.mp hnew]
      exact h.covered _ hread
  | sent hsend hfunds => exact { ((h.unsend _).spend hfunds).earn _ with }
  | failed hsend hfunds => exact { (h.unsend _).spend hfunds with }

end Watched

theorem watched (now : Nat) (ownerAddress : Address) (owner : Nat) (balanceOf : Address → Nat)
    (events : List GasEvent) : Watched ((start now ownerAddress owner balanceOf).after events) := by
  induction events using List.reverseRecOn with
  | nil =>
    constructor
    case solvent => exact Nat.zero_le _
    all_goals
      intro x hx
      cases hx
  | append_singleton events e ih =>
    rw [after_concat]
    exact ih.step e

/-- The reserve is left just where the drip is covered. -/
theorem keepsReserve_sent (h : Watched s) (k fee : Nat) :
    s.KeepsReserve (.sent k fee) ↔ s.Unhindered (.sent k fee) := by
  refine forall_congr' fun send => forall_congr' fun hsend => forall_congr' fun hfunds => ?_
  obtain ⟨henough, hreceived, hpaid⟩ := h.sending send (List.mem_of_getElem? hsend)
  have hsolvent := h.solvent
  obtain ⟨balanceOf, hsent⟩ := sent_funded hsend hfunds
  rw [hsent]
  unfold OwnerAccount.balance at henough hfunds
  unfold Covers OwnerAccount.balance dripCost
  by_cases howner : send.address = s.ownerAddress
  · simp only [if_pos howner]
    omega
  · simp only [if_neg howner]
    omega

end Watched

section Accounted

variable {s s' : GasDesk}

theorem grantsOn_standing (h : Claimed s) (day : Nat) :
    grantsOn s.standing day ≤ grantsOn s.granted day := h.standing.countP_le

/-- Taking away what is not the last leaves the last. -/
theorem getLast?_erase {grants : List GasGrant} {grant : GasGrant}
    (h : grants.getLast? ≠ some grant) : (grants.erase grant).getLast? = grants.getLast? := by
  obtain rfl | ⟨init, last, rfl⟩ := grants.eq_nil_or_concat
  · rfl
  · rw [List.concat_eq_append] at h ⊢
    rw [List.getLast?_concat] at h ⊢
    have hother : last ≠ grant := fun heq => h (congrArg some heq)
    by_cases hmem : grant ∈ init
    · rw [List.erase_append_left _ hmem, List.getLast?_concat]
    · rw [List.erase_append_right _ hmem, List.erase_of_not_mem, List.getLast?_concat]
      simpa using hother.symm

theorem grantsOn_erase {grants : List GasGrant} {grant : GasGrant} (h : grant ∈ grants) (day : Nat) :
    grantsOn grants day =
      grantsOn (grants.erase grant) day + if utcDay grant.claimedAt = day then 1 else 0 := by
  have hcount := (List.perm_cons_erase h).countP_eq fun grant => decide (utcDay grant.claimedAt = day)
  rw [List.countP_cons] at hcount
  simpa [grantsOn] using hcount

namespace Accounted

theorem quiet (h : Accounted s) (hquiet : Quiet s s') : Accounted s' where
  slot := hquiet.claims ▸ hquiet.standing ▸ h.slot
  counter := hquiet.claims ▸ hquiet.standing ▸ h.counter

theorem counted (h : Accounted s) (hclaimed : Claimed s) : Accounted s.onToday := by
  obtain ⟨_, hsame⟩ | ⟨hday, hnew⟩ := s.onToday_cases
  · rw [hsame]
    exact h
  · rw [hnew]
    refine { h with counter := ?_ }
    rintro day ⟨⟩
    change 0 = gasDripWei * grantsOn s.standing (utcDay s.now)
    have hnone := grantsOn_standing hclaimed (utcDay s.now)
    rw [hclaimed.none_today hday, Nat.le_zero] at hnone
    rw [hnone, Nat.mul_zero]

theorem grant (h : Accounted s) (address : Address) (read : OwnerAccount)
    (hday : s.claims.gasBudgetDay = some (utcDay s.now)) : Accounted (s.grant address read) := by
  refine ⟨?_, ?_⟩
  · intro other
    let new : GasGrant := ⟨address, s.now⟩
    change update s.claims.lastGasClaim address (some s.now) other =
      (((s.standing ++ [new]).filter _).getLast?).map _
    rw [List.filter_append]
    by_cases hsame : other = address
    · subst hsame
      simp [new]
    · rw [Function.update_of_ne hsame, h.slot other]
      simp [new, Ne.symm hsame]
  · intro day hcounted
    obtain rfl : utcDay s.now = day := Option.some.inj (hday.symm.trans hcounted)
    change s.claims.gasSpentToday + gasDripWei = gasDripWei * grantsOn (s.standing ++ [_]) _
    rw [grantsOn_concat, if_pos rfl, Nat.mul_add, ← h.counter _ hday, Nat.mul_one]

/-- A send fails without a trace just where its claim is outdated. -/
theorem failed_iff (h : Accounted s) (hclaimed : Claimed s) {grant : GasGrant}
    (hgrant : grant ∈ s.standing) :
    Accounted { s with standing := s.standing.erase grant } ↔ s.Outdated grant := by
  constructor
  · intro hafter
    refine ⟨?_, ?_⟩
    · intro hslot
      -- the last claim that stands would be the one that has just been taken away
      obtain ⟨last, hlast, hat⟩ :=
        Option.map_eq_some_iff.mp ((hafter.slot grant.address).symm.trans hslot)
      obtain ⟨hmem, haddress⟩ := List.mem_filter.mp (List.mem_of_getLast? hlast)
      have hsame : last = grant := GasGrant.ext (of_decide_eq_true haddress) hat
      rw [hsame] at hmem
      exact hclaimed.nodup.not_mem_erase hmem
    · intro hday
      have hbefore := h.counter _ hday
      have hthen := hafter.counter _ hday
      change s.claims.gasSpentToday = gasDripWei * grantsOn (s.standing.erase grant) _ at hthen
      rw [grantsOn_erase hgrant, if_pos rfl, Nat.mul_add] at hbefore
      have hpos : 0 < gasDripWei := by decide
      omega
  · rintro ⟨hslot, hday⟩
    refine ⟨?_, ?_⟩
    · intro address
      change s.claims.lastGasClaim address = (((s.standing.erase grant).filter _).getLast?).map _
      have hlast : (s.standing.filter fun g => g.address = address).getLast? ≠ some grant := by
        intro hlast
        have haddress : grant.address = address := by
          simpa using (List.mem_filter.mp (List.mem_of_getLast? hlast)).2
        refine hslot ?_
        rw [haddress, h.slot address, hlast]
        rfl
      rw [← List.erase_filter, getLast?_erase hlast, h.slot address]
    · intro day hcounted
      have hother : utcDay grant.claimedAt ≠ day := fun heq => hday (heq ▸ hcounted)
      change s.claims.gasSpentToday = gasDripWei * grantsOn (s.standing.erase grant) day
      rw [h.counter day hcounted, grantsOn_erase hgrant, if_neg hother, Nat.add_zero]

/-- Nothing but a send that fails takes a claim back. -/
theorem step (h : Accounted s) (hclaimed : Claimed s) {e : GasEvent}
    (hsent : ∀ k fee, e ≠ .sendFailed k fee) : Accounted (s.step e) := by
  have hturn := s.turn e
  generalize s.step e = s' at hturn ⊢
  cases hturn with
  | quiet hquiet => exact h.quiet hquiet
  | counted hsub => exact { h.counted hclaimed with }
  | @granted e address read k hread hspaced hbudget =>
    exact { (h.counted hclaimed).grant address read s.onToday_day with }
  | sent hsend hfunds => exact { h with }
  | failed hsend hfunds => exact absurd rfl (hsent _ _)

theorem sendFailed_iff (h : Accounted s) (hclaimed : Claimed s) (k fee : Nat) :
    Accounted (s.sendFailed k fee) ↔ s.Unhindered (.sendFailed k fee) := by
  constructor
  · intro hafter send hsend hfunds
    rw [sendFailed_funded hsend hfunds] at hafter
    exact (h.failed_iff hclaimed (hclaimed.sending send (List.mem_of_getElem? hsend))).mp
      { hafter with }
  · intro houtdated
    obtain hsame | ⟨send, hsend, hfunds⟩ := s.sendFailed_cases k fee
    · rw [hsame]
      exact h
    · rw [sendFailed_funded hsend hfunds]
      exact { (h.failed_iff hclaimed (hclaimed.sending send (List.mem_of_getElem? hsend))).mpr
        (houtdated send hsend hfunds) with }

end Accounted

end Accounted

/-- What a step is to keep, beside the bounds on the claims. -/
structure Guards (s : GasDesk) (e : GasEvent) : Prop where
  reserve : s.KeepsReserve e
  accounted : (s.step e).Accounted

theorem guards_iff {s : GasDesk} (hwatched : Watched s) (hclaimed : Claimed s) (h : Accounted s)
    (e : GasEvent) : s.Guards e ↔ s.Unhindered e := by
  cases e with
  | sent k fee =>
    have hkept := h.step hclaimed (e := .sent k fee) (fun _ _ => GasEvent.noConfusion)
    constructor
    · intro hguards
      exact (keepsReserve_sent hwatched k fee).mp hguards.reserve
    · intro hcovers
      exact ⟨(keepsReserve_sent hwatched k fee).mpr hcovers, hkept⟩
  | sendFailed k fee =>
    constructor
    · intro hguards
      exact (h.sendFailed_iff hclaimed k fee).mp hguards.accounted
    · intro houtdated
      exact ⟨trivial, (h.sendFailed_iff hclaimed k fee).mpr houtdated⟩
  | _ =>
    constructor
    · intro _
      trivial
    · intro _
      exact ⟨trivial, h.step hclaimed (fun _ _ => GasEvent.noConfusion)⟩

section Runs

variable {now owner : Nat} {ownerAddress : Address} {balanceOf : Address → Nat}

theorem accounted {events : List GasEvent}
    (h : Always (fun before => ((start now ownerAddress owner balanceOf).after before).Guards) events) :
    ((start now ownerAddress owner balanceOf).after events).Accounted := by
  induction events using List.reverseRecOn with
  | nil => exact ⟨fun _ => rfl, fun _ hday => nomatch hday⟩
  | append_singleton events e ih =>
    rw [after_concat]
    exact (always_concat.mp h).2.accounted

end Runs

end GasDesk

/-- Of whatever requests, in whatever order of their turns: the drips authorised stay within the
budget of each day and ten minutes apart for each address. They leave the reserve, and the sends
that fail no trace, just where each drip is covered when it is sent and no claim that still counts
fails. -/
theorem gas_drips_guarded (now : Nat) (ownerAddress : Address) (owner : Nat)
    (balanceOf : Address → Nat) (events : List GasEvent) :
    (∀ n, ((GasDesk.start now ownerAddress owner balanceOf).after (events.take n)).Bounded) ∧
    (Always (fun before =>
      ((GasDesk.start now ownerAddress owner balanceOf).after before).Guards) events ↔
    Always (fun before =>
      ((GasDesk.start now ownerAddress owner balanceOf).after before).Unhindered) events) := by
  refine ⟨fun n => (GasDesk.claimed now ownerAddress owner balanceOf (events.take n)).toBounded, ?_⟩
  induction events using List.reverseRecOn with
  | nil => exact Iff.rfl
  | append_singleton events e ih =>
    have hstep (haccounted : ((GasDesk.start now ownerAddress owner balanceOf).after events).Accounted) :=
      GasDesk.guards_iff (GasDesk.watched now ownerAddress owner balanceOf events)
        (GasDesk.claimed now ownerAddress owner balanceOf events) haccounted e
    rw [always_concat, always_concat]
    constructor
    · rintro ⟨hevents, hlast⟩
      exact ⟨ih.mp hevents, (hstep (GasDesk.accounted hevents)).mp hlast⟩
    · rintro ⟨hevents, hlast⟩
      have hguards := ih.mpr hevents
      exact ⟨hguards, (hstep (GasDesk.accounted hguards)).mpr hlast⟩

/-! The owner, 1, has 15.9 C2FLR; addresses 7 and 8 have none. -/
namespace SampleGas

def start : GasDesk := .start 1000 1 15900000000000000000 fun _ => 0

/-- Both requests read the owner's balance before either sends. -/
def racing : List GasEvent :=
  [.arrive 7, .arrive 8, .balanceRead 0, .balanceRead 0, .ownerRead 0, .ownerRead 0, .claim 0,
    .claim 0, .sent 0 525000000000000]

def failing : List GasEvent := [.arrive 7, .balanceRead 0, .ownerRead 0, .claim 0, .sendFailed 0 0]

end SampleGas

open SampleGas in
/-- The second of two drips goes below the reserve; a send that fails leaves its slot taken and the
counter up. -/
theorem gas_guards_broken :
    ¬ (∀ now ownerAddress owner balanceOf events, Always (fun before =>
      ((GasDesk.start now ownerAddress owner balanceOf).after before).KeepsReserve) events) ∧
    ¬ ∀ now ownerAddress owner balanceOf events,
      ((GasDesk.start now ownerAddress owner balanceOf).after events).Accounted := by
  constructor
  · intro h
    have hlast := (always_concat.mp (h 1000 1 15900000000000000000 (fun _ => 0)
      (racing ++ [.sent 0 525000000000000]))).2
    have hkept := hlast _ (rfl : (SampleGas.start.after racing).sending[0]? = some _) (by decide +kernel)
    revert hkept
    decide +kernel
  · intro h
    have hslot := (h 1000 1 15900000000000000000 (fun _ => 0) failing).slot 7
    revert hslot
    decide +kernel

end WhisperDesk.Web
