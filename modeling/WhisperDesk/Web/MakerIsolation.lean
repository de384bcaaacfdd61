import WhisperDesk.Web.MakerPay

/-!
# Whose account pays, and how often

`/api/maker/pay` takes the one account of the slot, whoever has generated it, and looks at no
payment made before. Where the maker of the match was the last to generate an account, and none
of its match's payments is under way or sent, a pay is that maker's own and the only one.
-/
namespace WhisperDesk.Web

open Trace (Occurred Always always_concat)

namespace MakerDesk

/-- The maker of the latest lock of the match. -/
def makerOf (events : List MakerEvent) (matchId : Bytes32) : Option Address :=
  events.foldl (fun latest e => match e with
    | .matched id maker _ => if id = matchId then some maker else latest
    | _ => latest) none

/-- The latest account generated, and the maker that it was generated for. -/
def latestAccount (events : List MakerEvent) : Option (Address × FreshXrplAccount) :=
  events.foldl (fun latest e => match e with
    | .xrplAccount maker account => some (maker, account)
    | _ => latest) none

/-- The payments that are or will be on the ledger, unless they are refused. -/
def outgoing (s : MakerDesk) : List MakerPayment := s.paying ++ s.sent

/-- A pay request for the match gets as far as a payment. -/
def Sends (s : MakerDesk) (matchId : Bytes32) : Prop :=
  (getMatchRecord s.matchStore matchId s.now).1.isSome = true ∧
    (getCurrentMakerXrplAccount s.currentMakerXrplAccount s.now).1.isSome = true

instance (s : MakerDesk) (matchId : Bytes32) : Decidable (s.Sends matchId) :=
  inferInstanceAs (Decidable (_ ∧ _))

/-- A pay that sends: the last account was generated for the maker of its match, none of whose
payments is under way or sent. -/
def Orderly (s₀ : MakerDesk) (before : List MakerEvent) : MakerEvent → Prop
  | .pay matchId => (s₀.after before).Sends matchId →
    makerOf before matchId = (latestAccount before).map Prod.fst ∧
      ∀ p ∈ (s₀.after before).outgoing, p.matchId ≠ matchId
  | _ => True

/-- The request that made the payment took an account generated for the maker of the match. -/
def OwnAccount (p : MakerPayment) (before : List MakerEvent) (e : MakerEvent) : Prop :=
  e = .pay p.matchId ∧
    ∃ maker, makerOf before p.matchId = some maker ∧ .xrplAccount maker p.account ∈ before

/-- Every payment is from the account of its match's maker, and no match has two. -/
structure Isolated (s₀ : MakerDesk) (events : List MakerEvent) : Prop where
  own : ∀ p ∈ (s₀.after events).outgoing, Occurred (OwnAccount p) events
  once : ((s₀.after events).outgoing.map fun p => p.matchId).Nodup

section Slot

variable {events : List MakerEvent}

theorem makerOf_concat (events : List MakerEvent) (e : MakerEvent) (matchId : Bytes32) :
    makerOf (events ++ [e]) matchId = match e with
      | .matched id maker _ => if id = matchId then some maker else makerOf events matchId
      | _ => makerOf events matchId := by
  simp only [makerOf, List.foldl_append, List.foldl_cons, List.foldl_nil]

theorem makerOf_mem {matchId : Bytes32} {maker : Address} (h : makerOf events matchId = some maker) :
    ∃ terms, .matched matchId maker terms ∈ events := by
  induction events using List.reverseRecOn with
  | nil => cases h
  | append_singleton events e ih =>
    rw [makerOf_concat] at h
    cases e with
    | matched id maker' terms =>
      by_cases hid : id = matchId
      · simp only [if_pos hid, Option.some.injEq] at h
        rw [hid, h]
        exact ⟨terms, List.mem_append_right _ (List.mem_singleton_self _)⟩
      · simp only [if_neg hid] at h
        obtain ⟨terms, hmem⟩ := ih h
        exact ⟨terms, List.mem_append_left _ hmem⟩
    | _ =>
      obtain ⟨terms, hmem⟩ := ih h
      exact ⟨terms, List.mem_append_left _ hmem⟩

theorem latestAccount_concat (events : List MakerEvent) (e : MakerEvent) :
    latestAccount (events ++ [e]) = match e with
      | .xrplAccount maker account => some (maker, account)
      | _ => latestAccount events := by
  simp only [latestAccount, List.foldl_append, List.foldl_cons, List.foldl_nil]

theorem latestAccount_mem {maker : Address} {account : FreshXrplAccount}
    (h : latestAccount events = some (maker, account)) : .xrplAccount maker account ∈ events := by
  induction events using List.reverseRecOn with
  | nil => cases h
  | append_singleton events e ih =>
    rw [latestAccount_concat] at h
    cases e with
    | xrplAccount maker' account' =>
      cases h
      exact List.mem_append_right _ (List.mem_singleton_self _)
    | _ => exact List.mem_append_left _ (ih h)

theorem getCurrentMakerXrplAccount_slot {slot : Option CurrentAccount} {now : Nat}
    {current : CurrentAccount} (h : (getCurrentMakerXrplAccount slot now).2 = some current) :
    slot = some current := by
  unfold getCurrentMakerXrplAccount at h
  cases slot with
  | none => cases h
  | some account =>
    by_cases hage : now - account.createdAt > recordTtlMs
    · simp only [if_pos hage] at h
      cases h
    · simpa only [if_neg hage] using h

theorem getCurrentMakerXrplAccount_found {slot : Option CurrentAccount} {now : Nat}
    {account : FreshXrplAccount} (h : (getCurrentMakerXrplAccount slot now).1 = some account) :
    ∃ current, slot = some current ∧ current.toFreshXrplAccount = account := by
  unfold getCurrentMakerXrplAccount at h
  cases slot with
  | none => cases h
  | some current =>
    by_cases hage : now - current.createdAt > recordTtlMs
    · simp only [if_pos hage] at h
      cases h
    · simp only [if_neg hage, Option.some.injEq] at h
      exact ⟨current, rfl, h⟩

end Slot

section Steps

variable (s : MakerDesk) {current : CurrentAccount}

theorem returned_frame (k : Nat) :
    (s.returned k).currentMakerXrplAccount = s.currentMakerXrplAccount ∧
      (s.returned k).outgoing = s.outgoing := by
  unfold returned
  split
  · exact ⟨rfl, rfl⟩
  · exact ⟨rfl, rfl⟩

theorem poll_frame (matchId : Bytes32) :
    (s.poll matchId).currentMakerXrplAccount = s.currentMakerXrplAccount ∧
      (s.poll matchId).outgoing = s.outgoing := by
  unfold poll
  split
  · exact ⟨rfl, rfl⟩
  · split
    · exact ⟨rfl, rfl⟩
    · exact ⟨rfl, rfl⟩

theorem listed_frame (k : Nat) (entries : List AccountTxEntry) :
    (s.listed k entries).currentMakerXrplAccount = s.currentMakerXrplAccount ∧
      (s.listed k entries).outgoing = s.outgoing := by
  unfold listed
  split
  · exact ⟨rfl, rfl⟩
  · split
    · exact ⟨rfl, rfl⟩
    · exact ⟨rfl, rfl⟩

theorem validated_slot (k : Nat) (hash : Bytes32) :
    (s.validated k hash).currentMakerXrplAccount = s.currentMakerXrplAccount := by
  unfold validated
  split
  · rfl
  · rfl

/-- What is validated was under way. -/
theorem validated_outgoing (k : Nat) (hash : Bytes32) :
    (s.validated k hash).outgoing.Perm s.outgoing := by
  unfold validated
  cases hp : s.paying[k]? with
  | none => exact List.Perm.refl _
  | some p =>
    obtain ⟨hk, rfl⟩ := List.getElem?_eq_some_iff.mp hp
    change (s.paying.eraseIdx k ++ (s.sent ++ [s.paying[k]])).Perm (s.paying ++ s.sent)
    have hback : (s.paying.eraseIdx k ++ [s.paying[k]]).Perm s.paying :=
      (List.perm_append_singleton _ _).trans (List.getElem_cons_eraseIdx_perm hk)
    have hlast : (s.sent ++ [s.paying[k]]).Perm ([s.paying[k]] ++ s.sent) := List.perm_append_comm
    refine (hlast.append_left _).trans ?_
    rw [← List.append_assoc]
    exact hback.append_right _

/-- Reading the slot can only clear it. -/
theorem pay_slot {matchId : Bytes32} (h : (s.pay matchId).currentMakerXrplAccount = some current) :
    s.currentMakerXrplAccount = some current := by
  unfold pay at h
  cases hfound : getMatchRecord s.matchStore matchId s.now with
  | mk record store =>
    cases hslot : getCurrentMakerXrplAccount s.currentMakerXrplAccount s.now with
    | mk account slot =>
      rw [hfound, hslot] at h
      cases record with
      | none => exact h
      | some record =>
        have hcurrent : slot = some current := by
          cases account with
          | none => exact h
          | some account => exact h
        exact getCurrentMakerXrplAccount_slot ((congrArg Prod.snd hslot).trans hcurrent)

/-- A pay request sends nothing, or one payment for its match from the account in the slot. -/
theorem pay_outgoing (matchId : Bytes32) :
    (s.pay matchId).outgoing = s.outgoing ∨
      s.Sends matchId ∧ ∃ p, (s.pay matchId).outgoing.Perm (p :: s.outgoing) ∧ p.matchId = matchId ∧
        (getCurrentMakerXrplAccount s.currentMakerXrplAccount s.now).1 = some p.account := by
  unfold pay
  cases hfound : getMatchRecord s.matchStore matchId s.now with
  | mk record store =>
    cases record with
    | none => exact .inl rfl
    | some record =>
      cases hslot : getCurrentMakerXrplAccount s.currentMakerXrplAccount s.now with
      | mk account slot =>
        cases account with
        | none => exact .inl rfl
        | some account =>
          have hsends : s.Sends matchId := by
            refine ⟨?_, ?_⟩
            · rw [hfound]
              rfl
            · rw [hslot]
              rfl
          have hadded (p : MakerPayment) : (s.paying ++ [p] ++ s.sent).Perm (p :: s.outgoing) := by
            rw [List.append_assoc]
            exact List.perm_middle
          exact .inr ⟨hsends, _, hadded _, rfl, rfl⟩

/-- Only a request for an account puts one in the slot. -/
theorem step_slot {e : MakerEvent} (h : (s.step e).currentMakerXrplAccount = some current) :
    (∃ maker, e = .xrplAccount maker current.toFreshXrplAccount) ∨
      ((∀ maker account, e ≠ .xrplAccount maker account) ∧
        s.currentMakerXrplAccount = some current) := by
  cases e with
  | xrplAccount maker account =>
    cases h
    exact .inl ⟨maker, rfl⟩
  | pay matchId => exact .inr ⟨fun _ _ => MakerEvent.noConfusion, s.pay_slot h⟩
  | validated k hash closeTime =>
    exact .inr ⟨fun _ _ => MakerEvent.noConfusion, (s.validated_slot k hash).symm.trans h⟩
  | returned k => exact .inr ⟨fun _ _ => MakerEvent.noConfusion, (s.returned_frame k).1.symm.trans h⟩
  | poll matchId =>
    exact .inr ⟨fun _ _ => MakerEvent.noConfusion, (s.poll_frame matchId).1.symm.trans h⟩
  | listed k listings =>
    exact .inr ⟨fun _ _ => MakerEvent.noConfusion, (s.listed_frame k _).1.symm.trans h⟩
  | elapse ms => exact .inr ⟨fun _ _ => MakerEvent.noConfusion, h⟩
  | matched matchId maker terms => exact .inr ⟨fun _ _ => MakerEvent.noConfusion, h⟩
  | refused k => exact .inr ⟨fun _ _ => MakerEvent.noConfusion, h⟩
  | unlisted k => exact .inr ⟨fun _ _ => MakerEvent.noConfusion, h⟩

/-- Only a pay request adds a payment. -/
theorem step_outgoing (e : MakerEvent) :
    (s.step e).outgoing.Subperm s.outgoing ∨
      ∃ matchId p, e = .pay matchId ∧ s.Sends matchId ∧
        (s.step e).outgoing.Perm (p :: s.outgoing) ∧ p.matchId = matchId ∧
        (getCurrentMakerXrplAccount s.currentMakerXrplAccount s.now).1 = some p.account := by
  cases e with
  | pay matchId =>
    obtain hsame | ⟨hsends, p, hperm, hmatch, haccount⟩ := s.pay_outgoing matchId
    · refine .inl ?_
      change (s.pay matchId).outgoing.Subperm s.outgoing
      rw [hsame]
    · exact .inr ⟨matchId, p, rfl, hsends, hperm, hmatch, haccount⟩
  | validated k hash closeTime => exact .inl (s.validated_outgoing k hash).subperm
  | refused k => exact .inl ((List.eraseIdx_sublist _ _).append_right _).subperm
  | returned k => exact .inl ((s.returned_frame k).2 ▸ List.Subperm.refl _)
  | poll matchId => exact .inl ((s.poll_frame matchId).2 ▸ List.Subperm.refl _)
  | listed k listings => exact .inl ((s.listed_frame k _).2 ▸ List.Subperm.refl _)
  | elapse ms => exact .inl (List.Subperm.refl _)
  | xrplAccount maker account => exact .inl (List.Subperm.refl _)
  | matched matchId maker terms => exact .inl (List.Subperm.refl _)
  | unlisted k => exact .inl (List.Subperm.refl _)

end Steps

section Runs

variable {s₀ : MakerDesk} {events : List MakerEvent} {e : MakerEvent}

/-- The slot holds the latest account. -/
theorem slot_latest {now : Nat} {current : CurrentAccount}
    (h : ((start now).after events).currentMakerXrplAccount = some current) :
    ∃ maker, latestAccount events = some (maker, current.toFreshXrplAccount) := by
  induction events using List.reverseRecOn with
  | nil => cases h
  | append_singleton events e ih =>
    rw [after_concat] at h
    rw [latestAccount_concat]
    obtain ⟨maker, rfl⟩ | ⟨hother, hslot⟩ := ((start now).after events).step_slot h
    · exact ⟨maker, rfl⟩
    · cases e with
      | xrplAccount maker account => exact absurd rfl (hother maker account)
      | _ => exact ih hslot

theorem Isolated.nil (now : Nat) : Isolated (start now) [] where
  own := by
    intro p hp
    cases hp
  once := List.nodup_nil

/-- What a step leaves of the payments is as it was. -/
theorem Isolated.keep (h : Isolated s₀ events)
    (hkept : (s₀.after (events ++ [e])).outgoing.Subperm (s₀.after events).outgoing) :
    Isolated s₀ (events ++ [e]) where
  own p hp := (h.own p (hkept.subset hp)).concat e
  once := by
    obtain ⟨kept, hperm, hsub⟩ := hkept
    exact ((hperm.map _).nodup_iff).mp (h.once.sublist (hsub.map _))

theorem Isolated.add (h : Isolated s₀ events) {p : MakerPayment}
    (hadded : (s₀.after (events ++ [e])).outgoing.Perm (p :: (s₀.after events).outgoing))
    (hown : OwnAccount p events e) (hnew : ∀ q ∈ (s₀.after events).outgoing, q.matchId ≠ p.matchId) :
    Isolated s₀ (events ++ [e]) where
  own q hq := by
    rcases List.mem_cons.mp (hadded.subset hq) with rfl | hold
    · exact Occurred.last hown
    · exact (h.own q hold).concat e
  once := by
    refine ((hadded.map _).nodup_iff).mpr ?_
    rw [List.map_cons, List.nodup_cons]
    refine ⟨?_, h.once⟩
    intro hmem
    obtain ⟨q, hq, hmatch⟩ := List.mem_map.mp hmem
    exact hnew q hq hmatch

/-- An orderly step keeps the payments apart. -/
theorem Isolated.step {now : Nat} (h : Isolated (start now) events)
    (horderly : Orderly (start now) events e) : Isolated (start now) (events ++ [e]) := by
  obtain hkept | ⟨matchId, p, rfl, hsends, hadded, rfl, haccount⟩ :=
    ((start now).after events).step_outgoing e
  · rw [← after_concat] at hkept
    exact h.keep hkept
  · rw [← after_concat] at hadded
    obtain ⟨hmaker, hnew⟩ := horderly hsends
    obtain ⟨current, hslot, hcurrent⟩ := getCurrentMakerXrplAccount_found haccount
    obtain ⟨maker, hlatest⟩ := slot_latest hslot
    rw [hcurrent] at hlatest
    rw [hlatest] at hmaker
    exact h.add hadded ⟨rfl, maker, hmaker, latestAccount_mem hlatest⟩ hnew

end Runs

end MakerDesk

/-- Of whatever requests, in whatever order: while every pay that sends is by the maker that was
the last to generate an account, for a match with no payment under way or sent, all payments are
from the accounts of their matches' makers and no match is paid twice. -/
theorem maker_payments_isolated (now : Nat) (events : List MakerEvent)
    (horderly : Always (MakerDesk.Orderly (.start now)) events) :
    ∀ before rest, events = before ++ rest → MakerDesk.Isolated (.start now) before := by
  rintro before rest rfl
  refine horderly.left.run (MakerDesk.Isolated.nil now) ?_
  intro before e hisolated hstep
  exact hisolated.step hstep

/-! Maker 3 is to pay match 7; another maker, 5, has an account too. -/
namespace SampleMakers

def own : FreshXrplAccount := ⟨[0x33], [3]⟩

def rival : FreshXrplAccount := ⟨[0x35], [5]⟩

def terms : MatchTerms := ⟨Sample.takersAddress, 5025000000, 1, 2440⟩

/-- Both pay, each after generating its account. -/
def bothPay : List MakerEvent :=
  [.xrplAccount 3 own, .matched 7 3 terms, .matched 8 5 terms, .pay 7, .xrplAccount 5 rival,
    .validated 0 0xAA 1500, .pay 8, .validated 0 0xBB 1600]

/-- Maker 5 generates its account between the match and its pay. -/
def overtaken : List MakerEvent :=
  [.xrplAccount 3 own, .matched 7 3 terms, .xrplAccount 5 rival, .pay 7]

/-- A pay is answered, and asked for again. -/
def repeated : List MakerEvent :=
  [.xrplAccount 3 own, .matched 7 3 terms, .pay 7, .validated 0 0xAA 1500, .returned 0, .pay 7]

theorem orderly_bothPay : Always (MakerDesk.Orderly (.start 0)) bothPay :=
  ⟨trivial, trivial, trivial, fun _ => ⟨by decide, by decide +kernel⟩, trivial, trivial,
    fun _ => ⟨by decide, by decide +kernel⟩, trivial, trivial⟩

end SampleMakers

open SampleMakers in
theorem maker_payments_isolated_sample :
    MakerDesk.Isolated (.start 0) bothPay ∧
      ((MakerDesk.start 0).after bothPay).outgoing.map (fun p => (p.matchId, p.account)) =
        [(7, own), (8, rival)] :=
  ⟨maker_payments_isolated 0 bothPay orderly_bothPay bothPay [] rfl, by decide +kernel⟩

open SampleMakers in
/-- The other maker's account pays for match 7; a pay after one that has succeeded sends again. -/
theorem maker_payments_mixed :
    ¬ (∀ now events, ∀ p ∈ ((MakerDesk.start now).after events).outgoing,
      Occurred (MakerDesk.OwnAccount p) events) ∧
    ¬ ∀ now events, (((MakerDesk.start now).after events).outgoing.map fun p => p.matchId).Nodup := by
  constructor
  · intro h
    let p : MakerPayment := ⟨⟨7, Sample.takersAddress, 5025000000, 1⟩, rival⟩
    have hpaid : ((MakerDesk.start 0).after overtaken).outgoing = [p] := by decide +kernel
    obtain ⟨before, e, rest, hrun, rfl, maker, hmaker, haccount⟩ :=
      h 0 overtaken p (by rw [hpaid]; exact List.mem_singleton_self _)
    have hbefore : before ⊆ overtaken := by
      rw [hrun]
      exact List.subset_append_left _ _
    -- the account is of maker 5, the match is of maker 3
    obtain ⟨terms, hmatched⟩ := MakerDesk.makerOf_mem hmaker
    have hfive : maker = 5 := by simpa [overtaken, p, own, rival] using hbefore haccount
    have hthree : p.matchId = 7 ∧ maker = 3 ∧ terms = SampleMakers.terms := by
      simpa [overtaken] using hbefore hmatched
    have hboth : (3 : Address) = 5 := hthree.2.1.symm.trans hfive
    exact absurd hboth (by decide)
  · intro h
    have hnodup := h 0 repeated
    revert hnodup
    decide +kernel

end WhisperDesk.Web
