import WhisperDesk.Web.RunLock

/-!
# One run at a time

The slot refines a lease whose holder is given back for by whoever comes to a
`releaseRunLock()`. While those are requests of the holding run, runs exclude
each other for the lock's ten minutes; a request of another run breaks it.
-/
namespace WhisperDesk.Web

open Function (update)

namespace Server

section Lease

/-- What an event does to the lease; a release is counted as the holder's. -/
def moves (s : Server) : Event → List (Lease.Move Nat)
  | .tick _ => []
  | .arrive request => if (s.granted request).isSome then [.take s.arrived s.now] else []
  | .finish q ending =>
    if (s.releasing (.finish q ending)).isSome then s.holder.toList.map .giveBack else []

def movesAlong (s : Server) : List Event → List (Lease.Move Nat)
  | [] => []
  | e :: events => s.moves e ++ movesAlong (s.step e) events

/-- The lease is live for whom the slot is, now and at any later time. -/
def Follows (s : Server) (slot : Option (Lease.Holding Nat)) : Prop :=
  ∀ now, s.now ≤ now → Lease.live runLockTtlMs now slot = Lease.live runLockTtlMs now s.holding

variable {s : Server} {slot : Option (Lease.Holding Nat)}

theorem age_lt {startedAt now ttl : Nat} (hpos : 0 < ttl) :
    now - startedAt < ttl ↔ now < startedAt + ttl := by
  omega

/-- `tryAcquireRunLock` succeeds where no live run holds the slot. -/
theorem tryAcquireRunLock_eq (s : Server) (path : Path) :
    tryAcquireRunLock path s.now s.currentRun =
      if s.holder = none then some ⟨path, none, s.now⟩ else none := by
  unfold holder holding
  cases s.currentRun with
  | none => rfl
  | some run =>
    have hage : s.now - run.startedAt < runLockTtlMs ↔ s.now < run.startedAt + runLockTtlMs :=
      age_lt (by decide)
    rw [tryAcquireRunLock, Option.map_some]
    by_cases hlt : s.now < run.startedAt + runLockTtlMs
    · rw [if_pos (hage.mpr hlt), if_neg]
      rw [Lease.live_some.mpr hlt]
      exact Option.some_ne_none _
    · rw [if_neg (mt hage.mp hlt), if_pos (Lease.live_some_eq_none.mpr (Nat.le_of_not_lt hlt))]

theorem granted_eq (s : Server) (request : Request) :
    s.granted request = request.acquires.bind fun path =>
      if s.holder = none then some ⟨path, none, s.now⟩ else none := by
  unfold granted
  congr 1
  funext path
  exact tryAcquireRunLock_eq s path

theorem granted_some {request : Request} {run : RunLock} (h : s.granted request = some run) :
    ∃ path, request.acquires = some path ∧ s.holder = none ∧ run = ⟨path, none, s.now⟩ := by
  rw [granted_eq] at h
  obtain ⟨path, hpath, hrun⟩ := Option.bind_eq_some_iff.mp h
  obtain ⟨hfree, hrun⟩ := Option.ite_none_right_eq_some.mp hrun
  exact ⟨path, hpath, hfree, (Option.some.inj hrun).symm⟩

/-- An arrival takes a free slot for itself and leaves any other alone. -/
theorem holding_arrive (s : Server) (request : Request) :
    (s.arrive request).holding =
      if (s.granted request).isSome then some ⟨s.arrived, s.now⟩ else s.holding := by
  unfold arrive
  cases hpath : request.acquires with
  | none =>
    have hgranted : s.granted request = none := by rw [granted, hpath, Option.bind_none]
    simp [hgranted, holding]
  | some path =>
    cases hgranted : s.granted request with
    | none => simp [holding]
    | some run =>
      obtain ⟨_, _, _, rfl⟩ := granted_some hgranted
      simp [holding]

/-- The end of a request clears the slot, or leaves who holds it and since when. -/
theorem holding_finish (s : Server) (q : Nat) (request : Request) (ending : Ending) :
    (s.finish q request ending).holding =
      if request.releases ending then none else s.holding := by
  have hslot : (s.finish q request ending).holding =
      (request.finish ending s.currentRun).map fun run => ⟨s.owner, run.startedAt⟩ := rfl
  rw [hslot]
  unfold Request.finish
  by_cases hrel : request.releases ending = true
  · rw [if_pos hrel, if_pos hrel, releaseRunLock, Option.map_none]
  · rw [if_neg hrel, if_neg hrel, holding]
    cases s.currentRun with
    | none => split <;> rfl
    | some run => split <;> rfl

theorem Follows.refl (s : Server) : Follows s s.holding := fun _ _ => rfl

theorem Follows.holder (h : Follows s slot) : Lease.live runLockTtlMs s.now slot = s.holder :=
  h s.now le_rfl

@[simp] theorem now_arrive (s : Server) (request : Request) : (s.arrive request).now = s.now := by
  unfold arrive
  split <;> rfl

/-- An event moves the lease as it moves the slot. -/
theorem Follows.step (h : Follows s slot) (e : Event) :
    Follows (s.step e) (Lease.run runLockTtlMs slot (s.moves e)) := by
  cases e with
  | tick ms =>
    intro now hle
    exact h now (Nat.le_trans (Nat.le_add_right _ _) hle)
  | arrive request =>
    intro now hle
    rw [Server.step, now_arrive] at hle
    rw [Server.step, holding_arrive, moves]
    by_cases hgranted : (s.granted request).isSome = true
    · obtain ⟨run, hrun⟩ := Option.isSome_iff_exists.mp hgranted
      obtain ⟨_, _, hfree, _⟩ := granted_some hrun
      have hslot : Lease.live runLockTtlMs s.now slot = none := h.holder.trans hfree
      rw [if_pos hgranted, if_pos hgranted, Lease.run_cons, Lease.take_free hslot, Lease.run_nil]
    · rw [if_neg hgranted, if_neg hgranted]
      exact h now hle
  | finish q ending =>
    cases hpending : s.pending q with
    | none =>
      have hstep : s.step (.finish q ending) = s := by rw [Server.step, hpending]
      have hmoves : s.moves (.finish q ending) = [] := by simp [moves, releasing, hpending]
      rw [hstep, hmoves]
      exact h
    | some request =>
      have hstep : s.step (.finish q ending) = s.finish q request ending := by
        rw [Server.step, hpending]
      intro now hle
      rw [hstep] at hle ⊢
      rw [holding_finish]
      by_cases hrel : request.releases ending = true
      · have hmoves : s.moves (.finish q ending) = s.holder.toList.map .giveBack := by
          simp [moves, releasing, hpending, hrel]
        rw [if_pos hrel, hmoves, Lease.live_none]
        cases hholder : s.holder with
        | none => exact Lease.live_mono hle (h.holder.trans hholder)
        | some r =>
          obtain ⟨since, rfl, _⟩ := Lease.live_eq_some (h.holder.trans hholder)
          rw [Option.toList_some, List.map_singleton, Lease.run_cons, Lease.giveBack_own,
            Lease.run_nil, Lease.live_none]
      · have hmoves : s.moves (.finish q ending) = [] := by
          simp [moves, releasing, hpending, hrel]
        rw [if_neg hrel, hmoves]
        exact h now hle

/-- The server's slot refines the lease along every run. -/
theorem Follows.run (h : Follows s slot) (events : List Event) :
    Follows (s.after events) (Lease.run runLockTtlMs slot (s.movesAlong events)) := by
  induction events generalizing s slot with
  | nil => exact h
  | cons e events ih =>
    rw [movesAlong, Lease.run_append]
    exact ih (h.step e)

end Lease

section Runs

variable {s s₀ : Server} {events : List Event}

theorem after_append (s : Server) (before events : List Event) :
    s.after (before ++ events) = (s.after before).after events := List.foldl_append

theorem now_le_step (s : Server) (e : Event) : s.now ≤ (s.step e).now := by
  cases e with
  | tick ms => exact Nat.le_add_right _ _
  | arrive request => exact (now_arrive s request).ge
  | finish q ending =>
    rw [step]
    split
    · exact le_rfl
    · exact le_rfl

theorem now_le_after (s : Server) (events : List Event) : s.now ≤ (s.after events).now := by
  induction events generalizing s with
  | nil => exact le_rfl
  | cons e events ih => exact Nat.le_trans (now_le_step s e) (ih (s.step e))

/-- Takes carry the time they happen at. -/
theorem take_le {j u : Nat} (h : .take j u ∈ s.movesAlong events) : u ≤ (s.after events).now := by
  induction events generalizing s with
  | nil => cases h
  | cons e events ih =>
    obtain hnow | hlater := List.mem_append.mp h
    · cases e with
      | tick ms => cases hnow
      | arrive request =>
        rw [moves] at hnow
        split at hnow
        · cases List.mem_singleton.mp hnow
          exact now_le_after s _
        · cases hnow
      | finish q ending =>
        rw [moves] at hnow
        split at hnow
        · obtain ⟨r, _, htake⟩ := List.mem_map.mp hnow
          cases htake
        · cases hnow
    · exact ih hlater

/-- What the lease is given back by: a release while the slot was held. -/
theorem exists_release {r : Nat} (h : .giveBack r ∈ s.movesAlong events) :
    ∃ before e rest q, events = before ++ e :: rest ∧ (s.after before).releasing e = some q ∧
      (s.after before).holder = some r := by
  induction events generalizing s with
  | nil => cases h
  | cons e events ih =>
    obtain hnow | hlater := List.mem_append.mp h
    · cases e with
      | tick ms => cases hnow
      | arrive request =>
        rw [moves] at hnow
        split at hnow
        · cases List.mem_singleton.mp hnow
        · cases hnow
      | finish q ending =>
        rw [moves] at hnow
        split at hnow
        case isTrue hreleasing =>
          obtain ⟨q', hq'⟩ := Option.isSome_iff_exists.mp hreleasing
          obtain ⟨r', hr', hback⟩ := List.mem_map.mp hnow
          cases hback
          exact ⟨[], _, events, q', rfl, hq', Option.mem_toList.mp hr'⟩
        case isFalse => cases hnow
    · obtain ⟨before, e', rest, q, rfl, hrelease⟩ := ih hlater
      exact ⟨e :: before, e', rest, q, rfl, hrelease⟩

/-- A request that comes to a `releaseRunLock()` finds the slot free or timed
out, or is of the run that holds it. -/
def OwnRelease (s : Server) (e : Event) : Prop :=
  ∀ q ∈ s.releasing e, ∀ r ∈ s.holder, s.Belongs q r

instance (s : Server) (e : Event) : Decidable (s.OwnRelease e) :=
  inferInstanceAs (Decidable (∀ q ∈ s.releasing e, ∀ r ∈ s.holder, s.Belongs q r))

def OwnReleases (s : Server) : List Event → Prop
  | [] => True
  | e :: events => s.OwnRelease e ∧ OwnReleases (s.step e) events

theorem OwnReleases.at {before rest : List Event} {e : Event}
    (h : s.OwnReleases (before ++ e :: rest)) : (s.after before).OwnRelease e := by
  induction before generalizing s with
  | nil => exact h.1
  | cons e' before ih => exact ih h.2

/-- A request of the run that arrived after `before` has come to a
`releaseRunLock()` among the events since. -/
def Ended (s₀ : Server) (before : List Event) (first : Request) (since : List Event) : Prop :=
  ∃ mid e rest q, since = mid ++ e :: rest ∧
    (s₀.after (before ++ .arrive first :: mid)).releasing e = some q ∧
    (s₀.after (before ++ .arrive first :: mid)).Belongs q (s₀.after before).arrived

/-- Of two requests that get the slot within the lock's time, the run of the
first has ended before the second. -/
def Exclusive (s₀ : Server) (events : List Event) : Prop :=
  ∀ before first mid second rest,
    events = before ++ .arrive first :: (mid ++ .arrive second :: rest) →
    ((s₀.after before).granted first).isSome →
    ((s₀.after (before ++ .arrive first :: mid)).granted second).isSome →
    (s₀.after (before ++ .arrive first :: mid)).now < (s₀.after before).now + runLockTtlMs →
    s₀.Ended before first mid

/-- Only a request of the run that holds the slot frees it. -/
def FreedByOwn (s₀ : Server) (events : List Event) : Prop :=
  ∀ before e rest r, events = before ++ e :: rest → (s₀.after before).holder = some r →
    ((s₀.after before).step e).holding = none →
    ∃ q, (s₀.after before).releasing e = some q ∧ (s₀.after before).Belongs q r

theorem exclusive (h : s₀.OwnReleases events) : Exclusive s₀ events := by
  intro before first mid second rest hevents hfirst hsecond hsoon
  have hmid : s₀.after (before ++ .arrive first :: mid) =
      ((s₀.after before).arrive first).after mid := after_append s₀ before _
  have hholding : ((s₀.after before).arrive first).holding =
      some ⟨(s₀.after before).arrived, (s₀.after before).now⟩ := by
    rw [holding_arrive, if_pos hfirst]
  rw [hmid] at hsecond hsoon
  obtain ⟨run, hrun⟩ := Option.isSome_iff_exists.mp hsecond
  obtain ⟨_, _, hfree, _⟩ := granted_some hrun
  have hfollows := (Follows.refl ((s₀.after before).arrive first)).run mid
  rw [hholding] at hfollows
  have hback := Lease.exclusive (fun _ _ => take_le) hsoon (hfollows.holder.trans hfree)
  obtain ⟨mid₁, e, mid₂, q, rfl, hrelease, hholder⟩ := exists_release hback
  have hat : s₀.after (before ++ .arrive first :: mid₁) =
      ((s₀.after before).arrive first).after mid₁ := after_append s₀ before _
  have hown : (s₀.after (before ++ .arrive first :: mid₁)).OwnRelease e := by
    have hsplit : s₀.OwnReleases
        ((before ++ .arrive first :: mid₁) ++ e :: (mid₂ ++ .arrive second :: rest)) := by
      simpa [hevents] using h
    exact hsplit.at
  rw [← hat] at hrelease hholder
  exact ⟨mid₁, e, mid₂, q, rfl, hrelease, hown q hrelease _ hholder⟩

/-- An event that frees a held slot is a release. -/
theorem releasing_of_freed {r : Nat} {e : Event} (hholder : s.holder = some r)
    (hfreed : (s.step e).holding = none) : ∃ q, s.releasing e = some q := by
  have hheld : s.holding ≠ none := by
    intro hnone
    rw [holder, hnone] at hholder
    cases hholder
  cases e with
  | tick ms => exact absurd hfreed hheld
  | arrive request =>
    rw [step, holding_arrive] at hfreed
    split at hfreed
    · cases hfreed
    · exact absurd hfreed hheld
  | finish q ending =>
    cases hpending : s.pending q with
    | none =>
      rw [step, hpending] at hfreed
      exact absurd hfreed hheld
    | some request =>
      rw [step, hpending] at hfreed
      change (s.finish q request ending).holding = none at hfreed
      rw [holding_finish] at hfreed
      split at hfreed
      case isTrue hrel => exact ⟨q, by simp [releasing, hpending, hrel]⟩
      case isFalse => exact absurd hfreed hheld

/-- A release leaves no slot. -/
theorem holding_releasing {q : Nat} {e : Event} (h : s.releasing e = some q) :
    (s.step e).holding = none := by
  cases e with
  | tick ms => cases h
  | arrive request => cases h
  | finish q' ending =>
    cases hpending : s.pending q' with
    | none => simp [releasing, hpending] at h
    | some request =>
      have hrel : request.releases ending = true := by
        rw [releasing, hpending] at h
        exact (Option.ite_none_right_eq_some.mp h).1
      rw [step, hpending]
      change (s.finish q' request ending).holding = none
      rw [holding_finish, if_pos hrel]

theorem freedByOwn (h : s₀.OwnReleases events) : FreedByOwn s₀ events := by
  intro before e rest r hevents hholder hfreed
  subst events
  obtain ⟨q, hq⟩ := releasing_of_freed hholder hfreed
  exact ⟨q, hq, h.at q hq r hholder⟩

theorem FreedByOwn.ownReleases (h : FreedByOwn s₀ events) : s₀.OwnReleases events := by
  induction events generalizing s₀ with
  | nil => trivial
  | cons e events ih =>
    constructor
    · intro q hq r hr
      obtain ⟨q', hq', hbelongs⟩ := h [] e events r rfl hr (holding_releasing hq)
      obtain rfl : q' = q := Option.some.inj (hq'.symm.trans hq)
      exact hbelongs
    · apply ih
      intro before e' rest r hevents
      exact h (e :: before) e' rest r (congrArg (e :: ·) hevents)

end Runs

end Server

/-- Runs exclude each other, and nobody's slot is freed by another, exactly
where whoever comes to a `releaseRunLock()` does so for its own run. -/
theorem runs_exclusive_iff (t₀ : Nat) (events : List Event) :
    (Server.Exclusive (.start t₀) events ∧ Server.FreedByOwn (.start t₀) events) ↔
      (Server.start t₀).OwnReleases events := by
  constructor
  · intro h
    exact h.2.ownReleases
  · intro h
    exact ⟨Server.exclusive h, Server.freedByOwn h⟩

/-- A maker's run is open when somebody asks for a match on an RFQ that does not
exist; the failed match frees the slot, and a wallet run starts at once. -/
def strayMatch : List Event :=
  [.arrive .makerOpenRfq, .finish 0 (.result 7), .arrive (.makerMatch 9), .finish 1 .threw,
    .arrive .walletPrepare]

theorem stray_match_frees :
    ¬ ∀ t₀ events, Server.Exclusive (.start t₀) events ∧ Server.FreedByOwn (.start t₀) events := by
  intro h
  have hended := (h 0 strayMatch).1 [] .makerOpenRfq
    [.finish 0 (.result 7), .arrive (.makerMatch 9), .finish 1 .threw] .walletPrepare [] rfl
    (by decide) (by decide) (by decide)
  obtain ⟨mid, e, rest, q, hsplit, hrelease, hbelongs⟩ := hended
  match mid, hsplit with
  | [], hsplit =>
    cases hsplit
    exact Option.some_ne_none q (hrelease.symm.trans (by decide))
  | [_], hsplit =>
    cases hsplit
    exact Option.some_ne_none q (hrelease.symm.trans (by decide))
  | [_, _], hsplit =>
    -- the release is request 1, which names another RFQ
    cases hsplit
    obtain rfl : q = 1 := Option.some.inj (hrelease.symm.trans (by decide))
    revert hbelongs
    decide
  | _ :: _ :: _ :: mid, hsplit => simp at hsplit

end WhisperDesk.Web
