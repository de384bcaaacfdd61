import WhisperDesk.Enclave.Provenance

/-!
# Concurrent RFQ_MATCH handlers

Any number of `handleMatch` calls at once, against RFQ and quote intake and a
running clock. A handler holds the book's mutex only inside one method at a
time, so between two methods anything else may happen. `Phase.next` is one
handler's next critical section, and a handler that runs them with nothing in
between is `handleMatch`.
-/
namespace WhisperDesk.Fcewire.Interleaving

open Go
open Matcher
open Reverting (orRevert revertIf)

/-- What one `handleMatch` call does next. -/
inductive Phase where
  | reading
  | pricing (taker : Address) (makers : List Address)
  | checking (snap : ChainSnapshot) (now : Time)
  | copying (snap : ChainSnapshot) (now : Time)
  | signing (outcome : MatchOutcome)
  | caching (outcome : MatchOutcome)
  | returned (result : Except Code MatchOutcome)

/-- How the Snapshotter answers. -/
abbrev Answer := Address → List Address → Time → ChainSnapshot

section Machine

variable (X : Externals) (cfg : Config)

/-- The pure part between the copy of the book and the signature. -/
def compute (a : Ambient) (book : SealedBook) (rfqID : Bytes32) (snap : ChainSnapshot) (now : Time) :
    Except Error MatchOutcome := do
  let (rfq, quotes) ← book.snapshotForMatch a.quotesOrder rfqID
  matchSnapshot X.toLibraries cfg.matcher cfg.escrowAddr rfq quotes snap now

def signer (a : Ambient) : MatchInstruction → Except Error SignedMatch := fun mi =>
  signWithFunc X.toLibraries mi cfg.chainID (signClient a)

def Phase.next (answer : Answer) (a : Ambient) (rfqID : Bytes32) (book : SealedBook) :
    Phase → Phase × SealedBook
  | .reading =>
    match book.participants a.makersOrder rfqID with
    | .error e => (.returned (.error (mapMatchErr e)), book)
    | .ok (taker, makers) => (.pricing taker makers, book)
  | .pricing taker makers => (.checking (answer taker makers a.now) a.now, book)
  | .checking snap now =>
    match book.cachedOutcome rfqID with
    | some cached => (.returned (.ok cached), book)
    | none => (.copying snap now, book)
  | .copying snap now =>
    match compute X cfg a book rfqID snap now with
    | .error e => (.returned (.error (mapMatchErr e)), book)
    | .ok outcome => (.signing outcome, book)
  | .signing outcome =>
    match signOutcome (signer X cfg a) outcome with
    | .error e => (.returned (.error (mapMatchErr e)), book)
    | .ok outcome => (.caching outcome, book)
  | .caching outcome => (.returned (.ok outcome), book.markMatched rfqID outcome)
  | .returned result => (.returned result, book)

structure Task where
  rfqID : Bytes32
  phase : Phase

structure State where
  book : SealedBook
  clock : Time
  tasks : List Task

/-- A handler starts or takes its next step, a request reaches the book, or time
passes. -/
inductive Action where
  | call (rfqID : Bytes32)
  | advance (i : Nat) (answer : Answer) (a : Ambient)
  | submitRfq (id : Bytes32) (taker : Address) (fxrpAmountRaw : UInt64) (limitPriceE18 : Int)
      (xrplAddress : GoString)
  | submitQuote (rfqID : Bytes32) (maker : Address) (priceE18 : Int) (maxFxrpRaw nonce : UInt64)
  | tick (nanos : Nat)

def Action.step : Action → State → State
  | .call rfqID, s => { s with tasks := s.tasks ++ [⟨rfqID, .reading⟩] }
  | .advance i answer a, s =>
    match s.tasks[i]? with
    | none => s
    | some t =>
      let next := t.phase.next X cfg answer { a with now := s.clock } t.rfqID s.book
      { s with book := next.2, tasks := s.tasks.set i ⟨t.rfqID, next.1⟩ }
  | .submitRfq id taker amount limit xrplAddress, s =>
    match s.book.addRFQ cfg.matcher id taker amount (some limit) xrplAddress s.clock cfg.rfqWindowSec
      cfg.rfqTTLSec with
    | .error _ => s
    | .ok (_, book) => { s with book := book }
  | .submitQuote rfqID maker price maxSize nonce, s =>
    match s.book.upsertQuote rfqID maker price maxSize nonce s.clock with
    | .error _ => s
    | .ok (_, book) => { s with book := book }
  | .tick nanos, s => { s with clock := ⟨s.clock.nanos + nanos⟩ }

def initial (epoch : UInt64) (clock : Time) : State := ⟨SealedBook.new epoch, clock, []⟩

def after (s : State) (actions : List Action) : State :=
  actions.foldl (fun s action => action.step X cfg s) s

end Machine

variable {X : Externals} {cfg : Config}

section Solo

variable (X cfg) {σ : Type} (S : Snapshotter σ) (a : Ambient) (rfqID : Bytes32)

/-- A critical section of one handler, with nothing since the last one. -/
def soloStep (chain : σ) (p : Phase × SealedBook) : Phase × SealedBook :=
  p.1.next X cfg (S.snapshot chain) a rfqID p.2

variable {X cfg S a rfqID} {book : SealedBook} {chain : σ}

theorem soloStep_returned (result : Except Code MatchOutcome) (n : Nat) :
    (soloStep X cfg S a rfqID chain)^[n] (.returned result, book) = (.returned result, book) :=
  Function.iterate_fixed rfl n

theorem solo_error {e : Error} (h : book.participants a.makersOrder rfqID = .error e) :
    (soloStep X cfg S a rfqID chain)^[6] (.reading, book) =
      (.returned (.error (mapMatchErr e)), book) := by
  have h₁ : soloStep X cfg S a rfqID chain (.reading, book) =
      (.returned (.error (mapMatchErr e)), book) := by
    simp only [soloStep, Phase.next, h]
  rw [Function.iterate_succ_apply, h₁, soloStep_returned]

/-- The first two critical sections fetch a snapshot. -/
theorem solo_snapshot {taker : Address} {makers : List Address}
    (h : book.participants a.makersOrder rfqID = .ok (taker, makers)) (n : Nat) :
    (soloStep X cfg S a rfqID chain)^[n + 2] (.reading, book) =
      (soloStep X cfg S a rfqID chain)^[n]
        (.checking (S.snapshot chain taker makers a.now) a.now, book) := by
  have h₁ : soloStep X cfg S a rfqID chain (.reading, book) = (.pricing taker makers, book) := by
    simp only [soloStep, Phase.next, h]
  rw [Function.iterate_succ_apply, Function.iterate_succ_apply, h₁]
  rfl

/-- The other four are `MatchWithSigner`. -/
theorem solo_match (snap : ChainSnapshot) :
    (soloStep X cfg S a rfqID chain)^[4] (.checking snap a.now, book) =
      match matchWithSigner X.toLibraries book cfg.matcher cfg.escrowAddr cfg.chainID (signClient a)
        a.quotesOrder rfqID snap a.now with
      | .ok (o, book') => (.returned (.ok o), book')
      | .error e => (.returned (.error (mapMatchErr e)), book) := by
  rw [Function.iterate_succ_apply]
  cases hcached : book.cachedOutcome rfqID with
  | some cached =>
    have h₁ : soloStep X cfg S a rfqID chain (.checking snap a.now, book) =
        (.returned (.ok cached), book) := by
      simp only [soloStep, Phase.next, hcached]
    rw [h₁, soloStep_returned]
    simp only [matchWithSigner, matchWithSignFunc, hcached]
  | none =>
    have h₁ : soloStep X cfg S a rfqID chain (.checking snap a.now, book) =
        (.copying snap a.now, book) := by
      simp only [soloStep, Phase.next, hcached]
    have hmatch : matchWithSigner X.toLibraries book cfg.matcher cfg.escrowAddr cfg.chainID
        (signClient a) a.quotesOrder rfqID snap a.now =
        (compute X cfg a book rfqID snap a.now).bind fun u =>
          (signOutcome (signer X cfg a) u).bind fun o => .ok (o, book.markMatched rfqID o) := by
      unfold matchWithSigner matchWithSignFunc compute
      rw [hcached]
      cases book.snapshotForMatch a.quotesOrder rfqID with
      | error e => rfl
      | ok p => rfl
    rw [h₁, hmatch, Function.iterate_succ_apply]
    cases hu : compute X cfg a book rfqID snap a.now with
    | error e =>
      have h₂ : soloStep X cfg S a rfqID chain (.copying snap a.now, book) =
          (.returned (.error (mapMatchErr e)), book) := by
        simp only [soloStep, Phase.next, hu]
      rw [h₂, soloStep_returned]
      rfl
    | ok u =>
      have h₂ : soloStep X cfg S a rfqID chain (.copying snap a.now, book) = (.signing u, book) := by
        simp only [soloStep, Phase.next, hu]
      rw [h₂, Function.iterate_succ_apply]
      cases hs : signOutcome (signer X cfg a) u with
      | error e =>
        have h₃ : soloStep X cfg S a rfqID chain (.signing u, book) =
            (.returned (.error (mapMatchErr e)), book) := by
          simp only [soloStep, Phase.next, hs]
        rw [h₃, soloStep_returned]
        simp only [Except.bind, hs]
      | ok o =>
        have h₃ : soloStep X cfg S a rfqID chain (.signing u, book) = (.caching o, book) := by
          simp only [soloStep, Phase.next, hs]
        rw [h₃]
        simp only [Except.bind, hs]
        rfl

/-- A handler that is not interrupted does what `handleMatch` does. -/
theorem solo_eq_handleMatch (h : Handler σ) :
    (soloStep X cfg S a rfqID h.chain)^[6] (.reading, h.book) =
      match handleMatch X S cfg a rfqID h with
      | .ok (.matchResponse o, h') => (.returned (.ok o), h'.book)
      | .ok (_, h') => (.reading, h'.book)
      | .error c => (.returned (.error c), h.book) := by
  cases hp : h.book.participants a.makersOrder rfqID with
  | error e =>
    rw [solo_error hp]
    simp only [handleMatch, matchSnap, hp, Except.mapError, bind, Except.bind]
  | ok p =>
    obtain ⟨taker, makers⟩ := p
    rw [solo_snapshot hp, solo_match]
    simp only [handleMatch, matchSnap, hp, Except.mapError, bind, Except.bind, pure, Except.pure]
    cases matchWithSigner X.toLibraries h.book cfg.matcher cfg.escrowAddr cfg.chainID (signClient a)
      a.quotesOrder rfqID (S.snapshot h.chain taker makers a.now) a.now with
    | error e => rfl
    | ok r => rfl

end Solo

/-- The signed outcome a handler has in hand or has returned. -/
def Phase.held : Phase → Option MatchOutcome
  | .caching o => if o.outcome = .matched then some o else none
  | .returned (.ok o) => if o.outcome = .matched then some o else none
  | _ => none

/-- The MATCHED outcomes returned for an RFQ so far. -/
def returnedMatches (s : State) (rfqID : Bytes32) : List MatchOutcome :=
  s.tasks.filterMap fun t =>
    match t.phase with
    | .returned (.ok o) => if t.rfqID = rfqID ∧ o.outcome = .matched then some o else none
    | _ => none

/-- Whether some handler of the RFQ has already got its signature. -/
def signedAlready (s : State) (rfqID : Bytes32) : Bool :=
  s.tasks.any fun t => t.rfqID = rfqID ∧ t.phase.held.isSome

/-- The RFQ for which the action asks the sign port, if it does. -/
def asksFor (s : State) : Action → Option Bytes32
  | .advance i _ _ =>
    match s.tasks[i]? with
    | some ⟨rfqID, .signing o⟩ => if o.outcome = .matched then some rfqID else none
    | _ => none
  | _ => none

/-- A signature is asked for only while its RFQ has none. -/
def firstToAsk (s : State) (action : Action) : Bool :=
  (asksFor s action).all fun rfqID => !signedAlready s rfqID

/-- Every step of the run respects that. -/
def SoleSigner (X : Externals) (cfg : Config) : State → List Action → Prop
  | _, [] => True
  | s, action :: rest => firstToAsk s action = true ∧ SoleSigner X cfg (action.step X cfg s) rest

instance decidableSoleSigner :
    ∀ (s : State) (actions : List Action), Decidable (SoleSigner X cfg s actions)
  | _, [] => inferInstanceAs (Decidable True)
  | s, action :: rest =>
    have := decidableSoleSigner (action.step X cfg s) rest
    inferInstanceAs (Decidable (_ ∧ _))

/-- Handlers of one RFQ that hold a signed outcome hold the same one, and a
cached one is theirs. -/
structure Unique (s : State) : Prop where
  agree : ∀ t ∈ s.tasks, ∀ t' ∈ s.tasks, t.rfqID = t'.rfqID → ∀ o o', t.phase.held = some o →
    t'.phase.held = some o' → o = o'
  cached : ∀ rfqID o, s.book.cachedOutcome rfqID = some o → o.outcome = .matched →
    ∃ t ∈ s.tasks, t.rfqID = rfqID ∧ t.phase.held = some o

theorem signedAlready_eq_false {s : State} {rfqID : Bytes32} (h : signedAlready s rfqID = false)
    {t : Task} (ht : t ∈ s.tasks) (hid : t.rfqID = rfqID) : t.phase.held = none := by
  have hnot := List.any_eq_false.mp h t ht
  simpa [hid] using hnot

/-- Once a handler holds a signed outcome it keeps it. -/
theorem held_next {phase : Phase} {answer : Answer} {a : Ambient} {rfqID : Bytes32}
    {book : SealedBook} {o : MatchOutcome} (h : phase.held = some o) :
    (phase.next X cfg answer a rfqID book).1.held = some o := by
  cases phase with
  | caching o' => exact h
  | returned result => exact h
  | reading => cases h
  | pricing taker makers => cases h
  | checking snap now => cases h
  | copying snap now => cases h
  | signing o' => cases h

/-- A handler that holds an outcome held it before, replays the cached one, or has
just got a signature. -/
theorem held_of_next {phase : Phase} {answer : Answer} {a : Ambient} {rfqID : Bytes32}
    {book : SealedBook} {o : MatchOutcome}
    (h : (phase.next X cfg answer a rfqID book).1.held = some o) :
    phase.held = some o ∨ (book.cachedOutcome rfqID = some o ∧ o.outcome = .matched) ∨
      ∃ u, phase = .signing u ∧ u.outcome = .matched := by
  cases phase with
  | caching o' => exact .inl h
  | returned result => exact .inl h
  | pricing taker makers => cases h
  | reading =>
    simp only [Phase.next] at h
    cases hp : book.participants a.makersOrder rfqID with
    | error e => rw [hp] at h; cases h
    | ok p => rw [hp] at h; cases h
  | checking snap now =>
    simp only [Phase.next] at h
    cases hc : book.cachedOutcome rfqID with
    | none => rw [hc] at h; cases h
    | some cached =>
      rw [hc] at h
      simp only [Phase.held, Option.ite_none_right_eq_some, Option.some.injEq] at h
      obtain ⟨hmatched, rfl⟩ := h
      exact .inr (.inl ⟨rfl, hmatched⟩)
  | copying snap now =>
    simp only [Phase.next] at h
    cases hu : compute X cfg a book rfqID snap now with
    | error e => rw [hu] at h; cases h
    | ok u => rw [hu] at h; cases h
  | signing u =>
    simp only [Phase.next] at h
    cases hs : signOutcome (signer X cfg a) u with
    | error e => rw [hs] at h; cases h
    | ok o' =>
      rw [hs] at h
      simp only [Phase.held, Option.ite_none_right_eq_some, Option.some.injEq] at h
      obtain ⟨hmatched, rfl⟩ := h
      rcases signOutcome_eq_ok.mp hs with ⟨_, rfl⟩ | ⟨_, _, _, _, rfl⟩
      · exact .inr (.inr ⟨_, rfl, hmatched⟩)
      · exact .inr (.inr ⟨_, rfl, hmatched⟩)

variable (X cfg) in
/-- Only a handler that caches its outcome changes the book. -/
theorem book_of_next (phase : Phase) (answer : Answer) (a : Ambient) (rfqID : Bytes32)
    (book : SealedBook) :
    (phase.next X cfg answer a rfqID book).2 = book ∨
      ∃ o, phase = .caching o ∧ (phase.next X cfg answer a rfqID book).2 = book.markMatched rfqID o := by
  cases phase with
  | caching o => exact .inr ⟨o, rfl, rfl⟩
  | returned result => exact .inl rfl
  | pricing taker makers => exact .inl rfl
  | reading =>
    left
    simp only [Phase.next]
    cases book.participants a.makersOrder rfqID <;> rfl
  | checking snap now =>
    left
    simp only [Phase.next]
    cases book.cachedOutcome rfqID <;> rfl
  | copying snap now =>
    left
    simp only [Phase.next]
    cases compute X cfg a book rfqID snap now <;> rfl
  | signing o =>
    left
    simp only [Phase.next]
    cases signOutcome (signer X cfg a) o <;> rfl

theorem mem_set_or {α : Type} {l : List α} {i : Nat} {x y : α} (h : x ∈ l) :
    x ∈ l.set i y ∨ l[i]? = some x := by
  obtain ⟨j, hj⟩ := List.mem_iff_getElem?.mp h
  by_cases hij : i = j
  · subst j
    exact .inr hj
  · exact .inl (List.mem_iff_getElem?.mpr ⟨j, by rw [List.getElem?_set_ne hij, hj]⟩)

section Steps

variable {s : State}

/-- What `Unique` needs of a step that leaves the handlers alone. -/
theorem Unique.book {b : SealedBook} (h : Unique s)
    (hcached : ∀ rfqID o, b.cachedOutcome rfqID = some o → s.book.cachedOutcome rfqID = some o) :
    Unique { s with book := b } :=
  ⟨h.agree, fun rfqID o ho => h.cached rfqID o (hcached rfqID o ho)⟩

theorem Unique.call (h : Unique s) (rfqID : Bytes32) :
    Unique { s with tasks := s.tasks ++ [⟨rfqID, .reading⟩] } where
  agree t ht t' ht' hid o o' ho ho' := by
    rcases List.mem_append.mp ht with ht | ht
    · rcases List.mem_append.mp ht' with ht' | ht'
      · exact h.agree t ht t' ht' hid o o' ho ho'
      · rw [List.mem_singleton.mp ht'] at ho'
        cases ho'
    · rw [List.mem_singleton.mp ht] at ho
      cases ho
  cached id o ho hmatched := by
    obtain ⟨t, ht, hid, hheld⟩ := h.cached id o ho hmatched
    exact ⟨t, List.mem_append_left _ ht, hid, hheld⟩

/-- The outcome a handler holds after its step is the one every other handler of
its RFQ holds. -/
theorem agree_of_next (h : Unique s) {i : Nat} {t : Task} (ht : s.tasks[i]? = some t)
    {answer : Answer} {a : Ambient}
    (hsole : firstToAsk s (.advance i answer a) = true) {o : MatchOutcome}
    (ho : (t.phase.next X cfg answer { a with now := s.clock } t.rfqID s.book).1.held = some o)
    {t' : Task} (ht' : t' ∈ s.tasks) (hid : t.rfqID = t'.rfqID) {o' : MatchOutcome}
    (ho' : t'.phase.held = some o') : o = o' := by
  rcases held_of_next ho with hheld | ⟨hcached, hmatched⟩ | ⟨u, hphase, hmatched⟩
  · exact h.agree t (List.mem_of_getElem? ht) t' ht' hid o o' hheld ho'
  · obtain ⟨t'', ht'', hid'', hheld⟩ := h.cached t.rfqID o hcached hmatched
    exact h.agree t'' ht'' t' ht' (hid''.trans hid) o o' hheld ho'
  · obtain ⟨id, phase⟩ := t
    subst hphase
    have hasks : asksFor s (.advance i answer a) = some id := by
      simp only [asksFor, ht, if_pos hmatched]
    rw [firstToAsk, hasks, Option.all_some, Bool.not_eq_true'] at hsole
    have hnone := signedAlready_eq_false hsole ht' hid.symm
    rw [hnone] at ho'
    cases ho'

theorem Unique.advance (h : Unique s) {i : Nat} {t : Task} (ht : s.tasks[i]? = some t)
    {answer : Answer} {a : Ambient}
    (hsole : firstToAsk s (.advance i answer a) = true) :
    Unique
      { s with
        book := (t.phase.next X cfg answer { a with now := s.clock } t.rfqID s.book).2
        tasks := s.tasks.set i
          ⟨t.rfqID, (t.phase.next X cfg answer { a with now := s.clock } t.rfqID s.book).1⟩ } where
  agree t₁ ht₁ t₂ ht₂ hid o₁ o₂ ho₁ ho₂ := by
    rcases List.mem_or_eq_of_mem_set ht₁ with ht₁ | rfl
    · rcases List.mem_or_eq_of_mem_set ht₂ with ht₂ | rfl
      · exact h.agree t₁ ht₁ t₂ ht₂ hid o₁ o₂ ho₁ ho₂
      · exact (agree_of_next h ht hsole ho₂ ht₁ hid.symm ho₁).symm
    · rcases List.mem_or_eq_of_mem_set ht₂ with ht₂ | rfl
      · exact agree_of_next h ht hsole ho₁ ht₂ hid ho₂
      · rw [ho₁] at ho₂
        exact Option.some.inj ho₂
  cached rfqID o ho hmatched := by
    have hmem : ∀ x : Task, x ∈ s.tasks.set i x ∨ s.tasks.length ≤ i := by
      intro x
      by_cases hi : i < s.tasks.length
      · exact .inl (List.mem_iff_getElem?.mpr ⟨i, List.getElem?_set_self hi⟩)
      · exact .inr (Nat.le_of_not_lt hi)
    have hi : ¬ s.tasks.length ≤ i := Nat.not_le.mpr (List.getElem?_eq_some_iff.mp ht).1
    have hself := (hmem
      ⟨t.rfqID, (t.phase.next X cfg answer { a with now := s.clock } t.rfqID s.book).1⟩).resolve_right hi
    -- a holder of the old state is still there, or it is the handler that moved
    have hkeep : s.book.cachedOutcome rfqID = some o → ∃ t' ∈ s.tasks.set i
        ⟨t.rfqID, (t.phase.next X cfg answer { a with now := s.clock } t.rfqID s.book).1⟩,
        t'.rfqID = rfqID ∧ t'.phase.held = some o := by
      intro hcached
      obtain ⟨t', ht', hid, hheld⟩ := h.cached rfqID o hcached hmatched
      rcases mem_set_or ht' with hin | hat
      · exact ⟨t', hin, hid, hheld⟩
      · rw [ht, Option.some.injEq] at hat
        subst t'
        exact ⟨_, hself, hid, held_next hheld⟩
    rcases book_of_next X cfg t.phase answer { a with now := s.clock } t.rfqID s.book with
      hbook | ⟨o₀, hphase, hbook⟩
    · rw [hbook] at ho
      exact hkeep ho
    · rw [hbook] at ho
      rcases cachedOutcome_markMatched ho with ⟨rfl, rfl⟩ | hcached
      · refine ⟨_, hself, rfl, ?_⟩
        rw [hphase]
        exact if_pos hmatched
      · exact hkeep hcached

/-- Every step that respects the condition keeps the signed outcomes equal. -/
theorem Unique.step (h : Unique s) (action : Action)
    (hsole : firstToAsk s action = true) :
    Unique (action.step X cfg s) := by
  cases action with
  | call rfqID => exact h.call rfqID
  | tick nanos => exact ⟨h.agree, h.cached⟩
  | submitRfq id taker amount limit xrplAddress =>
    simp only [Action.step]
    split
    · exact h
    · rename_i hadd
      exact h.book fun rfqID o => cachedOutcome_addRFQ hadd
  | submitQuote id maker price maxSize nonce =>
    simp only [Action.step]
    split
    · exact h
    · rename_i hadd
      exact h.book fun rfqID o ho => (cachedOutcome_upsertQuote hadd).symm.trans ho
  | advance i answer a =>
    simp only [Action.step]
    split
    · exact h
    · rename_i t ht
      exact h.advance ht hsole

theorem Unique.run (h : Unique s) (actions : List Action) (hsole : SoleSigner X cfg s actions) :
    Unique (after X cfg s actions) := by
  induction actions generalizing s with
  | nil => exact h
  | cons action rest ih => exact ih (h.step action hsole.1) hsole.2

theorem unique_initial (epoch : UInt64) (clock : Time) : Unique (initial epoch clock) where
  agree t ht := by cases ht
  cached rfqID o ho := by cases ho

end Steps

theorem mem_returnedMatches {s : State} {rfqID : Bytes32} {o : MatchOutcome}
    (h : o ∈ returnedMatches s rfqID) : ∃ t ∈ s.tasks, t.rfqID = rfqID ∧ t.phase.held = some o := by
  obtain ⟨t, ht, hsome⟩ := List.mem_filterMap.mp h
  obtain ⟨id, phase⟩ := t
  cases phase with
  | returned result =>
    cases result with
    | error c => cases hsome
    | ok o' =>
      simp only [Option.ite_none_right_eq_some, Option.some.injEq] at hsome
      obtain ⟨⟨hid, hmatched⟩, rfl⟩ := hsome
      exact ⟨_, ht, hid, if_pos hmatched⟩
  | reading => cases hsome
  | pricing taker makers => cases hsome
  | checking snap now => cases hsome
  | copying snap now => cases hsome
  | signing o' => cases hsome
  | caching o' => cases hsome

/-- All MATCHED outcomes returned for an RFQ carry one signed instruction. -/
def OneSignedMatch (s : State) (rfqID : Bytes32) : Prop :=
  ∀ o ∈ returnedMatches s rfqID, ∀ o' ∈ returnedMatches s rfqID,
    o.abiEncoded = o'.abiEncoded ∧ o.teeSignature = o'.teeSignature

instance (s : State) (rfqID : Bytes32) : Decidable (OneSignedMatch s rfqID) :=
  inferInstanceAs (Decidable (∀ _ ∈ _, _))

/-- In every interleaving in which no signature is asked for an RFQ that has one,
the RFQ gets one signed match. -/
theorem one_signed_match (epoch : UInt64) (clock : Time) (actions : List Action)
    (hsole : SoleSigner X cfg (initial epoch clock) actions) (rfqID : Bytes32) :
    OneSignedMatch (after X cfg (initial epoch clock) actions) rfqID := by
  intro o ho o' ho'
  have hunique := (unique_initial epoch clock).run actions hsole
  obtain ⟨t, ht, hid, hheld⟩ := mem_returnedMatches ho
  obtain ⟨t', ht', hid', hheld'⟩ := mem_returnedMatches ho'
  have heq := hunique.agree t ht t' ht' (hid.trans hid'.symm) o o' hheld hheld'
  exact ⟨by rw [heq], by rw [heq]⟩

/-! An RFQ, one quote on it, and two handlers of it. -/
namespace SampleRace

open SampleDesk

def advance (i : Nat) : Action := .advance i (fun _ _ _ => SampleBook.snapshot) (ambient 0)

def intake : List Action :=
  [.submitRfq 7 2 5000000000 1990000000000000000 SampleBook.request.xrplAddress, .tick 5000000000,
    .submitQuote 7 3 2010000000000000000 5000000000 1, .tick 15000000000, .call 7, .call 7]

/-- Both handlers look for a cached outcome, a second apart, before either signs. -/
def race : List Action :=
  intake ++ List.replicate 4 (advance 0) ++ [.tick 1000000000] ++ List.replicate 4 (advance 1) ++
    [advance 0, advance 0, advance 1, advance 1]

/-- The second handler starts after the first has returned. -/
def replay : List Action :=
  intake ++ List.replicate 6 (advance 0) ++
    [.tick 1000000000, .submitQuote 7 5 2015000000000000000 5000000000 1] ++
    List.replicate 6 (advance 1)

def start : State := initial 0 (SampleBook.clock 1000)

end SampleRace

open SampleDesk SampleRace in
/-- In the race the RFQ gets two signed matches, with different expiries. -/
theorem two_signed_matches : ¬ OneSignedMatch (after externals config start race) 7 := by
  decide +kernel

open SampleDesk SampleRace in
theorem one_signed_match_replay :
    (returnedMatches (after externals config start replay) 7).length = 2 ∧
      OneSignedMatch (after externals config start replay) 7 :=
  ⟨by decide +kernel, one_signed_match 0 (SampleBook.clock 1000) replay (by decide +kernel) 7⟩

end WhisperDesk.Fcewire.Interleaving
