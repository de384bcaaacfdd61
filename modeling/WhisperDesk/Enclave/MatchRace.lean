import WhisperDesk.Enclave.BookRuns
import WhisperDesk.Enclave.Freshness
import WhisperDesk.Enclave.Interleaving

/-!
# A quote between the makers and the copy

`handleMatch` reads the makers on an RFQ, takes their bonds from the cache and copies
the quotes, each under a lock of its own. A quote that comes in between is in
the copy all the same. If its maker had none on the RFQ when the makers were read,
there is no bond for it in the snapshot, and it is held against the zero value
of the map, whatever the cache has.
-/
namespace WhisperDesk.Fcewire.Interleaving

open Go
open Matcher
open Reverting (settle)
open Selection

section Submissions

/-- The quote that an action brings to the book, accepted or not. -/
def Action.submission : Action → Option Submission
  | .submitQuote rfqID maker price maxSize nonce => some ⟨rfqID, maker, price, maxSize, nonce⟩
  | _ => none

def submitted (actions : List Action) : List Submission := actions.filterMap Action.submission

/-- What one maker brought on one RFQ. -/
def offered (rfqID : Bytes32) (maker : Address) (actions : List Action) : List Submission :=
  (submitted actions).filter fun s => s.rfqID = rfqID ∧ s.maker = maker

theorem offered_append (rfqID : Bytes32) (maker : Address) (actions rest : List Action) :
    offered rfqID maker (actions ++ rest) = offered rfqID maker actions ++ offered rfqID maker rest := by
  simp only [offered, submitted, List.filterMap_append, List.filter_append]

theorem mem_offered {rfqID : Bytes32} {maker : Address} {actions : List Action} {s : Submission} :
    s ∈ offered rfqID maker actions ↔ s ∈ submitted actions ∧ s.rfqID = rfqID ∧ s.maker = maker := by
  simp [offered]

end Submissions

section Book

variable (X : Externals) (cfg : Config)

/-- What a step does to the book: an intake of the book, a cached outcome or nothing. -/
inductive BookStep (s : State) : Action → SealedBook → Prop
  | rfq (id : Bytes32) (taker : Address) (amount : UInt64) (limit : Int) (xrplAddress : GoString) :
      BookStep s (.submitRfq id taker amount limit xrplAddress)
        (settle s.book ((Op.addRFQ cfg.matcher id taker amount (some limit) xrplAddress s.clock
          cfg.rfqWindowSec cfg.rfqTTLSec).exec X.toLibraries s.book))
  | quote (rfqID : Bytes32) (maker : Address) (price : Int) (maxSize nonce : UInt64) :
      BookStep s (.submitQuote rfqID maker price maxSize nonce)
        (settle s.book
          ((Op.upsertQuote ⟨rfqID, maker, price, maxSize, nonce⟩ s.clock).exec X.toLibraries s.book))
  | cached (action : Action) (id : Bytes32) (o : MatchOutcome) (h : action.submission = none) :
      BookStep s action (s.book.markMatched id o)
  | kept (action : Action) (h : action.submission = none) : BookStep s action s.book

theorem bookStep (s : State) (action : Action) : BookStep X cfg s action (action.step X cfg s).book := by
  cases action with
  | call rfqID => exact .kept _ rfl
  | tick nanos => exact .kept _ rfl
  | submitRfq id taker amount limit xrplAddress =>
    have hbook : ((Action.submitRfq id taker amount limit xrplAddress).step X cfg s).book =
        settle s.book ((Op.addRFQ cfg.matcher id taker amount (some limit) xrplAddress s.clock
          cfg.rfqWindowSec cfg.rfqTTLSec).exec X.toLibraries s.book) := by
      simp only [Action.step, Op.exec]
      cases s.book.addRFQ cfg.matcher id taker amount (some limit) xrplAddress s.clock cfg.rfqWindowSec
        cfg.rfqTTLSec <;> rfl
    rw [hbook]
    exact .rfq ..
  | submitQuote rfqID maker price maxSize nonce =>
    have hbook : ((Action.submitQuote rfqID maker price maxSize nonce).step X cfg s).book =
        settle s.book
          ((Op.upsertQuote ⟨rfqID, maker, price, maxSize, nonce⟩ s.clock).exec X.toLibraries s.book) := by
      simp only [Action.step, Op.exec]
      cases s.book.upsertQuote rfqID maker price maxSize nonce s.clock <;> rfl
    rw [hbook]
    exact .quote ..
  | advance i answer a =>
    simp only [Action.step]
    cases s.tasks[i]? with
    | none => exact .kept _ rfl
    | some t =>
      rcases book_of_next X cfg t.phase answer { a with now := s.clock } t.rfqID s.book with h | ⟨o, _, h⟩
      · simp only [h]
        exact .kept _ rfl
      · simp only [h]
        exact .cached _ _ _ rfl

variable {s : State} {rfqID : Bytes32} (maker : Address)

/-- The book is one that some quotes were accepted into. -/
def Sound (b : SealedBook) : Prop := ∃ quotes, Kept quotes b

theorem Sound.step (h : Sound s.book) (action : Action) : Sound (action.step X cfg s).book := by
  obtain ⟨quotes, h⟩ := h
  have hstep := bookStep X cfg s action
  generalize (action.step X cfg s).book = b at hstep ⊢
  cases hstep with
  | rfq id taker amount limit xrplAddress => exact ⟨_, h.step _⟩
  | quote rfqID maker price maxSize nonce => exact ⟨_, h.step _⟩
  | cached _ id o _ => exact ⟨_, h.matched id o⟩
  | kept _ _ => exact ⟨_, h⟩

theorem Sound.run (h : Sound s.book) (actions : List Action) : Sound (after X cfg s actions).book := by
  induction actions generalizing s with
  | nil => exact h
  | cons action actions ih => exact ih (h.step X cfg action)

theorem live_markMatched {b : SealedBook} (h : b.rfqs rfqID ≠ none) (id : Bytes32) (o : MatchOutcome) :
    (b.markMatched id o).rfqs rfqID ≠ none := by
  rw [markMatched_rfqs]
  split
  · rename_i hid
    subst id
    simpa using h
  · exact h

/-- No action takes an RFQ out of the book. -/
theorem live_step (h : s.book.rfqs rfqID ≠ none) (action : Action) :
    (action.step X cfg s).book.rfqs rfqID ≠ none := by
  have hstep := bookStep X cfg s action
  generalize (action.step X cfg s).book = b at hstep ⊢
  have hintake : ∀ op : Op, (∀ now, op ≠ .gc now) →
      (settle s.book (op.exec X.toLibraries s.book)).rfqs rfqID ≠ none := by
    intro op hop
    cases hexec : op.exec X.toLibraries s.book with
    | error e => exact h
    | ok b =>
      cases effect_of_ok hexec with
      | @added _ id _ _ _ _ _ _ _ rfq hnew =>
        have hne : rfqID ≠ id := by
          rintro rfl
          exact h hnew
        simpa only [Reverting.settle_ok, Function.update_of_ne hne] using h
      | quoted byMaker hquotes hnonce => exact h
      | replayed => exact h
      | matched o => exact live_markMatched h _ o
      | swept => exact absurd rfl (hop _)
  cases hstep with
  | rfq id taker amount limit xrplAddress => exact hintake _ fun now => nofun
  | quote rfqID maker price maxSize nonce => exact hintake _ fun now => nofun
  | cached _ id o _ => exact live_markMatched h id o
  | kept _ _ => exact h

/-- What one action does to the quote of one maker on one RFQ. -/
theorem quoteOf_action (h : Sound s.book) (hrfq : s.book.rfqs rfqID ≠ none) (action : Action) :
    ((action.step X cfg s).book.quoteOf rfqID maker).map Quote.submission =
      (offered rfqID maker [action]).foldl (upgrade Submission.rank)
        ((s.book.quoteOf rfqID maker).map Quote.submission) := by
  obtain ⟨quotes, h⟩ := h
  have hlive := live_step X cfg hrfq action
  have hstep := bookStep X cfg s action
  generalize (action.step X cfg s).book = b at hstep hlive ⊢
  cases hstep with
  | rfq id taker amount limit xrplAddress =>
    rw [quoteOf_step h.keys hrfq hlive]
    rfl
  | quote id m price maxSize nonce =>
    rw [quoteOf_step h.keys hrfq hlive]
    by_cases hpair : id = rfqID ∧ m = maker <;>
      simp [submissions, offered, submitted, Action.submission, hpair]
  | cached _ id o hnone =>
    have hempty : offered rfqID maker [action] = [] := by simp [offered, submitted, hnone]
    rw [quoteOf_markMatched, hempty, List.foldl_nil]
  | kept _ hnone =>
    have hempty : offered rfqID maker [action] = [] := by simp [offered, submitted, hnone]
    rw [hempty, List.foldl_nil]

/-- While the handlers run, a maker's quote is the one of the highest nonce among what it
had and what it brings. -/
theorem quoteOf_after (h : Sound s.book) (hrfq : s.book.rfqs rfqID ≠ none) (actions : List Action) :
    ((after X cfg s actions).book.quoteOf rfqID maker).map Quote.submission =
      (((s.book.quoteOf rfqID maker).map Quote.submission).toList ++
        offered rfqID maker actions).argmax Submission.rank := by
  rw [← foldl_upgrade_option]
  induction actions generalizing s with
  | nil => rfl
  | cons action actions ih =>
    have hsplit := offered_append rfqID maker [action] actions
    rw [List.singleton_append] at hsplit
    rw [hsplit, List.foldl_append, ← quoteOf_action X cfg maker h hrfq action]
    exact ih (h.step X cfg action) (live_step X cfg hrfq action)

/-- Who has a quote on the RFQ in the end had one before or brought one. -/
theorem quoted_after (h : Sound s.book) (hrfq : s.book.rfqs rfqID ≠ none) (actions : List Action) :
    (after X cfg s actions).book.quoteOf rfqID maker = none ↔
      s.book.quoteOf rfqID maker = none ∧ offered rfqID maker actions = [] := by
  have hquote := quoteOf_after X cfg maker h hrfq actions
  rw [← Option.map_eq_none_iff (f := Quote.submission), hquote, List.argmax_eq_none, List.append_eq_nil_iff,
    Option.toList_eq_nil_iff, Option.map_eq_none_iff]

/-- A quote that was there is there, or one of a higher nonce is. -/
theorem nonce_after (h : Sound s.book) (hrfq : s.book.rfqs rfqID ≠ none) (actions : List Action) {q : Quote}
    (hq : s.book.quoteOf rfqID maker = some q) :
    ∃ q', (after X cfg s actions).book.quoteOf rfqID maker = some q' ∧ q.nonce ≤ q'.nonce := by
  have hquote := quoteOf_after X cfg maker h hrfq actions
  rw [hq, Option.map_some, Option.toList_some, List.singleton_append] at hquote
  cases hafter : (after X cfg s actions).book.quoteOf rfqID maker with
  | none =>
    rw [hafter, Option.map_none] at hquote
    cases (List.argmax_eq_none.mp hquote.symm)
  | some q' =>
    rw [hafter, Option.map_some] at hquote
    exact ⟨q', rfl, UInt64.le_iff_toNat_le.mpr
      (List.le_of_mem_argmax (f := Submission.rank) List.mem_cons_self hquote.symm)⟩

end Book

section Handlers

variable {X : Externals} {cfg : Config} {start : State} {actions : List Action} {i : Nat}
  {rfqID : Bytes32}

/-- Where in a run handler `i` read the participants of its RFQ, and what it read. -/
structure Reading (X : Externals) (cfg : Config) (start : State) (actions : List Action) (i : Nat)
    (rfqID : Bytes32) where
  earlier : List Action
  answer : Answer
  ambient : Ambient
  since : List Action
  taker : Address
  makers : List Address
  split : actions = earlier ++ .advance i answer ambient :: since
  reading : (after X cfg start earlier).tasks[i]? = some ⟨rfqID, .reading⟩
  participants : (after X cfg start earlier).book.participants ambient.makersOrder rfqID =
    .ok (taker, makers)

/-- The book it read them from. -/
def Reading.book (r : Reading X cfg start actions i rfqID) : SealedBook :=
  (after X cfg start r.earlier).book

def Reading.then (r : Reading X cfg start actions i rfqID) (action : Action) :
    Reading X cfg start (actions ++ [action]) i rfqID :=
  { r with
    since := r.since ++ [action]
    split := by
      have hsplit := congrArg (· ++ [action]) r.split
      simpa only [List.append_assoc, List.cons_append] using hsplit }

/-- What a handler has in hand, and where in the run it got it. -/
def Traced (X : Externals) (cfg : Config) (start : State) (actions : List Action) (i : Nat)
    (rfqID : Bytes32) : Phase → Prop
  | .pricing taker makers =>
    ∃ r : Reading X cfg start actions i rfqID, r.taker = taker ∧ r.makers = makers
  | .checking snap now | .copying snap now =>
    ∃ r : Reading X cfg start actions i rfqID, ∃ answer a,
      .advance i answer a ∈ r.since ∧ snap = answer r.taker r.makers now
  | _ => True

theorem Traced.then {phase : Phase} (h : Traced X cfg start actions i rfqID phase) (action : Action) :
    Traced X cfg start (actions ++ [action]) i rfqID phase := by
  cases phase with
  | pricing taker makers =>
    obtain ⟨r, htaker, hmakers⟩ := h
    exact ⟨r.then action, htaker, hmakers⟩
  | checking snap now =>
    obtain ⟨r, answer, a, hmem, hsnap⟩ := h
    exact ⟨r.then action, answer, a, List.mem_append_left _ hmem, hsnap⟩
  | copying snap now =>
    obtain ⟨r, answer, a, hmem, hsnap⟩ := h
    exact ⟨r.then action, answer, a, List.mem_append_left _ hmem, hsnap⟩
  | reading | signing | caching | returned => trivial

/-- The handler's own step. -/
theorem Traced.next {phase : Phase} (h : Traced X cfg start actions i rfqID phase)
    (htask : (after X cfg start actions).tasks[i]? = some ⟨rfqID, phase⟩) (answer : Answer) (a : Ambient) :
    Traced X cfg start (actions ++ [.advance i answer a]) i rfqID
      (phase.next X cfg answer { a with now := (after X cfg start actions).clock } rfqID
        (after X cfg start actions).book).1 := by
  cases phase with
  | reading =>
    simp only [Phase.next]
    cases hp : (after X cfg start actions).book.participants a.makersOrder rfqID with
    | error e => trivial
    | ok p =>
      obtain ⟨taker, makers⟩ := p
      exact ⟨⟨actions, answer, a, [], taker, makers, rfl, htask, hp⟩, rfl, rfl⟩
  | pricing taker makers =>
    obtain ⟨r, rfl, rfl⟩ := h
    exact ⟨r.then _, answer, a, List.mem_append_right _ List.mem_cons_self, rfl⟩
  | checking snap now =>
    have hlater := h.then (.advance i answer a)
    simp only [Phase.next]
    cases (after X cfg start actions).book.cachedOutcome rfqID with
    | none => exact hlater
    | some cached => trivial
  | copying snap now =>
    simp only [Phase.next]
    cases compute X cfg { a with now := (after X cfg start actions).clock }
      (after X cfg start actions).book rfqID snap now <;> trivial
  | signing o =>
    simp only [Phase.next]
    cases signOutcome (signer X cfg { a with now := (after X cfg start actions).clock }) o <;> trivial
  | caching o => trivial
  | returned result => trivial

/-- A task is as it was, new, or the one that moved. -/
theorem task_of_step {s : State} {action : Action} {t : Task} (h : (action.step X cfg s).tasks[i]? = some t) :
    s.tasks[i]? = some t ∨ t.phase = .reading ∨
      ∃ answer a phase, action = .advance i answer a ∧ s.tasks[i]? = some ⟨t.rfqID, phase⟩ ∧
        t.phase = (phase.next X cfg answer { a with now := s.clock } t.rfqID s.book).1 := by
  cases action with
  | call id =>
    simp only [Action.step] at h
    by_cases hi : i < s.tasks.length
    · rw [List.getElem?_append_left hi] at h
      exact .inl h
    · rw [List.getElem?_append_right (Nat.not_lt.mp hi)] at h
      have hnew := List.mem_singleton.mp (List.mem_of_getElem? h)
      exact .inr (.inl (by rw [hnew]))
  | tick nanos => exact .inl h
  | submitRfq id taker amount limit xrplAddress =>
    left
    simp only [Action.step] at h
    split at h <;> exact h
  | submitQuote id maker price maxSize nonce =>
    left
    simp only [Action.step] at h
    split at h <;> exact h
  | advance j answer a =>
    simp only [Action.step] at h
    cases ht : s.tasks[j]? with
    | none =>
      rw [ht] at h
      exact .inl h
    | some u =>
      rw [ht] at h
      by_cases hij : j = i
      · subst j
        have hlt : i < s.tasks.length := (List.getElem?_eq_some_iff.mp ht).1
        simp only [List.getElem?_set_self hlt, Option.some.injEq] at h
        subst t
        exact .inr (.inr ⟨answer, a, u.phase, rfl, ht, rfl⟩)
      · left
        simpa only [List.getElem?_set_ne hij] using h

/-- Whatever a handler has in hand, it got it in the run. -/
theorem traced_after (hstart : start.tasks = []) {t : Task}
    (h : (after X cfg start actions).tasks[i]? = some t) :
    Traced X cfg start actions i t.rfqID t.phase := by
  induction actions using List.reverseRecOn generalizing t with
  | nil =>
    rw [after, List.foldl_nil, hstart] at h
    cases h
  | append_singleton actions action ih =>
    rw [after, List.foldl_concat] at h
    rcases task_of_step h with hsame | hnew | ⟨answer, a, phase, rfl, hbefore, hphase⟩
    · exact (ih hsame).then action
    · rw [hnew]
      trivial
    · rw [hphase]
      exact (ih hbefore).next hbefore answer a

end Handlers

section Rule

variable {L : Libraries} {cfg : Matcher.Config} {escrow : Address} {rfq : RFQ} {quotes : List Quote}
  {snap snap' : ChainSnapshot} {mid : Int} {now : Time}

/-- The outcome is the one that the snapshot's values give: the best eligible quote wins,
and none is eligible if none wins. -/
structure BestUnder (cfg : Matcher.Config) (escrow : Address) (rfq : RFQ) (quotes : List Quote)
    (snap : ChainSnapshot) (now : Time) (o : MatchOutcome) : Prop where
  matched : o.outcome = .matched → ∃ mid w, snap.midE18 = some mid ∧ w ∈ quotes ∧
    Eligible cfg rfq snap mid now w ∧
    (∀ q ∈ quotes, Eligible cfg rfq snap mid now q → rank q ≤ rank w) ∧
    o.toSign = some (instructionFor escrow rfq w now)
  noMatch : o.outcome = .noMatch → ∀ mid, Ready rfq snap mid →
    ∀ q ∈ quotes, ¬ Eligible cfg rfq snap mid now q

theorem bestUnder_matchCore {o : MatchOutcome}
    (h : matchCore L cfg escrow rfq quotes snap now = .ok o) :
    BestUnder cfg escrow rfq quotes snap now o := by
  have hkept : ∀ mid q, q ∈ kept (rejection cfg rfq snap mid now) quotes ↔
      q ∈ quotes ∧ Eligible cfg rfq snap mid now q := by
    intro mid q
    rw [mem_kept, rejection_eq_none]
  have hscan : ∀ mid, Ready rfq snap mid → BestUnder cfg escrow rfq quotes snap now o := by
    intro mid hready
    rw [matchCore_of_ready hready] at h
    cases hmax : (kept (rejection cfg rfq snap mid now) quotes).argmax rank with
    | none =>
      rw [hmax, Except.ok.injEq] at h
      subst o
      refine ⟨fun hmatched => (by cases hmatched), fun _ mid' hready' q hq helig => ?_⟩
      obtain rfl := Option.some.inj (hready.midE18.symm.trans hready'.midE18)
      have hmem := (hkept mid q).mpr ⟨hq, helig⟩
      rw [List.argmax_eq_none.mp hmax] at hmem
      cases hmem
    | some w =>
      rw [hmax, Except.ok.injEq] at h
      subst o
      obtain ⟨hw, helig⟩ := (hkept mid w).mp (List.argmax_mem (by rw [hmax]; rfl))
      refine ⟨fun _ => ⟨mid, w, hready.midE18, hw, helig, ?_, matched_toSign ..⟩,
        fun hnone => (by cases hnone)⟩
      intro q hq hqelig
      exact List.le_of_mem_argmax ((hkept mid q).mpr ⟨hq, hqelig⟩) (by rw [hmax]; rfl)
  rcases matchCore_cases h with ⟨reasons, rfl⟩ | ⟨mid, w, reasons, hready, _⟩
  · exact ⟨fun hmatched => (by cases hmatched), fun hnone mid hready => (hscan mid hready).noMatch hnone mid hready⟩
  · exact hscan mid hready

/-- A quote's eligibility rests on its own maker's bond only. -/
theorem eligible_congr {q : Quote} (h : snap.freeBondRaw q.maker = snap'.freeBondRaw q.maker) :
    Eligible cfg rfq snap mid now q ↔ Eligible cfg rfq snap' mid now q := by
  unfold Eligible
  apply forall_congr'
  intro r
  apply imp_congr_right
  intro _
  cases r with
  | insufficientBond => simp only [Passes, h]
  | selfMatch | stale | undersized | outOfBand | belowLimit | insufficientTakerFunds => exact Iff.rfl

theorem BestUnder.withBonds {o : MatchOutcome} {bonds : Address → UInt64}
    (h : BestUnder cfg escrow rfq quotes snap now o)
    (hbonds : ∀ q ∈ quotes, snap.freeBondRaw q.maker = bonds q.maker) :
    BestUnder cfg escrow rfq quotes { snap with freeBondRaw := bonds } now o where
  matched hmatched := by
    obtain ⟨mid, w, hmid, hw, helig, hbest, hsign⟩ := h.matched hmatched
    refine ⟨mid, w, hmid, hw, (eligible_congr (hbonds w hw)).mp helig, ?_, hsign⟩
    intro q hq hqelig
    exact hbest q hq ((eligible_congr (hbonds q hq)).mpr hqelig)
  noMatch hnone mid hready q hq helig :=
    h.noMatch hnone mid ⟨hready.midE18, hready.mid_pos, hready.fresh, hready.funds⟩ q hq
      ((eligible_congr (hbonds q hq)).mpr helig)

end Rule

section Judged

variable {X : Externals} {cfg : Config}

/-- Every quote of the copy is held against the bond the cache has for its maker, and so
the outcome is the one the cache gives. -/
structure JudgedByCache (X : Externals) (cfg : Config) (c : ChainCache) (makers : List Address)
    (snap : ChainSnapshot) (now : Time) (b : SealedBook) (rfqID : Bytes32) : Prop where
  bonds : ∀ q ∈ b.resting rfqID, q.maker ∈ makers ∧ snap.freeBondRaw q.maker = c.bondFree q.maker
  outcome : ∀ a rfq o, b.rfqs rfqID = some rfq → compute X cfg a b rfqID snap now = .ok o →
    BestUnder cfg.matcher cfg.escrowAddr rfq (b.resting rfqID) { snap with freeBondRaw := c.bondFree } now o

/-- All quotes that come in on the RFQ are of makers that have one on it in `b`. -/
def NoNewMaker (b : SealedBook) (rfqID : Bytes32) (since : List Action) : Prop :=
  ∀ s ∈ submitted since, s.rfqID = rfqID → (b.quoteOf rfqID s.maker).isSome = true

instance (b : SealedBook) (rfqID : Bytes32) (since : List Action) : Decidable (NoNewMaker b rfqID since) :=
  inferInstanceAs (Decidable (∀ _ ∈ _, _))

theorem bestUnder_compute {a : Ambient} {b : SealedBook} {rfqID : Bytes32} {snap : ChainSnapshot}
    {now : Time} {rfq : RFQ} {o : MatchOutcome} (hrfq : b.rfqs rfqID = some rfq)
    (h : compute X cfg a b rfqID snap now = .ok o) :
    BestUnder cfg.matcher cfg.escrowAddr rfq (b.resting rfqID) snap now o := by
  obtain ⟨p, hp, hmatch⟩ := Reverting.bind_eq_ok.mp h
  obtain ⟨rfq', quotes⟩ := p
  obtain ⟨hrfq', rfl⟩ := snapshotForMatch_eq_ok.mp hp
  obtain rfl := Option.some.inj (hrfq.symm.trans hrfq')
  obtain ⟨hmatched, hnone⟩ := bestUnder_matchCore (matchSnapshot_eq_ok.mp hmatch).2
  have hmem : ∀ q, q ∈ a.quotesOrder.walk (b.resting rfqID) ↔ q ∈ b.resting rfqID :=
    fun q => (a.quotesOrder.perm _).mem_iff
  simp only [hmem] at hmatched hnone
  exact ⟨hmatched, hnone⟩

variable {epoch : UInt64} {clock : Time} {actions : List Action} {i : Nat} {rfqID : Bytes32}

theorem sound_after (epoch : UInt64) (clock : Time) (actions : List Action) :
    Sound (after X cfg (initial epoch clock) actions).book :=
  Sound.run X cfg ⟨[], kept_new⟩ actions

namespace Reading

variable (r : Reading X cfg (initial epoch clock) actions i rfqID)

theorem mem_makers {maker : Address} : maker ∈ r.makers ↔ (r.book.quoteOf rfqID maker).isSome = true := by
  obtain ⟨_, _, _, hmakers⟩ := participants_eq_ok.mp r.participants
  rw [← hmakers, List.mem_map, Option.isSome_iff_exists]
  apply exists_congr
  intro q
  rw [(r.ambient.makersOrder.perm _).mem_iff, quoteOf_eq_some]
  exact Iff.rfl

/-- What became of a maker's quote since the participants were read. -/
theorem quoted_since {maker : Address} :
    (after X cfg (initial epoch clock) actions).book.quoteOf rfqID maker = none ↔
      r.book.quoteOf rfqID maker = none ∧ offered rfqID maker r.since = [] := by
  obtain ⟨_, hrfq, _, _⟩ := participants_eq_ok.mp r.participants
  have hlive : r.book.rfqs rfqID ≠ none := Option.ne_none_iff_exists'.mpr ⟨_, hrfq⟩
  have hrun : after X cfg (initial epoch clock) actions =
      after X cfg (after X cfg (initial epoch clock) r.earlier)
        (.advance i r.answer r.ambient :: r.since) := by
    rw [after, after, after, ← List.foldl_append, ← r.split]
  rw [hrun]
  exact quoted_after X cfg maker (sound_after epoch clock r.earlier) hlive _

/-- The makers that are missed are those that came since. -/
theorem makers_iff :
    (∀ q ∈ (after X cfg (initial epoch clock) actions).book.resting rfqID, q.maker ∈ r.makers) ↔
      NoNewMaker r.book rfqID r.since := by
  constructor
  · intro h s hs hid
    have hoffered : s ∈ offered rfqID s.maker r.since := mem_offered.mpr ⟨hs, hid, rfl⟩
    have hsome : (after X cfg (initial epoch clock) actions).book.quoteOf rfqID s.maker ≠ none := by
      intro hnone
      rw [(r.quoted_since.mp hnone).2] at hoffered
      cases hoffered
    obtain ⟨q, hq⟩ := Option.ne_none_iff_exists'.mp hsome
    obtain ⟨hresting, hmaker⟩ := quoteOf_eq_some.mp hq
    rw [← hmaker]
    exact r.mem_makers.mp (h q hresting)
  · intro h q hq
    have hsome : (after X cfg (initial epoch clock) actions).book.quoteOf rfqID q.maker ≠ none :=
      Option.ne_none_iff_exists'.mpr ⟨q, quoteOf_eq_some.mpr ⟨hq, rfl⟩⟩
    rw [Ne, r.quoted_since, not_and_or] at hsome
    apply r.mem_makers.mpr
    rcases hsome with hbefore | hoffered
    · exact Option.isSome_iff_ne_none.mpr hbefore
    · obtain ⟨s, hs⟩ := List.exists_mem_of_ne_nil _ hoffered
      obtain ⟨hmem, hid, hmaker⟩ := mem_offered.mp hs
      rw [← hmaker]
      exact h s hmem hid

/-- What is judged is judged by the cache just when no new maker has come. -/
theorem judged_iff {c : ChainCache} {k : Int64} {snap : ChainSnapshot} {now : Time}
    (hsnap : snap = c.snapshot k r.taker r.makers now) :
    JudgedByCache X cfg c r.makers snap now (after X cfg (initial epoch clock) actions).book rfqID ↔
      NoNewMaker r.book rfqID r.since := by
  have hbond : ∀ maker ∈ r.makers, snap.freeBondRaw maker = c.bondFree maker := by
    intro maker hmaker
    rw [hsnap]
    exact if_pos hmaker
  rw [← r.makers_iff]
  constructor
  · intro h q hq
    exact (h.bonds q hq).1
  · intro h
    refine ⟨fun q hq => ⟨h q hq, hbond _ (h q hq)⟩, fun a rfq o hrfq ho => ?_⟩
    exact (bestUnder_compute hrfq ho).withBonds fun q hq => hbond _ (h q hq)

/-- A maker that was there when the participants were read is in the copy. -/
theorem resting_since {q : Quote} (hq : q ∈ r.book.resting rfqID) :
    ∃ q' ∈ (after X cfg (initial epoch clock) actions).book.resting rfqID, q'.maker = q.maker := by
  have hsome : (after X cfg (initial epoch clock) actions).book.quoteOf rfqID q.maker ≠ none := by
    intro hnone
    have hbefore := (r.quoted_since.mp hnone).1
    rw [quoteOf_eq_some.mpr ⟨hq, rfl⟩] at hbefore
    cases hbefore
  obtain ⟨q', hq'⟩ := Option.ne_none_iff_exists'.mp hsome
  exact ⟨q', quoteOf_eq_some.mp hq'⟩

/-- As long as no new maker comes, the makers stay the same. -/
theorem all_makers_iff (hno : NoNewMaker r.book rfqID r.since) (p : Address → Prop) :
    (∀ q ∈ (after X cfg (initial epoch clock) actions).book.resting rfqID, p q.maker) ↔
      ∀ q ∈ r.book.resting rfqID, p q.maker := by
  constructor
  · intro h q hq
    obtain ⟨q', hq', hmaker⟩ := r.resting_since hq
    rw [← hmaker]
    exact h q' hq'
  · intro h q hq
    have hmaker := r.mem_makers.mp (r.makers_iff.mpr hno q hq)
    obtain ⟨q', hq'⟩ := Option.isSome_iff_exists.mp hmaker
    obtain ⟨hresting, hsame⟩ := quoteOf_eq_some.mp hq'
    rw [← hsame]
    exact h q' hresting

end Reading

/-- An acknowledged quote rests from then on, or a later one of its maker does. -/
theorem acknowledged_rests {part rest : List Action} {maker : Address} {price : Int}
    {maxSize nonce : UInt64} {replaced : Bool} {b : SealedBook}
    (hsplit : actions = part ++ .submitQuote rfqID maker price maxSize nonce :: rest)
    (hack : (after X cfg (initial epoch clock) part).book.upsertQuote rfqID maker price maxSize nonce
      (after X cfg (initial epoch clock) part).clock = .ok (replaced, b)) :
    ∃ q ∈ (after X cfg (initial epoch clock) actions).book.resting rfqID,
      q.maker = maker ∧ nonce ≤ q.nonce := by
  have hstep : ((Action.submitQuote rfqID maker price maxSize nonce).step X cfg
      (after X cfg (initial epoch clock) part)).book = b := by
    simp only [Action.step, hack]
  have hrun : after X cfg (initial epoch clock) actions =
      after X cfg ((Action.submitQuote rfqID maker price maxSize nonce).step X cfg
        (after X cfg (initial epoch clock) part)) rest := by
    rw [after, after, after, hsplit, List.foldl_append, List.foldl_cons]
  have hbefore : Sound (after X cfg (initial epoch clock) part).book := sound_after epoch clock part
  have hsound := hbefore.step X cfg (.submitQuote rfqID maker price maxSize nonce)
  obtain ⟨byMaker, hquotes, _, _, hb⟩ := upsertQuote_eq_ok.mp hack
  have hquote : b.quoteOf rfqID maker = some
      ((⟨rfqID, maker, price, maxSize, nonce⟩ : Submission).quote
        (after X cfg (initial epoch clock) part).clock
        ((after X cfg (initial epoch clock) part).book.nextSeq + 1)) := by
    rw [hb]
    exact (quoteOf_insert _ _ _).trans (if_pos rfl)
  have hlive : b.rfqs rfqID ≠ none := by
    obtain ⟨quotes, hkept⟩ := hbefore
    have hrfq := hkept.keys rfqID
    rw [hquotes, Option.isSome_some] at hrfq
    rw [hb]
    exact Option.isSome_iff_ne_none.mp hrfq.symm
  rw [← hstep] at hquote hlive
  rw [hrun]
  obtain ⟨q, hq, hnonce⟩ := nonce_after X cfg maker hsound hlive rest hquote
  obtain ⟨hmem, hmaker⟩ := quoteOf_eq_some.mp hq
  exact ⟨q, hmem, hmaker, hnonce⟩

end Judged

/-- What a handler's quotes are held against, for every run of the machine and every
handler that is about to copy the book. -/
theorem quotes_judged_by_cache {X : Externals} {cfg : Config} {k : Int64} (epoch : UInt64) (clock : Time)
    (actions : List Action)
    (hcache : ∀ j answer a, .advance j answer a ∈ actions →
      ∃ steps, answer = (Dated.after steps).cache.snapshot k)
    {i : Nat} {rfqID : Bytes32} {snap : ChainSnapshot} {now : Time}
    (hcopy : (after X cfg (initial epoch clock) actions).tasks[i]? = some ⟨rfqID, .copying snap now⟩) :
    ∃ (r : Reading X cfg (initial epoch clock) actions i rfqID) (steps : List Upkeep),
      let d := Dated.after steps
      let b := (after X cfg (initial epoch clock) actions).book
      snap = d.cache.snapshot k r.taker r.makers now ∧
      (JudgedByCache X cfg d.cache r.makers snap now b rfqID ↔ NoNewMaker r.book rfqID r.since) ∧
      ((JudgedByCache X cfg d.cache r.makers snap now b rfqID ∧
          ∀ q ∈ b.resting rfqID, d.bondReadAt q.maker ≠ none) ↔
        NoNewMaker r.book rfqID r.since ∧ ∀ q ∈ r.book.resting rfqID, d.bondReadAt q.maker ≠ none) ∧
      ∀ part maker price maxSize nonce rest replaced b',
        actions = part ++ .submitQuote rfqID maker price maxSize nonce :: rest →
        (after X cfg (initial epoch clock) part).book.upsertQuote rfqID maker price maxSize nonce
          (after X cfg (initial epoch clock) part).clock = .ok (replaced, b') →
        ∃ q ∈ b.resting rfqID, q.maker = maker ∧ nonce ≤ q.nonce := by
  have hstart : (initial epoch clock).tasks = [] := rfl
  obtain ⟨r, answer, a, hmem, hsnap⟩ := traced_after hstart hcopy
  have hmem' : .advance i answer a ∈ actions := by
    rw [r.split]
    exact List.mem_append_right _ (List.mem_cons_of_mem _ hmem)
  obtain ⟨steps, rfl⟩ := hcache i answer a hmem'
  have hjudged := r.judged_iff hsnap
  refine ⟨r, steps, hsnap, hjudged, ?_, ?_⟩
  · rw [hjudged]
    apply and_congr_right
    intro hno
    exact r.all_makers_iff hno fun maker => (Dated.after steps).bondReadAt maker ≠ none
  · intro part maker price maxSize nonce rest replaced b' hsplit hack
    exact acknowledged_rests hsplit hack

/-! Two makers whose bonds are cached, one of them new to the RFQ. -/
namespace SampleRace

open SampleDesk

def bonds : List Upkeep :=
  [.trackTaker 2, .trackMaker 3, .trackMaker 5,
    .refresh (SampleCache.poll 1000) SampleCache.world fun _ => SampleBook.clock 1000]

def cached (i : Nat) : Action := .advance i ((Dated.after bonds).cache.snapshot 60) (ambient 0)

/-- Maker 5 quotes on another RFQ first, as makers in the cache have. -/
def otherDesk : List Action :=
  [.submitRfq 8 2 5000000000 1990000000000000000 SampleBook.request.xrplAddress,
    .submitQuote 8 5 2000000000000000000 5000000000 1]

/-- A quote lands after the handler has read the makers. -/
def landing (maker : Address) (nonce : UInt64) : List Action :=
  otherDesk ++ intake ++
    [cached 0, .submitQuote 7 maker 2015000000000000000 5000000000 nonce, cached 0, cached 0]

def atCopy (maker : Address) (nonce : UInt64) : State := after externals config start (landing maker nonce)

/-- The snapshot for maker 3 alone. -/
def snapshotOf3 : ChainSnapshot :=
  (Dated.after bonds).cache.snapshot 60 2 [3] (SampleBook.clock 1020)

def late : Quote := ⟨7, 5, 2015000000000000000, 5000000000, 1, SampleBook.clock 1020, 3⟩

theorem cached_of_mem {maker : Address} {nonce : UInt64} {j : Nat} {answer : Answer} {a : Ambient}
    (h : .advance j answer a ∈ landing maker nonce) :
    ∃ steps, answer = (Dated.after steps).cache.snapshot 60 := by
  simp only [landing, otherDesk, intake, cached, List.cons_append, List.nil_append, List.mem_cons,
    Action.advance.injEq, reduceCtorEq, false_or, List.not_mem_nil, or_false] at h
  refine ⟨bonds, ?_⟩
  rcases h with h | h | h <;> exact h.2.1

end SampleRace

open SampleDesk SampleRace in
/-- Maker 3 raises its own quote between the two reads. -/
theorem quotes_judged_by_cache_sample :
    ∃ c makers, JudgedByCache externals config c makers snapshotOf3 (SampleBook.clock 1020)
      (atCopy 3 2).book 7 := by
  have hcopy : (atCopy 3 2).tasks[0]? = some ⟨7, .copying snapshotOf3 (SampleBook.clock 1020)⟩ := rfl
  obtain ⟨r, steps, hsnap, hjudged, _, _⟩ := quotes_judged_by_cache (X := externals) (k := 60) 0
    (SampleBook.clock 1000) (landing 3 2) (fun _ _ _ h => cached_of_mem h) hcopy
  refine ⟨_, _, hjudged.mpr ?_⟩
  have hmaker : (3 : Address) ∈ r.makers := by
    by_contra hnot
    have hbond : snapshotOf3.freeBondRaw 3 = 0 := by
      rw [hsnap]
      exact if_neg hnot
    revert hbond
    decide +kernel
  intro s hs hid
  have hall : ∀ s ∈ submitted (landing 3 2), s.rfqID = 7 → s.maker = 3 := by decide +kernel
  have hmem : s ∈ submitted (landing 3 2) := by
    rw [r.split, submitted, List.filterMap_append]
    apply List.mem_append_right
    exact hs
  rw [hall s hmem hid]
  exact r.mem_makers.mp hmaker

open SampleDesk SampleRace in
/-- The best quote is turned away for a bond that is in the cache. -/
theorem late_quote_misjudged :
    (atCopy 5 1).tasks[0]? = some ⟨7, .copying snapshotOf3 (SampleBook.clock 1020)⟩ ∧
      late ∈ (atCopy 5 1).book.resting 7 ∧
      (Dated.after bonds).bondReadAt 5 = some (SampleBook.clock 1000) ∧
      (Dated.after bonds).cache.bondFree 5 = 1000000000 ∧ snapshotOf3.freeBondRaw 5 = 0 ∧
      ((atCopy 5 1).book.rfqs 7).any (fun rfq => Eligible config.matcher rfq
        { snapshotOf3 with freeBondRaw := (Dated.after bonds).cache.bondFree } 2000000000000000000
        (SampleBook.clock 1020) late) = true ∧
      ((compute externals config (ambient 0) (atCopy 5 1).book 7 snapshotOf3
        (SampleBook.clock 1020)).toOption.bind MatchOutcome.toSign).map (fun mi => (mi.maker, mi.priceUsd18)) =
          some (3, some 2010000000000000000) ∧
      ¬ JudgedByCache externals config (Dated.after bonds).cache [3] snapshotOf3 (SampleBook.clock 1020)
        (atCopy 5 1).book 7 := by
  have hlate : late ∈ (atCopy 5 1).book.resting 7 := by decide +kernel
  refine ⟨rfl, hlate, by decide +kernel, by decide +kernel, by decide +kernel, by decide +kernel,
    by decide +kernel, ?_⟩
  intro h
  have hmem : (5 : Address) ∈ [(3 : Address)] := (h.bonds late hlate).1
  revert hmem
  decide

end WhisperDesk.Fcewire.Interleaving
