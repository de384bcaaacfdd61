import WhisperDesk.Web.MakerPay

/-!
# Which payment is taken for a match's

A hash that is reported, or written down for a match, is that of a successful payment to the
match's destination with its tag and its drops as `Amount`. `release` wants at least the drops,
delivered, in the window. The two agree on a response just if the first such payment arrived in
full and in time, and one is listed at all where `release` would take some payment.
-/
namespace WhisperDesk.Web

open Function (update)
open ByteCodec (decimal)
open XrpLedger (Amount Pays)
open Trace (Always Occurred)

/-- A successful payment of just what is owed. -/
structure Exact (terms : MatchTerms) (t : XrpLedger.Transaction) : Prop where
  payment : t.transactionType = "Payment"
  success : t.transactionResult = "tesSUCCESS"
  destination : t.destination = terms.xrplDestination
  tag : t.destinationTag = some terms.destinationTag
  amount : t.amount = .drops terms.xrpDrops

section Scan

variable {terms : MatchTerms} {entry : AccountTxEntry} {t : XrpLedger.Transaction} {hash : Bytes32}
  {l : Listing} {listings : List Listing}

theorem decimal_injective {m n : Nat} (h : decimal m = decimal n) : m = n := by
  have hread := ByteCodec.readDigits_decimal m
  rw [h, ByteCodec.readDigits_decimal] at hread
  exact (Option.some.inj hread).symm

/-- Only the text of the same drops compares equal. -/
theorem amountString_eq_decimal {amount : Amount} {n : Nat} :
    amountString (some (amountJson amount)) = decimal n ↔ amount = .drops n := by
  cases amount with
  | drops m =>
    constructor
    · intro h
      rw [decimal_injective h]
    · intro h
      cases h
      rfl
  | issued =>
    constructor
    · intro h
      have hread := ByteCodec.readDigits_decimal n
      rw [← h] at hread
      cases hread
    · intro h
      cases h

theorem undefined_ne_decimal (n : Nat) : amountString none ≠ decimal n := by
  intro h
  have hread := ByteCodec.readDigits_decimal n
  rw [← h] at hread
  cases hread

theorem guard_bind_eq_some {α : Type} {p : Prop} [Decidable p] {x : Option α} {a : α} :
    (guard p : Option Unit).bind (fun _ => x) = some a ↔ p ∧ x = some a := by
  by_cases hp : p
  · simp [guard, hp]
  · simp [guard, hp]

/-- The scan takes an entry for the payment just if it shows an exact one. -/
theorem paidBy_eq_some (hshows : entry.Shows t) :
    paidBy terms entry = some hash ↔ Exact terms t ∧ entry.showsAmount ∧ t.hash = hash := by
  obtain ⟨⟨tx, hbody, htype, hdest, htag, hamount, hhash⟩, hresult⟩ := hshows
  simp only [paidBy, hbody, hresult, Option.bind_eq_bind, Option.bind_some, hhash,
    guard_bind_eq_some, Option.some.injEq]
  constructor
  · rintro ⟨hpayment, hto, htagged, htext, hsuccess, rfl⟩
    have ht : t.transactionType = "Payment" := htype.symm.trans hpayment
    rcases hamount with hnone | hsome
    · rw [hnone] at htext
      exact absurd htext (undefined_ne_decimal _)
    · rw [hsome, amountString_eq_decimal] at htext
      refine ⟨⟨ht, hsuccess, ?_, htag.symm.trans htagged, htext⟩, ⟨tx, hbody, ?_⟩, rfl⟩
      · exact Option.some.inj ((hdest ht).symm.trans hto)
      · rw [hsome]
        rfl
  · rintro ⟨hexact, ⟨tx', hbody', hshown⟩, rfl⟩
    obtain rfl := Option.some.inj (hbody.symm.trans hbody')
    refine ⟨htype.trans hexact.payment, ?_, htag.trans hexact.tag, ?_, hexact.success, rfl⟩
    · rw [hdest hexact.payment, hexact.destination]
    · rcases hamount with hnone | hsome
      · rw [hnone] at hshown
        cases hshown
      · rw [hsome, amountString_eq_decimal]
        exact hexact.amount

/-- The scan takes this entry for the payment of what is owed. -/
structure Listing.Taken (terms : MatchTerms) (l : Listing) : Prop where
  owed : Exact terms l.transaction
  shown : l.entry.showsAmount

/-- What a status request reports when the response has come. -/
def reportOn (terms : MatchTerms) (listings : List Listing) : Option Bytes32 :=
  (listings.map Listing.entry).findSome? (paidBy terms)

theorem paidBy_eq_none : paidBy terms l.entry = none ↔ ¬ l.Taken terms := by
  rw [Option.eq_none_iff_forall_ne_some]
  constructor
  · intro h htaken
    exact h _ ((paidBy_eq_some l.shows).mpr ⟨htaken.owed, htaken.shown, rfl⟩)
  · intro h hash hpaid
    obtain ⟨hexact, hshown, _⟩ := (paidBy_eq_some l.shows).mp hpaid
    exact h ⟨hexact, hshown⟩

theorem reportOn_eq_some :
    reportOn terms listings = some hash ↔ ∃ before l rest, listings = before ++ l :: rest ∧
      l.Taken terms ∧ l.transaction.hash = hash ∧ ∀ l' ∈ before, ¬ l'.Taken terms := by
  rw [reportOn, List.findSome?_map, List.findSome?_eq_some_iff]
  constructor
  · rintro ⟨before, l, rest, hlistings, hpaid, hearlier⟩
    obtain ⟨hexact, hshown, hhash⟩ := (paidBy_eq_some l.shows).mp hpaid
    exact ⟨before, l, rest, hlistings, ⟨hexact, hshown⟩, hhash,
      fun l' hl' => paidBy_eq_none.mp (hearlier l' hl')⟩
  · rintro ⟨before, l, rest, hlistings, htaken, hhash, hearlier⟩
    exact ⟨before, l, rest, hlistings, (paidBy_eq_some l.shows).mpr ⟨htaken.owed, htaken.shown, hhash⟩,
      fun l' hl' => paidBy_eq_none.mpr (hearlier l' hl')⟩

end Scan

section Stores

variable {store : MatchStore} {matchId id : Bytes32} {now : Nat} {record : MatchRecord}

theorem getMatchRecord_stored (h : (getMatchRecord store matchId now).2 id = some record) :
    store id = some record := by
  unfold getMatchRecord at h
  cases hfound : store matchId with
  | none =>
    rw [hfound] at h
    exact h
  | some found =>
    rw [hfound] at h
    by_cases hage : now - found.createdAt > recordTtlMs
    · simp only [if_pos hage] at h
      by_cases hid : id = matchId
      · subst hid
        simp at h
      · simpa only [Function.update_of_ne hid] using h
    · simpa only [if_neg hage] using h

theorem getMatchRecord_found (h : (getMatchRecord store matchId now).1 = some record) :
    store matchId = some record := by
  unfold getMatchRecord at h
  cases hfound : store matchId with
  | none =>
    rw [hfound] at h
    cases h
  | some found =>
    rw [hfound] at h
    by_cases hage : now - found.createdAt > recordTtlMs
    · simp only [if_pos hage] at h
      cases h
    · simpa only [if_neg hage] using h

/-- Writing a payment down leaves every record its terms. -/
theorem recordMatchPayment_stored {hash : Bytes32}
    (h : recordMatchPayment store matchId hash id = some record) :
    ∃ old, store id = some old ∧ record.toMatchTerms = old.toMatchTerms ∧
      (record.xrplTx = old.xrplTx ∨ (id = matchId ∧ record.xrplTx = some hash)) := by
  unfold recordMatchPayment at h
  cases hfound : store matchId with
  | none =>
    rw [hfound] at h
    exact ⟨record, h, rfl, .inl rfl⟩
  | some found =>
    rw [hfound] at h
    by_cases hid : id = matchId
    · subst hid
      simp only [Function.update_self, Option.some.injEq] at h
      subst h
      exact ⟨found, hfound, rfl, .inr ⟨rfl, rfl⟩⟩
    · simp only [Function.update_of_ne hid] at h
      exact ⟨record, h, rfl, .inl rfl⟩

end Stores

namespace MakerDesk

/-- What is owed for the match, as its lock said. -/
def Terms (events : List MakerEvent) (matchId : Bytes32) (terms : MatchTerms) : Prop :=
  ∃ maker, .matched matchId maker terms ∈ events

def paymentOf (matchId : Bytes32) (terms : MatchTerms) : XrplPayment where
  matchId := matchId
  takerAddress := terms.xrplDestination
  amountDrops := terms.xrpDrops
  destinationTag := terms.destinationTag

variable (s₀ : MakerDesk)

/-- A payment of the server is validated, in a ledger closed at that time. -/
def Validated (p : XrplPayment) (hash : Bytes32) (closeTime : Nat) (before : List MakerEvent)
    (e : MakerEvent) : Prop :=
  ∃ k sent, e = .validated k hash closeTime ∧ (s₀.after before).paying[k]? = some sent ∧
    sent.toXrplPayment = p

/-- The transaction is in a response, or the server sent it. -/
inductive Brought (events : List MakerEvent) (t : XrpLedger.Transaction) : Prop
  | listed (k : Nat) (listings : List Listing) (l : Listing) (hevent : .listed k listings ∈ events)
      (hmem : l ∈ listings) (ht : l.transaction = t)
  | sent (p : XrplPayment) (hash : Bytes32) (closeTime : Nat)
      (hevent : Occurred (Validated s₀ p hash closeTime) events) (ht : p.delivered hash closeTime = t)

/-- A response to a status request for the match from which the scan takes this hash. -/
def Scanned (matchId hash : Bytes32) (before : List MakerEvent) (e : MakerEvent) : Prop :=
  ∃ k listings record, e = .listed k listings ∧
    (s₀.after before).polling[k]? = some (matchId, record) ∧
    reportOn record.toMatchTerms listings = some hash

/-- A payment that the server has sent for the match is validated under this hash. -/
def Paid (matchId hash : Bytes32) (before : List MakerEvent) (e : MakerEvent) : Prop :=
  ∃ p closeTime, Validated s₀ p hash closeTime before e ∧ p.matchId = matchId

/-- How a hash comes to be written down for a match. -/
def Noted (events : List MakerEvent) (matchId hash : Bytes32) : Prop :=
  Occurred (Scanned s₀ matchId hash) events ∨ Occurred (Paid s₀ matchId hash) events

/-- All that the server holds for a match is of its terms, every hash noted for it. -/
structure Founded (events : List MakerEvent) (s : MakerDesk) : Prop where
  stored : ∀ matchId record, s.matchStore matchId = some record →
    Terms events matchId record.toMatchTerms ∧
      ∀ hash ∈ record.xrplTx, Noted s₀ events matchId hash
  paying : ∀ p ∈ s.paying, ∃ terms, Terms events p.matchId terms ∧
    p.toXrplPayment = paymentOf p.matchId terms
  confirming : ∀ c ∈ s.confirming, Noted s₀ events c.1 c.2
  polling : ∀ c ∈ s.polling, Terms events c.1 c.2.toMatchTerms
  reports : ∀ r ∈ s.reports, ∀ hash ∈ r.xrplTx, Noted s₀ events r.matchId hash

variable {s₀} {events : List MakerEvent} {s : MakerDesk} {matchId hash : Bytes32}

theorem Terms.append {terms : MatchTerms} (h : Terms events matchId terms) (rest : List MakerEvent) :
    Terms (events ++ rest) matchId terms := by
  obtain ⟨maker, hmem⟩ := h
  exact ⟨maker, List.mem_append_left _ hmem⟩

theorem Noted.concat (h : Noted s₀ events matchId hash) (e : MakerEvent) :
    Noted s₀ (events ++ [e]) matchId hash :=
  h.imp (fun h => h.concat e) fun h => h.concat e

namespace Founded

theorem concat (h : Founded s₀ events s) (e : MakerEvent) : Founded s₀ (events ++ [e]) s where
  stored matchId record hrecord := by
    obtain ⟨hterms, hhash⟩ := h.stored matchId record hrecord
    exact ⟨hterms.append [e], fun hash hmem => (hhash hash hmem).concat e⟩
  paying p hp := by
    obtain ⟨terms, hterms, hpayment⟩ := h.paying p hp
    exact ⟨terms, hterms.append [e], hpayment⟩
  confirming c hc := (h.confirming c hc).concat e
  polling c hc := (h.polling c hc).append [e]
  reports r hr hash hmem := (h.reports r hr hash hmem).concat e

/-- A read of the store can only forget. -/
theorem read (h : Founded s₀ events s) (matchId : Bytes32) :
    Founded s₀ events { s with matchStore := (getMatchRecord s.matchStore matchId s.now).2 } :=
  { h with stored := fun id record hrecord => h.stored id record (getMatchRecord_stored hrecord) }

theorem write (h : Founded s₀ events s) (hnoted : Noted s₀ events matchId hash) :
    Founded s₀ events { s with matchStore := recordMatchPayment s.matchStore matchId hash } :=
  { h with
    stored := by
      intro id record hrecord
      obtain ⟨old, hold, hterms, hsame | ⟨rfl, hnew⟩⟩ := recordMatchPayment_stored hrecord
      · rw [hterms, hsame]
        exact h.stored id old hold
      · rw [hterms, hnew]
        refine ⟨(h.stored id old hold).1, ?_⟩
        rintro _ ⟨⟩
        exact hnoted }

theorem report (h : Founded s₀ events s) {xrplTx : Option Bytes32}
    (hnoted : ∀ hash ∈ xrplTx, Noted s₀ events matchId hash) :
    Founded s₀ events { s with reports := s.reports ++ [⟨matchId, xrplTx⟩] } :=
  { h with
    reports := by
      intro r hr
      rcases List.mem_append.mp hr with hold | hnew
      · exact h.reports r hold
      · rw [List.mem_singleton.mp hnew]
        exact hnoted }

theorem unpoll (h : Founded s₀ events s) (k : Nat) :
    Founded s₀ events { s with polling := s.polling.eraseIdx k } :=
  { h with polling := fun c hc => h.polling c (List.mem_of_mem_eraseIdx hc) }

theorem matched (h : Founded s₀ events s) {terms : MatchTerms} (hterms : Terms events matchId terms) :
    Founded s₀ events (s.matched matchId terms) :=
  { h with
    stored := by
      intro id record hrecord
      change Function.update s.matchStore matchId _ id = some record at hrecord
      by_cases hid : id = matchId
      · subst hid
        rw [Function.update_self] at hrecord
        cases hrecord
        exact ⟨hterms, by rintro _ ⟨⟩⟩
      · rw [Function.update_of_ne hid] at hrecord
        exact h.stored id record hrecord }

theorem pay (h : Founded s₀ events s) (matchId : Bytes32) : Founded s₀ events (s.pay matchId) := by
  have hread := h.read matchId
  unfold MakerDesk.pay
  cases hfound : getMatchRecord s.matchStore matchId s.now with
  | mk record store =>
    rw [hfound] at hread
    cases record with
    | none => exact hread
    | some record =>
      have hstored := getMatchRecord_found (congrArg Prod.fst hfound)
      cases hslot : getCurrentMakerXrplAccount s.currentMakerXrplAccount s.now with
      | mk account slot =>
        cases account with
        | none => exact ⟨hread.stored, hread.paying, hread.confirming, hread.polling, hread.reports⟩
        | some account =>
          refine ⟨hread.stored, ?_, hread.confirming, hread.polling, hread.reports⟩
          intro p hp
          rcases List.mem_append.mp hp with hold | hnew
          · exact h.paying p hold
          · rw [List.mem_singleton.mp hnew]
            exact ⟨record.toMatchTerms, (h.stored matchId record hstored).1, rfl⟩

theorem validated (h : Founded s₀ events s) {k : Nat}
    (hevent : ∀ sent, s.paying[k]? = some sent → Noted s₀ events sent.matchId hash) :
    Founded s₀ events (s.validated k hash) := by
  unfold MakerDesk.validated
  cases hp : s.paying[k]? with
  | none => exact h
  | some p =>
    refine ⟨h.stored, fun p hp => h.paying p (List.mem_of_mem_eraseIdx hp), ?_, h.polling, h.reports⟩
    intro c hc
    rcases List.mem_append.mp hc with hold | hnew
    · exact h.confirming c hold
    · rw [List.mem_singleton.mp hnew]
      exact hevent p hp

theorem returned (h : Founded s₀ events s) (k : Nat) : Founded s₀ events (s.returned k) := by
  unfold MakerDesk.returned
  cases hc : s.confirming[k]? with
  | none => exact h
  | some c =>
    have hwritten := h.write (h.confirming c (List.mem_of_getElem? hc))
    exact ⟨hwritten.stored, h.paying, fun c hc => h.confirming c (List.mem_of_mem_eraseIdx hc),
      h.polling, h.reports⟩

theorem poll (h : Founded s₀ events s) (matchId : Bytes32) : Founded s₀ events (s.poll matchId) := by
  have hread := h.read matchId
  unfold MakerDesk.poll
  cases hfound : getMatchRecord s.matchStore matchId s.now with
  | mk record store =>
    rw [hfound] at hread
    cases record with
    | none => exact hread
    | some record =>
      obtain ⟨hterms, hhash⟩ := h.stored matchId record (getMatchRecord_found (congrArg Prod.fst hfound))
      cases hpaid : record.xrplTx with
      | some hash =>
        rw [hpaid] at hhash
        simp only [hpaid]
        exact hread.report hhash
      | none =>
        simp only [hpaid]
        refine ⟨hread.stored, hread.paying, hread.confirming, ?_, hread.reports⟩
        intro c hc
        rcases List.mem_append.mp hc with hold | hnew
        · exact h.polling c hold
        · rw [List.mem_singleton.mp hnew]
          exact hterms

theorem listed (h : Founded s₀ events s) {k : Nat} {listings : List Listing}
    (hevent : ∀ matchId record hash, s.polling[k]? = some (matchId, record) →
      reportOn record.toMatchTerms listings = some hash → Noted s₀ events matchId hash) :
    Founded s₀ events (s.listed k (listings.map Listing.entry)) := by
  unfold MakerDesk.listed
  cases hc : s.polling[k]? with
  | none => exact h
  | some c =>
    obtain ⟨matchId, record⟩ := c
    cases hscan : (listings.map Listing.entry).findSome? (paidBy record.toMatchTerms) with
    | some hash =>
      have hnoted := hevent matchId record hash hc hscan
      simp only [hscan]
      exact ((h.unpoll k).write hnoted).report (by rintro _ ⟨⟩; exact hnoted)
    | none =>
      simp only [hscan]
      exact (h.unpoll k).report (by rintro _ ⟨⟩)

theorem step (h : Founded s₀ events (s₀.after events)) (e : MakerEvent) :
    Founded s₀ (events ++ [e]) ((s₀.after events).step e) := by
  have hconcat := h.concat e
  have hlast : e ∈ events ++ [e] := List.mem_append_right _ (List.mem_singleton_self e)
  cases e with
  | elapse ms => exact { hconcat with }
  | xrplAccount maker account => exact { hconcat with }
  | matched matchId maker terms => exact hconcat.matched ⟨maker, hlast⟩
  | pay matchId => exact hconcat.pay matchId
  | validated k hash closeTime =>
    exact hconcat.validated fun sent hsent =>
      .inr (Occurred.last ⟨_, closeTime, ⟨k, sent, rfl, hsent, rfl⟩, rfl⟩)
  | refused k =>
    exact { hconcat with paying := fun p hp => hconcat.paying p (List.mem_of_mem_eraseIdx hp) }
  | returned k => exact hconcat.returned k
  | poll matchId => exact hconcat.poll matchId
  | listed k listings =>
    exact hconcat.listed fun matchId record hash hpolling hscan =>
      .inl (Occurred.last ⟨k, listings, record, rfl, hpolling, hscan⟩)
  | unlisted k => exact hconcat.unpoll k

end Founded

end MakerDesk

section Release

/-- The terms are those of the match on chain. -/
structure MatchTerms.Describes (P : Primitives) (m : Match) (terms : MatchTerms) : Prop where
  destination : P.keccak256 terms.xrplDestination = m.takerXrplAddressHash
  drops : terms.xrpDrops = m.xrpDrops
  tag : terms.destinationTag = m.destinationTag
  deadline : terms.paymentDeadline = m.paymentDeadline

/-- What `triggerMatchAndLock` takes from a `MatchLocked`. -/
def termsOf : WhisperDesk.Event → Option (Bytes32 × MatchTerms)
  | .matchLocked matchId _ _ _ xrpDrops destinationTag takerXrplAddress paymentDeadline _ _ _ =>
    some (matchId, ⟨takerXrplAddress, xrpDrops, destinationTag, paymentDeadline⟩)
  | _ => none

/-- The event of a `lock` tells the terms of the match that it has stored. -/
theorem describes_locked {P : Primitives} {d : DvPEscrow.Deployment} {tx : Tx d} {w w' : World}
    {value : Nat} {data sig : Bytes} (hcall : tx.call = .lock value data sig)
    (h : tx.exec P w = .ok w') :
    ∃ matchId terms, (∃ e ∈ w'.log, termsOf e = some (matchId, terms)) ∧
      terms.Describes P (w'.escrow.matchOf matchId) := by
  rw [Tx.exec_lock hcall] at h
  obtain ⟨mi, fee, mid18, ts, v, _, hfrozen, rfl⟩ := lock_frozen h
  obtain ⟨new, hnew, _⟩ := hfrozen.log
  have hmatch : v.escrow.matchOf mi.matchId =
      DvPEscrow.lockedMatch P d tx.env mi mid18 w.escrow.nextDestinationTag :=
    (congrFun hfrozen.matchOf mi.matchId).trans (Function.update_self ..)
  let m := DvPEscrow.lockedMatch P d tx.env mi mid18 w.escrow.nextDestinationTag
  let locked : WhisperDesk.Event := .matchLocked mi.matchId mi.taker mi.maker mi.amountFxrp m.xrpDrops
    m.destinationTag mi.takerXrplAddress m.paymentDeadline m.refundAfter mi.priceUsd18 mid18
  have hlog : locked ∈ v.log := by
    rw [hnew]
    exact List.mem_append_right new List.mem_cons_self
  refine ⟨mi.matchId, _, ⟨locked, hlog, rfl⟩, ?_⟩
  rw [hmatch]
  exact ⟨rfl, rfl, rfl, rfl⟩

variable {P : Primitives} {m : Match} {terms : MatchTerms} {t : XrpLedger.Transaction}

/-- A successful payment of the match's drops, to its destination and with its tag. -/
structure PaysExactly (P : Primitives) (m : Match) (t : XrpLedger.Transaction) : Prop where
  payment : t.transactionType = "Payment"
  success : t.transactionResult = "tesSUCCESS"
  receiver : P.keccak256 t.destination = m.takerXrplAddressHash
  tag : t.destinationTag = some m.destinationTag
  amount : t.amount = .drops m.xrpDrops

theorem Exact.paysExactly (h : Exact terms t) (hterms : terms.Describes P m) : PaysExactly P m t where
  payment := h.payment
  success := h.success
  receiver := by rw [h.destination, hterms.destination]
  tag := by rw [h.tag, hterms.tag]
  amount := by rw [h.amount, hterms.drops]

/-- All that is owed has arrived, within the window. -/
structure InFull (m : Match) (t : XrpLedger.Transaction) : Prop where
  amount_pos : 0 < t.deliveredDrops
  amount : m.xrpDrops ≤ t.deliveredDrops
  afterLock : m.lockedAt ≤ t.closeTime
  beforeDeadline : t.closeTime ≤ m.paymentDeadline

/-- Arrived in full and in time, it is one that `release` accepts. -/
theorem PaysExactly.pays_iff (h : PaysExactly P m t) : Pays P m t ↔ InFull m t := by
  constructor
  · intro hpays
    exact ⟨hpays.amount_pos, hpays.amount, hpays.afterLock, hpays.beforeDeadline⟩
  · intro hfull
    exact ⟨h.payment, h.success, h.receiver, h.tag, hfull.amount_pos, hfull.amount,
      hfull.afterLock, hfull.beforeDeadline⟩

/-- The first entry that is taken for the payment arrived in full and in time, and there is one
if `release` accepts any that is listed. -/
structure Detectable (P : Primitives) (m : Match) (terms : MatchTerms) (listings : List Listing) :
    Prop where
  first : ∀ before l rest, listings = before ++ l :: rest → (∀ l' ∈ before, ¬ l'.Taken terms) →
    l.Taken terms → InFull m l.transaction
  taken : (∃ l ∈ listings, Pays P m l.transaction) → ∃ l ∈ listings, l.Taken terms

theorem Listing.Taken.pays_iff {l : Listing} (h : l.Taken terms) (hterms : terms.Describes P m) :
    Pays P m l.transaction ↔ InFull m l.transaction :=
  (h.owed.paysExactly hterms).pays_iff

/-- Where the payment can be told, what is reported is one that `release` accepts. -/
theorem Detectable.pays {listings : List Listing} {hash : Bytes32} (hterms : terms.Describes P m)
    (h : Detectable P m terms listings) (hreport : reportOn terms listings = some hash) :
    ∃ l ∈ listings, l.transaction.hash = hash ∧ Pays P m l.transaction := by
  obtain ⟨before, l, rest, rfl, htaken, hhash, hearlier⟩ := reportOn_eq_some.mp hreport
  have hfull := h.first before l rest rfl hearlier htaken
  exact ⟨l, List.mem_append_right _ List.mem_cons_self, hhash, (htaken.pays_iff hterms).mpr hfull⟩

end Release

section Claimed

variable (P : Primitives)

end Claimed

/-! The sample match, open from 1000 to 2440, and one payment listed for it. -/
namespace SampleMaker

def lockedMatch : Match :=
  (after Sample.primitives Sample.world (Sample.opening 1000 7)).escrow.matchOf 7

def terms : MatchTerms := ⟨Sample.takersAddress, 5025000000, 1, 2440⟩

theorem describes : terms.Describes Sample.primitives lockedMatch :=
  ⟨by decide +kernel, by decide +kernel, by decide +kernel, by decide +kernel⟩

def payment (drops deliveredDrops closeTime : Nat) : XrpLedger.Transaction where
  hash := 0xAA
  transactionType := "Payment"
  destination := Sample.takersAddress
  destinationTag := some 1
  amount := .drops drops
  transactionResult := "tesSUCCESS"
  deliveredDrops := deliveredDrops
  closeTime := closeTime

/-- Just what is owed, in time. -/
def owed : XrpLedger.Transaction := payment 5025000000 5025000000 1500

def polled : List MakerEvent := [.matched 7 3 terms, .poll 7]

def run (l : Listing) : List MakerEvent := polled ++ [.listed 0 [l]]

def account : FreshXrplAccount := ⟨Sample.ascii "rPT1Sjq2YGrBMTttX4GZHjKu9dyfzbpAYe", [3]⟩

end SampleMaker

end WhisperDesk.Web
