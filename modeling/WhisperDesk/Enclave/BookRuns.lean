import WhisperDesk.Enclave.Match

/-!
# Runs of the book

The four operations of the book in any order, from an empty one, with whatever
times, keys, snapshots and signers they are called with. A failed call leaves
the book as it was. What rests on an RFQ is told by what was submitted on it
since it came into the book, and the intake numbers by what was accepted.
-/
namespace WhisperDesk.Matcher

open Function (update)
open Go
open Reverting
open Selection

/-- What a maker signs of a quote. -/
structure Submission where
  rfqID : Bytes32
  maker : Address
  priceE18 : Int
  maxFxrpRaw : UInt64
  nonce : UInt64
  deriving DecidableEq

def Submission.rank (s : Submission) : Nat := s.nonce.toNat

def Submission.quote (s : Submission) (receivedAt : Time) (seq : UInt64) : Quote :=
  ⟨s.rfqID, s.maker, s.priceE18, s.maxFxrpRaw, s.nonce, receivedAt, seq⟩

def Quote.submission (q : Quote) : Submission :=
  ⟨q.rfqID, q.maker, q.priceE18, q.maxFxrpRaw, q.nonce⟩

/-- One call of the book, with all that it is given. -/
inductive Op where
  | addRFQ (cfg : Config) (id : Bytes32) (taker : Address) (fxrpAmountRaw : UInt64)
      (limitPriceE18 : Option Int) (xrplAddress : GoString) (now : Time) (windowSec ttlSec : Int64)
  | upsertQuote (s : Submission) (now : Time)
  | matchWithSignFunc (cfg : Config) (escrow : Address)
      (sign : MatchInstruction → Except Error SignedMatch) (order : MapOrder) (rfqID : Bytes32)
      (snap : ChainSnapshot) (now : Time)
  | gc (now : Time)

section Runs

variable (L : Libraries)

def Op.exec : Op → SealedBook → Except Error SealedBook
  | .addRFQ cfg id taker fxrpAmountRaw limitPriceE18 xrplAddress now windowSec ttlSec, b =>
    (b.addRFQ cfg id taker fxrpAmountRaw limitPriceE18 xrplAddress now windowSec ttlSec).map Prod.snd
  | .upsertQuote s now, b =>
    (b.upsertQuote s.rfqID s.maker s.priceE18 s.maxFxrpRaw s.nonce now).map Prod.snd
  | .matchWithSignFunc cfg escrow sign order rfqID snap now, b =>
    (Matcher.matchWithSignFunc L b cfg escrow sign order rfqID snap now).map Prod.snd
  | .gc now, b => .ok (b.gc now)

/-- The book after a list of calls. -/
def bookAfter (epoch : UInt64) (ops : List Op) : SealedBook :=
  run (Op.exec L) (SealedBook.new epoch) ops

/-- The quote that a call puts into the book. -/
def Op.accepted (op : Op) (b : SealedBook) : Option Quote :=
  match op with
  | .upsertQuote s now =>
    match op.exec L b with
    | .ok _ => some (s.quote now (b.nextSeq + 1))
    | .error _ => none
  | _ => none

/-- The quotes accepted on the way, in the order of their acceptance. -/
def acceptedFrom (b : SealedBook) : List Op → List Quote
  | [] => []
  | op :: ops => (op.accepted L b).toList ++ acceptedFrom (settle b (op.exec L b)) ops

def accepted (epoch : UInt64) (ops : List Op) : List Quote :=
  acceptedFrom L (SealedBook.new epoch) ops

variable {L} {b b' : SealedBook} {epoch : UInt64}

theorem bookAfter_concat (ops : List Op) (op : Op) :
    bookAfter L epoch (ops ++ [op]) =
      settle (bookAfter L epoch ops) (op.exec L (bookAfter L epoch ops)) :=
  run_concat _ _ _ _

theorem acceptedFrom_concat (ops : List Op) (op : Op) :
    acceptedFrom L b (ops ++ [op]) =
      acceptedFrom L b ops ++ (op.accepted L (run (Op.exec L) b ops)).toList := by
  induction ops generalizing b with
  | nil => simp [acceptedFrom, run]
  | cons first ops ih => rw [List.cons_append, acceptedFrom, ih, acceptedFrom, List.append_assoc, run_cons]

theorem accepted_concat (ops : List Op) (op : Op) :
    accepted L epoch (ops ++ [op]) =
      accepted L epoch ops ++ (op.accepted L (bookAfter L epoch ops)).toList :=
  acceptedFrom_concat ops op

/-- Everything a successful call can do. -/
inductive Op.Effect (b : SealedBook) : Op → SealedBook → Prop
  | added {cfg id taker fxrpAmountRaw limitPriceE18 xrplAddress now windowSec ttlSec} (rfq : RFQ)
      (hnew : b.rfqs id = none) :
      Effect b
        (.addRFQ cfg id taker fxrpAmountRaw limitPriceE18 xrplAddress now windowSec ttlSec)
        { b with
          rfqs := update b.rfqs id (some rfq), quotes := update b.quotes id (some ByMaker.empty) }
  | quoted {s now} (byMaker : ByMaker) (hquotes : b.quotes s.rfqID = some byMaker)
      (hnonce : ∀ q, byMaker.lookup s.maker = some q → q.nonce < s.nonce) :
      Effect b (.upsertQuote s now)
        { b with
          quotes := update b.quotes s.rfqID (some (byMaker.insert (s.quote now (b.nextSeq + 1))))
          nextSeq := b.nextSeq + 1 }
  | replayed {cfg escrow sign order rfqID snap now} :
      Effect b (.matchWithSignFunc cfg escrow sign order rfqID snap now) b
  | matched {cfg escrow sign order rfqID snap now} (o : MatchOutcome) :
      Effect b (.matchWithSignFunc cfg escrow sign order rfqID snap now) (b.markMatched rfqID o)
  | swept {now} : Effect b (.gc now) (b.gc now)

theorem map_snd_eq_ok {ε α β : Type} {x : Except ε (α × β)} {y : β} :
    x.map Prod.snd = .ok y ↔ ∃ a, x = .ok (a, y) := by
  cases x with
  | error e => simp [Except.map]
  | ok v => simp [Except.map, Prod.ext_iff]

theorem effect_of_ok {op : Op} (h : op.exec L b = .ok b') : op.Effect b b' := by
  cases op with
  | addRFQ cfg id taker fxrpAmountRaw limitPriceE18 xrplAddress now windowSec ttlSec =>
    obtain ⟨rfq, hadd⟩ := map_snd_eq_ok.mp h
    obtain ⟨_, _, hnew, hrfq, rfl⟩ := addRFQ_eq_ok.mp hadd
    exact .added rfq hnew
  | upsertQuote s now =>
    obtain ⟨replaced, hquote⟩ := map_snd_eq_ok.mp h
    obtain ⟨byMaker, hquotes, hnonce, _, rfl⟩ := upsertQuote_eq_ok.mp hquote
    exact .quoted byMaker hquotes hnonce
  | matchWithSignFunc cfg escrow sign order rfqID snap now =>
    obtain ⟨o, hmatch⟩ := map_snd_eq_ok.mp h
    rcases matchWithSignFunc_eq_ok.mp hmatch with ⟨_, rfl⟩ | ⟨_, _, _, _, _, _, _, rfl⟩
    · exact .replayed
    · exact .matched o
  | gc now =>
    obtain rfl := Except.ok.inj h
    exact .swept

/-- What holds of the book after every run, told with the quotes accepted on the way. -/
structure Kept (quotes : List Quote) (b : SealedBook) : Prop where
  keys : ∀ id, (b.quotes id).isSome = (b.rfqs id).isSome
  resting : ∀ id q, q ∈ b.resting id → q.rfqID = id ∧ q ∈ quotes
  count : b.nextSeq = UInt64.ofNat quotes.length
  numbered : quotes.map Quote.seq = (List.range quotes.length).map fun i => UInt64.ofNat (i + 1)

theorem kept_new : Kept [] (SealedBook.new epoch) where
  keys _ := rfl
  resting _ _ hq := by cases hq
  count := rfl
  numbered := rfl

/-- A call that accepts no quote: what rests afterwards rested before. -/
theorem Kept.same {quotes : List Quote} (h : Kept quotes b)
    (hkeys : ∀ id, (b'.quotes id).isSome = (b'.rfqs id).isSome)
    (hresting : ∀ id q, q ∈ b'.resting id → q ∈ b.resting id) (hseq : b'.nextSeq = b.nextSeq) :
    Kept quotes b' where
  keys := hkeys
  resting id q hq := h.resting id q (hresting id q hq)
  count := hseq.trans h.count
  numbered := h.numbered

theorem Kept.quoted {quotes : List Quote} (h : Kept quotes b) {s : Submission} {now : Time}
    {byMaker : ByMaker} (hquotes : b.quotes s.rfqID = some byMaker) :
    Kept (quotes ++ [s.quote now (b.nextSeq + 1)])
      { b with
        quotes := update b.quotes s.rfqID (some (byMaker.insert (s.quote now (b.nextSeq + 1))))
        nextSeq := b.nextSeq + 1 } where
  keys id := by
    by_cases hid : id = s.rfqID
    · subst id
      have hkey := h.keys s.rfqID
      rw [hquotes] at hkey
      simpa using hkey
    · simpa [Function.update_of_ne hid] using h.keys id
  resting id q hq := by
    by_cases hid : id = s.rfqID
    · subst id
      simp only [SealedBook.resting, Function.update_self, Option.map_some, Option.getD_some] at hq
      rcases ByMaker.mem_insert hq with rfl | hold
      · exact ⟨rfl, List.mem_append_right _ List.mem_cons_self⟩
      · have hq' : q ∈ b.resting s.rfqID := by
          rw [SealedBook.resting, hquotes]
          exact hold
        obtain ⟨hrfq, hmem⟩ := h.resting s.rfqID q hq'
        exact ⟨hrfq, List.mem_append_left _ hmem⟩
    · have hq' : q ∈ b.resting id := by
        simpa only [SealedBook.resting, Function.update_of_ne hid] using hq
      obtain ⟨hrfq, hmem⟩ := h.resting id q hq'
      exact ⟨hrfq, List.mem_append_left _ hmem⟩
  count := by
    rw [h.count, List.length_append, List.length_singleton, UInt64.ofNat_add]
    rfl
  numbered := by
    have hseq : (s.quote now (b.nextSeq + 1)).seq = UInt64.ofNat (quotes.length + 1) := by
      rw [UInt64.ofNat_add, ← h.count]
      rfl
    rw [List.map_append, h.numbered, List.length_append, List.length_singleton, List.range_succ,
      List.map_append, List.map_singleton, List.map_singleton, hseq]

theorem Kept.added {quotes : List Quote} (h : Kept quotes b) (id : Bytes32) (rfq : RFQ) :
    Kept quotes
      { b with
        rfqs := update b.rfqs id (some rfq), quotes := update b.quotes id (some ByMaker.empty) } := by
  apply h.same
  · intro id'
    by_cases hid : id' = id
    · subst id'
      simp
    · simpa [Function.update_of_ne hid] using h.keys id'
  · intro id' q hq
    by_cases hid : id' = id
    · subst id'
      simp [SealedBook.resting, ByMaker.empty] at hq
    · simpa only [SealedBook.resting, Function.update_of_ne hid] using hq
  · rfl

theorem Kept.matched {quotes : List Quote} (h : Kept quotes b) (id : Bytes32) (o : MatchOutcome) :
    Kept quotes (b.markMatched id o) := by
  apply h.same
  · intro id'
    rw [markMatched_quotes, markMatched_rfqs, h.keys id']
    split
    · rename_i hid
      rw [hid, Option.isSome_map]
    · rfl
  · intro id' q hq
    rwa [SealedBook.resting, markMatched_quotes] at hq
  · unfold SealedBook.markMatched
    cases b.rfqs id <;> rfl

theorem Kept.swept {quotes : List Quote} (h : Kept quotes b) (now : Time) :
    Kept quotes (b.gc now) := by
  apply h.same
  · intro id
    have hkey := h.keys id
    simp only [SealedBook.gc]
    cases hrfq : b.rfqs id with
    | none =>
      rw [hrfq] at hkey
      simpa using hkey
    | some rfq =>
      rw [hrfq] at hkey
      by_cases hold : rfq.expiresAt.before now = true
      · simp [hold]
      · simpa [hold] using hkey
  · intro id q hq
    simp only [SealedBook.resting, SealedBook.gc] at hq
    split at hq
    · cases hq
    · exact hq
  · rfl

theorem Kept.step {quotes : List Quote} (h : Kept quotes b) (op : Op) :
    Kept (quotes ++ (op.accepted L b).toList) (settle b (op.exec L b)) := by
  cases hexec : op.exec L b with
  | error e =>
    have hnone : op.accepted L b = none := by
      cases op with
      | upsertQuote s now => simp only [Op.accepted, hexec]
      | addRFQ | matchWithSignFunc | gc => rfl
    rw [hnone, Option.toList_none, List.append_nil]
    exact h
  | ok b' =>
    rw [settle_ok]
    cases effect_of_ok hexec with
    | quoted byMaker hquotes hnonce =>
      simp only [Op.accepted, hexec, Option.toList_some]
      exact h.quoted hquotes
    | added rfq hnew =>
      simp only [Op.accepted, Option.toList_none, List.append_nil]
      exact h.added _ rfq
    | replayed =>
      simp only [Op.accepted, Option.toList_none, List.append_nil]
      exact h
    | matched o =>
      simp only [Op.accepted, Option.toList_none, List.append_nil]
      exact h.matched _ o
    | swept =>
      simp only [Op.accepted, Option.toList_none, List.append_nil]
      exact h.swept _

variable (L epoch) in
theorem kept_bookAfter (ops : List Op) : Kept (accepted L epoch ops) (bookAfter L epoch ops) := by
  induction ops using List.reverseRecOn with
  | nil => exact kept_new
  | append_singleton ops op ih =>
    rw [bookAfter_concat, accepted_concat]
    exact ih.step op

/-- Below the wrap of the counter the intake numbers increase. -/
theorem Kept.increasing {quotes : List Quote} (h : Kept quotes b) (hlen : quotes.length < 2 ^ 64) :
    quotes.Pairwise fun q r => q.seq < r.seq := by
  have hnumbers : ((List.range quotes.length).map fun i => UInt64.ofNat (i + 1)).Pairwise (· < ·) := by
    rw [List.pairwise_map]
    apply List.pairwise_lt_range.imp_of_mem
    intro i j hi hj hij
    have hi' := List.mem_range.mp hi
    have hj' := List.mem_range.mp hj
    rw [UInt64.lt_iff_toNat_lt, UInt64.toNat_ofNat_of_lt' (show i + 1 < 2 ^ 64 by omega),
      UInt64.toNat_ofNat_of_lt' (show j + 1 < 2 ^ 64 by omega)]
    omega
  rw [← h.numbered, List.pairwise_map] at hnumbers
  exact hnumbers

theorem Kept.seq_inj {quotes : List Quote} (h : Kept quotes b) (hlen : quotes.length < 2 ^ 64)
    {q r : Quote} (hq : q ∈ quotes) (hr : r ∈ quotes) (hseq : q.seq = r.seq) : q = r := by
  have hnodup : (quotes.map Quote.seq).Nodup :=
    List.pairwise_map.mpr ((h.increasing hlen).imp fun hlt heq => UInt64.ne_of_lt hlt heq)
  exact List.inj_on_of_nodup_map hnodup hq hr hseq

/-- The quote of one maker that rests on an RFQ. -/
def SealedBook.quoteOf (b : SealedBook) (id : Bytes32) (maker : Address) : Option Quote :=
  (b.quotes id).bind fun byMaker => byMaker.lookup maker

/-- What a maker submitted on an RFQ, accepted or not, in order of arrival. -/
def submissions (id : Bytes32) (maker : Address) (ops : List Op) : List Submission :=
  ops.filterMap fun op =>
    match op with
    | .upsertQuote s _ => if s.rfqID = id ∧ s.maker = maker then some s else none
    | _ => none

variable (L epoch) in
/-- `add` brought the RFQ into the book after `before`; no sweep in `since` has
taken it out. -/
structure Lifetime (before : List Op) (add : Op) (since : List Op) (id : Bytes32) : Prop where
  fresh : (bookAfter L epoch before).rfqs id = none
  live : ∀ part, part <+: since → (bookAfter L epoch (before ++ add :: part)).rfqs id ≠ none

variable {before since : List Op} {add op : Op} {id : Bytes32} {maker : Address}

theorem Lifetime.part (h : Lifetime L epoch before add since id) {part : List Op}
    (hpart : part <+: since) : Lifetime L epoch before add part id :=
  ⟨h.fresh, fun part' hpart' => h.live part' (hpart'.trans hpart)⟩

@[simp] theorem quoteOf_markMatched (o : MatchOutcome) (rfqID : Bytes32) :
    (b.markMatched rfqID o).quoteOf id maker = b.quoteOf id maker := by
  rw [SealedBook.quoteOf, markMatched_quotes, SealedBook.quoteOf]

/-- A sweep that leaves the RFQ leaves the quotes on it. -/
theorem quoteOf_gc {now : Time} (hlive : (b.gc now).rfqs id ≠ none) :
    (b.gc now).quoteOf id maker = b.quoteOf id maker := by
  simp only [SealedBook.gc] at hlive
  simp only [SealedBook.quoteOf, SealedBook.gc]
  cases hrfq : b.rfqs id with
  | none =>
    rw [hrfq] at hlive
    exact absurd rfl hlive
  | some rfq =>
    rw [hrfq, Option.filter] at hlive
    by_cases hold : rfq.expiresAt.before now = true
    · simp [hold] at hlive
    · simp [hold]

/-- An RFQ that was not there comes with no quote on it. -/
theorem quoteOf_fresh (hkeys : ∀ id, (b.quotes id).isSome = (b.rfqs id).isSome)
    (hfresh : b.rfqs id = none) (hlive : (settle b (op.exec L b)).rfqs id ≠ none) :
    (settle b (op.exec L b)).quoteOf id maker = none := by
  have hnone : b.quoteOf id maker = none := by
    have hkey := hkeys id
    rw [hfresh, Option.isSome_none, Option.isSome_eq_false_iff, Option.isNone_iff_eq_none] at hkey
    rw [SealedBook.quoteOf, hkey, Option.bind_none]
  cases hexec : op.exec L b with
  | error e => exact hnone
  | ok b' =>
    rw [hexec, settle_ok] at hlive
    rw [settle_ok]
    cases effect_of_ok hexec with
    | @added _ id' _ _ _ _ _ _ _ rfq hnew =>
      by_cases heq : id = id'
      · subst id
        simp [SealedBook.quoteOf, ByMaker.empty, ByMaker.lookup]
      · simpa only [SealedBook.quoteOf, Function.update_of_ne heq] using hnone
    | quoted byMaker hquotes hnonce => exact absurd hfresh hlive
    | replayed => exact hnone
    | matched o =>
      rw [quoteOf_markMatched]
      exact hnone
    | swept =>
      rw [quoteOf_gc hlive]
      exact hnone

theorem quoteOf_insert (byMaker : ByMaker) (q : Quote) (n : UInt64) :
    ({ b with
        quotes := update b.quotes id (some (byMaker.insert q)), nextSeq := n } : SealedBook).quoteOf
      id maker = if q.maker = maker then some q else byMaker.lookup maker := by
  simp only [SealedBook.quoteOf, Function.update_self, Option.bind_some, ByMaker.lookup_insert]

/-- A call that is no submission on the pair changes nothing of its quote. -/
theorem quoteOf_other (hrfq : b.rfqs id ≠ none) (hlive : (settle b (op.exec L b)).rfqs id ≠ none)
    (hother : ∀ s now, op = .upsertQuote s now → ¬(s.rfqID = id ∧ s.maker = maker)) :
    (settle b (op.exec L b)).quoteOf id maker = b.quoteOf id maker := by
  cases hexec : op.exec L b with
  | error e => rfl
  | ok b' =>
    rw [hexec, settle_ok] at hlive
    rw [settle_ok]
    cases effect_of_ok hexec with
    | @added _ id' _ _ _ _ _ _ _ rfq hnew =>
      have hne : id ≠ id' := by
        rintro rfl
        exact hrfq hnew
      simp only [SealedBook.quoteOf, Function.update_of_ne hne]
    | @quoted s now byMaker hquotes hnonce =>
      by_cases heq : id = s.rfqID
      · subst id
        have hne : s.maker ≠ maker := fun hmaker => hother s now rfl ⟨rfl, hmaker⟩
        rw [quoteOf_insert, SealedBook.quoteOf, hquotes]
        exact if_neg hne
      · simp only [SealedBook.quoteOf, Function.update_of_ne heq]
    | replayed => rfl
    | matched o => rw [quoteOf_markMatched]
    | swept => rw [quoteOf_gc hlive]

theorem exec_upsertQuote {s : Submission} {byMaker : ByMaker} (now : Time)
    (hquotes : b.quotes s.rfqID = some byMaker)
    (hnonce : ∀ q, byMaker.lookup s.maker = some q → q.nonce < s.nonce) :
    (Op.upsertQuote s now).exec L b = .ok
      { b with
        quotes := update b.quotes s.rfqID (some (byMaker.insert (s.quote now (b.nextSeq + 1))))
        nextSeq := b.nextSeq + 1 } :=
  map_snd_eq_ok.mpr ⟨_, upsertQuote_eq_ok.mpr ⟨byMaker, hquotes, hnonce, rfl, rfl⟩⟩

theorem upsertQuote_stale {s : Submission} {q : Quote} (now : Time)
    (hq : b.quoteOf s.rfqID s.maker = some q) (hle : s.nonce ≤ q.nonce) :
    b.upsertQuote s.rfqID s.maker s.priceE18 s.maxFxrpRaw s.nonce now = .error .staleNonce := by
  obtain ⟨byMaker, hquotes, hlookup⟩ := Option.bind_eq_some_iff.mp hq
  simp [SealedBook.upsertQuote, hquotes, hlookup, hle, orRevert, revertIf, bind, Except.bind]

/-- A submission replaces the quote of its maker just when its nonce is higher. -/
theorem quoteOf_submit (hkeys : ∀ id, (b.quotes id).isSome = (b.rfqs id).isSome) {s : Submission}
    {now : Time} (hrfq : b.rfqs s.rfqID ≠ none) :
    ((settle b ((Op.upsertQuote s now).exec L b)).quoteOf s.rfqID s.maker).map Quote.submission =
      upgrade Submission.rank ((b.quoteOf s.rfqID s.maker).map Quote.submission) s := by
  have hkey := hkeys s.rfqID
  rw [Option.isSome_iff_ne_none.mpr hrfq, Option.isSome_iff_exists] at hkey
  obtain ⟨byMaker, hquotes⟩ := hkey
  have hold : b.quoteOf s.rfqID s.maker = byMaker.lookup s.maker := by
    rw [SealedBook.quoteOf, hquotes, Option.bind_some]
  cases hlookup : byMaker.lookup s.maker with
  | none =>
    have hexec := exec_upsertQuote (L := L) now hquotes
      (fun q hq => by rw [hlookup] at hq; cases hq)
    rw [hexec, settle_ok, hold, hlookup, quoteOf_insert]
    exact congrArg (Option.map Quote.submission) (if_pos rfl)
  | some q =>
    have hupgrade : upgrade Submission.rank (some q.submission) s =
        if q.nonce < s.nonce then some s else some q.submission := rfl
    by_cases hlt : q.nonce < s.nonce
    · have hexec := exec_upsertQuote (L := L) now hquotes
        (fun q' hq' => by rw [hlookup] at hq'; rw [← Option.some.inj hq']; exact hlt)
      rw [hexec, settle_ok, hold, hlookup, Option.map_some, hupgrade, if_pos hlt,
        quoteOf_insert]
      exact congrArg (Option.map Quote.submission) (if_pos rfl)
    · have hstale := upsertQuote_stale now (hold.trans hlookup) (UInt64.not_lt.mp hlt)
      simp only [Op.exec, hstale, Except.map, settle, hold, hlookup, Option.map_some, hupgrade,
        if_neg hlt]

theorem quoteOf_step (hkeys : ∀ id, (b.quotes id).isSome = (b.rfqs id).isSome)
    (hrfq : b.rfqs id ≠ none) (hlive : (settle b (op.exec L b)).rfqs id ≠ none) :
    ((settle b (op.exec L b)).quoteOf id maker).map Quote.submission =
      (submissions id maker [op]).foldl (upgrade Submission.rank)
        ((b.quoteOf id maker).map Quote.submission) := by
  by_cases hsubmit : ∃ s now, op = .upsertQuote s now ∧ s.rfqID = id ∧ s.maker = maker
  · obtain ⟨s, now, rfl, rfl, rfl⟩ := hsubmit
    rw [quoteOf_submit hkeys hrfq]
    simp [submissions]
  · have hnone : submissions id maker [op] = [] := by
      cases op with
      | upsertQuote s now =>
        have hne : ¬(s.rfqID = id ∧ s.maker = maker) := fun h => hsubmit ⟨s, now, rfl, h⟩
        simp [submissions, hne]
      | addRFQ | matchWithSignFunc | gc => rfl
    rw [hnone, List.foldl_nil, quoteOf_other hrfq hlive]
    intro s now hop h
    exact hsubmit ⟨s, now, hop, h⟩

/-- What rests for a maker is its submission of the greatest nonce, the first of them
where several share it. -/
theorem Lifetime.quoteOf (h : Lifetime L epoch before add since id) :
    ((bookAfter L epoch (before ++ add :: since)).quoteOf id maker).map Quote.submission =
      (submissions id maker since).argmax Submission.rank := by
  induction since using List.reverseRecOn with
  | nil =>
    have hlive := h.live [] (List.prefix_refl _)
    rw [bookAfter_concat] at hlive ⊢
    rw [quoteOf_fresh (kept_bookAfter L epoch before).keys h.fresh hlive]
    rfl
  | append_singleton since op ih =>
    have hrfq := h.live since (List.prefix_append since [op])
    have hlive := h.live (since ++ [op]) (List.prefix_refl _)
    rw [← List.cons_append, ← List.append_assoc, bookAfter_concat] at hlive ⊢
    rw [quoteOf_step (kept_bookAfter L epoch _).keys hrfq hlive, ih (h.part (List.prefix_append since [op])),
      foldl_upgrade]
    congr 1
    exact (List.filterMap_append ..).symm

/-- No submission of the lifetime can be played again, be it signed ever so well. -/
theorem Lifetime.no_replay (h : Lifetime L epoch before add since id) {s : Submission}
    (hs : s ∈ submissions id maker since) (now : Time) :
    (bookAfter L epoch (before ++ add :: since)).upsertQuote s.rfqID s.maker s.priceE18 s.maxFxrpRaw
      s.nonce now = .error .staleNonce := by
  have hpair : s.rfqID = id ∧ s.maker = maker := by
    obtain ⟨op, _, hop⟩ := List.mem_filterMap.mp hs
    cases op with
    | upsertQuote s' now' =>
      simp only [Option.ite_none_right_eq_some, Option.some.injEq] at hop
      rw [← hop.2]
      exact hop.1
    | addRFQ | matchWithSignFunc | gc => cases hop
  obtain ⟨rfl, rfl⟩ := hpair
  have hlatest := @Lifetime.quoteOf _ _ _ _ _ _ s.maker h
  cases hmax : (submissions s.rfqID s.maker since).argmax Submission.rank with
  | none =>
    rw [List.argmax_eq_none] at hmax
    rw [hmax] at hs
    cases hs
  | some m =>
    rw [hmax] at hlatest
    obtain ⟨q, hq, rfl⟩ := Option.map_eq_some_iff.mp hlatest
    exact upsertQuote_stale now hq (List.le_of_mem_argmax hs (by rw [hmax]; rfl))

theorem ByMaker.lookup_eq_some {byMaker : ByMaker} {q : Quote} :
    byMaker.lookup maker = some q ↔ q ∈ byMaker.quotes ∧ q.maker = maker := by
  constructor
  · intro h
    have hmaker := List.find?_some h
    exact ⟨List.mem_of_find?_eq_some h, of_decide_eq_true hmaker⟩
  · rintro ⟨hq, rfl⟩
    have hfound : (byMaker.lookup q.maker).isSome = true :=
      List.find?_isSome.mpr ⟨q, hq, decide_eq_true rfl⟩
    obtain ⟨r, hr⟩ := Option.isSome_iff_exists.mp hfound
    have hmaker := List.find?_some hr
    rw [hr, List.inj_on_of_nodup_map byMaker.nodup (List.mem_of_find?_eq_some hr) hq
      (of_decide_eq_true hmaker)]

theorem quoteOf_eq_some {q : Quote} :
    b.quoteOf id maker = some q ↔ q ∈ b.resting id ∧ q.maker = maker := by
  rw [SealedBook.resting, SealedBook.quoteOf]
  cases b.quotes id with
  | none => simp
  | some byMaker =>
    rw [Option.bind_some, ByMaker.lookup_eq_some]
    rfl

theorem resting_nodup (b : SealedBook) (id : Bytes32) : ((b.resting id).map Quote.maker).Nodup := by
  rw [SealedBook.resting]
  cases b.quotes id with
  | none => exact List.nodup_nil
  | some byMaker => exact byMaker.nodup

end Runs

/-- The book replaces by maker. On every RFQ at most one quote of each maker rests, and
it is the maker's submission of the greatest nonce since the RFQ came in; the same
submissions in another order leave the same, and none of them can be played again.
While fewer than `2 ^ 64` quotes have been accepted, the intake numbers of all quotes
in the book are distinct and increase in the order of acceptance. -/
theorem replace_by_maker (L : Libraries) :
    (∀ epoch ops id, let b := bookAfter L epoch ops
      (b.rfqs id).isSome = (b.quotes id).isSome ∧ ((b.resting id).map Quote.maker).Nodup ∧
      ∀ maker q, b.quoteOf id maker = some q ↔ q ∈ b.resting id ∧ q.maker = maker) ∧
    (∀ epoch before add since id maker, Lifetime L epoch before add since id →
      let b := bookAfter L epoch (before ++ add :: since)
      (b.quoteOf id maker).map Quote.submission =
        (submissions id maker since).argmax Submission.rank ∧
      ∀ s ∈ submissions id maker since, ∀ now, b.upsertQuote s.rfqID s.maker s.priceE18 s.maxFxrpRaw
        s.nonce now = .error .staleNonce) ∧
    (∀ epoch before add since epoch' before' add' since' id maker,
      Lifetime L epoch before add since id → Lifetime L epoch' before' add' since' id →
      (∀ s, s ∈ submissions id maker since ↔ s ∈ submissions id maker since') →
      (∀ s ∈ submissions id maker since, ∀ t ∈ submissions id maker since,
        s.nonce = t.nonce → s = t) →
      ((bookAfter L epoch (before ++ add :: since)).quoteOf id maker).map Quote.submission =
        ((bookAfter L epoch' (before' ++ add' :: since')).quoteOf id maker).map Quote.submission) ∧
    (∀ epoch ops, (accepted L epoch ops).length < 2 ^ 64 → let b := bookAfter L epoch ops
      ((accepted L epoch ops).Pairwise fun q r => q.seq < r.seq) ∧
      (∀ id q, q ∈ b.resting id → q ∈ accepted L epoch ops) ∧
      ∀ id q id' q', q ∈ b.resting id → q' ∈ b.resting id' → q.seq = q'.seq → id = id' ∧ q = q') := by
  refine ⟨?_, ?_, ?_, ?_⟩
  · intro epoch ops id b
    exact ⟨((kept_bookAfter L epoch ops).keys id).symm, resting_nodup b id, fun _ _ => quoteOf_eq_some⟩
  · intro epoch before add since id maker h b
    exact ⟨h.quoteOf, fun s hs now => h.no_replay hs now⟩
  · intro epoch before add since epoch' before' add' since' id maker h h' hsame hdistinct
    rw [h.quoteOf, h'.quoteOf]
    apply argmax_of_mem_iff _ hsame
    intro s hs t ht hrank
    exact hdistinct s hs t ht (UInt64.toNat_inj.mp hrank)
  · intro epoch ops hlen b
    have hkept := kept_bookAfter L epoch ops
    refine ⟨hkept.increasing hlen, fun id q hq => (hkept.resting id q hq).2, ?_⟩
    intro id q id' q' hq hq' hseq
    obtain ⟨hid, hmem⟩ := hkept.resting id q hq
    obtain ⟨hid', hmem'⟩ := hkept.resting id' q' hq'
    obtain rfl := hkept.seq_inj hlen hmem hmem' hseq
    exact ⟨hid.symm.trans hid', rfl⟩

namespace SampleBook

def opening : Op :=
  .addRFQ defaultConfig requestID 2 5000000000 (some 1990000000000000000) request.xrplAddress
    (clock 1000) 10 600

def bid (maker : Address) (nonce : UInt64) : Submission :=
  ⟨requestID, maker, 2000000000000000000, 5000000000, nonce⟩

/-- Two quotes of maker 3, the later one first, and one of maker 5. -/
def bids : List Op :=
  [.upsertQuote (bid 3 2) (clock 1001), .upsertQuote (bid 5 1) (clock 1002),
    .upsertQuote (bid 3 1) (clock 1003)]

theorem lifetime_of_inits {since : List Op}
    (h : ∀ part ∈ since.inits, (bookAfter libraries 0 (opening :: part)).rfqs requestID ≠ none) :
    Lifetime libraries 0 [] opening since requestID :=
  ⟨rfl, fun part hpart => h part ((List.mem_inits part since).mpr hpart)⟩

end SampleBook

open SampleBook in
theorem replace_by_maker_sample :
    ((bookAfter libraries 0 (opening :: bids)).quoteOf requestID 3).map Quote.submission =
        some (bid 3 2) ∧
      ((bookAfter libraries 0 (opening :: bids.reverse)).quoteOf requestID 3).map Quote.submission =
        some (bid 3 2) ∧
      ((accepted libraries 0 (opening :: bids)).Pairwise fun q r => q.seq < r.seq) := by
  obtain ⟨_, hlatest, horder, hseq⟩ := replace_by_maker libraries
  have h : Lifetime libraries 0 [] opening bids requestID := lifetime_of_inits (by decide +kernel)
  have h' : Lifetime libraries 0 [] opening bids.reverse requestID :=
    lifetime_of_inits (by decide +kernel)
  have hfirst : ((bookAfter libraries 0 (opening :: bids)).quoteOf requestID 3).map Quote.submission =
      some (bid 3 2) := (hlatest 0 [] opening bids requestID 3 h).1.trans (by decide +kernel)
  refine ⟨hfirst, ?_, (hseq 0 (opening :: bids) (by decide +kernel)).1⟩
  rw [← hfirst]
  apply (horder 0 [] opening bids 0 [] opening bids.reverse requestID 3 h h' _ _).symm
  · intro s
    rw [show submissions requestID 3 bids.reverse = (submissions requestID 3 bids).reverse from rfl,
      List.mem_reverse]
  · decide +kernel

/-! One RFQ and more quotes on it than the counter can number. -/
namespace SampleBook

/-- One quote of maker 5, then `n` quotes of maker 3, each with the next nonce. -/
def flood (n : Nat) : List Op :=
  opening :: .upsertQuote (bid 5 1) (clock 1001) ::
    (List.range n).map fun i => .upsertQuote (bid 3 (UInt64.ofNat i)) (clock 1002)

theorem flood_succ (n : Nat) :
    flood (n + 1) = flood n ++ [.upsertQuote (bid 3 (UInt64.ofNat n)) (clock 1002)] := by
  simp [flood, List.range_succ]

/-- The book after the flood, while the nonces last. -/
theorem flooded (n : Nat) (hn : n ≤ 2 ^ 64) :
    let b := bookAfter libraries 0 (flood n)
    b.nextSeq = UInt64.ofNat (n + 1) ∧
      b.quoteOf requestID 5 = some ((bid 5 1).quote (clock 1001) 1) ∧
      b.quoteOf requestID 3 = if n = 0 then none else
        some ((bid 3 (UInt64.ofNat (n - 1))).quote (clock 1002) (UInt64.ofNat (n + 1))) := by
  induction n with
  | zero => exact ⟨by decide +kernel, by decide +kernel, by decide +kernel⟩
  | succ n ih =>
    obtain ⟨hseq, hfirst, hlast⟩ := ih (by omega)
    obtain ⟨byMaker, hquotes, hlookup⟩ := Option.bind_eq_some_iff.mp hfirst
    rw [SealedBook.quoteOf, hquotes, Option.bind_some] at hlast
    have hnonce : ∀ q, byMaker.lookup 3 = some q → q.nonce < UInt64.ofNat n := by
      intro q hq
      rw [hlast] at hq
      split at hq
      · cases hq
      · rename_i hpos
        obtain rfl := Option.some.inj hq
        rw [UInt64.lt_iff_toNat_lt]
        show (UInt64.ofNat (n - 1)).toNat < (UInt64.ofNat n).toNat
        rw [UInt64.toNat_ofNat_of_lt' (show n - 1 < 2 ^ 64 by omega),
          UInt64.toNat_ofNat_of_lt' (show n < 2 ^ 64 by omega)]
        omega
    have hnumber : (bookAfter libraries 0 (flood n)).nextSeq + 1 = UInt64.ofNat (n + 1 + 1) := by
      rw [hseq]
      exact (UInt64.ofNat_add (n + 1) 1).symm
    have hexec := exec_upsertQuote (L := libraries) (s := bid 3 (UInt64.ofNat n)) (clock 1002) hquotes
      hnonce
    rw [hnumber] at hexec
    rw [flood_succ, bookAfter_concat, hexec, settle_ok]
    refine ⟨rfl, ?_, ?_⟩
    · exact (quoteOf_insert _ _ _).trans
        ((if_neg (show (3 : Address) ≠ 5 by decide)).trans hlookup)
    · rw [if_neg (Nat.succ_ne_zero n)]
      exact (quoteOf_insert _ _ _).trans (if_pos rfl)

theorem ofNat_wrap (n : Nat) : UInt64.ofNat (2 ^ 64 + n) = UInt64.ofNat n := by
  apply UInt64.toNat_inj.mp
  simp

/-- Once the counter has wrapped, two quotes of different makers share a number. -/
theorem seq_wraps :
    ∃ q ∈ (bookAfter libraries 0 (flood (2 ^ 64))).resting requestID,
      ∃ q' ∈ (bookAfter libraries 0 (flood (2 ^ 64))).resting requestID,
        q ≠ q' ∧ q.seq = q'.seq := by
  obtain ⟨n, hn⟩ : ∃ n, n = 2 ^ 64 := ⟨_, rfl⟩
  obtain ⟨_, hfirst, hlast⟩ := flooded n (le_of_eq hn)
  rw [if_neg (by omega)] at hlast
  rw [← hn]
  refine ⟨_, (quoteOf_eq_some.mp hfirst).1, _, (quoteOf_eq_some.mp hlast).1, ?_, ?_⟩
  · intro h
    have hmaker : (5 : Address) = 3 := congrArg Quote.maker h
    revert hmaker
    decide
  · show (1 : UInt64) = UInt64.ofNat (n + 1)
    rw [hn, ofNat_wrap]
    rfl

end SampleBook

end WhisperDesk.Matcher
