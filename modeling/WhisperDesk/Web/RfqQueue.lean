import WhisperDesk.General.LapsingMap
import WhisperDesk.Web.ConfirmRfq
import WhisperDesk.Web.MakerPay

/-!
# The shared queue of open RFQs

`rfqStore` is written by whoever opens or confirms an order, read by `join-rfq` and
`match`, and listed by `open-rfqs`. A reading drops a record that is past its time. What
is read and listed is what was last published under each id; who has read before, and
what was dropped on the way, cannot be told.
-/
namespace WhisperDesk.Web

/-- `rec.windowEndsAt * 1000 <= now`, which no `undefined` satisfies. -/
def RfqRecord.closed (record : RfqRecord) (now : Nat) : Bool :=
  match record.windowEndsAt with
  | none => false
  | some windowEndsAt => windowEndsAt * 1000 ≤ now

def RfqRecord.fresh (now : Nat) (record : RfqRecord) : Bool := now - record.createdAt ≤ recordTtlMs

/-- `rfqStore`, a `Map` with its entries in their order. -/
abbrev RfqMap := List (Option Bytes × RfqRecord)

namespace RfqMap

def putRfqRecord (store : RfqMap) (rfqId : Option Bytes) (windowEndsAt : Option Nat) (now : Nat) :
    RfqMap :=
  LapsingMap.set store rfqId ⟨windowEndsAt, now⟩

/-- The record, and the store without it when it is past its time. -/
def getRfqRecord (store : RfqMap) (rfqId : Option Bytes) (now : Nat) : Option RfqRecord × RfqMap :=
  match LapsingMap.get store rfqId with
  | none => (none, store)
  | some record =>
    if now - record.createdAt > recordTtlMs then (none, LapsingMap.delete store rfqId)
    else (some record, store)

/-- The loop of `listOpenRfqs`: what it pushes, and what it leaves in the store. -/
def scan (now : Nat) : RfqMap → RfqMap × RfqMap
  | [] => ([], [])
  | (rfqId, record) :: rest =>
    let (open', left) := scan now rest
    if now - record.createdAt > recordTtlMs then (open', left)
    else if record.closed now then (open', (rfqId, record) :: left)
    else ((rfqId, record) :: open', (rfqId, record) :: left)

def newerFirst (a b : Option Bytes × RfqRecord) : Bool := b.2.createdAt ≤ a.2.createdAt

def listOpenRfqs (store : RfqMap) (now : Nat) : List (Option Bytes × Option Nat) × RfqMap :=
  let (open', left) := scan now store
  ((open'.mergeSort newerFirst).map fun e => (e.1, e.2.windowEndsAt), left)

end RfqMap

structure Approve where
  token : Address
  spender : Address
  amount : Nat
  deriving DecidableEq

structure OpenRfqResult where
  rfqId : Option Bytes
  windowEndsAt : Bytes
  escrow : Address
  bondLedger : Address
  bondAmount : Nat
  approve : Approve
  depositBond : Nat
  deriving DecidableEq

/-- What a second maker is given for an RFQ that somebody else opened: but for the id and
its window, the escrow's constants. -/
def buildJoinRfq (d : DvPEscrow.Deployment) (fxrp : Address) (store : RfqMap) (rfqId : Option Bytes)
    (now : Nat) : Except String OpenRfqResult × RfqMap :=
  match store.getRfqRecord rfqId now with
  | (none, store) => (.error "that RFQ is no longer open — pick another from the queue", store)
  | (some record, store) =>
    let bondAmount := d.minBlockFxrp * DvPEscrow.bondBips / 10000
    (.ok
      { rfqId := rfqId
        windowEndsAt := (record.windowEndsAt.map ByteCodec.decimal).getD (Fcewire.ascii "undefined")
        escrow := d.self
        bondLedger := d.bondLedger
        bondAmount := bondAmount
        approve := ⟨fxrp, d.bondLedger, bondAmount⟩
        depositBond := bondAmount }, store)

/-- What the requests do to the store. -/
inductive QueueEvent where
  | publish (rfqId : Option Bytes) (windowEndsAt : Option Nat) (now : Nat)
  | read (rfqId : Option Bytes) (now : Nat)
  | list (now : Nat)

namespace QueueEvent

def time : QueueEvent → Nat
  | .publish _ _ now => now
  | .read _ now => now
  | .list now => now

def step (store : RfqMap) : QueueEvent → RfqMap
  | .publish rfqId windowEndsAt now => store.putRfqRecord rfqId windowEndsAt now
  | .read rfqId now => (store.getRfqRecord rfqId now).2
  | .list now => (store.listOpenRfqs now).2

end QueueEvent

/-- The store after the requests, since the server started. -/
def queueAfter (events : List QueueEvent) : RfqMap := events.foldl QueueEvent.step []

/-- The last publication under an id. -/
def lastPublished (events : List QueueEvent) (rfqId : Option Bytes) : Option RfqRecord :=
  events.foldl (fun last e => match e with
    | .publish id windowEndsAt now => if rfqId = id then some ⟨windowEndsAt, now⟩ else last
    | _ => last) none

section Reading

variable {store : RfqMap} {rfqId : Option Bytes} {now : Nat}

/-- To the rest of the server it is a store by id. -/
theorem get_putRfqRecord (windowEndsAt : Option Nat) :
    (fun id => LapsingMap.get (store.putRfqRecord rfqId windowEndsAt now) id) =
      putRfqRecord (fun id => LapsingMap.get store id) rfqId windowEndsAt now := by
  funext id
  rw [RfqMap.putRfqRecord, LapsingMap.get_set, putRfqRecord, Function.update_apply]

theorem fresh_iff (record : RfqRecord) :
    record.fresh now = true ↔ ¬ now - record.createdAt > recordTtlMs := by
  simp [RfqRecord.fresh]

theorem fresh_of_le {later : Nat} {record : RfqRecord} (hle : now ≤ later)
    (h : record.fresh later = true) : record.fresh now = true := by
  rw [fresh_iff] at h ⊢
  omega

theorem getRfqRecord_eq : store.getRfqRecord rfqId now = LapsingMap.look RfqRecord.fresh store rfqId now := by
  unfold RfqMap.getRfqRecord LapsingMap.look
  cases LapsingMap.get store rfqId with
  | none => rfl
  | some record =>
    by_cases hfresh : record.fresh now = true
    · simp only [if_pos hfresh, if_neg ((fresh_iff record).mp hfresh)]
    · have hold := not_not.mp (mt (fresh_iff record).mpr hfresh)
      simp only [if_neg hfresh, if_pos hold]

theorem scan_eq : RfqMap.scan now store =
    (store.filter fun e => e.2.fresh now && !e.2.closed now, store.filter fun e => e.2.fresh now) := by
  induction store with
  | nil => rfl
  | cons e store ih =>
    obtain ⟨id, record⟩ := e
    simp only [RfqMap.scan, ih]
    by_cases hfresh : record.fresh now = true
    · rw [if_neg ((fresh_iff record).mp hfresh)]
      by_cases hclosed : record.closed now = true
      · simp [hfresh, hclosed]
      · simp [hfresh, hclosed]
    · have hold := not_not.mp (mt (fresh_iff record).mpr hfresh)
      rw [if_pos hold]
      simp [hfresh]

theorem listOpenRfqs_listed : (store.listOpenRfqs now).1 =
    ((store.filter fun e => e.2.fresh now && !e.2.closed now).mergeSort RfqMap.newerFirst).map
      fun e => (e.1, e.2.windowEndsAt) := by
  rw [RfqMap.listOpenRfqs, scan_eq]

theorem listOpenRfqs_left : (store.listOpenRfqs now).2 = store.filter fun e => e.2.fresh now := by
  rw [RfqMap.listOpenRfqs, scan_eq]

end Reading

section Runs

variable {events : List QueueEvent} {now : Nat}

/-- A request as an operation on a map whose entries lapse. -/
def QueueEvent.op : QueueEvent → LapsingMap.Op (Option Bytes) RfqRecord
  | .publish rfqId windowEndsAt now => .put rfqId ⟨windowEndsAt, now⟩
  | .read rfqId now => .look rfqId now
  | .list now => .sweep now

theorem step_op (store : RfqMap) (e : QueueEvent) :
    e.step store = LapsingMap.step RfqRecord.fresh store e.op := by
  cases e with
  | publish rfqId windowEndsAt now => rfl
  | read rfqId now => exact congrArg Prod.snd getRfqRecord_eq
  | list now => exact listOpenRfqs_left

theorem queueAfter_eq : queueAfter events = LapsingMap.run RfqRecord.fresh (events.map QueueEvent.op) := by
  rw [queueAfter, LapsingMap.run, List.foldl_map]
  exact congrArg (fun f => events.foldl f []) (funext fun store => funext fun e => step_op store e)

theorem lastPublished_eq (rfqId : Option Bytes) :
    lastPublished events rfqId = LapsingMap.lastPut (events.map QueueEvent.op) rfqId := by
  rw [lastPublished, LapsingMap.lastPut, List.foldl_map]
  refine congrArg (fun f => events.foldl f none) (funext fun last => funext fun e => ?_)
  cases e <;> rfl

/-- The store counts what was published last, for as long as that counts. -/
theorem get_queueAfter (htimes : ∀ e ∈ events, e.time ≤ now) (rfqId : Option Bytes) :
    (LapsingMap.get (queueAfter events) rfqId).filter (RfqRecord.fresh now) =
      (lastPublished events rfqId).filter (RfqRecord.fresh now) := by
  have hlive : ∀ s t v, s ≤ t → RfqRecord.fresh t v = true → RfqRecord.fresh s v = true :=
    fun _ _ _ => fresh_of_le
  rw [queueAfter_eq, lastPublished_eq]
  refine LapsingMap.get_run hlive ?_ rfqId
  intro op hop t ht
  obtain ⟨e, he, rfl⟩ := List.mem_map.mp hop
  have htime := htimes e he
  cases e with
  | publish => cases ht
  | read => cases ht; exact htime
  | list => cases ht; exact htime

theorem keyed_queueAfter (events : List QueueEvent) : LapsingMap.Keyed (queueAfter events) := by
  rw [queueAfter_eq]
  exact LapsingMap.keyed_run _

/-- The entry is in the store and counts just if it is what was published last and does. -/
theorem mem_queueAfter (htimes : ∀ e ∈ events, e.time ≤ now) {rfqId : Option Bytes} {record : RfqRecord}
    (hfresh : record.fresh now = true) :
    (rfqId, record) ∈ queueAfter events ↔ lastPublished events rfqId = some record := by
  have hget := get_queueAfter htimes rfqId
  rw [LapsingMap.mem_iff_get (keyed_queueAfter events)]
  constructor
  · intro h
    rw [h, Option.filter_some, if_pos hfresh] at hget
    exact Option.eq_some_of_filter_eq_some hget.symm
  · intro h
    rw [h, Option.filter_some, if_pos hfresh] at hget
    exact Option.eq_some_of_filter_eq_some hget

end Runs

/-- What `open-rfqs` shows of the publications. -/
structure Shown (events : List QueueEvent) (now : Nat) (listed : List (Option Bytes × Option Nat)) :
    Prop where
  open_iff : ∀ rfqId windowEndsAt, (rfqId, windowEndsAt) ∈ listed ↔
    ∃ record, lastPublished events rfqId = some record ∧ record.windowEndsAt = windowEndsAt ∧
      record.fresh now = true ∧ record.closed now = false
  once : (listed.map Prod.fst).Nodup
  newestFirst : listed.Pairwise fun a b => ∀ r s, lastPublished events a.1 = some r →
    lastPublished events b.1 = some s → s.createdAt ≤ r.createdAt

/-- What is read of an RFQ is its last publication, for ten minutes from then, and for
that time it can be joined. -/
theorem getRfqRecord_queueAfter {events : List QueueEvent} {now : Nat}
    (htimes : ∀ e ∈ events, e.time ≤ now) (rfqId : Option Bytes) :
    ((queueAfter events).getRfqRecord rfqId now).1 =
      (lastPublished events rfqId).filter (RfqRecord.fresh now) := by
  rw [getRfqRecord_eq, ← get_queueAfter htimes]
  unfold LapsingMap.look
  cases LapsingMap.get (queueAfter events) rfqId with
  | none => rfl
  | some record =>
    by_cases hfresh : record.fresh now = true
    · simp only [if_pos hfresh, Option.filter_some]
    · simp only [if_neg hfresh, Option.filter_some]

theorem buildJoinRfq_isOk {d : DvPEscrow.Deployment} {fxrp : Address} {store : RfqMap}
    {rfqId : Option Bytes} {now : Nat} :
    (buildJoinRfq d fxrp store rfqId now).1.isOk = (store.getRfqRecord rfqId now).1.isSome := by
  unfold buildJoinRfq
  cases h : store.getRfqRecord rfqId now with
  | mk found left =>
    cases found with
    | none => rfl
    | some record => rfl

/-- A record counts for ten minutes from its last publication: that long it is read, and its
RFQ can be joined. What is listed is every such whose window is open, once each, the
newest first. The readings and listings before leave no trace, and a confirmation of a taker's
order is one publication more. -/
theorem queue_shows_publications (d : DvPEscrow.Deployment) (fxrp : Address)
    (events : List QueueEvent) (now : Nat) (htimes : ∀ e ∈ events, e.time ≤ now) :
    (∀ rfqId, ((queueAfter events).getRfqRecord rfqId now).1 =
        (lastPublished events rfqId).filter (RfqRecord.fresh now) ∧
      ((buildJoinRfq d fxrp (queueAfter events) rfqId now).1.isOk = true ↔
        ∃ record, lastPublished events rfqId = some record ∧ record.fresh now = true)) ∧
    Shown events now ((queueAfter events).listOpenRfqs now).1 ∧
    ∀ R env receipt taker at' ack store', confirmTakerRfq R env receipt taker at'
        (fun id => LapsingMap.get (queueAfter events) id) = .ok (ack, store') →
      store' = fun id =>
        LapsingMap.get (queueAfter (events ++ [.publish ack.rfqId ack.windowEndsAt at'])) id := by
  have hmem : ∀ e, e ∈ (queueAfter events).filter (fun e => e.2.fresh now && !e.2.closed now) ↔
      lastPublished events e.1 = some e.2 ∧ e.2.fresh now = true ∧ e.2.closed now = false := by
    rintro ⟨rfqId, record⟩
    rw [List.mem_filter, Bool.and_eq_true, Bool.not_eq_true']
    constructor
    · rintro ⟨hmem, hfresh, hopen⟩
      exact ⟨(mem_queueAfter htimes hfresh).mp hmem, hfresh, hopen⟩
    · rintro ⟨hlast, hfresh, hopen⟩
      exact ⟨(mem_queueAfter htimes hfresh).mpr hlast, hfresh, hopen⟩
  refine ⟨?_, ?_, ?_⟩
  · intro rfqId
    have hread := getRfqRecord_queueAfter htimes rfqId
    refine ⟨hread, ?_⟩
    rw [buildJoinRfq_isOk, hread]
    cases lastPublished events rfqId with
    | none => simp
    | some record => simp [Option.filter_some]
  · rw [listOpenRfqs_listed]
    constructor
    case open_iff =>
      intro rfqId windowEndsAt
      simp only [List.mem_map, List.mem_mergeSort, hmem, Prod.mk.injEq]
      constructor
      · rintro ⟨⟨id, record⟩, ⟨hlast, hfresh, hopen⟩, rfl, rfl⟩
        exact ⟨record, hlast, rfl, hfresh, hopen⟩
      · rintro ⟨record, hlast, rfl, hfresh, hopen⟩
        exact ⟨(rfqId, record), ⟨hlast, hfresh, hopen⟩, rfl, rfl⟩
    case once =>
      have hkeyed := (keyed_queueAfter events).filter fun e => e.2.fresh now && !e.2.closed now
      rw [List.map_map]
      exact (((List.mergeSort_perm _ RfqMap.newerFirst).map Prod.fst).nodup_iff).mpr hkeyed
    case newestFirst =>
      rw [List.pairwise_map]
      refine (List.pairwise_mergeSort ?_ ?_ _).imp_of_mem ?_
      · intro a b c hab hbc
        simp only [RfqMap.newerFirst, decide_eq_true_eq] at hab hbc ⊢
        omega
      · intro a b
        simp only [RfqMap.newerFirst, Bool.or_eq_true, decide_eq_true_eq]
        omega
      · intro a b ha hb hab r s hr hs
        rw [List.mem_mergeSort, hmem] at ha hb
        rw [Option.some.inj (hr.symm.trans ha.1), Option.some.inj (hs.symm.trans hb.1)]
        simpa [RfqMap.newerFirst] using hab
  · intro R env receipt taker at' ack store' hok
    obtain ⟨_, _, _, _, rfl⟩ := confirmTakerRfq_eq_ok.mp hok
    have hstep : queueAfter (events ++ [.publish ack.rfqId ack.windowEndsAt at']) =
        (queueAfter events).putRfqRecord ack.rfqId ack.windowEndsAt at' := List.foldl_concat ..
    rw [hstep]
    exact (get_putRfqRecord ack.windowEndsAt).symm

/-! Two orders, the first published again after ten minutes and a look in between. -/
namespace SampleQueue

def first : Option Bytes := some [1]
def second : Option Bytes := some [2]

def events : List QueueEvent :=
  [.publish first (some 60) 0, .publish second (some 700) 300000, .read first 600001,
    .publish first (some 1300) 650000, .list 660000]

end SampleQueue

open SampleQueue in
theorem queue_shows_publications_sample :
    ((queueAfter events).listOpenRfqs 670000).1 = [(first, some 1300), (second, some 700)] ∧
      Shown events 670000 ((queueAfter events).listOpenRfqs 670000).1 := by
  constructor
  · have hopen : (queueAfter events).filter (fun e => e.2.fresh 670000 && !e.2.closed 670000) =
        [(second, ⟨some 700, 300000⟩), (first, ⟨some 1300, 650000⟩)] := by
      rfl
    rw [listOpenRfqs_listed, hopen]
    simp [List.mergeSort, List.MergeSort.Internal.splitInTwo, RfqMap.newerFirst]
  · exact (queue_shows_publications Sample.deployment 0xF0 events 670000 (by decide)).2.1

end WhisperDesk.Web
