import WhisperDesk.Web.QuoteRelay

/-!
# From the form to the payment

A taker whose wallet submits nothing but what `/api/taker/rfq/publish` answered it. Each of its
RFQs is then one of its forms, and so is each match that the enclave's instructions open: the
deposit it takes, the account it pays and the least it pays are what was written there, and the
payment that releases it came to that account. The enclave, the relay and the makers are between the
form and the match, and anybody may call the contracts.
-/
namespace WhisperDesk.Web

open Go (GoString hexToAddress hexToAddress_addressHex setString10_decimal)
open Reverting
open Fcewire
open InstructionSender (Registries CalldataBytes)
open DvPEscrow (Deployment)
open Matcher (RFQ)

section Forms

variable {ρ σ : Type} (d : Deployment) (sealer : Bytes → Option Bytes)

/-- The bytes are what the route answered to an order. -/
def AnswersOrder (order : TakerOrder) (bytes : Bytes) : Prop :=
  ∃ env body answer, env.sealer = sealer ∧ readOrder env.getAddress body = .ok order ∧
    publish d env body = .ok answer ∧ bytes = getBytes answer.ciphertext

/-- An order that an account submitted as the route answered it. -/
def Written (happenings : List (Happening ρ σ)) (order : TakerOrder) : Prop :=
  ∃ value ciphertext, .call order.taker value (.submitRfq ciphertext) ∈ happenings ∧
    AnswersOrder d sealer order ciphertext.bytes

/-- The account submits nothing but answers of the route. -/
def SubmitsAnswers (taker : Address) (happenings : List (Happening ρ σ)) : Prop :=
  ∀ value ciphertext, .call taker value (.submitRfq ciphertext) ∈ happenings →
    ∃ order, AnswersOrder d sealer order ciphertext.bytes

/-- An RFQ on the terms of an order. -/
structure KeepsTo (order : TakerOrder) (rfq : RFQ) : Prop where
  taker : rfq.taker = order.taker
  amount : rfq.fxrpAmountRaw.toNat = order.fxrpAmountRaw
  limit : rfq.limitPriceE18 = order.limitPriceUsdE18
  address : rfq.xrplAddress.bytes = order.xrplAddress

variable {d sealer} {X : Externals} {cfg : Fcewire.Config} {order : TakerOrder} {bytes : Bytes}

/-- The enclave reads an order back from its bytes, and nothing else. -/
theorem AnswersOrder.opens (h : AnswersOrder d sealer order bytes) (hjson : ReadsJson X)
    (hunseals : Unseals X sealer) (hpad : cfg.padSize = padSize) {msg : RfqPlaintext}
    (hopens : Opens X cfg bytes msg) :
    hexToAddress msg.taker = order.taker ∧
      Go.setString10 msg.fxrpAmountRaw = some (order.fxrpAmountRaw : Int) ∧
      Go.setString10 msg.limitPriceUsdE18 = some (order.limitPriceUsdE18 : Int) ∧
      msg.xrplAddress.bytes = order.xrplAddress := by
  obtain ⟨env, body, answer, rfl, horder, hok, rfl⟩ := h
  obtain ⟨order', horder', _, hsealed, _⟩ := publish_eq_ok.mp hok
  obtain rfl : order = order' := Except.ok.inj (horder.symm.trans horder')
  obtain ⟨padded, text, hplain, _, hdepad, hmsg⟩ := decodes_sealed hjson hunseals hsealed
  obtain ⟨padded', text', hplain', hdepad', hmsg'⟩ := hopens
  obtain rfl : padded = padded' := Option.some.inj (hplain.symm.trans hplain')
  rw [hpad] at hdepad'
  obtain rfl : text = text' := Option.some.inj (hdepad.symm.trans hdepad')
  obtain rfl := Option.some.inj (hmsg.symm.trans hmsg')
  exact ⟨hexToAddress_addressHex _ _, setString10_decimal _, setString10_decimal _, rfl⟩

variable {R : Registries ρ} {this : Address} {r₀ : ρ} {happenings : List (Happening ρ σ)} {rfq : RFQ}

/-- An RFQ that such a taker submitted is one of its forms. -/
theorem submitted_written (hjson : ReadsJson X) (hunseals : Unseals X sealer) (hpad : cfg.padSize = padSize)
    (hsubmits : SubmitsAnswers d sealer rfq.taker happenings)
    (hsubmitted : Submitted R this r₀ X cfg happenings rfq) :
    ∃ order, Written d sealer happenings order ∧ KeepsTo order rfq := by
  obtain ⟨pre, value, ciphertext, post, i, s', msg, hsplit, _, _, hopens, _, htaker, hamount, hlimit,
    haddress⟩ := hsubmitted
  have hcall : .call rfq.taker value (.submitRfq ciphertext) ∈ happenings := by simp [hsplit]
  obtain ⟨order, hanswers⟩ := hsubmits value ciphertext hcall
  obtain ⟨htaker', hamount', hlimit', haddress'⟩ := hanswers.opens hjson hunseals hpad hopens
  have hsame : rfq.taker = order.taker := htaker.symm.trans htaker'
  rw [hsame] at hcall
  refine ⟨order, ⟨value, ciphertext, hcall, hanswers⟩, hsame, ?_, ?_, ?_⟩
  · exact Int.natCast_inj.mp (Option.some.inj (hamount.symm.trans hamount'))
  · exact Option.some.inj (hlimit.symm.trans hlimit')
  · rw [← haddress]
    exact haddress'

end Forms

section Prices

variable {ρ σ : Type} {X : Externals} {S : Snapshotter σ} {cfg : Fcewire.Config} {epoch : UInt64} {c₀ : σ}
  {events : List (Fcewire.Event σ)}

/-- The mids in the snapshots that the run takes for its matches leave a `uint256` room for a
price that is no more than twice as high. -/
def MidsBounded (X : Externals) (S : Snapshotter σ) (cfg : Fcewire.Config) (epoch : UInt64) (c₀ : σ)
    (events : List (Fcewire.Event σ)) : Prop :=
  ∀ pre e a data rfqID snap mid, pre ++ [e] <+: events → e.matchMessage cfg = some (a, data) →
    decodeRfqID X data = some rfqID →
    matchSnap S a rfqID (session X S cfg epoch c₀ pre) = .ok snap → snap.midE18 = some mid →
    mid < 2 ^ 255

/-- The price of an instruction fits its `uint256`. -/
theorem requested_price (hband : cfg.matcher.bandBips.toNat = DvPEscrow.bandBips)
    (hmids : MidsBounded X S cfg epoch c₀ events) {pre : List (Fcewire.Event σ)} {e : Fcewire.Event σ}
    (hpre : pre ++ [e] <+: events) {mi : Matcher.MatchInstruction} {price : Int}
    (hreq : e.signRequest X S cfg (session X S cfg epoch c₀ pre) = some mi)
    (hprice : mi.priceUsd18 = some price) : 0 < price ∧ price < 2 ^ 256 := by
  obtain ⟨⟨a, data⟩, hmessage, hreq⟩ := Option.bind_eq_some_iff.mp hreq
  obtain ⟨rfqID, hdecode, hreq⟩ := Option.bind_eq_some_iff.mp hreq
  cases hsnap : matchSnap S a rfqID (session X S cfg epoch c₀ pre) with
  | error c =>
    rw [hsnap] at hreq
    cases hreq
  | ok snap =>
    rw [hsnap] at hreq
    obtain ⟨rfq, mid, q, _, _, _, hready, hkeep, rfl⟩ := Matcher.signRequest_cases hreq
    obtain rfl : q.priceE18 = price := Option.some.inj hprice
    have hmid := hmids pre e a data rfqID snap mid hpre hmessage hdecode hsnap hready.midE18
    have hpos := hready.mid_pos
    have hnat : ((mid.toNat : Nat) : Int) = mid := Int.toNat_of_nonneg (Int.le_of_lt hpos)
    have heligible := (Matcher.rejection_eq_none ..).mp hkeep
    rw [← hnat] at heligible
    obtain ⟨hprice_pos, hprice_le⟩ := Refinement.price_bounds hband (by omega) heligible
    exact ⟨hprice_pos, by omega⟩

end Prices

section Payments

/-- A match on the terms of an order, locked at an oracle's mid. -/
structure MatchOf (P : Primitives) (order : TakerOrder) (mid18 : Nat) (m : Match) : Prop where
  opened : m.state ≠ .none
  taker : m.taker = order.taker
  amount : m.amountFxrp = order.fxrpAmountRaw
  address : m.takerXrplAddressHash = P.keccak256 order.xrplAddress
  least : order.fxrpAmountRaw * order.limitPriceUsdE18 / mid18 ≤ m.xrpDrops

/-- A payment that was proved to the escrow went to the account of the order, in time, and was of no
less than the order asks. -/
structure PaysOrder {d : Deployment} (P : Primitives) (order : TakerOrder) (mid18 : Nat) (m : Match)
    (tx : Tx d) (proof : XRPPayment.Proof) : Prop where
  verified : tx.env.verifyXRPPayment proof = true
  receiver : proof.data.responseBody.receivingAddressHash = P.keccak256 order.xrplAddress
  least : ((order.fxrpAmountRaw * order.limitPriceUsdE18 / mid18 : Nat) : Int) ≤
    proof.data.responseBody.receivedAmount
  afterLock : m.lockedAt ≤ proof.data.responseBody.blockTimestamp
  beforeDeadline : proof.data.responseBody.blockTimestamp ≤ m.paymentDeadline

variable {P : Primitives} {order : TakerOrder} {mid18 : Nat} {m : Match}

theorem MatchOf.of_lockedOn {rfq : RFQ} {price : Int} (hkeeps : KeepsTo order rfq)
    (hlocked : LockedOn P rfq (price % 2 ^ 256).toNat mid18 m) (hprice : 0 < price ∧ price < 2 ^ 256)
    (hlimit : rfq.limitPriceE18 ≤ price) : MatchOf P order mid18 m := by
  have hlow : (price % 2 ^ 256).toNat = price.toNat := by
    rw [Int.emod_eq_of_lt (Int.le_of_lt hprice.1) hprice.2]
  have hleast : order.limitPriceUsdE18 ≤ price.toNat := by
    rw [hkeeps.limit] at hlimit
    omega
  refine ⟨hlocked.opened, hlocked.taker.trans hkeeps.taker, hlocked.amount.trans hkeeps.amount, ?_, ?_⟩
  · rw [hlocked.address, hkeeps.address]
  · rw [hlocked.drops, hlow, hkeeps.amount]
    exact Nat.div_le_div_right (Nat.mul_le_mul_left _ hleast)

/-- Some account of the right form can be paid for it. -/
theorem MatchOf.payable (h : MatchOf P order mid18 m) : Payable P (addressPattern · = true) m :=
  ⟨order.xrplAddress, order.classic, h.address.symm⟩

theorem MatchOf.paid {d : Deployment} (h : MatchOf P order mid18 m) {tx : Tx d} {used : Bytes32 → Bool}
    {proof : XRPPayment.Proof} (haccepted : DvPEscrow.ProofAccepted d tx.env used m proof) :
    PaysOrder P order mid18 m tx proof where
  verified := haccepted.verified
  receiver := haccepted.receiver.trans h.address
  least := (Int.ofNat_le.mpr h.least).trans haccepted.amount
  afterLock := haccepted.afterLock
  beforeDeadline := haccepted.beforeDeadline

end Payments

section Results

variable {ρ σ : Type} (R : Registries ρ) (this : Address) (r₀ : ρ) (X : Externals) (S : Snapshotter σ)
  (cfg : Fcewire.Config) (epoch : UInt64) (c₀ : σ) (d : Deployment) (sealer : Bytes → Option Bytes)

/-- Every RFQ of such a taker is one of its forms, and so is every match that the enclave's
instructions open for it: it takes the amount written there, some account of the right form can be
paid for it, and what is owed is no less than amount times limit at the mid that the `lock` which
opened it read. Released, it was paid: to the account written there, in time, and no less than
that. -/
theorem forms_settle (hoff : cfg.allowDirectRfq = false) (hunpack : UnpacksEnvelope X)
    (hpacks : PacksLow X.toLibraries) (hband : cfg.matcher.bandBips.toNat = DvPEscrow.bandBips)
    (hjson : ReadsJson X) (hunseals : Unseals X sealer) (hpad : cfg.padSize = padSize)
    (happenings : List (Happening ρ σ)) (taker : Address)
    (hsubmits : SubmitsAnswers d sealer taker happenings)
    (hmids : MidsBounded X S cfg epoch c₀ (relay R this r₀ happenings).received) :
    let events := (relay R this r₀ happenings).received
    (∀ id rfq, (session X S cfg epoch c₀ events).book.rfqs id = some rfq → rfq.taker = taker →
      ∃ order, Written d sealer happenings order ∧ KeepsTo order rfq) ∧
    ∀ (w₀ : World) (txs : List (Tx d)) (mi : Matcher.MatchInstruction), Deployed d w₀ →
      OpenedFrom X S cfg epoch c₀ events w₀ txs mi → mi.taker = taker →
      let m := (after X.toPrimitives w₀ txs).escrow.matchOf mi.matchID
      ∃ order before lock later mid18, Written d sealer happenings order ∧
        txs = before ++ lock :: later ∧ OpenedBy X S cfg epoch c₀ events w₀ before lock mi mid18 ∧
        MatchOf X.toPrimitives order mid18 m ∧
        Payable X.toPrimitives (addressPattern · = true) m ∧
        (m.state = .released → ∃ before release later proof, txs = before ++ release :: later ∧
          release.call = .release mi.matchID proof ∧
          PaysOrder X.toPrimitives order mid18 m release proof) := by
  refine ⟨?_, ?_⟩
  · rintro id rfq hrfq rfl
    obtain ⟨_, hbrought⟩ := session_brought _ hrfq
    exact submitted_written hjson hunseals hpad hsubmits (brought_submitted hoff hunpack hbrought)
  · intro w₀ txs mi hw₀ hopened htaker m
    obtain ⟨pre, e, rfq, price, before, lock, later, mid18, hpre, hreq, hbrought, _, hrfq, hprice,
      hlimit, hsplit, hlock, hlocked⟩ := hopened.lockedOn hw₀ hpacks
    have hsubmitted := brought_submitted hoff hunpack hbrought
    rw [← htaker, ← hrfq] at hsubmits
    obtain ⟨order, hwritten, hkeeps⟩ := submitted_written hjson hunseals hpad hsubmits hsubmitted
    have hmatch :=
      MatchOf.of_lockedOn hkeeps hlocked (requested_price hband hmids hpre hreq hprice) hlimit
    refine ⟨order, before, lock, later, mid18, hwritten, hsplit, hlock, hmatch, hmatch.payable,
      fun hreleased => ?_⟩
    obtain ⟨proofOf, history⟩ := hw₀.releaseHistory (P := X.toPrimitives) txs
    obtain ⟨before, release, later, hsplit, hcall, haccepted⟩ := history.accepted mi.matchID hreleased
    exact ⟨before, release, later, proofOf mi.matchID, hsplit, hcall, hmatch.paid haccepted⟩

end Results

/-! The form of account 2 is submitted, quoted on by maker 3, matched, locked and paid. -/
namespace SampleForm

def externals : Externals :=
  { SampleSealing.externals with
    pack := fun t => some (MatchInstructionLib.encode (lowWords t)) }

/-- The quote of maker 3, as it is posted. -/
def quote : DirectInstruction where
  opType := opHash "WD_RFQ"
  opCommand := quoteSubmit
  message := 0x04 :: (JsonText.object (SampleQuote.input.plaintext SampleQuote.env.keccak256) ++
    List.replicate
      (512 - (JsonText.object (SampleQuote.input.plaintext SampleQuote.env.keccak256)).length) 0x20)

def submissions : List (Happening Nat Unit) :=
  [.call 9 0 .setExtensionId, .call 2 0 (.submitRfq SampleOrder.ciphertext),
    .deliver (SampleDesk.ambient 1000) 0, .direct (SampleDesk.ambient 1005) quote]

def asked : List (Happening Nat Unit) := submissions ++ [.call 9 0 (.triggerMatch 7)]

def happenings : List (Happening Nat Unit) := asked ++ [.deliver (SampleDesk.ambient 1020) 0]

/-- The contract and the enclave after a list of happenings. -/
def relayed (happenings : List (Happening Nat Unit)) : Relay Nat Unit :=
  relay SampleRelay.registries 0x1A 7 happenings

def account : GoString := SampleOrder.order.address

def txs : List (Tx Sample.deployment) :=
  SampleSeal.run account ++ [Sample.releaseTo account.bytes]

theorem requested : ((relayed asked).sent[0]?.bind fun i =>
    (Fcewire.Event.instruction (SampleDesk.ambient 1020) (dataFixedOf i)).signRequest externals
      SampleDesk.snapshotter SampleOrder.config
      (session externals SampleDesk.snapshotter SampleOrder.config 0 () (relayed asked).received)) =
    some (SampleSeal.instruction account) := by
  decide +kernel

theorem openedFrom : OpenedFrom externals SampleDesk.snapshotter SampleOrder.config 0 ()
    (relayed happenings).received Sample.world txs (SampleSeal.instruction account) := by
  obtain ⟨i, hi, hrequest⟩ := Option.bind_eq_some_iff.mp requested
  have hevents : (relayed happenings).received =
      (relayed asked).received ++ [.instruction (SampleDesk.ambient 1020) (dataFixedOf i)] := by
    rw [relayed, happenings, relay_concat]
    simp only [Happening.exec]
    rw [show (relay SampleRelay.registries 0x1A 7 asked).sent[0]? = some i from hi]
    rfl
  have hlock : ((SampleSeal.locking account).exec Sample.primitives
      (after Sample.primitives Sample.world ((Sample.opening 1000 7).take 5))).isOk = true := by
    decide +kernel
  obtain ⟨w', hexec⟩ := exists_ok_of_isOk hlock
  refine ⟨_, SampleSeal.locking account, 0, SampleSeal.packed account, _, w',
    List.prefix_append _ _, rfl, hexec, ⟨_, _, ?_, hrequest⟩, rfl⟩
  rw [hevents]

theorem submitsAnswers :
    SubmitsAnswers Sample.deployment SampleSealing.sealer 2 happenings := by
  intro value ciphertext hcall
  simp only [happenings, asked, submissions, List.cons_append, List.nil_append, List.mem_cons,
    Happening.call.injEq, InstructionSender.Call.submitRfq.injEq, reduceCtorEq, and_false, false_or,
    or_false, List.not_mem_nil] at hcall
  obtain ⟨_, _, rfl⟩ := hcall
  exact ⟨SampleOrder.order, SampleOrder.env, some SampleOrder.body, SampleOrder.answer, rfl,
    SampleOrder.read, SampleOrder.published, SampleOrder.sealed_bytes⟩

theorem unpacksEnvelope : UnpacksEnvelope externals := by
  intro caller ciphertext
  have hunpack := SampleOrder.unpacksEnvelope caller ciphertext
  simp only [externals]
  exact hunpack

theorem readsJson : ReadsJson externals := ⟨SampleSealing.readsJson.rfq, SampleSealing.readsJson.quote⟩

theorem unseals : Unseals externals SampleSealing.sealer := by
  rintro plaintext _ ⟨⟩
  rfl

theorem band : SampleOrder.config.matcher.bandBips.toNat = DvPEscrow.bandBips := by decide

/-- The desk of the sample sees one mid, two dollars. -/
theorem midsBounded : MidsBounded externals SampleDesk.snapshotter SampleOrder.config 0 ()
    (relayed happenings).received := by
  intro pre e a data rfqID snap mid _ _ _ hsnap hmid
  simp only [matchSnap, bind_eq_ok, pure_eq_ok, Prod.exists] at hsnap
  obtain ⟨taker, makers, _, rfl⟩ := hsnap
  obtain rfl := Option.some.inj hmid
  decide

end SampleForm

open SampleForm in
theorem forms_settle_sample :
    ∃ order before lock later mid18, Written Sample.deployment SampleSealing.sealer happenings order ∧
      txs = before ++ lock :: later ∧
      OpenedBy externals SampleDesk.snapshotter SampleOrder.config 0 ()
        (SampleForm.relayed happenings).received Sample.world before lock
        (SampleSeal.instruction account) mid18 ∧
      ∃ release ∈ txs, ∃ proof, PaysOrder externals.toPrimitives order mid18
        ((after externals.toPrimitives Sample.world txs).escrow.matchOf 7) release proof := by
  have hpacks : PacksLow externals.toLibraries := fun _ _ hdata => (Option.some.inj hdata).symm
  have hmatches := (forms_settle SampleRelay.registries 0x1A 7 externals SampleDesk.snapshotter
    SampleOrder.config 0 () Sample.deployment SampleSealing.sealer rfl unpacksEnvelope hpacks band
    readsJson unseals rfl happenings 2 submitsAnswers midsBounded).2
  obtain ⟨order, before, lock, later, mid18, hwritten, hsplit, hlock, _, _, hpaid⟩ :=
    hmatches Sample.world txs (SampleSeal.instruction account) Sample.deployed openedFrom rfl
  obtain ⟨_, release, _, proof, hreleases, _, hpays⟩ := hpaid (by decide +kernel)
  have hid : (SampleSeal.instruction account).matchID = 7 := rfl
  have hrelease : release ∈ txs := by
    rw [hreleases]
    exact List.mem_append_right _ List.mem_cons_self
  rw [hid] at hpays
  exact ⟨order, before, lock, later, mid18, hwritten, hsplit, hlock, release, hrelease, proof, hpays⟩

end WhisperDesk.Web
