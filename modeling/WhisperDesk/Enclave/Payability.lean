import WhisperDesk.Enclave.Pipeline

/-!
# Whether a match can be paid at all

A maker is released by a payment to an XRPL account whose address hashes to what
the match stores. The handler, the book and `lock` take any non-empty string for
that address, so a taker can seal one that is no account's: the match locks, no
payment releases it, and the maker's bond is lost. What makes a string a classic
address, checksum included, is XRPL's business and a parameter here.
-/
namespace WhisperDesk.Fcewire

open Go
open Matcher
open Reverting
open DvPEscrow (Deployment)

/-- The base58 alphabet: no `0`, `I`, `O` and `l`. -/
def base58Char (c : UInt8) : Bool :=
  (0x31 ≤ c ∧ c ≤ 0x39) ∨ (0x41 ≤ c ∧ c ≤ 0x48) ∨ (0x4A ≤ c ∧ c ≤ 0x4E) ∨ (0x50 ≤ c ∧ c ≤ 0x5A) ∨
    (0x61 ≤ c ∧ c ≤ 0x6B) ∨ (0x6D ≤ c ∧ c ≤ 0x7A)

/-- `^r[1-9A-HJ-NP-Za-km-z]{24,34}$`, which POST /api/taker/rfq/publish asks for. -/
def addressPattern : Bytes → Bool
  | [] => false
  | c :: rest => c = 0x72 ∧ 24 ≤ rest.length ∧ rest.length ≤ 34 ∧ rest.all base58Char = true

/-- Some account's address hashes to what the match stores. -/
def Payable (P : Primitives) (classic : Bytes → Prop) (m : Match) : Prop :=
  ∃ address, classic address ∧ P.keccak256 address = m.takerXrplAddressHash

/-- If the verifier vouches for payments to accounts only, no proof releases a
match that is not payable. -/
theorem unpayable_not_released {P : Primitives} {classic : Bytes → Prop} {d : Deployment} {w w' : World}
    {tx : Tx d} {id : Bytes32} {proof : XRPPayment.Proof} (hcall : tx.call = .release id proof)
    (haccounts : tx.env.verifyXRPPayment proof = true → proof.data.responseBody.status = 0 →
      ∃ address, classic address ∧
        proof.data.responseBody.receivingAddressHash = P.keccak256 address)
    (hunpayable : ¬ Payable P classic (w.escrow.matchOf id)) : tx.exec P w ≠ .ok w' := by
  intro hexec
  obtain ⟨_, haccepted⟩ := release_accepted hcall hexec
  obtain ⟨address, haddress, hhash⟩ := haccounts haccepted.verified haccepted.status
  exact hunpayable ⟨address, haddress, hhash.symm.trans haccepted.receiver⟩

section Pipeline

variable {σ : Type} (X : Externals) (S : Snapshotter σ) (cfg : Config) (epoch : UInt64) (c₀ : σ)

/-- Every match that the enclave's instructions opened and that is still locked
can be paid. -/
def EveryMatchPayable {d : Deployment} (w₀ : World) (classic : Bytes → Prop) : Prop :=
  ∀ events (txs : List (Tx d)) mi, OpenedFrom X S cfg epoch c₀ events w₀ txs mi →
    ((after X.toPrimitives w₀ txs).escrow.matchOf mi.matchID).state = .locked →
    Payable X.toPrimitives classic ((after X.toPrimitives w₀ txs).escrow.matchOf mi.matchID)

variable {X S cfg epoch c₀} {d : Deployment} {w₀ : World} {events : List (Event σ)}
  {txs : List (Tx d)} {mi : MatchInstruction}

/-- A match is payable exactly when the address in the taker's accepted RFQ is
some account's. -/
theorem payable_iff_sealed_classic {classic : Bytes → Prop} (hw₀ : Deployed d w₀)
    (hpacks : PacksLow X.toLibraries) (hopened : OpenedFrom X S cfg epoch c₀ events w₀ txs mi)
    (hcollision : ∀ address, classic address →
      X.keccak256 address = X.keccak256 mi.takerXrplAddress.bytes →
      address = mi.takerXrplAddress.bytes) :
    ∃ rfq, Brought X S cfg epoch c₀ events rfq ∧ rfq.id = mi.matchID ∧
      rfq.xrplAddress = mi.takerXrplAddress ∧
      (Payable X.toPrimitives classic ((after X.toPrimitives w₀ txs).escrow.matchOf mi.matchID) ↔
        classic rfq.xrplAddress.bytes) := by
  obtain ⟨_, _, hhash⟩ := hopened.pays hw₀ hpacks
  have hissued : ∃ data, Issued X S cfg epoch c₀ events data mi := by
    obtain ⟨_, _, _, data, _, _, _, _, _, hissued⟩ := hopened
    exact ⟨data, hissued⟩
  obtain ⟨data, hissued⟩ := hissued
  obtain ⟨rfq, hbrought, hid, _, haddress⟩ := hissued.brought
  refine ⟨rfq, hbrought, hid, haddress, ?_⟩
  rw [haddress]
  constructor
  · rintro ⟨address, hclassic, hsame⟩
    rw [hhash] at hsame
    rw [← hcollision address hclassic hsame]
    exact hclassic
  · intro hclassic
    exact ⟨_, hclassic, hhash.symm⟩

end Pipeline

/-! One RFQ whose taker seals a string of its choice, matched and locked. -/
namespace SampleSeal

def externals (address : GoString) : Externals :=
  { SampleDesk.externals with
    pack := fun t => some (MatchInstructionLib.encode (lowWords t))
    decodeRfqPlaintext := fun body =>
      if body = ascii "rfq" then some { SampleDesk.rfqPlaintext with xrplAddress := address } else none }

theorem packsLow (address : GoString) : PacksLow (externals address).toLibraries :=
  fun _ _ hdata => (Option.some.inj hdata).symm

/-- The instruction of the match. -/
def instruction (address : GoString) : Matcher.MatchInstruction :=
  instructionFor 0xE5 { SampleBook.request with xrplAddress := address } SampleBook.high
    (SampleBook.clock 1020)

def packed (address : GoString) : Bytes :=
  MatchInstructionLib.encode (lowWords ⟨7, 0xE5, 2, 3, 5000000000, 2010000000000000000, address,
    (instruction address).instructionExpiresAt⟩)

def locking (address : GoString) : Tx Sample.deployment :=
  Sample.tx 1000 Sample.maker (.lock 0 (packed address) (List.replicate 65 0))

def run (address : GoString) : List (Tx Sample.deployment) :=
  (Sample.opening 1000 7).take 5 ++ [locking address]

theorem openedFrom {address : GoString}
    (hrequest : SampleDesk.matching.signRequest (externals address) SampleDesk.snapshotter
      SampleDesk.config (session (externals address) SampleDesk.snapshotter SampleDesk.config 0 ()
        SampleDesk.submitted) = some (instruction address))
    (hlock : ((locking address).exec Sample.primitives
      (after Sample.primitives Sample.world ((Sample.opening 1000 7).take 5))).isOk = true) :
    OpenedFrom (externals address) SampleDesk.snapshotter SampleDesk.config 0 ()
      (SampleDesk.submitted ++ [SampleDesk.matching]) Sample.world (run address)
      (instruction address) := by
  obtain ⟨w', hexec⟩ := exists_ok_of_isOk hlock
  exact ⟨_, locking address, 0, packed address, _, w', List.prefix_refl _, rfl, hexec,
    ⟨SampleDesk.submitted, SampleDesk.matching, List.prefix_refl _, hrequest⟩, rfl⟩

/-- A string that is no account's address. -/
def lone : GoString := SampleBook.request.xrplAddress

def takers : GoString := ⟨Sample.takersAddress, by decide⟩

/-- No string of the pattern hashes to what the letter `r` does: its last byte
but one is not zero. -/
theorem keccak_ne {address : Bytes} (h : addressPattern address = true) :
    Sample.primitives.keccak256 address ≠ 0x72 := by
  intro hhash
  cases address with
  | nil => cases h
  | cons c rest =>
    simp only [addressPattern, decide_eq_true_eq] at h
    obtain ⟨_, hlength, _, hall⟩ := h
    obtain ⟨init, b, last, rfl⟩ : ∃ init b last, rest = init ++ [b] ++ [last] := by
      rcases List.eq_nil_or_concat rest with rfl | ⟨start, last, rfl⟩
      · simp at hlength
      · rcases List.eq_nil_or_concat start with rfl | ⟨init, b, rfl⟩
        · simp at hlength
        · exact ⟨init, b, last, by simp⟩
    have hb : 0x31 ≤ b.toNat := by
      have hbase : base58Char b = true := List.all_eq_true.mp hall b (by simp)
      simp only [base58Char, UInt8.le_iff_toNat_le, decide_eq_true_eq] at hbase
      have h31 : (0x31 : UInt8).toNat = 0x31 := rfl
      grind
    have hvalue := congrArg BitVec.toNat hhash
    simp only [Sample.primitives, BitVec.toNat_ofNat, ← List.cons_append,
      ByteCodec.ofBE_concat] at hvalue
    have hblt := b.toNat_lt
    have hlast := last.toNat_lt
    have hr : BitVec.toNat (0x72 : Bytes32) = 0x72 := rfl
    omega

end SampleSeal

open SampleSeal in
theorem payable_iff_sealed_classic_sample :
    Payable (externals takers).toPrimitives (· = Sample.takersAddress)
      ((after (externals takers).toPrimitives Sample.world (run takers)).escrow.matchOf
        (instruction takers).matchID) := by
  obtain ⟨rfq, _, _, haddress, hiff⟩ := @payable_iff_sealed_classic _ (externals takers)
    SampleDesk.snapshotter SampleDesk.config 0 () _ _ _ (run takers) _ (· = Sample.takersAddress)
    Sample.deployed (packsLow takers) (openedFrom (by decide +kernel) (by decide +kernel))
    (fun _ h _ => h)
  have hsealed : rfq.xrplAddress.bytes = Sample.takersAddress := congrArg GoString.bytes haddress
  exact hiff.mpr hsealed

open SampleSeal in
/-- The sealed string `r` locks the maker's bond for a match nobody can pay. -/
theorem unpayable_match_locks :
    ¬ EveryMatchPayable (externals lone) SampleDesk.snapshotter SampleDesk.config 0 ()
      Sample.world (d := Sample.deployment) (addressPattern · = true) := by
  intro hpayable
  obtain ⟨address, hpattern, hhash⟩ := hpayable _ (run lone) _
    (openedFrom (by decide +kernel) (by decide +kernel)) (by decide +kernel)
  exact keccak_ne hpattern (hhash.trans (by decide +kernel))

end WhisperDesk.Fcewire
