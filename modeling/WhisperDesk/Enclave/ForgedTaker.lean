import WhisperDesk.Enclave.Payability

/-!
# A taker forged on the direct ingress

With the direct RFQ ingress on, whoever reaches it writes the taker's address
into the envelope and seals the XRPL address next to it. The FXRP of a match
comes from the named taker's deposit, as the demo's comment says; the XRP goes to
the address the forger sealed. The named taker is safe as long as every such RFQ
that is accepted in its name seals an address that is not the forger's.
-/
namespace WhisperDesk.Fcewire

open Go
open Matcher
open Reverting
open DvPEscrow (Deployment)

section Forgery

variable {σ : Type} (X : Externals) (S : Snapshotter σ) (cfg : Config) (epoch : UInt64) (c₀ : σ)
  (T : Address) (chosen : Bytes → Prop) (events : List (Event σ))

/-- No RFQ_SUBMIT from the chain, where the sender is stamped, names the taker. -/
def NeverSubmitted : Prop :=
  ∀ pre e rfq, pre ++ [e] <+: events → e.Brings X S cfg (session X S cfg epoch c₀ pre) rfq →
    rfq.taker = T → ∃ a di, e = .direct a di

/-- What the direct ingress accepts in the taker's name seals no address that
the adversary chose. -/
def DirectSealsSafe : Prop :=
  ∀ pre a di rfq, pre ++ [.direct a di] <+: events →
    (Event.direct a di).Brings X S cfg (session X S cfg epoch c₀ pre) rfq → rfq.taker = T →
    ¬ chosen rfq.xrplAddress.bytes

/-- An instruction that some `lock` takes, with funds the taker deposited. -/
def Lockable {d : Deployment} (w₀ : World) (mi : MatchInstruction) : Prop :=
  ∃ (txs : List (Tx d)) (tx : Tx d) (value : Nat) (data sig : Bytes) (w' : World),
    DepositsOnly mi.taker (txs ++ [tx]) ∧ tx.call = .lock value data sig ∧
    mi.abiEncode X.toLibraries = .ok data ∧ tx.exec X.toPrimitives (after X.toPrimitives w₀ txs) = .ok w'

/-- No matched instruction that names the taker and can be locked pays the
adversary. -/
def ForgerGainsNothing {d : Deployment} (w₀ : World) : Prop :=
  ∀ pre e mi, pre ++ [e] <+: events →
    e.signRequest X S cfg (session X S cfg epoch c₀ pre) = some mi → mi.taker = T →
    Lockable X (d := d) w₀ mi → ¬ chosen mi.takerXrplAddress.bytes

variable {X S cfg epoch c₀ T chosen events}

/-- Whatever is in the book in the taker's name came in directly, and is safe. -/
theorem brought_safe (hnever : NeverSubmitted X S cfg epoch c₀ T events)
    (hsafe : DirectSealsSafe X S cfg epoch c₀ T chosen events) {rfq : RFQ}
    (hbrought : Brought X S cfg epoch c₀ events rfq) (htaker : rfq.taker = T) :
    ¬ chosen rfq.xrplAddress.bytes := by
  obtain ⟨pre, e, hsent, hbrings⟩ := hbrought
  obtain ⟨a, di, rfl⟩ := hnever pre e rfq hsent hbrings htaker
  exact hsafe pre a di rfq hsent hbrings htaker

/-- In a session whose direct RFQs are safe, nothing matched in the name of a
taker that submitted nothing pays the adversary, before or after it is locked. -/
theorem forged_taker_pays_sealed {d : Deployment} {w₀ : World} (hw₀ : Deployed d w₀)
    (hpacks : PacksLow X.toLibraries) (hnever : NeverSubmitted X S cfg epoch c₀ T events)
    (hsafe : DirectSealsSafe X S cfg epoch c₀ T chosen events) :
    ForgerGainsNothing X S cfg epoch c₀ T chosen events (d := d) w₀ ∧
      ∀ (txs : List (Tx d)) mi, OpenedFrom X S cfg epoch c₀ events w₀ txs mi →
        let m := (after X.toPrimitives w₀ txs).escrow.matchOf mi.matchID
        m.taker = T → ∃ rfq, Brought X S cfg epoch c₀ events rfq ∧ rfq.taker = T ∧
          m.takerXrplAddressHash = X.keccak256 rfq.xrplAddress.bytes ∧
          ¬ chosen rfq.xrplAddress.bytes := by
  constructor
  · intro pre e mi hsent hreq htaker _
    obtain ⟨rfq, hbrought, _, hrfq, haddress⟩ := requested_brought hreq
    rw [← haddress]
    exact brought_safe hnever hsafe (hbrought.later ((List.prefix_append pre [e]).trans hsent))
      (hrfq.trans htaker)
  · intro txs mi hopened m htaker
    obtain ⟨_, hm, hhash⟩ := hopened.pays hw₀ hpacks
    obtain ⟨_, _, _, data, _, _, _, _, _, hissued⟩ := hopened
    obtain ⟨rfq, hbrought, _, hrfq, haddress⟩ := hissued.brought
    have hnamed : rfq.taker = T := hrfq.trans (hm.symm.trans htaker)
    refine ⟨rfq, hbrought, hnamed, ?_, brought_safe hnever hsafe hbrought hnamed⟩
    rw [haddress]
    exact hhash

end Forgery

/-! Somebody names taker 2 on the direct ingress and quotes the RFQ as maker 3. -/
namespace SampleForgery

open SampleDesk (ciphertext ambient)

def config : Config := { SampleDesk.config with allowDirectRfq := true }

/-- The envelope that names taker 2. -/
def envelope : Bytes :=
  AbiWords.words [2, 0x40, (ciphertext "rfq").length] ++ AbiWords.padRight (ciphertext "rfq")

/-- The id of a direct RFQ is the hash of its envelope. -/
def forgedID : Bytes32 := Sample.primitives.keccak256 envelope

def externals (address : GoString) : Externals :=
  { SampleSeal.externals address with
    decodeQuotePlaintext := fun body =>
      if body = ascii "quote" then some { SampleDesk.quotePlaintext with rfqID := hashHex forgedID }
      else none }

def direct (n : Nat) (opCommand : Bytes32) (message : Bytes) : Fcewire.Event Unit :=
  .direct (ambient n) { opType := opHash "WD_RFQ", opCommand, message }

def forged : List (Fcewire.Event Unit) :=
  [direct 1000 rfqSubmit envelope, direct 1005 quoteSubmit (ciphertext "quote")]

def matching : Fcewire.Event Unit := direct 1020 rfqMatch (AbiWords.word forgedID.toNat)

/-- The session of the adversary. -/
def events : List (Fcewire.Event Unit) := forged ++ [matching]

def request (address : GoString) : RFQ :=
  { SampleBook.request with id := forgedID, xrplAddress := address }

def instruction (address : GoString) : Matcher.MatchInstruction :=
  instructionFor 0xE5 (request address) SampleBook.high (SampleBook.clock 1020)

theorem events_direct {e : Fcewire.Event Unit} (h : e ∈ events) : ∃ a di, e = .direct a di := by
  simp only [events, forged, List.cons_append, List.nil_append, List.mem_cons, List.not_mem_nil,
    or_false] at h
  rcases h with rfl | rfl | rfl
  · exact ⟨_, _, rfl⟩
  · exact ⟨_, _, rfl⟩
  · exact ⟨_, _, rfl⟩

theorem neverSubmitted (address : GoString) :
    NeverSubmitted (externals address) SampleDesk.snapshotter config 0 () 2 events :=
  fun _ _ _ hsent _ _ => events_direct (hsent.subset (by simp))

/-- Every RFQ of the session carries the sealed address. -/
theorem directSealsSafe {address : GoString} {chosen : Bytes → Prop} (h : ¬ chosen address.bytes) :
    DirectSealsSafe (externals address) SampleDesk.snapshotter config 0 () 2 chosen events := by
  intro pre a di rfq _ hbrings _
  obtain ⟨⟨_, _, _, msg, _, _, hsealed⟩, _⟩ := hbrings
  obtain ⟨_, body, _, _, hdecode⟩ := hsealed.opens
  have hmsg : msg.xrplAddress = address := by
    simp only [externals, SampleSeal.externals, Option.ite_none_right_eq_some,
      Option.some.injEq] at hdecode
    rw [← hdecode.2]
  rw [← hsealed.address, hmsg]
  exact h

/-- The lock of the forged match, after taker 2 has deposited. -/
def locking (address : GoString) : Tx Sample.deployment :=
  Sample.tx 1000 Sample.maker (.lock 0 (MatchInstructionLib.encode (lowWords
    ⟨forgedID, 0xE5, 2, 3, 5000000000, 2010000000000000000, address,
      (instruction address).instructionExpiresAt⟩)) (List.replicate 65 0))

theorem depositsOnly (address : GoString) :
    DepositsOnly 2 ((Sample.opening 1000 7).take 5 ++ [locking address]) := by
  intro tx hmem
  simp only [Sample.opening, List.take_succ_cons, List.take_zero, List.cons_append, List.nil_append,
    List.mem_cons, List.not_mem_nil, or_false] at hmem
  rcases hmem with rfl | rfl | rfl | rfl | rfl | rfl
  · exact ⟨fun h => absurd h (by decide), by simp [Sample.tx]⟩
  · exact ⟨fun h => absurd h (by decide), by simp [Sample.tx]⟩
  · exact ⟨fun h => absurd h (by decide), by simp [Sample.tx]⟩
  · exact ⟨fun _ => .inl ⟨_, _, rfl⟩, by simp [Sample.tx]⟩
  · exact ⟨fun h => absurd h (by decide), by simp [Sample.tx]⟩
  · exact ⟨fun h => absurd h (show (3 : Address) ≠ 2 by decide), by simp [Sample.tx, locking]⟩

def strangers : GoString := ⟨Sample.strangersAddress, by decide⟩

end SampleForgery

open SampleForgery in
/-- With an address that is not the forger's, nothing is gained. -/
theorem forged_taker_pays_sealed_sample :
    ForgerGainsNothing (externals SampleSeal.takers) SampleDesk.snapshotter config 0 () 2
      (· = Sample.strangersAddress) events (d := Sample.deployment) Sample.world :=
  (forged_taker_pays_sealed Sample.deployed (fun _ _ hdata => (Option.some.inj hdata).symm)
    (neverSubmitted _) (directSealsSafe (by decide))).1

open SampleForgery in
/-- A taker that only deposited pays for a match whose XRP leg goes to the
address that the forger sealed in its name. -/
theorem forger_is_paid :
    ¬ ∀ session, NeverSubmitted (externals strangers) SampleDesk.snapshotter config 0 () 2 session →
      ForgerGainsNothing (externals strangers) SampleDesk.snapshotter config 0 () 2
        (· = Sample.strangersAddress) session (d := Sample.deployment) Sample.world := by
  intro hgains
  have hrequest : matching.signRequest (externals strangers) SampleDesk.snapshotter config
      (session (externals strangers) SampleDesk.snapshotter config 0 () forged) =
        some (instruction strangers) := by decide +kernel
  obtain ⟨w', hexec⟩ := exists_ok_of_isOk (x := (locking strangers).exec Sample.primitives
    (after Sample.primitives Sample.world ((Sample.opening 1000 7).take 5))) (by decide +kernel)
  exact hgains events (neverSubmitted _) forged matching _ (List.prefix_refl _) hrequest rfl
    ⟨_, locking strangers, 0, _, _, w', depositsOnly _, rfl, rfl, hexec⟩ rfl

end WhisperDesk.Fcewire
