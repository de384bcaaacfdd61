import WhisperDesk.Contracts.Band
import WhisperDesk.Contracts.Liveness

/-!
# What the signer's key is worth

A run in which anyone may hold the `teeSigner` key. Nothing in the escrow ties a
taker to an XRPL address: `lock` stores whatever non-empty address the signed
instruction carries, and `release` is satisfied by a payment there. A taker is
paid where it wants as long as every accepted `lock` naming it says so; the
amount is within the band in any case.
-/
namespace WhisperDesk

open Function (update)
open Reverting
open DvPEscrow (Deployment LockAccepted ProofAccepted SignatureAccepted lockedMatch)
open MatchInstructionLib (MatchInstruction)

/-- The addresses a taker wants its XRP at, as a set of strings. -/
abbrev Designation := Bytes → Prop

/-- A match pays a designated address, and no less than the band allows. -/
structure Match.PaysDesignated (P : Primitives) (designates : Designation) (m : Match) : Prop where
  address : ∃ address, designates address ∧ m.takerXrplAddressHash = P.keccak256 address
  drops : 9900 * m.amountFxrp < 10000 * (m.xrpDrops + 1)

section Definitions

variable (P : Primitives) {d : Deployment} (T : Address) (designates : Designation) (w₀ : World)
  (txs : List (Tx d))

/-- The taker sends deposits and withdrawals and nothing else. -/
def DepositsOnly : Prop :=
  ∀ tx ∈ txs, (tx.sender.address = T →
      (∃ amount armedUntil, tx.call = .deposit amount armedUntil) ∨
        ∃ amount, tx.call = .withdraw amount) ∧
    ∀ m ∈ tx.nested, m.sender.address ≠ T

/-- Every `lock` of the run that passes the escrow's checks and names `T` as
taker carries an XRPL address designated by `T`. -/
def LocksDesignated : Prop :=
  ∀ before tx, before ++ [tx] <+: txs → ∀ value data sig mi fee mid18 ts,
    tx.call = .lock value data sig →
    LockAccepted P d tx.env value data sig (after P w₀ before) mi fee mid18 ts →
    mi.taker = T → designates mi.takerXrplAddress

/-- Whenever `release` pays FXRP of `T` to a maker, the XRP went to an address
designated by `T`, and it was worth at least 99% of the FXRP less one drop. -/
def PaidWhereDesignated : Prop :=
  ∀ before tx, before ++ [tx] <+: txs → ∀ id proof w', tx.call = .release id proof →
    tx.exec P (after P w₀ before) = .ok w' →
    let m := (after P w₀ before).escrow.matchOf id
    m.taker = T →
    (∃ address, designates address ∧
      proof.data.responseBody.receivingAddressHash = P.keccak256 address) ∧
    9900 * (m.amountFxrp : Int) < 10000 * (proof.data.responseBody.receivedAmount + 1)

/-- Every match of `T` that was ever opened pays where `T` wants. -/
def MatchesDesignated (w : World) : Prop :=
  ∀ id, (w.escrow.matchOf id).state ≠ .none → (w.escrow.matchOf id).taker = T →
    (w.escrow.matchOf id).PaysDesignated P designates

end Definitions

section Results

variable {P : Primitives} {d : Deployment} {T : Address} {designates : Designation} {w₀ w w' : World}
  {txs pre : List (Tx d)} {tx : Tx d}

theorem LocksDesignated.initial (h : LocksDesignated P T designates w₀ (pre ++ [tx])) :
    LocksDesignated P T designates w₀ pre :=
  fun before tx' hrun => h before tx' (hrun.trans (List.prefix_append pre [tx]))

/-- A match keeps its terms, so what it pays is decided when it is opened. -/
theorem MatchesDesignated.effect (hm : MatchesDesignated P T designates w)
    (hlock : ∀ value data sig mi fee mid18 ts, tx.call = .lock value data sig →
      LockAccepted P d tx.env value data sig w mi fee mid18 ts → mi.taker = T →
      designates mi.takerXrplAddress)
    (h : Effect P tx w w') : MatchesDesignated P T designates w' := by
  rcases h.terms with ⟨value, data, sig, mi, fee, mid18, ts, hcall, haccepted, hmatch, _⟩ | ⟨hterms, _⟩
  · intro id
    rw [hmatch]
    by_cases hid : id = mi.matchId
    · subst hid
      rw [Function.update_self]
      intro _ htaker
      have haddress := hlock value data sig mi fee mid18 ts hcall haccepted htaker
      exact ⟨⟨mi.takerXrplAddress, haddress, rfl⟩, (drops_in_band mi haccepted.band).1⟩
    · rw [Function.update_of_ne hid]
      exact hm id
  · intro id hopen htaker
    have hold := hm id (mt (hterms id).opened.mpr hopen)
    rw [(hterms id).terms] at htaker ⊢
    have hpays := hold htaker
    exact ⟨hpays.address, hpays.drops⟩

theorem matchesDesignated (hw₀ : Deployed d w₀) (txs : List (Tx d))
    (h : LocksDesignated P T designates w₀ txs) :
    MatchesDesignated P T designates (after P w₀ txs) := by
  refine after_induction (P := P)
    (I := fun txs w => LocksDesignated P T designates w₀ txs → MatchesDesignated P T designates w)
    hw₀.genesis.entered ?_ ?_ txs h
  · intro _ id hopen
    rw [hw₀.genesis.matchOf] at hopen
    exact absurd rfl hopen
  · intro pre tx w' hpre heffect _ hlocks
    exact (hpre hlocks.initial).effect (hlocks pre tx (List.prefix_refl _)) heffect

theorem release_accepted {id : Bytes32} {proof : XRPPayment.Proof}
    (hcall : tx.call = .release id proof) (h : tx.exec P w = .ok w') :
    (w.escrow.matchOf id).state = .locked ∧
      ProofAccepted d tx.env w.escrow.usedTxId (w.escrow.matchOf id) proof := by
  unfold Tx.exec at h
  rw [hcall] at h
  obtain ⟨_, hlocked, hproof, _⟩ := DvPEscrow.release_eq_ok.mp h
  exact ⟨hlocked, hproof⟩

/-- In a run whose accepted locks name designated addresses, a taker is paid
there, whoever signed, locked, paid and released. -/
theorem taker_paid_where_designated (hw₀ : Deployed d w₀) (txs : List (Tx d))
    (h : LocksDesignated P T designates w₀ txs) : PaidWhereDesignated P T designates w₀ txs := by
  intro before tx hrun id proof w' hcall hexec m htaker
  have hbefore : LocksDesignated P T designates w₀ before := fun b t hb =>
    h b t (hb.trans ((List.prefix_append before [tx]).trans hrun))
  obtain ⟨hlocked, haccepted⟩ := release_accepted hcall hexec
  have hpays := matchesDesignated hw₀ before hbefore id (by rw [hlocked]; decide) htaker
  obtain ⟨address, hdesignated, hhash⟩ := hpays.address
  refine ⟨⟨address, hdesignated, haccepted.receiver.trans hhash⟩, ?_⟩
  have hdrops : 9900 * m.amountFxrp < 10000 * (m.xrpDrops + 1) := hpays.drops
  have hreceived : (m.xrpDrops : Int) ≤ proof.data.responseBody.receivedAmount := haccepted.amount
  omega

/-- What `lock` checks of the address is that it is not empty: a signature over
any other address makes the same call pass. -/
theorem lock_accepts_any_address {env : Env} {value fee mid18 ts : Nat} {data data' sig sig' : Bytes}
    {mi : MatchInstruction} (h : LockAccepted P d env value data sig w mi fee mid18 ts)
    (address : Bytes) (hne : address.length ≠ 0)
    (hdecode : MatchInstructionLib.decode data' = some { mi with takerXrplAddress := address })
    (hsignature : SignatureAccepted P env w.escrow.teeSigner data' sig') :
    LockAccepted P d env value data' sig' w { mi with takerXrplAddress := address } fee mid18 ts :=
  { h with
    decoded := hdecode
    signature := hsignature
    instruction := ⟨h.instruction.fresh, h.instruction.unexpired, h.instruction.taker_ne_maker,
      h.instruction.minBlock, hne⟩ }

/-- A locked match of `T` that pays nowhere `T` wants is one payment away from
breaking the promise. -/
theorem undesignated_match_pays (hw₀ : Deployed d w₀) (txs : List (Tx d)) {tx : Tx d}
    (hfdc : FunctionalVerifier (txs ++ [tx])) (htransfers : TransfersSucceed d tx.env)
    {id : Bytes32} {proof : XRPPayment.Proof} (hcall : tx.call = .release id proof)
    (hlocked : ((after P w₀ txs).escrow.matchOf id).state = .locked)
    (htaker : ((after P w₀ txs).escrow.matchOf id).taker = T)
    (hundesignated : ∀ address, designates address →
      ((after P w₀ txs).escrow.matchOf id).takerXrplAddressHash ≠ P.keccak256 address)
    (hfits : ProofAccepted d tx.env (fun _ => false) ((after P w₀ txs).escrow.matchOf id) proof) :
    ¬ PaidWhereDesignated P T designates w₀ (txs ++ [tx]) := by
  intro hpaid
  obtain ⟨w', hexec⟩ := release_succeeds hw₀ txs hfdc htransfers hcall hlocked hfits
  obtain ⟨⟨address, hdesignated, hhash⟩, _⟩ :=
    hpaid txs tx (List.prefix_refl _) id proof w' hcall hexec htaker
  exact hundesignated address hdesignated (hfits.receiver.symm.trans hhash)

end Results

/-! One match of taker 2, paid to whatever address the instruction carries. -/
namespace Sample

def strangersAddress : Bytes := ascii "rPT1Sjq2YGrBMTttX4GZHjKu9dyfzbpAYe"

def instructionTo (address : Bytes) : MatchInstruction :=
  { instruction 7 with takerXrplAddress := address }

/-- The proof of a payment of the drops owed, to `address`. -/
def proofTo (address : Bytes) : XRPPayment.Proof :=
  { proof 1000 with
    data.responseBody.receivingAddressHash := primitives.keccak256 address
    data.responseBody.intendedReceivingAddressHash := primitives.keccak256 address }

/-- The verifier knows that payment. -/
def envPaying (address : Bytes) : Env :=
  { env 1000 with verifyXRPPayment := fun p => decide (p = proofTo address) }

/-- The maker locks with the signature it was given. -/
def lockTo (address : Bytes) : Tx deployment :=
  tx 1000 maker (.lock 0 (MatchInstructionLib.encode (instructionTo address)) (List.replicate 65 0))

def releaseTo (address : Bytes) : Tx deployment :=
  ⟨⟨envPaying address, maker, .release 7 (proofTo address)⟩, [], true⟩

/-- Taker 2 deposits, maker 3 bonds, locks and pays `address`. -/
def settlingTo (address : Bytes) : List (Tx deployment) :=
  (opening 1000 7).take 5 ++ [lockTo address, releaseTo address]

theorem decode_instructionTo (address : Bytes) (h : address.length < 2 ^ 64) :
    MatchInstructionLib.decode (MatchInstructionLib.encode (instructionTo address)) =
      some (instructionTo address) :=
  MatchInstructionLib.decode_encode _
    ⟨show (5000000000 : Nat) < 2 ^ 256 by decide, show 2010000000000000000 < 2 ^ 256 by decide, h,
      show 2 ^ 63 < 2 ^ 64 by decide⟩

/-- Taker 2 sends its deposit and nothing else. -/
theorem mem_settlingTo {address : Bytes} {t : Tx deployment} (h : t ∈ settlingTo address) :
    t = tx 1000 taker (.deposit 20000000000 (2 ^ 63)) ∨ t.sender.address ≠ 2 ∧ t.nested = [] := by
  simp only [settlingTo, opening, List.take_succ_cons, List.take_zero, List.cons_append,
    List.nil_append, List.mem_cons, List.not_mem_nil, or_false] at h
  rcases h with rfl | rfl | rfl | rfl | rfl | rfl | rfl
  · exact .inr ⟨by decide, rfl⟩
  · exact .inr ⟨by decide, rfl⟩
  · exact .inr ⟨by decide, rfl⟩
  · exact .inl rfl
  · exact .inr ⟨by decide, rfl⟩
  · exact .inr ⟨show (3 : Address) ≠ 2 by decide, rfl⟩
  · exact .inr ⟨show (3 : Address) ≠ 2 by decide, rfl⟩

/-- The run has one `lock`, and it pays `address`. -/
theorem locksDesignated (address : Bytes) (h : address.length < 2 ^ 64) :
    LocksDesignated primitives 2 (· = address) world (settlingTo address) := by
  intro before tx' hrun value data sig mi fee mid18 ts hcall haccepted _
  have hmem : tx' ∈ settlingTo address := hrun.subset (by simp)
  have hdata : data = MatchInstructionLib.encode (instructionTo address) := by
    simp only [settlingTo, opening, List.take_succ_cons, List.take_zero, List.cons_append,
      List.nil_append, List.mem_cons, List.not_mem_nil, or_false] at hmem
    rcases hmem with rfl | rfl | rfl | rfl | rfl | rfl | rfl <;> cases hcall
    rfl
  have hdecoded := haccepted.decoded
  rw [hdata, decode_instructionTo address h] at hdecoded
  rw [← Option.some.inj hdecoded]
  rfl

end Sample

/-- The run's taker designates the address it is paid at. -/
theorem taker_paid_where_designated_sample :
    PaidWhereDesignated Sample.primitives 2 (· = Sample.takersAddress) Sample.world
        (Sample.settlingTo Sample.takersAddress) ∧
      ((after Sample.primitives Sample.world (Sample.settlingTo Sample.takersAddress)).escrow.matchOf
        7).state = .released :=
  ⟨taker_paid_where_designated Sample.deployed _ (Sample.locksDesignated _ (by decide)),
    by decide +kernel⟩

/-- Whoever holds the signer's key names a stranger's address for a taker that
only deposited, pays itself there and is handed the FXRP. -/
theorem stranger_paid :
    let txs := Sample.settlingTo Sample.strangersAddress
    Deployed Sample.deployment Sample.world ∧ DepositsOnly 2 txs ∧
      ¬ PaidWhereDesignated Sample.primitives 2 (· = Sample.takersAddress) Sample.world txs := by
  refine ⟨Sample.deployed, ?_, ?_⟩
  · intro tx hmem
    rcases Sample.mem_settlingTo hmem with rfl | ⟨hsender, hnested⟩
    · exact ⟨fun _ => .inl ⟨_, _, rfl⟩, by simp [Sample.tx]⟩
    · exact ⟨fun h => absurd h hsender, by simp [hnested]⟩
  · intro hpaid
    obtain ⟨w', hexec⟩ := exists_ok_of_isOk
      (x := (Sample.releaseTo Sample.strangersAddress).exec Sample.primitives
        (after Sample.primitives Sample.world
          ((Sample.opening 1000 7).take 5 ++ [Sample.lockTo Sample.strangersAddress])))
      (by decide +kernel)
    obtain ⟨⟨address, rfl, hhash⟩, _⟩ :=
      hpaid _ (Sample.releaseTo Sample.strangersAddress) ⟨[], by simp [Sample.settlingTo]⟩ 7
        (Sample.proofTo Sample.strangersAddress) w' rfl hexec (by decide +kernel)
    exact absurd hhash (by decide +kernel)

end WhisperDesk
