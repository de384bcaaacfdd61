import WhisperDesk.Contracts.Band

/-!
# Who can open a match, and how often

Any number of escrow instances on any number of chains, under interleaved
transactions. Signatures are ideal: whatever recovers to an address was signed
by its key's holder, and no two strings hashed during the run collide. A call
into another instance out of a `lock`'s surplus refund reads and writes that
instance alone, so it is a transaction of its own here.
-/
namespace WhisperDesk

open Function (update)
open Reverting
open AbiWords
open DvPEscrow (Deployment LockAccepted SignatureAccepted lockedMatch)
open MatchInstructionLib (MatchInstruction wdMatchTag ethPrefix)

/-- The escrow instances: where each is deployed. No two share both chain and address. -/
structure Network (ι : Type) where
  chainId : ι → Nat
  escrow : ι → Deployment
  chainId_lt : ∀ i, chainId i < 2 ^ 256
  distinct : ∀ i j, chainId i = chainId j → (escrow i).self = (escrow j).self → i = j

/-- A transaction to one instance, which sees the chain id of that instance. -/
structure NetTx {ι : Type} (N : Network ι) where
  instanceId : ι
  tx : Tx (N.escrow instanceId)
  chain : tx.env.chainid = N.chainId instanceId

section Network

variable {ι : Type} [DecidableEq ι] {N : Network ι}

def NetTx.exec (P : Primitives) (e : NetTx N) (s : ι → World) : Except Revert (ι → World) := do
  let w ← e.tx.exec P (s e.instanceId)
  pure (update s e.instanceId w)

/-- The instances' states after a list of transactions. -/
def Network.after (N : Network ι) (P : Primitives) (s₀ : ι → World) (txs : List (NetTx N)) :
    ι → World :=
  run (NetTx.exec P) s₀ txs

theorem NetTx.exec_eq_ok {P : Primitives} {e : NetTx N} {s s' : ι → World} :
    e.exec P s = .ok s' ↔
      ∃ w, e.tx.exec P (s e.instanceId) = .ok w ∧ update s e.instanceId w = s' := by
  simp only [NetTx.exec, bind_eq_ok, pure_eq_ok]

end Network

/-- The 96 bytes that the WD_MATCH_V1 signature of an instruction is over. -/
def taggedPayload (P : Primitives) (chainId : Nat) (instructionData : Bytes) : Bytes :=
  words [wdMatchTag.toNat, chainId, (P.keccak256 instructionData).toNat]

/-- What a personal-sign of `message` puts before the curve. -/
def personalMessage (P : Primitives) (message : Bytes) : Bytes :=
  ethPrefix ++ word (P.keccak256 message).toNat

/-- `signed a message`: the holder of the key of address `a` signed `message`. -/
abbrev Signing := Address → Bytes → Prop

/-- Only a key's holder can produce a signature that recovers to its address:
so was every signature that the run presents to some `lock`. -/
def Unforgeable {ι : Type} {N : Network ι} (P : Primitives) (signed : Signing)
    (txs : List (NetTx N)) : Prop :=
  ∀ e ∈ txs, ∀ value data sig, e.tx.call = .lock value data sig →
    let digest := MatchInstructionLib.ethSignedDigest P (MatchInstructionLib.dataHash P data)
      (N.chainId e.instanceId)
    let signer := DvPEscrow.recoveredSigner P (N.chainId e.instanceId) data sig
    signer ≠ 0 → ∃ message, signed signer message ∧
      P.keccak256 (personalMessage P message) = digest

/-- The strings hashed for a signature or by some `lock` of the run. -/
inductive Queried {ι : Type} {N : Network ι} (P : Primitives) (signed : Signing)
    (txs : List (NetTx N)) : Bytes → Prop
  | message {a : Address} {m : Bytes} (h : signed a m) : Queried P signed txs m
  | personal {a : Address} {m : Bytes} (h : signed a m) : Queried P signed txs (personalMessage P m)
  | data {e : NetTx N} {value : Nat} {data sig : Bytes} (hmem : e ∈ txs)
      (hcall : e.tx.call = .lock value data sig) : Queried P signed txs data
  | lockMessage {e : NetTx N} {value : Nat} {data sig : Bytes} (hmem : e ∈ txs)
      (hcall : e.tx.call = .lock value data sig) :
      Queried P signed txs (taggedPayload P (N.chainId e.instanceId) data)
  | lockPersonal {e : NetTx N} {value : Nat} {data sig : Bytes} (hmem : e ∈ txs)
      (hcall : e.tx.call = .lock value data sig) :
      Queried P signed txs (personalMessage P (taggedPayload P (N.chainId e.instanceId) data))

def NoCollisions {ι : Type} {N : Network ι} (P : Primitives) (signed : Signing)
    (txs : List (NetTx N)) : Prop :=
  ∀ x y, Queried P signed txs x → Queried P signed txs y → P.keccak256 x = P.keccak256 y → x = y

section Messages

variable {P : Primitives} {signed : Signing} {ι : Type} {N : Network ι} {txs : List (NetTx N)}

theorem toNat_lt_wordSize (b : Bytes32) : b.toNat < wordSize := b.isLt

theorem personalMessage_injective {x y : Bytes} (h : personalMessage P x = personalMessage P y) :
    P.keccak256 x = P.keccak256 y := by
  have hword := List.append_cancel_left h
  exact BitVec.eq_of_toNat_eq
    (word_injective (toNat_lt_wordSize _) (toNat_lt_wordSize _) hword)

/-- The message fixes the chain and the hash of the instruction. -/
theorem taggedPayload_injective {c c' : Nat} {x y : Bytes} (hc : c < 2 ^ 256) (hc' : c' < 2 ^ 256)
    (h : taggedPayload P c x = taggedPayload P c' y) :
    c = c' ∧ P.keccak256 x = P.keccak256 y := by
  have hlt (n : Nat) (b : Bytes32) (hn : n < 2 ^ 256) :
      ∀ m ∈ [wdMatchTag.toNat, n, b.toNat], m < wordSize := by
    intro m hm
    simp only [List.mem_cons, List.not_mem_nil, or_false] at hm
    rcases hm with rfl | rfl | rfl
    · exact toNat_lt_wordSize _
    · exact hn
    · exact toNat_lt_wordSize _
  have hwords := words_injective (hlt c _ hc) (hlt c' _ hc') h
  simp only [List.cons.injEq, and_true, true_and] at hwords
  exact ⟨hwords.1, BitVec.eq_of_toNat_eq hwords.2⟩

/-- A signature that `lock` accepts is one the current signer made over the
WD_MATCH_V1 message of these bytes and this chain. -/
theorem signed_of_accepted (hsigned : Unforgeable P signed txs) (hhash : NoCollisions P signed txs)
    {e : NetTx N} (hmem : e ∈ txs) {value : Nat} {data sig : Bytes} {signer : Address}
    (hcall : e.tx.call = .lock value data sig)
    (h : SignatureAccepted P e.tx.env signer data sig) :
    signed signer (taggedPayload P (N.chainId e.instanceId) data) := by
  have hrecovered := h.recovered
  rw [e.chain] at hrecovered
  have hne : DvPEscrow.recoveredSigner P (N.chainId e.instanceId) data sig ≠ 0 := by
    rw [hrecovered]
    exact h.signer_ne_zero
  obtain ⟨message, hmessage, hdigest⟩ := hsigned e hmem value data sig hcall hne
  have hpersonal : personalMessage P message =
      personalMessage P (taggedPayload P (N.chainId e.instanceId) data) :=
    hhash _ _ (.personal hmessage) (.lockPersonal hmem hcall) hdigest
  have hsame : message = taggedPayload P (N.chainId e.instanceId) data :=
    hhash _ _ (.message hmessage) (.lockMessage hmem hcall) (personalMessage_injective hpersonal)
  rw [← hsame, ← hrecovered]
  exact hmessage

end Messages

/-- `e`, sent after `before`, is a `lock` that succeeded. -/
structure LockedBy {ι : Type} [DecidableEq ι] {N : Network ι} (P : Primitives) (s₀ : ι → World)
    (txs before : List (NetTx N)) (e : NetTx N) (data : Bytes) (mi : MatchInstruction) : Prop where
  sent : before ++ [e] <+: txs
  call : ∃ value sig, e.tx.call = .lock value data sig
  decoded : MatchInstructionLib.decode data = some mi
  succeeded : ∃ s', e.exec P (N.after P s₀ before) = .ok s'

theorem LockedBy.later {ι : Type} [DecidableEq ι] {N : Network ι} {P : Primitives} {s₀ : ι → World}
    {txs before : List (NetTx N)} {e : NetTx N} {data : Bytes} {mi : MatchInstruction}
    (h : LockedBy P s₀ txs before e data mi) (next : NetTx N) :
    LockedBy P s₀ (txs ++ [next]) before e data mi :=
  { h with sent := h.sent.trans (List.prefix_append txs [next]) }

theorem MatchStep.open {m m' : Match} (h : MatchStep m m') (hopen : m.state ≠ .none) :
    m'.state ≠ .none := by
  rcases h with rfl | ⟨hnone, _⟩ | ⟨_, rfl | rfl⟩
  · exact hopen
  · exact absurd hnone hopen
  · exact fun h => by cases h
  · exact fun h => by cases h

section Runs

variable {ι : Type} [DecidableEq ι] {N : Network ι} {P : Primitives} {s s' s₀ : ι → World}
  {txs before : List (NetTx N)} {e : NetTx N}

/-- A transaction changes its own instance, by one of the effects of a call. -/
theorem NetTx.exec_effect (h : e.exec P s = .ok s')
    (hentered : (s e.instanceId).escrow.entered = false) :
    (s' e.instanceId).escrow.entered = false ∧
      Effect P e.tx (s e.instanceId) (s' e.instanceId) ∧ ∀ j, j ≠ e.instanceId → s' j = s j := by
  obtain ⟨w, hw, rfl⟩ := NetTx.exec_eq_ok.mp h
  obtain ⟨hfree, heffect, _⟩ := tx_effect hw hentered
  rw [Function.update_self]
  exact ⟨hfree, heffect, fun j hj => Function.update_of_ne hj ..⟩

theorem NetTx.exec_entered (h : e.exec P s = .ok s') (hs : ∀ i, (s i).escrow.entered = false)
    (i : ι) : (s' i).escrow.entered = false := by
  obtain ⟨hfree, _, hother⟩ := NetTx.exec_effect h (hs _)
  by_cases hi : i = e.instanceId
  · subst hi
    exact hfree
  · rw [hother i hi]
    exact hs i

theorem NetTx.exec_matchStep (h : e.exec P s = .ok s') (hs : ∀ i, (s i).escrow.entered = false)
    (i : ι) (id : Bytes32) : MatchStep ((s i).escrow.matchOf id) ((s' i).escrow.matchOf id) := by
  obtain ⟨_, heffect, hother⟩ := NetTx.exec_effect h (hs _)
  by_cases hi : i = e.instanceId
  · subst hi
    exact heffect.matchStep id
  · rw [hother i hi]
    exact .inl rfl

theorem network_entered (hs : ∀ i, (s i).escrow.entered = false) (txs : List (NetTx N)) :
    ∀ i, (N.after P s txs i).escrow.entered = false :=
  run_invariant (P := fun s => ∀ i, (s i).escrow.entered = false) (NetTx.exec P) txs hs
    (fun _ _ _ _ hentered h => NetTx.exec_entered h hentered)

/-- A match that exists is never gone again, whatever happens anywhere. -/
theorem network_open (hs : ∀ i, (s i).escrow.entered = false) (txs : List (NetTx N)) {i : ι}
    {id : Bytes32} (hopen : ((s i).escrow.matchOf id).state ≠ .none) :
    ((N.after P s txs i).escrow.matchOf id).state ≠ .none := by
  refine (run_invariant (P := fun s => (∀ i, (s i).escrow.entered = false) ∧
    ((s i).escrow.matchOf id).state ≠ .none) (NetTx.exec P) txs ⟨hs, hopen⟩ ?_).2
  intro e _ u v hu h
  exact ⟨NetTx.exec_entered h hu.1, (NetTx.exec_matchStep h hu.1 i id).open hu.2⟩

theorem after_append (txs later : List (NetTx N)) :
    N.after P s₀ (txs ++ later) = N.after P (N.after P s₀ txs) later :=
  run_append (NetTx.exec P) s₀ txs later

/-- What a successful `lock` was accepted for, and the match it opened. -/
theorem LockedBy.accepted {data : Bytes} {mi : MatchInstruction}
    (h : LockedBy P s₀ txs before e data mi) :
    (∃ value sig fee mid18 ts, e.tx.call = .lock value data sig ∧
      LockAccepted P (N.escrow e.instanceId) e.tx.env value data sig
        (N.after P s₀ before e.instanceId) mi fee mid18 ts) ∧
    ((N.after P s₀ (before ++ [e]) e.instanceId).escrow.matchOf mi.matchId).state ≠ .none := by
  obtain ⟨value, sig, hcall⟩ := h.call
  obtain ⟨s', hs'⟩ := h.succeeded
  have hafter : N.after P s₀ (before ++ [e]) = s' := by
    rw [Network.after, run_concat]
    change settle _ (e.exec P (N.after P s₀ before)) = s'
    rw [hs', settle_ok]
  obtain ⟨w, hw, rfl⟩ := NetTx.exec_eq_ok.mp hs'
  obtain ⟨mi', fee, mid18, ts, haccepted, hstored⟩ := lock_stored hcall hw
  obtain rfl : mi' = mi := Option.some.inj (haccepted.decoded.symm.trans h.decoded)
  refine ⟨⟨value, sig, fee, mid18, ts, hcall, haccepted⟩, ?_⟩
  rw [hafter, Function.update_self, hstored]
  exact fun h => by cases h

theorem LockedBy.mem {data : Bytes} {mi : MatchInstruction}
    (h : LockedBy P s₀ txs before e data mi) : e ∈ txs := h.sent.subset (by simp)

/-- A match id is taken for good by its first `lock` on an instance. -/
theorem LockedBy.not_before {before' : List (NetTx N)} {e' : NetTx N} {data data' : Bytes}
    {mi mi' : MatchInstruction} (hs₀ : ∀ i, (s₀ i).escrow.entered = false)
    (h : LockedBy P s₀ txs before e data mi) (h' : LockedBy P s₀ txs before' e' data' mi')
    (hinstance : e'.instanceId = e.instanceId) (hid : mi'.matchId = mi.matchId) :
    ¬ before.length < before'.length := by
  intro hlt
  have hearlier : before ++ [e] <+: before' := by
    refine List.prefix_of_prefix_length_le h.sent
      ((List.prefix_append before' [e']).trans h'.sent) ?_
    simpa using hlt
  obtain ⟨later, rfl⟩ := hearlier
  have hopen := network_open (P := P) (network_entered hs₀ (before ++ [e])) later h.accepted.2
  obtain ⟨⟨_, _, _, _, _, _, haccepted⟩, _⟩ := h'.accepted
  have hfresh := haccepted.instruction.fresh
  rw [after_append, hinstance, hid] at hfresh
  exact hopen hfresh

/-- Every match of every instance was opened by a transaction of the run. -/
theorem network_lockedBy (hs₀ : ∀ i, Deployed (N.escrow i) (s₀ i)) (txs : List (NetTx N)) (i : ι)
    (id : Bytes32) (hopen : ((N.after P s₀ txs i).escrow.matchOf id).state ≠ .none) :
    ∃ before e data mi, LockedBy P s₀ txs before e data mi ∧ e.instanceId = i ∧ mi.matchId = id := by
  have hentered (i : ι) := (hs₀ i).genesis.entered
  revert hopen
  refine run_history (P := fun txs s => ((s i).escrow.matchOf id).state ≠ .none →
    ∃ before e data mi, LockedBy P s₀ txs before e data mi ∧ e.instanceId = i ∧ mi.matchId = id)
    (NetTx.exec P) txs ?_ ?_ ?_
  · intro hopen
    rw [(hs₀ i).genesis.matchOf] at hopen
    exact absurd rfl hopen
  · intro pre e s' hpre h hopen
    obtain ⟨_, heffect, hother⟩ := NetTx.exec_effect h (network_entered hentered pre _)
    by_cases hi : i = e.instanceId
    · subst hi
      rcases heffect.terms with ⟨value, data, sig, mi, fee, mid18, ts, hcall, haccepted, hmatch, _⟩ |
        ⟨hterms, _⟩
      · by_cases hid : id = mi.matchId
        · exact ⟨pre, e, data, mi, ⟨List.prefix_refl _, ⟨value, sig, hcall⟩, haccepted.decoded,
            s', h⟩, rfl, hid.symm⟩
        · rw [hmatch, Function.update_of_ne hid] at hopen
          obtain ⟨before, e', data, mi, hlocked, hinstance, hmi⟩ := hpre hopen
          exact ⟨before, e', data, mi, hlocked.later e, hinstance, hmi⟩
      · obtain ⟨before, e', data, mi, hlocked, hinstance, hmi⟩ :=
          hpre (mt (hterms id).opened.mpr hopen)
        exact ⟨before, e', data, mi, hlocked.later e, hinstance, hmi⟩
    · rw [hother i hi] at hopen
      obtain ⟨before, e', data, mi, hlocked, hinstance, hmi⟩ := hpre hopen
      exact ⟨before, e', data, mi, hlocked.later e, hinstance, hmi⟩
  · intro pre e hpre hopen
    obtain ⟨before, e', data, mi, hlocked, hinstance, hmi⟩ := hpre hopen
    exact ⟨before, e', data, mi, hlocked.later e, hinstance, hmi⟩

/-- Every `lock` that succeeds, on any instance, uses a signature its current
signer made for this chain and this escrow, before the expiry; each signed
message opens one match, and no match is opened otherwise. -/
theorem lock_authorized (P : Primitives) (signed : Signing) (s₀ : ι → World) (txs : List (NetTx N))
    (hs₀ : ∀ i, Deployed (N.escrow i) (s₀ i)) (hsigned : Unforgeable P signed txs)
    (hhash : NoCollisions P signed txs) :
    (∀ before e data mi, LockedBy P s₀ txs before e data mi →
      let w := N.after P s₀ before e.instanceId
      w.escrow.teeSigner ≠ 0 ∧
      signed w.escrow.teeSigner (taggedPayload P (N.chainId e.instanceId) data) ∧
      mi.escrow = (N.escrow e.instanceId).self ∧
      e.tx.env.timestamp ≤ mi.instructionExpiresAt) ∧
    (∀ before e data mi before' e' data' mi', LockedBy P s₀ txs before e data mi →
      LockedBy P s₀ txs before' e' data' mi' →
      taggedPayload P (N.chainId e.instanceId) data =
        taggedPayload P (N.chainId e'.instanceId) data' → before = before' ∧ e = e') ∧
    ∀ i id, ((N.after P s₀ txs i).escrow.matchOf id).state ≠ .none →
      ∃ before e data mi, LockedBy P s₀ txs before e data mi ∧ e.instanceId = i ∧ mi.matchId = id := by
  have hentered (i : ι) := (hs₀ i).genesis.entered
  refine ⟨?_, ?_, network_lockedBy hs₀ txs⟩
  · intro before e data mi h w
    obtain ⟨⟨value, sig, fee, mid18, ts, hcall, haccepted⟩, _⟩ := h.accepted
    exact ⟨haccepted.signature.signer_ne_zero,
      signed_of_accepted hsigned hhash h.mem hcall haccepted.signature, haccepted.forThis,
      haccepted.instruction.unexpired⟩
  · intro before e data mi before' e' data' mi' h h' hmessage
    obtain ⟨⟨value, sig, _, _, _, hcall, haccepted⟩, _⟩ := h.accepted
    obtain ⟨⟨value', sig', _, _, _, hcall', haccepted'⟩, _⟩ := h'.accepted
    obtain ⟨hchain, hdigest⟩ :=
      taggedPayload_injective (N.chainId_lt _) (N.chainId_lt _) hmessage
    obtain rfl : data = data' := hhash _ _ (.data h.mem hcall) (.data h'.mem hcall') hdigest
    obtain rfl : mi = mi' := Option.some.inj (h.decoded.symm.trans h'.decoded)
    have hinstance : e'.instanceId = e.instanceId :=
      N.distinct _ _ hchain.symm (haccepted'.forThis.symm.trans haccepted.forThis)
    have hle := h.not_before hentered h' hinstance rfl
    have hge := h'.not_before hentered h hinstance.symm rfl
    have hsame : before ++ [e] = before' ++ [e'] :=
      (List.prefix_of_prefix_length_le h.sent h'.sent (by simp; omega)).eq_of_length (by simp; omega)
    exact ⟨List.append_inj_left' hsame rfl, by simpa using List.append_inj_right' hsame rfl⟩

end Runs

/-! One escrow address on two chains, and one signature by its signer. -/
namespace Sample

def network : Network Bool where
  chainId i := if i then 114 else 14
  escrow _ := deployment
  chainId_lt i := by cases i <;> decide
  distinct i j h _ := by cases i <;> cases j <;> simp at h ⊢

def signedData : Bytes := MatchInstructionLib.encode (instruction 7)

def remainderHash (data : Bytes) : Bytes32 := BitVec.ofNat 256 (ByteCodec.ofBE data % (2 ^ 255 - 19))

def signedDigest : Bytes32 :=
  let payloadHash := remainderHash (words [wdMatchTag.toNat, 114, (remainderHash signedData).toNat])
  remainderHash (ethPrefix ++ word payloadHash.toNat)

/-- The signer signs one message, for chain 114. -/
def idealPrimitives : Primitives where
  keccak256 := remainderHash
  ecrecover digest _ _ _ := if digest = signedDigest then teeSigner else 0

def signedOnce : Signing := fun a message =>
  a = teeSigner ∧ message = taggedPayload idealPrimitives 114 signedData

def lockCall : Call := .lock 0 signedData (List.replicate 65 0)

def onMain (sender : Account deployment) (call : Call) : NetTx network :=
  ⟨true, tx 1000 sender call, rfl⟩

/-- The same bytes are sent to the escrow of the other chain first. -/
def replay : NetTx network :=
  ⟨false, ⟨⟨{ env 1000 with chainid := 14 }, maker, lockCall⟩, [], true⟩, rfl⟩

def replaying : List (NetTx network) :=
  [onMain owner (.mintFxrp 2 20000000000), onMain owner (.mintFxrp 3 500000000),
    onMain owner (.setEscrow 0xE5), onMain taker (.deposit 20000000000 (2 ^ 63)),
    onMain maker (.depositBond 500000000), replay, onMain maker lockCall, onMain maker lockCall]

def hashed : List Bytes :=
  [signedData, taggedPayload idealPrimitives 114 signedData,
    personalMessage idealPrimitives (taggedPayload idealPrimitives 114 signedData),
    taggedPayload idealPrimitives 14 signedData,
    personalMessage idealPrimitives (taggedPayload idealPrimitives 14 signedData)]

/-- The locks of the run, by instance. -/
theorem mem_replaying {e : NetTx network} (h : e ∈ replaying) {value : Nat} {data sig : Bytes}
    (hcall : e.tx.call = .lock value data sig) : data = signedData := by
  simp only [replaying, List.mem_cons, List.not_mem_nil, or_false] at h
  rcases h with rfl | rfl | rfl | rfl | rfl | rfl | rfl | rfl <;> cases hcall <;> rfl

theorem queried_hashed {x : Bytes} (h : Queried idealPrimitives signedOnce replaying x) :
    x ∈ hashed := by
  have hchain (i : Bool) : taggedPayload idealPrimitives (network.chainId i) signedData ∈ hashed ∧
      personalMessage idealPrimitives
        (taggedPayload idealPrimitives (network.chainId i) signedData) ∈ hashed := by
    cases i <;> simp [network, hashed]
  cases h with
  | message h =>
    rw [h.2]
    exact (hchain true).1
  | personal h =>
    rw [h.2]
    exact (hchain true).2
  | data hmem hcall =>
    rw [mem_replaying hmem hcall]
    exact List.mem_cons_self
  | lockMessage hmem hcall =>
    rw [mem_replaying hmem hcall]
    exact (hchain _).1
  | lockPersonal hmem hcall =>
    rw [mem_replaying hmem hcall]
    exact (hchain _).2

theorem noCollisions : NoCollisions idealPrimitives signedOnce replaying := by
  have hdistinct : ∀ x ∈ hashed, ∀ y ∈ hashed,
      idealPrimitives.keccak256 x = idealPrimitives.keccak256 y → x = y := by decide +kernel
  exact fun x y hx hy => hdistinct x (queried_hashed hx) y (queried_hashed hy)

theorem ecrecover_ideal (digest : Bytes32) (v : UInt8) (r sv : Bytes32) :
    idealPrimitives.ecrecover digest v r sv = if digest = signedDigest then teeSigner else 0 := rfl

theorem unforgeable : Unforgeable idealPrimitives signedOnce replaying := by
  intro e _ value data sig _ digest signer hsigner
  have hrecovered : signer = if digest = signedDigest then teeSigner else 0 :=
    ecrecover_ideal digest _ _ _
  by_cases hdigest : digest = signedDigest
  · rw [if_pos hdigest] at hrecovered
    refine ⟨taggedPayload idealPrimitives 114 signedData, ⟨hrecovered, rfl⟩, ?_⟩
    rw [hdigest]
    simp only [personalMessage, taggedPayload, idealPrimitives, signedDigest]
  · rw [if_neg hdigest] at hrecovered
    exact absurd hrecovered hsigner

end Sample

theorem lock_authorized_sample :
    let N := Sample.network
    let P := Sample.idealPrimitives
    let s₀ := fun _ : Bool => Sample.world
    ((N.after P s₀ Sample.replaying false).escrow.matchOf 7).state = .none ∧
    ∃ before e data mi, LockedBy P s₀ Sample.replaying before e data mi ∧ e.instanceId = true ∧
      mi.matchId = 7 ∧
      Sample.signedOnce (N.after P s₀ before e.instanceId).escrow.teeSigner
        (taggedPayload P (N.chainId e.instanceId) data) := by
  have hmain : ((Sample.network.after Sample.idealPrimitives (fun _ => Sample.world)
      Sample.replaying true).escrow.matchOf 7).state = .locked := by decide +kernel
  obtain ⟨hsigned, _, hopened⟩ := lock_authorized Sample.idealPrimitives Sample.signedOnce
    (fun _ => Sample.world) Sample.replaying (fun _ => Sample.deployed) Sample.unforgeable
    Sample.noCollisions
  obtain ⟨before, e, data, mi, hlocked, hinstance, hid⟩ :=
    hopened true 7 (by rw [hmain]; exact fun h => by cases h)
  exact ⟨by decide +kernel, before, e, data, mi, hlocked, hinstance, hid,
    (hsigned before e data mi hlocked).2.1⟩

end WhisperDesk
