import WhisperDesk.Enclave.WireParity
import WhisperDesk.Web.Flow

/-!
# flow.ts: fund and lock

The one-click flow: a deposit and a bond for exactly `MIN_BLOCK_FXRP`, an
instruction signed at the live mid, and `lock` sent from the taker's wallet. What
the script has arranged itself cannot be what `lock` refuses it for; what is left
to go wrong is a list of conditions on the chain that the lock meets.
-/
namespace WhisperDesk.Web.Flow

open Function (update)
open Reverting
open Await
open DvPEscrow (Deployment bondOf)

variable {d : Deployment} (P : Primitives) (E : Ethers)

/-- The live mid, its timestamp and the fee `lock` will require. -/
def readLiveFtsoMid : Script (Nat × Nat × Nat) := do
  let fee ← Program.ask fun c => orRevert c.env.calculateFeeById (.reverted .oracleReverted)
  let (mid18, ts) ← Program.ask fun c => orRevert c.env.getFeedByIdInWei (.reverted .oracleReverted)
  .done (mid18, ts, fee)

structure LockResult where
  matchId : Bytes32
  destinationTag : Nat
  xrpDrops : Nat
  amountFxrp : Nat
  paymentDeadline : Nat
  refundAfter : Nat
  bondAmount : Nat
  deriving DecidableEq

/-- The fields read off a `MatchLocked` event; no other event has them. -/
def lockedEvent (matchId : Bytes32) (bondAmount : Nat) : Event → Option LockResult
  | .matchLocked _ _ _ amountFxrp xrpDrops destinationTag _ paymentDeadline refundAfter _ _ =>
    some { matchId, destinationTag, xrpDrops, amountFxrp, paymentDeadline, refundAfter, bondAmount }
  | _ => none

/-- What the script is configured with, and what it draws: a random id and the
clock at its two readings. -/
structure Desk (d : Deployment) where
  owner : Account d
  taker : Account d
  maker : Account d
  signingKey : SigningKey
  xrplTakerAddress : Bytes
  matchId : Bytes32
  fundedAt : Nat
  signedAt : Nat

variable (s : Desk d)

def Desk.instruction (minBlock mid18 : Nat) : MatchInstruction where
  matchId := s.matchId
  escrow := d.self
  taker := s.taker.address
  maker := s.maker.address
  amountFxrp := minBlock
  priceUsd18 := mid18
  takerXrplAddress := s.xrplTakerAddress
  instructionExpiresAt := s.signedAt + 300

def fundAndLock : Script LockResult := do
  let minBlock ← Program.read fun _ => d.minBlockFxrp
  let bondBips ← Program.read fun _ => DvPEscrow.bondBips
  let bondAmount := minBlock * bondBips / 10000
  fundTakerDeposit P s.owner s.taker minBlock s.fundedAt 3600
  fundMakerBond P s.owner s.maker bondAmount
  let (mid18, _, fee) ← readLiveFtsoMid
  let chainId ← Program.read fun c => c.env.chainid
  let mi := s.instruction minBlock mid18
  match signMatchInstruction P E mi (.bigint chainId) s.signingKey with
  | .error e => .throw (.unsigned e)
  | .ok (instructionData, signature) => do
    let receipt ← send P s.taker (.lock fee instructionData signature)
    match receipt.findSome? (lockedEvent s.matchId bondAmount) with
    | some result => .done result
    | none => .throw .matchLockedMissing

/-- The wallets whose keys the script holds. -/
def Desk.keys : List (Account d) := [s.owner, s.taker, s.maker]

/-- What `lock` still needs of the chain that it meets. -/
structure Serving (mid18 fee chainId : Nat) (c : Chain) : Prop where
  unpaused : c.world.escrow.lockPaused = false
  signer : c.world.escrow.teeSigner = s.owner.address
  bound : d.self = c.world.ledger.escrow
  fresh : (c.world.escrow.matchOf s.matchId).state = .none
  tag_lt : c.world.escrow.nextDestinationTag + 1 < 2 ^ 32
  chain : c.env.chainid = chainId
  fee : ∃ fee', c.env.calculateFeeById = some fee' ∧ fee' ≤ fee
  feed : ∃ mid ts, c.env.getFeedByIdInWei = some (mid, ts) ∧
    DvPEscrow.BandAccepted c.env mid ts mid18 ∧ d.minBlockFxrp * mid18 / mid < 2 ^ 128
  notional_lt : d.minBlockFxrp * mid18 < 2 ^ 256
  armed : c.env.timestamp ≤ s.fundedAt + 3600
  unexpired : c.env.timestamp ≤ s.signedAt + 300

/-- What the two fundings leave between them. -/
structure Ready (books books' : Address → WalletBook) : Prop where
  available : (books' s.taker.address).available =
    max (books s.taker.address).available d.minBlockFxrp
  armedUntil : s.fundedAt + 3600 ≤ (books' s.taker.address).armedUntil
  freeBond : bondOf d.minBlockFxrp ≤ (books' s.maker.address).freeBond

/-- FXRP that a wallet needs on top of what it holds. -/
def short (missing : Nat) (b : WalletBook) : Nat := missing - b.purse

/-- The two fundings' need of the reserve. -/
def Desk.drain (books : Address → WalletBook) : Nat :=
  short (d.minBlockFxrp - (books s.taker.address).available).toNat (books s.taker.address) +
    short (bondOf d.minBlockFxrp - (books s.maker.address).freeBond) (books s.maker.address)

/-- The result is the stored match. -/
structure Locked (res : LockResult) (m : Match) : Prop where
  state : m.state = .locked
  taker : m.taker = s.taker.address
  maker : m.maker = s.maker.address
  amountFxrp : m.amountFxrp = d.minBlockFxrp
  takerXrplAddressHash : m.takerXrplAddressHash = P.keccak256 s.xrplTakerAddress
  result : res = ⟨s.matchId, m.destinationTag, m.xrpDrops, m.amountFxrp, m.paymentDeadline,
    m.refundAfter, m.bondAmount⟩

/-- The last three states that the script met gave it the fee, the mid and the chain id. -/
def Quoted (mid18 fee chainId : Nat) (met : List Chain) : Prop :=
  ∃ atChainId atFeed atFee earlier ts, met = atChainId :: atFeed :: atFee :: earlier ∧
    atFee.env.calculateFeeById = some fee ∧ atFeed.env.getFeedByIdInWei = some (mid18, ts) ∧
    atChainId.env.chainid = chainId

/-- `lock` as the script sends it, the instruction signed at that mid and for that chain, and
what comes of it. -/
def Submits (mid18 fee chainId : Nat) (c : Chain) (answer : Except FlowError (List Event × Chain)) :
    Prop :=
  ∃ data signature, signMatchInstruction P E (s.instruction d.minBlockFxrp mid18) (.bigint chainId)
      s.signingKey = .ok (data, signature) ∧ mine P s.taker (.lock fee data signature) c = answer

/-- How the script can end, and the states that it met on the way, the last first. -/
inductive Ends (books : Address → WalletBook) :
    Except FlowError LockResult → Chain → List Chain → Prop
  | locked {res : LockResult} {c c' : Chain} {met : List Chain} {receipt : List Event}
      {mid18 fee chainId : Nat} (hquoted : Quoted mid18 fee chainId met)
      (hsubmits : Submits P E s mid18 fee chainId c (.ok (receipt, c')))
      (hlocked : Locked P s res (c'.world.escrow.matchOf s.matchId))
      (hkept : Leaves (P := P) s.keys (fun books' => (books' s.taker.address).available =
        max (books s.taker.address).available d.minBlockFxrp - d.minBlockFxrp) c') :
      Ends books (.ok res) c' (c :: met)
  | outOfFxrp {c : Chain} {met : List Chain} {wallet : Address} {missing reserve : Nat}
      (hreserve : reserve < missing) (hfew : (books s.owner.address).purse < s.drain books) :
      Ends books (.error (.outOfFxrp wallet missing reserve)) c met
  | oracle {c : Chain} {met : List Chain}
      (h : c.env.calculateFeeById = none ∨ c.env.getFeedByIdInWei = none) :
      Ends books (.error (.reverted .oracleReverted)) c met
  | refused {c : Chain} {met : List Chain} {r : Revert} {mid18 fee chainId : Nat}
      (hquoted : Quoted mid18 fee chainId met)
      (hsubmits : Submits P E s mid18 fee chainId c (.error (.reverted r)))
      (hready : Leaves (P := P) s.keys (Ready s books) c) (h : ¬ Serving s mid18 fee chainId c) :
      Ends books (.error (.reverted r)) c (c :: met)

section Locking

variable {P} {E} {s} {books books' : Address → WalletBook} {c c' : Chain} {data signature : Bytes}
  {mid18 fee : Nat}

/-- What the script hands to `lock`. -/
structure Signed (mid18 : Nat) (chainId : Nat) (data signature : Bytes) : Prop where
  encoded : data = MatchInstructionLib.encode (s.instruction d.minBlockFxrp mid18).onChain
  length : signature.length = 65
  lowS : (DvPEscrow.splitSignature signature).2.1.toNat ≤ DvPEscrow.secp256k1nHalf
  recovers : DvPEscrow.recoveredSigner P chainId data signature = s.owner.address

/-- The conditions on the desk itself. -/
structure Desk.Sound : Prop where
  owner_ne_taker : s.owner.address ≠ s.taker.address
  owner_ne_maker : s.owner.address ≠ s.maker.address
  taker_ne_maker : s.taker.address ≠ s.maker.address
  address : s.xrplTakerAddress.length ≠ 0
  address_lt : s.xrplTakerAddress.length < 2 ^ 64
  fundedAt : s.fundedAt + 3600 < 2 ^ 64
  signedAt : s.signedAt + 300 < 2 ^ 53

theorem Ready.amount_le (hready : Ready s books books') (hs : Stands P s.keys books' c) :
    (c.world.escrow.balances s.taker.address).committed + d.minBlockFxrp ≤
      (c.world.escrow.balances s.taker.address).armed ∧
    (c.world.escrow.balances s.taker.address).armed < 2 ^ 128 := by
  have hb := (hs.backed s.taker (by simp [Desk.keys])).available
  have havailable := hready.available
  have hsum := hs.armed_add_le s.taker
  omega

theorem Ready.amount_lt (hready : Ready s books books') (hs : Stands P s.keys books' c) :
    d.minBlockFxrp < 2 ^ 128 := by
  have hle := hready.amount_le hs
  omega

theorem Desk.Sound.encodable (hdesk : s.Sound) (hamount : d.minBlockFxrp < 2 ^ 128)
    (hmid : mid18 < 2 ^ 256) :
    MatchInstructionLib.Encodable (s.instruction d.minBlockFxrp mid18).onChain where
  amount := Nat.lt_trans hamount (by decide)
  price := hmid
  address := hdesk.address_lt
  expires := Nat.lt_trans hdesk.signedAt (by decide)

/-- Nothing that the script has seen to is among the reasons to refuse. -/
theorem Serving.accepted {chainId : Nat} (hdesk : s.Sound) (hready : Ready s books books')
    (hs : Stands P s.keys books' c) (hmid : mid18 < 2 ^ 256)
    (hsigned : Signed (P := P) (s := s) mid18 chainId data signature)
    (h : Serving s mid18 fee chainId c) :
    ∃ fee' mid ts, DvPEscrow.LockAccepted P d c.env fee data signature c.world
      (s.instruction d.minBlockFxrp mid18).onChain fee' mid ts := by
  obtain ⟨fee', hfee, hle⟩ := h.fee
  obtain ⟨mid, ts, hfeed, hband, hdrops⟩ := h.feed
  obtain ⟨harmed, harmed_lt⟩ := hready.amount_le hs
  have hmaker := hs.backed s.maker (by simp [Desk.keys])
  have htaker := hs.backed s.taker (by simp [Desk.keys])
  refine ⟨fee', mid, ts, ?_⟩
  constructor
  case unpaused => exact h.unpaused
  case decoded =>
    rw [hsigned.encoded]
    exact MatchInstructionLib.decode_encode _ (hdesk.encodable (hready.amount_lt hs) hmid)
  case forThis => rfl
  case signature =>
    constructor
    case length => exact hsigned.length
    case lowS => exact hsigned.lowS
    case recovered => rw [h.chain, hsigned.recovers, h.signer]
    case signer_ne_zero => rw [h.signer]; exact s.owner.ne_zero
  case instruction => exact ⟨h.fresh, h.unexpired, hdesk.taker_ne_maker, Nat.le_refl _, hdesk.address⟩
  case feeRead => exact hfee
  case fee_le => exact hle
  case feedRead => exact hfeed
  case band => exact hband
  case notional_lt => exact h.notional_lt
  case drops_lt => exact hdrops
  case armedUntil =>
    have huntil := hready.armedUntil
    rw [← htaker.armedUntil] at huntil
    exact Nat.le_trans h.armed huntil
  case armed => exact harmed
  case committed_lt => exact Nat.lt_of_le_of_lt harmed harmed_lt
  case bound => exact h.bound
  case bond => exact Nat.le_trans hready.freeBond hmaker.freeBond
  case tag_lt => exact h.tag_lt
  case refundable_lt =>
    have htime := h.unexpired
    have hsigned := hdesk.signedAt
    have hwindow := d.settlementWindow.toNat_lt
    omega

/-- A `lock` from a plain account leaves what was checked, less the surplus paid back. -/
theorem exec_lock {sender : Account d} {w w' : World} {env : Env}
    (h : Tx.exec P ⟨⟨env, sender, .lock fee data signature⟩, [], true⟩ w = .ok w') :
    ∃ mi fee' mid ts native, DvPEscrow.LockAccepted P d env fee data signature w mi fee' mid ts ∧
      w' = { DvPEscrow.lockedWorld P d env fee mi fee' mid w with
        native := native, escrow.entered := false } := by
  obtain ⟨_, mi, fee', mid, ts, haccepted, v, hrefund, rfl⟩ := DvPEscrow.lock_eq_ok.mp h
  obtain ⟨_, rfl⟩ | ⟨_, hcallback⟩ := DvPEscrow.refundSurplus_eq_ok.mp hrefund
  · exact ⟨mi, fee', mid, ts, _, haccepted, rfl⟩
  · cases hcallback
    exact ⟨mi, fee', mid, ts, _, haccepted, rfl⟩

theorem lock_exec (sender : Account d) {w : World} {env : Env}
    {mi : MatchInstructionLib.MatchInstruction} {fee' mid ts : Nat} (hentered : w.escrow.entered = false)
    (h : DvPEscrow.LockAccepted P d env fee data signature w mi fee' mid ts) :
    ∃ w', Tx.exec P ⟨⟨env, sender, .lock fee data signature⟩, [], true⟩ w = .ok w' := by
  by_cases hsurplus : fee ≤ fee'
  · exact ⟨_, DvPEscrow.lock_eq_ok.mpr ⟨hentered, mi, fee', mid, ts, h, _,
      DvPEscrow.refundSurplus_eq_ok.mpr (.inl ⟨hsurplus, rfl⟩), rfl⟩⟩
  · exact ⟨_, DvPEscrow.lock_eq_ok.mpr ⟨hentered, mi, fee', mid, ts, h, _,
      DvPEscrow.refundSurplus_eq_ok.mpr (.inr ⟨Nat.lt_of_not_le hsurplus, rfl⟩), rfl⟩⟩

/-- A refusal means that the chain was not serving. -/
theorem refuses_unserving {chainId : Nat} {e : FlowError} (hdesk : s.Sound)
    (hready : Ready s books books') (hs : Stands P s.keys books' c) (hmid : mid18 < 2 ^ 256)
    (hsigned : Signed (P := P) (s := s) mid18 chainId data signature)
    (h : mine P s.taker (.lock fee data signature) c = .error e) :
    ¬ Serving s mid18 fee chainId c ∧ ∃ r, e = .reverted r := by
  constructor
  · intro hserving
    obtain ⟨fee', mid, ts, haccepted⟩ := hserving.accepted hdesk hready hs hmid hsigned
    obtain ⟨w', hexec⟩ := lock_exec s.taker hs.reachable.entered haccepted
    obtain ⟨receipt, hmine⟩ := mine_ok hexec
    rw [hmine] at h
    cases h
  · unfold mine at h
    split at h
    · cases h
    · cases h
      exact ⟨_, rfl⟩

/-- The taker's deposit is committed, the maker's bond is locked, and no FXRP moves. -/
theorem lockedWorld_backed {mi : MatchInstructionLib.MatchInstruction} {fee' mid native : Nat}
    {w w' : World} {env : Env} {a : Address} {b : WalletBook} (hb : b.Backed w a)
    (h : w' = { DvPEscrow.lockedWorld P d env fee mi fee' mid w with
      native := native, escrow.entered := false }) :
    WalletBook.Backed { b with
      available := b.available - if a = mi.taker then mi.amountFxrp else 0
      freeBond := b.freeBond - if a = mi.maker then bondOf mi.amountFxrp else 0 } w' a where
  available := by
    have havailable := hb.available
    rw [h]
    by_cases ha : a = mi.taker
    · rw [ha] at havailable ⊢
      simp only [DvPEscrow.lockedWorld, Function.update_self, if_true]
      omega
    · simp only [DvPEscrow.lockedWorld, Function.update_of_ne ha, if_neg ha]
      omega
  armedUntil := by
    rw [h]
    by_cases ha : a = mi.taker
    · rw [ha] at hb ⊢
      simp only [DvPEscrow.lockedWorld, Function.update_self]
      exact hb.armedUntil
    · simp only [DvPEscrow.lockedWorld, Function.update_of_ne ha]
      exact hb.armedUntil
  freeBond := by
    have hfree := hb.freeBond
    rw [h]
    by_cases ha : a = mi.maker
    · rw [ha] at hfree ⊢
      simp only [DvPEscrow.lockedWorld, DvPEscrow.lockedMatch, Function.update_self, if_true]
      omega
    · simp only [DvPEscrow.lockedWorld, Function.update_of_ne ha, if_neg ha]
      exact hfree
  purse := by
    rw [h]
    exact hb.purse

theorem lockedWorld_receipt {mi : MatchInstructionLib.MatchInstruction} {fee' mid : Nat} {w w' : World}
    {env : Env} (h : w'.log = (DvPEscrow.lockedWorld P d env fee mi fee' mid w).log) :
    let m := DvPEscrow.lockedMatch P d env mi mid w.escrow.nextDestinationTag
    (w'.log.take (w'.log.length - w.log.length)).reverse =
      [.bondLocked mi.matchId mi.maker m.bondAmount,
        .matchLocked mi.matchId mi.taker mi.maker mi.amountFxrp m.xrpDrops m.destinationTag
          mi.takerXrplAddress m.paymentDeadline m.refundAfter mi.priceUsd18 mid] := by
  intro m
  rw [h]
  simp only [DvPEscrow.lockedWorld, List.length_cons, Nat.add_sub_cancel_left, Nat.add_assoc]
  rfl

/-- A lock that is made is the script's own match. -/
theorem locks_match {receipt : List Event} {chainId : Nat} (hdesk : s.Sound)
    (hready : Ready s books books') (hs : Stands P s.keys books' c) (hmid : mid18 < 2 ^ 256)
    (hsigned : Signed (P := P) (s := s) mid18 chainId data signature)
    (h : mine P s.taker (.lock fee data signature) c = .ok (receipt, c')) :
    ∃ res, receipt.findSome? (lockedEvent s.matchId (bondOf d.minBlockFxrp)) = some res ∧
      Locked P s res (c'.world.escrow.matchOf s.matchId) ∧
      Leaves (P := P) s.keys (fun books' => (books' s.taker.address).available =
        max (books s.taker.address).available d.minBlockFxrp - d.minBlockFxrp) c' := by
  obtain ⟨w, hexec, rfl, rfl⟩ := mine_eq_ok h
  obtain ⟨mi, fee', mid, ts, native, haccepted, hw⟩ := exec_lock hexec
  obtain rfl : (s.instruction d.minBlockFxrp mid18).onChain = mi := by
    have hdecoded := haccepted.decoded
    rw [hsigned.encoded, MatchInstructionLib.decode_encode _ (hdesk.encodable (hready.amount_lt hs) hmid)] at hdecoded
    exact Option.some.inj hdecoded
  refine ⟨_, by rw [lockedWorld_receipt (by rw [hw])]; rfl, ?_, ?_⟩
  · have hm : w.escrow.matchOf s.matchId = DvPEscrow.lockedMatch P d c.env
        (s.instruction d.minBlockFxrp mid18).onChain mid c.world.escrow.nextDestinationTag := by
      rw [hw]
      exact Function.update_self ..
    constructor
    all_goals rw [hm]
    all_goals rfl
  · refine ⟨fun a => { books' a with
      available := (books' a).available - if a = s.taker.address then d.minBlockFxrp else 0
      freeBond := (books' a).freeBond -
        if a = s.maker.address then bondOf d.minBlockFxrp else 0 }, ?_, hs.exec hexec ?_ ?_⟩
    · simp only [if_true, hready.available]
    · rw [hw]; rfl
    · intro a ha
      exact lockedWorld_backed (hs.backed a ha) hw

end Locking

section Flow

variable {P} {E} {s} {books : Address → WalletBook}

/-- The two fundings are done, and `Φ` is known of the states met. -/
def ReadyWith (books : Address → WalletBook) (Φ : List Chain → Prop) (p : Chain × List Chain) : Prop :=
  Leaves (P := P) s.keys (Ready s books) p.1 ∧ Φ p.2

theorem readyWith_stable {Φ : List Chain → Prop} :
    Stable (Beside (Interferes P s.keys)) (ReadyWith (P := P) (s := s) books Φ) :=
  leaves_stable.beside Φ

theorem readLiveFtsoMid_meets :
    Meets (Beside (Interferes P s.keys)) (ReadyWith (P := P) (s := s) books fun _ => True)
      readLiveFtsoMid.traced
      (Then (fun q p => ReadyWith (P := P) (s := s) books (fun met => ∃ atFeed atFee earlier,
          met = atFeed :: atFee :: earlier ∧ atFee.env.calculateFeeById = some q.2.2 ∧
          atFeed.env.getFeedByIdInWei = some (q.1, q.2.1)) p ∧ q.1 < 2 ^ 256)
        fun r p => Ends P E s books r p.1 p.2) := by
  have hnone {α : Type} {x : Option α} {r : Revert} {e : FlowError}
      (h : orRevert x (.reverted r) = .error e) : x = none ∧ e = .reverted r := by
    cases x with
    | none => cases h; exact ⟨rfl, rfl⟩
    | some a => cases h
  simp only [readLiveFtsoMid, Program.traced_bind]
  refine .bind (S := fun fee => ReadyWith (P := P) (s := s) books fun met => ∃ atFee earlier,
      met = atFee :: earlier ∧ atFee.env.calculateFeeById = some fee)
    (.ask_traced readyWith_stable ?_ ?_) fun fee => ?_
  · intro c met fee h hfee
    exact ⟨h.1, c, met, rfl, orRevert_eq_ok.mp hfee⟩
  · intro c met e h hfee
    obtain ⟨hunread, rfl⟩ := hnone hfee
    exact .oracle (.inl hunread)
  refine .bind (S := fun (q : Nat × Nat) p => ReadyWith (P := P) (s := s) books (fun met =>
      ∃ atFeed atFee earlier, met = atFeed :: atFee :: earlier ∧
        atFee.env.calculateFeeById = some fee ∧ atFeed.env.getFeedByIdInWei = some q) p ∧
      q.1 < 2 ^ 256)
    (.ask_traced readyWith_stable ?_ ?_) fun q => .done fun p h => h
  · rintro c met q ⟨⟨books', hready, hs⟩, atFee, earlier, rfl, hfee⟩ hfeed
    exact ⟨⟨⟨books', hready, hs⟩, c, atFee, earlier, rfl, hfee, orRevert_eq_ok.mp hfeed⟩,
      hs.sound.mid q.1 q.2 (orRevert_eq_ok.mp hfeed)⟩
  · intro c met e h hfeed
    obtain ⟨hunread, rfl⟩ := hnone hfeed
    exact .oracle (.inr hunread)

/-- The deposit is armed, or the reserve does not cover the desk's needs. -/
theorem fundsTaker (hdesk : s.Sound) :
    Meets (Interferes P s.keys) (Stands P s.keys books)
      (fundTakerDeposit P s.owner s.taker d.minBlockFxrp s.fundedAt 3600)
      (Then (fun _ => Leaves (P := P) s.keys (Armed s.owner.address s.taker.address d.minBlockFxrp
          (s.fundedAt + 3600) books)) fun r c => ∀ met, Ends P E s books r c met) := by
  refine (fundTakerDeposit_meets (by simp [Desk.keys]) (by simp [Desk.keys]) hdesk.owner_ne_taker
    hdesk.fundedAt).post ?_
  rintro (e | _) c h
  · obtain ⟨hs, hfew, missing, reserve, rfl, hreserve⟩ := h
    exact fun met => .outOfFxrp hreserve (by simp only [Desk.drain, short]; omega)
  · exact h

/-- Then the bond is posted, or the reserve does not cover both. -/
theorem fundsMaker {books₁ : Address → WalletBook} (hdesk : s.Sound)
    (harmed : Armed s.owner.address s.taker.address d.minBlockFxrp (s.fundedAt + 3600) books books₁) :
    Meets (Interferes P s.keys) (Stands P s.keys books₁)
      (fundMakerBond P s.owner s.maker (d.minBlockFxrp * DvPEscrow.bondBips / 10000))
      (Then (fun _ => Leaves (P := P) s.keys (Ready s books))
        fun r c => ∀ met, Ends P E s books r c met) := by
  refine (fundMakerBond_meets (by simp [Desk.keys]) (by simp [Desk.keys]) hdesk.owner_ne_maker).post ?_
  have hmaker := harmed.others s.maker.address hdesk.owner_ne_maker.symm hdesk.taker_ne_maker.symm
  rintro (e | _) c h
  · obtain ⟨hs, hfew, missing, reserve, rfl, hreserve⟩ := h
    obtain ⟨p, hp, hle⟩ := harmed.reserve
    rw [hmaker, hp] at hfew
    refine fun met => .outOfFxrp hreserve ?_
    change _ < bondOf d.minBlockFxrp - _ at hfew
    simp only [Desk.drain, short] at hfew ⊢
    omega
  · obtain ⟨books₂, hbonded, hs⟩ := h
    have htaker := hbonded.others s.taker.address hdesk.owner_ne_taker.symm hdesk.taker_ne_maker
    refine ⟨books₂, ?_, hs⟩
    constructor
    case available => rw [htaker, harmed.available]
    case armedUntil => rw [htaker, harmed.armedUntil]; exact Nat.le_max_left _ _
    case freeBond => exact hbonded.freeBond

/-- Whatever the others do in between, short of a lock that takes from the desk's
wallets: the flow ends with its match locked on the terms it returns; or the reserve
cannot pay for both fundings; or the oracle fails; or `lock`, sent with the fee it read
and the instruction it signed for the mid and the chain it read, is refused on a chain
that fails a condition which is not the script's to see to. -/
theorem fundAndLock_ends (hE : E.Documented) (hkey : s.signingKey.Documented P s.owner.address)
    (hdesk : s.Sound) :
    Meets (Beside (Interferes P s.keys)) (fun p => Stands P s.keys books p.1)
      (fundAndLock P E s).traced (fun r p => Ends P E s books r p.1 p.2) := by
  simp only [fundAndLock, Program.traced_bind]
  refine .bind (S := fun minBlock p => Stands P s.keys books p.1 ∧ d.minBlockFxrp = minBlock)
    (.read_traced stands_stable.fst fun c met hs => ⟨hs, rfl⟩) fun minBlock => ?_
  refine .of_pure ?_
  rintro rfl
  refine .bind (S := fun bips p => Stands P s.keys books p.1 ∧ DvPEscrow.bondBips = bips)
    (.read_traced stands_stable.fst fun c met hs => ⟨hs, rfl⟩) fun bips => ?_
  refine .of_pure ?_
  rintro rfl
  refine .bind (fundsTaker (E := E) hdesk).traced_then fun _ => ?_
  refine .of_exists (S := fun books₁ (p : Chain × List Chain) => Stands P s.keys books₁ p.1) fun books₁ harmed => ?_
  refine .bind (fundsMaker (E := E) hdesk harmed).traced_then fun _ => ?_
  refine .bind (readLiveFtsoMid_meets.pre fun p h => ⟨h, trivial⟩) ?_
  rintro ⟨mid18, ts, fee⟩
  refine .of_pure fun hmid => ?_
  refine .bind (S := fun chainId p =>
      ReadyWith (P := P) (s := s) books (Quoted mid18 fee chainId) p ∧
        (chainId < 2 ^ 256 ∧ d.minBlockFxrp < 2 ^ 128))
    (.read_traced readyWith_stable ?_) fun chainId => ?_
  · rintro c met ⟨⟨books', hready, hs⟩, atFeed, atFee, earlier, rfl, hfee, hfeed⟩
    exact ⟨⟨⟨books', hready, hs⟩, c, atFeed, atFee, earlier, ts, rfl, hfee, hfeed, rfl⟩,
      hs.sound.chainid, hready.amount_lt hs⟩
  refine .of_pure ?_
  rintro ⟨hchain, hamount⟩
  obtain ⟨signature, hsign, hlength, hlowS, hrecovers⟩ :=
    signMatchInstruction_ok hE hkey (hdesk.encodable hamount hmid) hdesk.signedAt hchain
  have hsigned : Signed (P := P) (s := s) mid18 chainId _ signature := ⟨rfl, hlength, hlowS, hrecovers⟩
  simp only [hsign, Program.traced_bind]
  refine .bind (S := fun receipt p => ∃ res,
    receipt.findSome? (lockedEvent s.matchId (bondOf d.minBlockFxrp)) = some res ∧
      Ends P E s books (.ok res) p.1 p.2) (.call_traced readyWith_stable ?_ ?_) fun receipt => ?_
  · rintro c met receipt c' ⟨⟨books', hready, hs⟩, hquoted⟩ h
    obtain ⟨res, hres, hlocked, hkept⟩ := locks_match hdesk hready hs hmid hsigned h
    exact ⟨res, hres, .locked hquoted ⟨_, _, hsign, h⟩ hlocked hkept⟩
  · rintro c met e ⟨⟨books', hready, hs⟩, hquoted⟩ h
    obtain ⟨hserving, r, rfl⟩ := refuses_unserving hdesk hready hs hmid hsigned h
    exact .refused hquoted ⟨_, _, hsign, h⟩ ⟨books', hready, hs⟩ hserving
  · refine .of_exists fun res hres => ?_
    simp only [bondOf] at hres
    rw [hres]
    exact .done fun p h => h

theorem fundAndLock_keeps : (fundAndLock P E s).Keeps Chain.Sound := by
  refine .bind (.read _) fun minBlock => .bind (.read _) fun bips =>
    .bind (fundTakerDeposit_keeps _ _) fun _ => .bind fundMakerBond_keeps fun _ =>
      .bind (.bind (.ask _) fun fee => .bind (.ask _) fun q => .done _) fun q =>
        .bind (.read _) fun chainId => ?_
  cases hsign : signMatchInstruction P E (s.instruction minBlock q.1) (.bigint chainId)
    s.signingKey with
  | error e =>
    simp only [hsign]
    exact .throw _
  | ok v =>
    simp only [hsign]
    refine .bind (send_keeps fun env w w' hexec => ?_) fun receipt => ?_
    · obtain ⟨mi, fee', mid, ts, native, _, rfl⟩ := exec_lock hexec
      rfl
    · cases receipt.findSome? (lockedEvent s.matchId (minBlock * bips / 10000)) with
      | some res => exact .done res
      | none => exact .throw _

end Flow

/-! A wallet of the desk's is the taker, one the maker, and its owner signs. -/
namespace SampleDesk

def desk : Desk Sample.deployment where
  owner := Sample.owner
  taker := Sample.taker
  maker := Sample.maker
  signingKey _ := ⟨1, 1, 27⟩
  xrplTakerAddress := Sample.takersAddress
  matchId := 7
  fundedAt := 1000
  signedAt := 1010

theorem sound : desk.Sound :=
  ⟨by decide, by decide, by decide, by decide, by decide, by decide, by decide⟩

end SampleDesk

open SampleDesk WireParity.SampleSigning in
/-- Left alone, the flow ends with its match locked. -/
theorem fundAndLock_ends_sample :
    let res : LockResult := ⟨7, 1, 5000000000, 5000000000, 2440, 2800, 50000000⟩
    ∃ c met, Runs (Beside (Interferes primitives desk.keys)) (chain, [])
        (fundAndLock primitives ethers desk).traced (.ok res) (c, met) ∧
      Ends primitives ethers desk books (.ok res) c met := by
  intro res
  have hok : ((fundAndLock primitives ethers desk).alone chain).1 = .ok res := by decide +kernel
  obtain ⟨c, halone⟩ : ∃ c, Runs (Interferes primitives desk.keys) chain
      (fundAndLock primitives ethers desk) (.ok res) c :=
    ⟨_, hok ▸ runs_chain fundAndLock_keeps⟩
  obtain ⟨met, hrun⟩ := exists_traced halone []
  refine ⟨c, met, hrun, fundAndLock_ends ethers_documented ⟨?_, ?_⟩ sound _ _ _ stands hrun⟩
  · intro _
    exact show (1 : Bytes32).toNat ≤ DvPEscrow.secp256k1nHalf by decide
  · intro _
    rfl

end WhisperDesk.Web.Flow
