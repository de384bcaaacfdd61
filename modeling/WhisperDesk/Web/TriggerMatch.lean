import WhisperDesk.Web.FundAndLock
import WhisperDesk.Web.PaymentStatus
import WhisperDesk.Web.RfqQueue

/-!
# triggerMatchAndLock

`/api/maker/match` waits for the window to end, asks the enclave for a match up to four
times, checks the signature that comes back against the escrow's signer, relays it to
`lock`, and writes down what the maker owes. Between any two of its steps the chain goes on,
other requests write the stores, and the proxy may answer anything.
-/
namespace WhisperDesk.Web.TriggerMatch

open Await
open Reverting
open DvPEscrow (Deployment)
open WhisperDesk.Web.Flow (Chain FlowError mine readLiveFtsoMid)

/-- The decoded fields of a match; only the id is used. -/
structure MatchWire where
  matchId : Bytes32

/-- A field that is missing or empty is `none`. -/
structure MatchResponse where
  outcome : String
  reasons : List (String × Nat)
  match' : Option MatchWire
  abiEncoded : Option Bytes
  teeSignature : Option Bytes

/-- Why a trigger has no result. -/
inductive PollError where
  | wdClient (text : String)
  | timedOut
  deriving DecidableEq

inductive TriggerError where
  | poll (e : PollError)
  | unreachable
  | failed (status : Nat) (log : String)
  | payload
  | malformed
  | ethers
  | unverified (recovered expected : Address)
  | flow (e : FlowError)
  | matchLockedMissing
  deriving DecidableEq

/-- What this request has done so far, the last first. -/
inductive Deed where
  | triggered
  | sawChainId (chainId : Nat)
  | sawTeeSigner (a : Address)
  | sentLock (value : Nat) (abiEncoded teeSignature : Bytes)
  | recorded (matchId : Bytes32) (terms : MatchTerms)
  deriving DecidableEq

structure Bench where
  chain : Chain
  now : Nat
  rfqStore : RfqMap
  matchStore : MatchStore
  /-- What triggering this RFQ would bring: the polled result, or why there is none. -/
  answer : Except PollError ActionResult
  deeds : List Deed

inductive MatchOutcome where
  | noMatch (reasons : List (String × Nat))
  | matched (matchId : Bytes32) (terms : MatchTerms)
  deriving DecidableEq

abbrev Request := Program Bench TriggerError

/-- The parts of the language and of `ethers` next to those in `E`. -/
structure Runtime where
  /-- `JSON.parse` of a payload, read as a `MatchResponse`. -/
  parse : Bytes → Option MatchResponse
  recoverAddress : Bytes32 → Bytes → Option Address

variable {d : Deployment} (P : Primitives) (E : Ethers) (R : Runtime)

def sleep : Request Unit := .read fun _ => ()

def getRfqRecord (rfqId : Bytes) : Request (Option RfqRecord) :=
  .atomic (fun b => { b with rfqStore := (b.rfqStore.getRfqRecord (some rfqId) b.now).2 })
    fun b => .done (b.rfqStore.getRfqRecord (some rfqId) b.now).1

/-- How long to wait for the end of the window, five seconds more, never past five minutes. -/
def cappedWaitMs (record : RfqRecord) (now : Nat) : Nat :=
  match record.windowEndsAt with
  | none => 0
  | some windowEndsAt => min (windowEndsAt * 1000 + 5000 - now) (5 * 60 * 1000)

def awaitWindow (rfqId : Bytes) : Request Unit := do
  match ← getRfqRecord rfqId with
  | none => .done ()
  | some record => do
    let now ← Program.read Bench.now
    if cappedWaitMs record now > 0 then sleep else .done ()

/-- `wdTriggerMatch` and `pollActionResult`. -/
def triggerAndPoll : Request ActionResult :=
  .atomic (fun b => { b with deeds := .triggered :: b.deeds }) fun b =>
    match b.answer with
    | .ok result => .done result
    | .error e => .throw (.poll e)

/-- The loop, with `n` attempts left. -/
def attempts : Nat → Request ActionResult
  | 0 => .throw .unreachable
  | n + 1 => do
    let result ← triggerAndPoll
    if result.status = 1 ∨ result.log ≠ "WD_ERR_WINDOW_OPEN" ∨ n = 0 then .done result
    else do
      sleep
      attempts n

def maxAttempts : Nat := 4

/-- The signer that a signature over the instruction recovers to. -/
def recovered (abiEncoded teeSignature : Bytes) (chainId : Nat) : Option Address :=
  (ethSignedDigest P E (dataHash P abiEncoded) (.bigint chainId)).bind fun digest =>
    R.recoverAddress digest teeSignature

def readChainId : Request Nat :=
  .atomic (fun b => { b with deeds := .sawChainId b.chain.env.chainid :: b.deeds }) fun b =>
    .done b.chain.env.chainid

def readTeeSigner : Request Address :=
  .atomic (fun b => { b with deeds := .sawTeeSigner b.chain.world.escrow.teeSigner :: b.deeds }) fun b =>
    .done b.chain.world.escrow.teeSigner

def sendLock (relayer : Account d) (value : Nat) (abiEncoded teeSignature : Bytes) :
    Request (List WhisperDesk.Event) :=
  .atomic
    (fun b =>
      { b with
        deeds := .sentLock value abiEncoded teeSignature :: b.deeds
        chain := match mine P relayer (.lock value abiEncoded teeSignature) b.chain with
          | .ok (_, chain) => chain
          | .error _ => b.chain })
    fun b =>
      match mine P relayer (.lock value abiEncoded teeSignature) b.chain with
      | .ok (receipt, _) => .done receipt
      | .error e => .throw (.flow e)

def record (matchId : Bytes32) (terms : MatchTerms) : Request MatchOutcome :=
  .atomic
    (fun b =>
      { b with
        deeds := .recorded matchId terms :: b.deeds
        matchStore := putMatchRecord b.matchStore matchId terms b.now })
    fun _ => .done (.matched matchId terms)

/-- The check of the signature, the relay to `lock` and the record. -/
def lockMatched (relayer : Account d) (wire : MatchWire) (abiEncoded teeSignature : Bytes) :
    Request MatchOutcome := do
  let chainId ← readChainId
  match recovered P E R abiEncoded teeSignature chainId with
  | none => .throw .ethers
  | some signer => do
    let expected ← readTeeSigner
    if signer ≠ expected then .throw (.unverified signer expected)
    else do
      let (_, _, fee) ← readLiveFtsoMid.on Bench.chain (fun b c => { b with chain := c }) TriggerError.flow
      let receipt ← sendLock P relayer fee abiEncoded teeSignature
      match receipt.findSome? termsOf with
      | none => .throw .matchLockedMissing
      | some (_, terms) => record wire.matchId terms

def triggerMatchAndLock (relayer : Account d) (rfqId : Bytes) : Request MatchOutcome := do
  awaitWindow rfqId
  let matchResult ← attempts maxAttempts
  if matchResult.status ≠ 1 then .throw (.failed matchResult.status matchResult.log)
  else
    match R.parse matchResult.data with
    | none => .throw .payload
    | some response =>
      if response.outcome ≠ "MATCHED" then .done (.noMatch response.reasons)
      else
        match response.match', response.abiEncoded, response.teeSignature with
        | some wire, some abiEncoded, some teeSignature =>
          lockMatched P E R relayer wire abiEncoded teeSignature
        | _, _, _ => .throw .malformed

/-- What may happen between two steps: any transactions on the chain, any writes to the
stores, any answer such that `A`. -/
structure Meanwhile (d : Deployment) (A : ActionResult → Prop) (b b' : Bench) : Prop where
  chain : ∃ txs : List (Tx d), b'.chain.world = after P b.chain.world txs
  answer : ∀ result, b'.answer = .ok result → A result
  deeds : b'.deeds = b.deeds

/-- The courses that a request can take, up to where it ends without a record. -/
inductive Course : List Deed → Prop
  | asked (n : Nat) (h : n ≤ maxAttempts) : Course (List.replicate n .triggered)
  | identified (n : Nat) (h : n ≤ maxAttempts) (chainId : Nat) :
    Course (.sawChainId chainId :: List.replicate n .triggered)
  | checked (n : Nat) (h : n ≤ maxAttempts) (chainId : Nat) (signer : Address) :
    Course (.sawTeeSigner signer :: .sawChainId chainId :: List.replicate n .triggered)
  | relayed (n : Nat) (h : n ≤ maxAttempts) {signer : Address} {value chainId : Nat}
    {abiEncoded teeSignature : Bytes}
    (hverified : recovered P E R abiEncoded teeSignature chainId = some signer) :
    Course (.sentLock value abiEncoded teeSignature :: .sawTeeSigner signer :: .sawChainId chainId ::
      List.replicate n .triggered)

/-- The match that the instruction opened, on the terms told. -/
structure Bound (mi : MatchInstructionLib.MatchInstruction) (terms : MatchTerms) (m : Match) : Prop where
  opened : m.state ≠ .none
  taker : m.taker = mi.taker
  maker : m.maker = mi.maker
  amountFxrp : m.amountFxrp = mi.amountFxrp
  describes : terms.Describes P m

/-- The answer that the id and the instruction are from. -/
def Answered (A : ActionResult → Prop) (matchId : Bytes32) (abiEncoded : Bytes) : Prop :=
  ∃ result response wire, A result ∧ R.parse result.data = some response ∧
    response.match' = some wire ∧ wire.matchId = matchId ∧ response.abiEncoded = some abiEncoded

/-- Every answer names the match of its own instruction, which the request does not check. -/
def Consistent (A : ActionResult → Prop) : Prop :=
  ∀ matchId abiEncoded mi, Answered R A matchId abiEncoded →
    MatchInstructionLib.decode abiEncoded = some mi → matchId = mi.matchId

inductive Ends (d : Deployment) (A : ActionResult → Prop) :
    Except TriggerError MatchOutcome → Bench → Prop
  | matched {b : Bench} {matchId : Bytes32} {terms : MatchTerms} {mi : MatchInstructionLib.MatchInstruction}
    {value : Nat} {abiEncoded teeSignature : Bytes} {earlier : List Deed}
    (hcourse : Course P E R (.sentLock value abiEncoded teeSignature :: earlier))
    (hdeeds : b.deeds = .recorded matchId terms :: .sentLock value abiEncoded teeSignature :: earlier)
    (hrecord : b.matchStore matchId = some { terms with xrplTx := none, createdAt := b.now })
    (hanswered : Answered R A matchId abiEncoded)
    (hdecoded : MatchInstructionLib.decode abiEncoded = some mi)
    (hid : Consistent R A → matchId = mi.matchId)
    (hbound : ∀ txs : List (Tx d),
      Bound P mi terms ((after P b.chain.world txs).escrow.matchOf mi.matchId)) :
    Ends d A (.ok (.matched matchId terms)) b
  | noMatch {b : Bench} {reasons : List (String × Nat)} {n : Nat} (hn : n ≤ maxAttempts)
    (hdeeds : b.deeds = List.replicate n .triggered) : Ends d A (.ok (.noMatch reasons)) b
  | error {b : Bench} {e : TriggerError} (hcourse : Course P E R b.deeds) (hne : e ≠ .unreachable)
    (hlocked : e ≠ .matchLockedMissing) : Ends d A (.error e) b

/-- The chain is one of this deployment, and the request has done so much. -/
structure Stands (d : Deployment) (A : ActionResult → Prop) (deeds : List Deed) (b : Bench) : Prop where
  reachable : Reachable P d b.chain.world
  answer : ∀ result, b.answer = .ok result → A result
  deeds : b.deeds = deeds

section Steps

variable {P} {E} {R} {A : ActionResult → Prop} {deeds : List Deed}

theorem stands_stable : Stable (Meanwhile P d A) (Stands P d A deeds) := by
  rintro b b' ⟨hreachable, _, hdeeds⟩ h
  obtain ⟨txs, hworld⟩ := h.chain
  refine ⟨?_, h.answer, h.deeds.trans hdeeds⟩
  rw [hworld]
  exact hreachable.after txs

/-- A match keeps the terms it was opened on, whatever is sent. -/
theorem Bound.after {w : World} {id : Bytes32} {mi : MatchInstructionLib.MatchInstruction}
    {terms : MatchTerms} (h : Bound P mi terms (w.escrow.matchOf id)) (hentered : w.escrow.entered = false)
    (txs : List (Tx d)) : Bound P mi terms ((WhisperDesk.after P w txs).escrow.matchOf id) := by
  have hsame := after_sameTerms (P := P) hentered h.opened txs
  have hterms := hsame.terms
  constructor
  case opened => exact fun hnone => h.opened (hsame.opened.mp hnone)
  case taker => rw [hterms]; exact h.taker
  case maker => rw [hterms]; exact h.maker
  case amountFxrp => rw [hterms]; exact h.amountFxrp
  case describes =>
    rw [hterms]
    exact ⟨h.describes.destination, h.describes.drops, h.describes.tag, h.describes.deadline⟩

/-! No step touches what the proxy would answer. -/
section Keeping

variable {answer : Except PollError ActionResult}

end Keeping

end Steps

/-! The sample chain before its `lock`, and an enclave that answers with the instruction for it. -/
namespace SampleTrigger

def teeSignature : Bytes := List.replicate 65 0

def response : MatchResponse where
  outcome := "MATCHED"
  reasons := []
  match' := some ⟨7⟩
  abiEncoded := some (MatchInstructionLib.encode (Sample.instruction 7))
  teeSignature := some teeSignature

def result : ActionResult := ⟨[0x7b], 1, ""⟩

/-- Of all payloads only the one that comes parses. -/
def runtime : Runtime where
  parse data := if data = [0x7b] then some response else none
  recoverAddress _ _ := some Sample.teeSigner

def bench : Bench where
  chain := ⟨after Sample.primitives Sample.world ((Sample.opening 1000 7).take 5), Sample.env 1000⟩
  now := 1000000
  rfqStore := []
  matchStore _ := none
  answer := .ok result
  deeds := []

def terms : MatchTerms := ⟨Sample.takersAddress, 5025000000, 1, 2440⟩

def request : Request MatchOutcome :=
  triggerMatchAndLock Sample.primitives WireParity.SampleSigning.ethers runtime Sample.owner []

theorem stands : Stands Sample.primitives Sample.deployment (· = result) [] bench where
  reachable := ⟨Sample.world, _, Sample.deployed, rfl⟩
  answer := by
    intro r hr
    exact (Except.ok.inj hr).symm
  deeds := rfl

end SampleTrigger

end WhisperDesk.Web.TriggerMatch
