import WhisperDesk.General.Procedure
import WhisperDesk.Enclave.Retry

/-!
# The handlers, statement by statement

The book operations and the three handlers as procedures that write the book in
place and may return early with whatever is written by then. Each of them
commits: it does what the function of the same name in `Book`, `Match` and
`Handler` says, or nothing.
-/
namespace WhisperDesk.Fcewire.Statements

open Function (update)
open Go
open Matcher
open Reverting
open Procedure

section Book

def addRFQ (cfg : Matcher.Config) (id : Bytes32) (taker : Address) (fxrpAmountRaw : UInt64)
    (limitPriceE18 : Option Int) (xrplAddress : GoString) (now : Time) (windowSec ttlSec : Int64) :
    EStateM Error SealedBook RFQ := do
  consult fun _ => revertIf (fxrpAmountRaw < cfg.minBlockFxrpRaw) .belowMinBlock
  consult fun _ => revertIf (xrplAddress.bytes = []) .emptyXrplAddr
  let limit ← consult fun _ => SealedBook.positive limitPriceE18
  consult fun b => revertIf ((b.rfqs id).isSome = true) .rfqExists
  let rfq : RFQ :=
    { id, taker, fxrpAmountRaw, limitPriceE18 := limit, xrplAddress, receivedAt := now,
      windowEndsAt := now.add (seconds windowSec), expiresAt := now.add (seconds ttlSec),
      outcome := none }
  modify fun b => { b with rfqs := update b.rfqs id (some rfq) }
  modify fun b => { b with quotes := update b.quotes id (some ByMaker.empty) }
  return rfq

def upsertQuote (rfqID : Bytes32) (maker : Address) (priceE18 : Int) (maxFxrpRaw nonce : UInt64)
    (now : Time) : EStateM Error SealedBook Bool := do
  let byMaker ← consult fun b => orRevert (b.quotes rfqID) .rfqUnknown
  let existing := byMaker.lookup maker
  consult fun _ => revertIf (existing.any (fun q => nonce ≤ q.nonce) = true) .staleNonce
  modify fun b => { b with nextSeq := b.nextSeq + 1 }
  modify fun b => { b with
    quotes := update b.quotes rfqID (some (byMaker.insert
      { rfqID, maker, priceE18, maxFxrpRaw, nonce, receivedAt := now, seq := b.nextSeq })) }
  return existing.isSome

/-- `matchWithSignFunc` where no outcome is cached: the new outcome is the caller's
own until `markMatched` puts it in the book. -/
def computeMatch (L : Libraries) (cfg : Matcher.Config) (escrow : Address)
    (sign : MatchInstruction → Except Error SignedMatch) (order : MapOrder) (rfqID : Bytes32)
    (snap : ChainSnapshot) (now : Time) : EStateM Error SealedBook MatchOutcome := do
  let (rfq, quotes) ← consult fun b => b.snapshotForMatch order rfqID
  consult fun _ => revertIf (now.before rfq.windowEndsAt = true) .windowOpen
  let outcome ← consult fun _ => matchCore L cfg escrow rfq quotes snap now
  let outcome ← consult fun _ => signOutcome sign outcome
  modify fun b => b.markMatched rfqID outcome
  return outcome

def matchWithSignFunc (L : Libraries) (cfg : Matcher.Config) (escrow : Address)
    (sign : MatchInstruction → Except Error SignedMatch) (order : MapOrder) (rfqID : Bytes32)
    (snap : ChainSnapshot) (now : Time) : EStateM Error SealedBook MatchOutcome := do
  match (← get).cachedOutcome rfqID with
  | some cached => return cached
  | none => computeMatch L cfg escrow sign order rfqID snap now

variable {L : Libraries} {cfg : Matcher.Config} {escrow taker maker : Address} {id rfqID : Bytes32}
  {fxrpAmountRaw maxFxrpRaw nonce : UInt64} {limitPriceE18 : Option Int} {priceE18 : Int}
  {xrplAddress : GoString} {now : Time} {windowSec ttlSec : Int64} {order : MapOrder}
  {sign : MatchInstruction → Except Error SignedMatch} {snap : ChainSnapshot}

theorem addRFQ_commits :
    Commits (addRFQ cfg id taker fxrpAmountRaw limitPriceE18 xrplAddress now windowSec ttlSec)
      (fun b => b.addRFQ cfg id taker fxrpAmountRaw limitPriceE18 xrplAddress now windowSec ttlSec) := by
  apply Commits.consult
  intro _
  apply Commits.consult
  intro _
  apply Commits.consult
  intro limit
  apply Commits.consult
  intro _
  apply Commits.writes
  exact fun b => rfl

theorem upsertQuote_commits :
    Commits (upsertQuote rfqID maker priceE18 maxFxrpRaw nonce now)
      (fun b => b.upsertQuote rfqID maker priceE18 maxFxrpRaw nonce now) := by
  apply Commits.consult
  intro byMaker
  apply Commits.consult
  intro _
  apply Commits.writes
  exact fun b => rfl

theorem computeMatch_commits :
    Commits (computeMatch L cfg escrow sign order rfqID snap now) (fun b => do
      let (rfq, quotes) ← b.snapshotForMatch order rfqID
      revertIf (now.before rfq.windowEndsAt = true) .windowOpen
      let outcome ← matchCore L cfg escrow rfq quotes snap now
      let outcome ← signOutcome sign outcome
      pure (outcome, b.markMatched rfqID outcome)) := by
  apply Commits.consult
  rintro ⟨rfq, quotes⟩
  apply Commits.consult
  intro _
  apply Commits.consult
  intro outcome
  apply Commits.consult
  intro signed
  apply Commits.writes
  exact fun b => rfl

theorem matchWithSignFunc_commits :
    Commits (matchWithSignFunc L cfg escrow sign order rfqID snap now)
      (fun b => Matcher.matchWithSignFunc L b cfg escrow sign order rfqID snap now) := by
  intro b
  cases hcached : b.cachedOutcome rfqID with
  | some cached =>
    simp only [Matcher.matchWithSignFunc, matchWithSignFunc, EStateM.run, bind, EStateM.bind, get,
      getThe, MonadStateOf.get, EStateM.get, hcached]
    rfl
  | none =>
    have hcompute := @computeMatch_commits L cfg escrow rfqID now order sign snap b
    have hrun : (matchWithSignFunc L cfg escrow sign order rfqID snap now).run b =
        (computeMatch L cfg escrow sign order rfqID snap now).run b := by
      simp only [matchWithSignFunc, EStateM.run, bind, EStateM.bind, get, getThe, MonadStateOf.get,
        EStateM.get, hcached]
    rw [hrun, hcompute]
    simp only [Matcher.matchWithSignFunc, hcached, matchSnapshot]
    cases hsnap : b.snapshotForMatch order rfqID with
    | error e => rfl
    | ok p =>
      simp only [bind, Except.bind]
      cases revertIf (now.before p.1.windowEndsAt = true) Error.windowOpen with
      | error e => rfl
      | ok _ => rfl

end Book

section Handlers

variable {σ α : Type} (X : Externals) (S : Snapshotter σ) (cfg : Config)

/-- A book operation called from a handler, its error mapped to a code. -/
def onBook (code : Error → Code) (op : EStateM Error SealedBook α) : EStateM Code (Handler σ) α :=
  within Handler.book (fun book h => { h with book := book }) code op

def handleRfqSubmit (a : Ambient) (df : DataFixed) : EStateM Code (Handler σ) Payload := do
  let (sender, ciphertext) ← consult fun _ => orRevert (X.unpackEnvelope df.originalMessage) .decode
  let plaintext ← consult fun _ => orRevert (decrypt X a ciphertext) .decrypt
  let depadded ← consult fun _ => orRevert (depad plaintext cfg.padSize) .pad
  let rfq ← consult fun _ => orRevert (X.decodeRfqPlaintext depadded) .decode
  consult fun _ => revertIf (rfq.v ≠ 1) .decode
  consult fun _ => revertIf (rfq.side ≠ ascii "SELL_FXRP") .side
  consult fun _ => revertIf (isHexAddress rfq.taker = false) .decode
  consult fun _ => revertIf (hexToAddress rfq.taker ≠ sender) .auth
  consult fun _ => revertIf (rfq.xrplAddress.bytes = []) .decode
  let amount ← consult fun _ => orRevert (readUint64 rfq.fxrpAmountRaw) .decode
  let limit ← consult fun _ => orRevert (setString10 rfq.limitPriceUsdE18) .decode
  let added ← onBook mapAddRFQErr (addRFQ cfg.matcher df.instructionID sender amount (some limit)
    rfq.xrplAddress a.now cfg.rfqWindowSec cfg.rfqTTLSec)
  modify fun h => { h with chain := S.trackTaker sender h.chain }
  return .rfqAck (hashHex df.instructionID) added.windowEndsAt.unix.toUInt64

def handleQuoteSubmit (a : Ambient) (di : DirectInstruction) : EStateM Code (Handler σ) Payload := do
  let plaintext ← consult fun _ => orRevert (decrypt X a di.message) .decrypt
  let depadded ← consult fun _ => orRevert (depad plaintext cfg.padSize) .pad
  let q ← consult fun _ => orRevert (X.decodeQuotePlaintext depadded) .decode
  consult fun _ => revertIf (q.v ≠ 1) .decode
  consult fun _ => revertIf (q.rfqID.length ≠ 66 ∨ isHexAddress q.maker = false) .decode
  let price ← consult fun _ => orRevert (setString10 q.priceUsdE18) .decode
  let maxSize ← consult fun _ => orRevert (readUint64 q.maxFxrpRaw) .decode
  let nonce ← consult fun _ => orRevert (readUint64 q.nonce) .decode
  consult fun _ => revertIf (price ≤ 0) .decode
  let sig ← consult fun _ => orRevert (decodeHex q.sig) .decode
  consult fun _ => revertIf (sig.length ≠ 65) .decode
  consult fun _ => revertIf (verifyQuoteSignature X.toLibraries cfg.chainID cfg.escrowAddr
    (hexToHash q.rfqID) (hexToAddress q.maker) price maxSize.toNat nonce.toNat sig = false) .auth
  let replaced ← onBook mapUpsertErr
    (upsertQuote (hexToHash q.rfqID) (hexToAddress q.maker) price maxSize nonce a.now)
  modify fun h => { h with chain := S.trackMaker (hexToAddress q.maker) h.chain }
  return .quoteAck (hashHex (hexToHash q.rfqID)) true replaced

/-- Nothing is left to fail once the matcher is done: an outcome always marshals. -/
def handleMatch (a : Ambient) (rfqID : Bytes32) : EStateM Code (Handler σ) Payload := do
  let snap ← consult fun h => matchSnap S a rfqID h
  let outcome ← onBook mapMatchErr (matchWithSignFunc X.toLibraries cfg.matcher cfg.escrowAddr
    (fun mi => signWithFunc X.toLibraries mi cfg.chainID (signClient a)) a.quotesOrder rfqID snap a.now)
  return .matchResponse outcome

def handleMatchMessage (a : Ambient) (data : Bytes) : EStateM Code (Handler σ) Payload := do
  let rfqID ← consult fun _ => orRevert (decodeRfqID X data) .decode
  handleMatch X S cfg a rfqID

/-- `errResult` and `okResult`, with the handler as the procedure left it. -/
def respond (opType opCommand : Bytes32) : EStateM.Result Code (Handler σ) Payload → Result × Handler σ
  | .error code h => ({ opType, opCommand, status := 0, data := none, log := code.text }, h)
  | .ok data h => ({ opType, opCommand, status := 1, data := some data, log := "ok" }, h)

def handleInstruction (a : Ambient) (df : DataFixed) (h : Handler σ) : Result × Handler σ :=
  respond df.opType df.opCommand <| EStateM.run (s := h) <|
    if df.opCommand = rfqSubmit then handleRfqSubmit X S cfg a df
    else if df.opCommand = rfqMatch then handleMatchMessage X S cfg a df.originalMessage
    else throw .path

def handleDirect (a : Ambient) (di : DirectInstruction) (h : Handler σ) : Result × Handler σ :=
  respond di.opType di.opCommand <| EStateM.run (s := h) <|
    if di.opCommand = quoteSubmit then handleQuoteSubmit X S cfg a di
    else if di.opCommand = rfqMatch then
      if cfg.allowDirectMatch then handleMatchMessage X S cfg a di.message else throw .path
    else if di.opCommand = rfqSubmit then
      if cfg.allowDirectRfq then handleRfqSubmit X S cfg a (asInstruction X di) else throw .path
    else throw .path

variable {X S cfg}

theorem onBook_commits {code : Error → Code} {op : EStateM Error SealedBook α}
    {f : SealedBook → Except Error (α × SealedBook)} (hop : Commits op f) (p : α → Payload)
    (t : σ → σ) {k : α → EStateM Code (Handler σ) Payload}
    (hk : ∀ (v : α) (h : Handler σ), (k v).run h = .ok (p v) ⟨h.book, t h.chain⟩) :
    Commits (onBook code op >>= k) (fun h => (f h.book).mapError code >>= fun r =>
      pure (p r.1, (⟨r.2, t h.chain⟩ : Handler σ))) :=
  Commits.within (fun _ => rfl) hop fun v book (h : Handler σ) => hk v ⟨book, h.chain⟩

theorem handleRfqSubmit_commits (a : Ambient) (df : DataFixed) :
    Commits (handleRfqSubmit X S cfg a df) (Fcewire.handleRfqSubmit X S cfg a df) := by
  apply Commits.consult
  rintro ⟨sender, ciphertext⟩
  apply Commits.consult
  intro plaintext
  apply Commits.consult
  intro depadded
  apply Commits.consult
  intro rfq
  apply Commits.consult
  intro _
  apply Commits.consult
  intro _
  apply Commits.consult
  intro _
  apply Commits.consult
  intro _
  apply Commits.consult
  intro _
  apply Commits.consult
  intro amount
  apply Commits.consult
  intro limit
  exact onBook_commits addRFQ_commits _ (S.trackTaker sender) fun _ _ => rfl

theorem handleQuoteSubmit_commits (a : Ambient) (di : DirectInstruction) :
    Commits (handleQuoteSubmit X S cfg a di) (Fcewire.handleQuoteSubmit X S cfg a di) := by
  apply Commits.consult
  intro plaintext
  apply Commits.consult
  intro depadded
  apply Commits.consult
  intro q
  apply Commits.consult
  intro _
  apply Commits.consult
  intro _
  apply Commits.consult
  intro price
  apply Commits.consult
  intro maxSize
  apply Commits.consult
  intro nonce
  apply Commits.consult
  intro _
  apply Commits.consult
  intro sig
  apply Commits.consult
  intro _
  apply Commits.consult
  intro _
  exact onBook_commits upsertQuote_commits _ (S.trackMaker (hexToAddress q.maker)) fun _ _ => rfl

theorem handleMatchMessage_commits (a : Ambient) (data : Bytes) :
    Commits (handleMatchMessage X S cfg a data) (Fcewire.handleMatchMessage X S cfg a data) := by
  apply Commits.consult
  intro rfqID
  apply Commits.consult
  intro snap
  exact onBook_commits matchWithSignFunc_commits _ id fun _ _ => rfl

theorem respond_run {x : EStateM Code (Handler σ) Payload}
    {f : Handler σ → Except Code (Payload × Handler σ)} (hx : Commits x f)
    (opType opCommand : Bytes32) (h : Handler σ) :
    respond opType opCommand (x.run h) = reply opType opCommand h (f h) := by
  rw [hx h]
  cases f h with
  | error code => rfl
  | ok p => rfl

theorem throw_commits (code : Code) :
    Commits (throw code : EStateM Code (Handler σ) Payload) (fun _ => .error code) := fun _ => rfl

/-- Written in place or not, the two ingresses answer and leave the same. -/
theorem handleInstruction_eq (a : Ambient) (df : DataFixed) (h : Handler σ) :
    handleInstruction X S cfg a df h = Fcewire.handleInstruction X S cfg a df h := by
  unfold handleInstruction Fcewire.handleInstruction
  split_ifs
  · exact respond_run (handleRfqSubmit_commits a df) _ _ h
  · exact respond_run (handleMatchMessage_commits a df.originalMessage) _ _ h
  · exact respond_run (throw_commits .path) _ _ h

theorem handleDirect_eq (a : Ambient) (di : DirectInstruction) (h : Handler σ) :
    handleDirect X S cfg a di h = Fcewire.handleDirect X S cfg a di h := by
  unfold handleDirect Fcewire.handleDirect
  split_ifs
  · exact respond_run (handleQuoteSubmit_commits a di) _ _ h
  · exact respond_run (handleMatchMessage_commits a di.message) _ _ h
  · exact respond_run (throw_commits .path) _ _ h
  · exact respond_run (handleRfqSubmit_commits a (asInstruction X di)) _ _ h
  · exact respond_run (throw_commits .path) _ _ h
  · exact respond_run (throw_commits .path) _ _ h

end Handlers

end WhisperDesk.Fcewire.Statements
