import WhisperDesk.Enclave.Handler
import WhisperDesk.Web.WalletSettlement

/-!
# Maker mode: pay and payment status

`/api/maker/match` writes down what the maker owes; `/api/maker/pay` sends that from the account
that `/api/maker/xrpl-account` generated last; `/api/maker/payment-status` looks for the payment
among the transactions of its destination, and writes down the first that it takes for it.
All clients share one store and one account slot.
-/
namespace WhisperDesk.Web

open Function (update)
open ByteCodec (decimal)
open XrpLedger (Amount)

section Stores

def recordTtlMs : Nat := 10 * 60 * 1000

structure MatchTerms where
  xrplDestination : Bytes
  /-- Its decimal text. -/
  xrpDrops : Nat
  destinationTag : Nat
  paymentDeadline : Nat
  deriving DecidableEq

structure MatchRecord extends MatchTerms where
  xrplTx : Option Bytes32
  createdAt : Nat
  deriving DecidableEq

abbrev MatchStore := Bytes32 → Option MatchRecord

def putMatchRecord (store : MatchStore) (matchId : Bytes32) (terms : MatchTerms) (now : Nat) :
    MatchStore :=
  update store matchId (some { terms with xrplTx := none, createdAt := now })

/-- The record, and the store without it when it is past its time. -/
def getMatchRecord (store : MatchStore) (matchId : Bytes32) (now : Nat) :
    Option MatchRecord × MatchStore :=
  match store matchId with
  | none => (none, store)
  | some record =>
    if now - record.createdAt > recordTtlMs then (none, update store matchId none)
    else (some record, store)

def recordMatchPayment (store : MatchStore) (matchId xrplTx : Bytes32) : MatchStore :=
  match store matchId with
  | none => store
  | some record => update store matchId (some { record with xrplTx := some xrplTx })

structure FreshXrplAccount where
  address : Bytes
  seed : Bytes
  deriving DecidableEq

structure CurrentAccount extends FreshXrplAccount where
  createdAt : Nat
  deriving DecidableEq

/-- The account, and the slot without it when it is past its time. -/
def getCurrentMakerXrplAccount (slot : Option CurrentAccount) (now : Nat) :
    Option FreshXrplAccount × Option CurrentAccount :=
  match slot with
  | none => (none, none)
  | some account =>
    if now - account.createdAt > recordTtlMs then (none, none)
    else (some account.toFreshXrplAccount, some account)

end Stores

section AccountTx

/-- A member `Amount`: a text of drops, or an object for an issued currency. -/
inductive AmountJson where
  | text (s : Bytes)
  | object
  deriving DecidableEq

/-- `String(tx.Amount)`. -/
def amountString : Option AmountJson → Bytes
  | none => Fcewire.ascii "undefined"
  | some .object => Fcewire.ascii "[object Object]"
  | some (.text s) => s

structure TxJson where
  transactionType : String
  destination : Option Bytes
  destinationTag : Option Nat
  amount : Option AmountJson
  hash : Option Bytes32

inductive MetaJson where
  | text
  | object (transactionResult : String)

/-- An entry of `account_tx`: which members there are depends on the version of the API. -/
structure AccountTxEntry where
  txJson : Option TxJson
  tx : Option TxJson
  metadata : Option MetaJson
  hash : Option Bytes32

def AccountTxEntry.body (entry : AccountTxEntry) : Option TxJson := entry.txJson <|> entry.tx

/-- One turn of the scan in `checkMakerPaymentStatus`; `continue` is `none`. -/
def paidBy (record : MatchTerms) (entry : AccountTxEntry) : Option Bytes32 := do
  let tx ← entry.body
  let metadata ← entry.metadata
  guard (tx.transactionType = "Payment")
  guard (tx.destination = some record.xrplDestination)
  guard (tx.destinationTag = some record.destinationTag)
  guard (amountString tx.amount = decimal record.xrpDrops)
  let txResult ← match metadata with
    | .text => none
    | .object transactionResult => some transactionResult
  guard (txResult = "tesSUCCESS")
  entry.hash <|> tx.hash

def amountJson : Amount → AmountJson
  | .drops n => .text (decimal n)
  | .issued => .object

/-- The members that an entry has tell of one transaction. Without `Amount` there is only
`DeliverMax`, which nothing reads. -/
structure AccountTxEntry.Shows (entry : AccountTxEntry) (t : XrpLedger.Transaction) : Prop where
  body : ∃ tx, entry.body = some tx ∧ tx.transactionType = t.transactionType ∧
    (t.transactionType = "Payment" → tx.destination = some t.destination) ∧
    tx.destinationTag = t.destinationTag ∧
    (tx.amount = none ∨ tx.amount = some (amountJson t.amount)) ∧
    (entry.hash <|> tx.hash) = some t.hash
  result : entry.metadata = some (.object t.transactionResult)

def AccountTxEntry.showsAmount (entry : AccountTxEntry) : Prop :=
  ∃ tx, entry.body = some tx ∧ tx.amount.isSome = true

/-- What a response lists, and what it is of. -/
structure Listing where
  entry : AccountTxEntry
  transaction : XrpLedger.Transaction
  shows : entry.Shows transaction

end AccountTx

/-- A payment from a maker's account. -/
structure MakerPayment extends XrplPayment where
  account : FreshXrplAccount
  deriving DecidableEq

/-- An answer of `/api/maker/payment-status`: the hash if it is paid. -/
structure Report where
  matchId : Bytes32
  xrplTx : Option Bytes32
  deriving DecidableEq

structure MakerDesk where
  now : Nat
  matchStore : MatchStore
  currentMakerXrplAccount : Option CurrentAccount
  /-- Submitted and not yet validated or refused. -/
  paying : List MakerPayment
  /-- Validated, the request waits for finality before it writes the hash down. -/
  confirming : List (Bytes32 × Bytes32)
  sent : List MakerPayment
  /-- Status requests that wait for `account_tx`, with the record they have read. -/
  polling : List (Bytes32 × MatchRecord)
  reports : List Report

def MakerDesk.start (now : Nat) : MakerDesk where
  now := now
  matchStore _ := none
  currentMakerXrplAccount := none
  paying := []
  confirming := []
  sent := []
  polling := []
  reports := []

inductive MakerEvent where
  | elapse (ms : Nat)
  /-- The account that a request of this maker has generated is funded. -/
  | xrplAccount (maker : Address) (account : FreshXrplAccount)
  /-- `triggerMatchAndLock` has locked a match of this maker. -/
  | matched (matchId : Bytes32) (maker : Address) (terms : MatchTerms)
  | pay (matchId : Bytes32)
  | validated (k : Nat) (hash : Bytes32) (closeTime : Nat)
  | refused (k : Nat)
  | returned (k : Nat)
  | poll (matchId : Bytes32)
  | listed (k : Nat) (listings : List Listing)
  | unlisted (k : Nat)

namespace MakerDesk

def xrplAccount (s : MakerDesk) (account : FreshXrplAccount) : MakerDesk :=
  { s with currentMakerXrplAccount := some { account with createdAt := s.now } }

def matched (s : MakerDesk) (matchId : Bytes32) (terms : MatchTerms) : MakerDesk :=
  { s with matchStore := putMatchRecord s.matchStore matchId terms s.now }

/-- `payFromMakerAccount` up to its await. -/
def pay (s : MakerDesk) (matchId : Bytes32) : MakerDesk :=
  match getMatchRecord s.matchStore matchId s.now with
  | (none, store) => { s with matchStore := store }
  | (some record, store) =>
    match getCurrentMakerXrplAccount s.currentMakerXrplAccount s.now with
    | (none, slot) => { s with matchStore := store, currentMakerXrplAccount := slot }
    | (some account, slot) =>
      { s with
        matchStore := store
        currentMakerXrplAccount := slot
        paying := s.paying ++ [{
          matchId := matchId
          takerAddress := record.xrplDestination
          amountDrops := record.xrpDrops
          destinationTag := record.destinationTag
          account := account }] }

def validated (s : MakerDesk) (k : Nat) (hash : Bytes32) : MakerDesk :=
  match s.paying[k]? with
  | none => s
  | some p =>
    { s with
      paying := s.paying.eraseIdx k
      sent := s.sent ++ [p]
      confirming := s.confirming ++ [(p.matchId, hash)] }

/-- The rest of `payFromMakerAccount`. -/
def returned (s : MakerDesk) (k : Nat) : MakerDesk :=
  match s.confirming[k]? with
  | none => s
  | some (matchId, hash) =>
    { s with
      confirming := s.confirming.eraseIdx k
      matchStore := recordMatchPayment s.matchStore matchId hash }

/-- `checkMakerPaymentStatus` up to its request. -/
def poll (s : MakerDesk) (matchId : Bytes32) : MakerDesk :=
  match getMatchRecord s.matchStore matchId s.now with
  | (none, store) => { s with matchStore := store }
  | (some record, store) =>
    match record.xrplTx with
    | some hash => { s with matchStore := store, reports := s.reports ++ [⟨matchId, some hash⟩] }
    | none => { s with matchStore := store, polling := s.polling ++ [(matchId, record)] }

/-- The rest of it, when the response has come. -/
def listed (s : MakerDesk) (k : Nat) (entries : List AccountTxEntry) : MakerDesk :=
  match s.polling[k]? with
  | none => s
  | some (matchId, record) =>
    match entries.findSome? (paidBy record.toMatchTerms) with
    | some hash =>
      { s with
        polling := s.polling.eraseIdx k
        matchStore := recordMatchPayment s.matchStore matchId hash
        reports := s.reports ++ [⟨matchId, some hash⟩] }
    | none =>
      { s with polling := s.polling.eraseIdx k, reports := s.reports ++ [⟨matchId, none⟩] }

def step (s : MakerDesk) : MakerEvent → MakerDesk
  | .elapse ms => { s with now := s.now + ms }
  | .xrplAccount _ account => s.xrplAccount account
  | .matched matchId _ terms => s.matched matchId terms
  | .pay matchId => s.pay matchId
  | .validated k hash _ => s.validated k hash
  | .refused k => { s with paying := s.paying.eraseIdx k }
  | .returned k => s.returned k
  | .poll matchId => s.poll matchId
  | .listed k listings => s.listed k (listings.map Listing.entry)
  | .unlisted k => { s with polling := s.polling.eraseIdx k }

def after (s : MakerDesk) (events : List MakerEvent) : MakerDesk := events.foldl step s

theorem after_concat (s : MakerDesk) (events : List MakerEvent) (e : MakerEvent) :
    s.after (events ++ [e]) = (s.after events).step e := by
  simp only [after, List.foldl_append, List.foldl_cons, List.foldl_nil]

end MakerDesk

end WhisperDesk.Web
