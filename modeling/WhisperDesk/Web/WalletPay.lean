import WhisperDesk.General.Trace
import WhisperDesk.Contracts.Settlement
import WhisperDesk.Web.RunLock
import WhisperDesk.Web.MatchInstruction

/-!
# Wallet mode: prepare and pay

`buildWalletPrepare` predicts the destination tag of a match that the visitor
will lock, and writes it down with the taker's address and an amount;
`/api/wallet/pay` sends what was written. Both run beside the other routes of
the run lock and beside anybody's transactions on chain.
-/
namespace WhisperDesk.Web

open Function (update)
open Reverting (settle)
open DvPEscrow (Deployment)

def prepareRecordTtlMs : Nat := 10 * 60 * 1000

def walletModeDeadlineSeconds : Nat := 30 * 60

def xrplPayBufferNum : Nat := 102

def xrplPayBufferDen : Nat := 100

structure PrepareRecord where
  destination : Bytes
  xrpDrops : Nat
  destinationTag : Nat
  createdAt : Nat
  deriving DecidableEq

abbrev PrepareStore := Bytes32 → Option PrepareRecord

def putPrepareRecord (store : PrepareStore) (matchId : Bytes32) (record : PrepareRecord) :
    PrepareStore :=
  update store matchId (some record)

/-- The record, and the store without it when it is past its time. -/
def getPrepareRecord (store : PrepareStore) (matchId : Bytes32) (now : Nat) :
    Option PrepareRecord × PrepareStore :=
  match store matchId with
  | none => (none, store)
  | some record =>
    if now - record.createdAt > prepareRecordTtlMs then (none, update store matchId none)
    else (some record, store)

/-- The instruction that `buildWalletPrepare` signs. -/
def walletInstruction (matchId : Bytes32) (escrow taker maker : Address) (minBlock mid18 : Nat)
    (takerXrplAddress : Bytes) (now : Nat) : MatchInstruction where
  matchId := matchId
  escrow := escrow
  taker := taker
  maker := maker
  amountFxrp := minBlock
  priceUsd18 := mid18
  takerXrplAddress := takerXrplAddress
  instructionExpiresAt := now / 1000 + walletModeDeadlineSeconds

def walletRecord (minBlock : Nat) (takerXrplAddress : Bytes) (predictedTag now : Nat) :
    PrepareRecord where
  destination := takerXrplAddress
  xrpDrops := minBlock * xrplPayBufferNum / xrplPayBufferDen
  destinationTag := predictedTag
  createdAt := now

/-- How far the `buildWalletPrepare` of a request has got. -/
inductive Preparing where
  | started (taker : Address) (xrplAddress : Bytes)
  | tagRead (taker : Address) (xrplAddress : Bytes) (predictedTag : Nat)
  /-- The record is written; what is left are two reads for display. -/
  | written (instruction : MatchInstruction)
  deriving DecidableEq

/-- A payment on the XRP ledger from the desk's seed, and what it is for. -/
structure XrplPayment where
  matchId : Bytes32
  takerAddress : Bytes
  amountDrops : Nat
  destinationTag : Nat
  deriving DecidableEq

/-- The server and the chain. A payment is under way from the request on until
its ledger validates or refuses it. -/
structure Desk where
  server : Server
  preparing : Nat → Option Preparing
  prepareStore : PrepareStore
  paying : List XrplPayment
  sent : List XrplPayment
  world : World

/-- A fresh server in front of a chain. -/
def Desk.start (now : Nat) (w₀ : World) : Desk where
  server := .start now
  preparing _ := none
  prepareStore _ := none
  paying := []
  sent := []
  world := w₀

inductive DeskEvent (d : Deployment) where
  /-- Time passes, or a request of another route arrives or ends. -/
  | server (e : Event)
  /-- `POST /api/wallet/prepare`, past the checks of its body. -/
  | prepare (taker : Address) (xrplAddress : Bytes)
  | readTag (q : Nat)
  /-- The instruction is signed under a random id and the record is written. -/
  | record (q : Nat) (matchId : Bytes32) (maker : Address) (mid18 : Nat)
  /-- Anybody's transaction. -/
  | chain (tx : Tx d)
  /-- `POST /api/wallet/pay`. -/
  | pay (matchId : Bytes32)
  /-- The payment is in a validated ledger. -/
  | validated (k : Nat)
  | refused (k : Nat)

namespace Desk

variable (P : Primitives) {d : Deployment}

def now (s : Desk) : Nat := s.server.now

/-- `buildWalletPrepare` returns what it has written, and can throw at any await. -/
def mayEnd (s : Desk) (q : Nat) (ending : Ending) : Bool :=
  match s.preparing q with
  | none => true
  | some (.written instruction) => ending = .result instruction.matchId ∨ ending = .threw
  | some _ => ending = .threw

def serve (s : Desk) : Event → Desk
  | .finish q ending =>
    if s.mayEnd q ending then
      { s with server := s.server.step (.finish q ending), preparing := update s.preparing q none }
    else s
  | e => { s with server := s.server.step e }

/-- The request takes the run lock, or is turned away. -/
def prepare (s : Desk) (taker : Address) (xrplAddress : Bytes) : Desk :=
  match s.server.granted .walletPrepare with
  | some _ =>
    { s with
      server := s.server.arrive .walletPrepare
      preparing := update s.preparing s.server.arrived (some (.started taker xrplAddress)) }
  | none => { s with server := s.server.arrive .walletPrepare }

def readTag (s : Desk) (q : Nat) : Desk :=
  match s.preparing q with
  | some (.started taker xrplAddress) =>
    { s with
      preparing := update s.preparing q
        (some (.tagRead taker xrplAddress s.world.escrow.nextDestinationTag)) }
  | _ => s

def record (d : Deployment) (s : Desk) (q : Nat) (matchId : Bytes32) (maker : Address)
    (mid18 : Nat) : Desk :=
  match s.preparing q with
  | some (.tagRead taker xrplAddress predictedTag) =>
    { s with
      preparing := update s.preparing q (some (.written
        (walletInstruction matchId d.self taker maker d.minBlockFxrp mid18 xrplAddress s.now)))
      prepareStore := putPrepareRecord s.prepareStore matchId
        (walletRecord d.minBlockFxrp xrplAddress predictedTag s.now) }
  | _ => s

/-- The route reads the record and calls `payXrpl` with it; without one it answers 404. -/
def pay (s : Desk) (matchId : Bytes32) : Desk :=
  match getPrepareRecord s.prepareStore matchId s.now with
  | (some record, store) =>
    { s with
      prepareStore := store
      paying := s.paying ++ [⟨matchId, record.destination, record.xrpDrops, record.destinationTag⟩] }
  | (none, store) => { s with prepareStore := store }

def validated (s : Desk) (k : Nat) : Desk :=
  match s.paying[k]? with
  | some p => { s with paying := s.paying.eraseIdx k, sent := s.sent ++ [p] }
  | none => s

def step (s : Desk) : DeskEvent d → Desk
  | .server e => s.serve e
  | .prepare taker xrplAddress => s.prepare taker xrplAddress
  | .readTag q => s.readTag q
  | .record q matchId maker mid18 => s.record d q matchId maker mid18
  | .chain tx => { s with world := settle s.world (tx.exec P s.world) }
  | .pay matchId => s.pay matchId
  | .validated k => s.validated k
  | .refused k => { s with paying := s.paying.eraseIdx k }

def after (s : Desk) (events : List (DeskEvent d)) : Desk := events.foldl (step P) s

end Desk

end WhisperDesk.Web
