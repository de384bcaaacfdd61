import WhisperDesk.General.Lease
import WhisperDesk.Contracts.Chain

/-!
# The run lock

state.ts and the seven routes that take or clear its one slot. A handler runs
undisturbed between two awaits, so a request is two steps: its arrival, where
three of the routes try to take the slot, and its end, once its chain calls have
returned or thrown. The slot records no owner; the server below keeps one in
its history, to say whose slot is cleared.
-/
namespace WhisperDesk.Web

open Function (update)

inductive Path where
  | happy
  | default
  | maker
  deriving DecidableEq

def runLockTtlMs : Nat := 10 * 60 * 1000

structure RunLock where
  path : Path
  matchId : Option Bytes32
  startedAt : Nat
  deriving DecidableEq

/-- The slot afterwards; `none` when a run is active. -/
def tryAcquireRunLock (path : Path) (now : Nat) (currentRun : Option RunLock) : Option RunLock :=
  match currentRun with
  | some run =>
    if now - run.startedAt < runLockTtlMs then none
    else some { path, matchId := none, startedAt := now }
  | none => some { path, matchId := none, startedAt := now }

def attachMatchId (matchId : Bytes32) (currentRun : Option RunLock) : Option RunLock :=
  currentRun.map fun run => { run with matchId := some matchId }

def releaseRunLock (_currentRun : Option RunLock) : Option RunLock := none

/-- A request that its route has let through to the slot or to its calls. An id
is what the text in the body denotes, if it denotes 32 bytes. -/
inductive Request where
  | demoLock (path : Path)
  | demoRelease (matchId : Option Bytes32)
  | demoRefund (matchId : Option Bytes32)
  | walletPrepare
  | makerOpenRfq
  | makerMatch (rfqId : Bytes32)
  | makerRelease (matchId : Option Bytes32)
  deriving DecidableEq

/-- How the calls of a handler end. -/
inductive Ending where
  /-- A result; that of a route which starts a run comes with the run's id. -/
  | result (id : Bytes32)
  /-- A match without an eligible quote. -/
  | noMatch
  /-- A refund before its time. -/
  | notYet
  | threw
  deriving DecidableEq

namespace Request

/-- The argument of `tryAcquireRunLock`, in the routes that call it. -/
def acquires : Request → Option Path
  | .demoLock path => some path
  | .walletPrepare => some .happy
  | .makerOpenRfq => some .maker
  | .demoRelease _ | .demoRefund _ | .makerMatch _ | .makerRelease _ => none

/-- The match or RFQ that the body names. -/
def about : Request → Option Bytes32
  | .demoRelease matchId => matchId
  | .demoRefund matchId => matchId
  | .makerMatch rfqId => some rfqId
  | .makerRelease matchId => matchId
  | .demoLock _ | .walletPrepare | .makerOpenRfq => none

/-- Whether the handler comes to a `releaseRunLock()`. -/
def releases : Request → Ending → Bool
  -- the routes that start a run clear the slot only where they throw
  | .demoLock _, ending => ending = .threw
  | .walletPrepare, ending => ending = .threw
  | .makerOpenRfq, ending => ending = .threw
  -- the settling routes of the demo only where they do not
  | .demoRelease _, ending => ending ≠ .threw
  | .demoRefund _, ending => ending ≠ .threw ∧ ending ≠ .notYet
  -- a maker's match that throws ends the run, one without a quote does not
  | .makerMatch _, ending => ending = .threw
  | .makerRelease _, _ => true

/-- What the handler does to the slot when its calls have ended. -/
def finish (request : Request) (ending : Ending) (currentRun : Option RunLock) : Option RunLock :=
  if request.releases ending then releaseRunLock currentRun
  else
    match request, ending with
    | .demoLock _, .result matchId => attachMatchId matchId currentRun
    | .walletPrepare, .result matchId => attachMatchId matchId currentRun
    | _, _ => currentRun

end Request

/-- The server: its clock in milliseconds, the slot, and the requests whose
calls are under way. The last two fields are history: which request took the
slot, and with which id each request that started a run was answered. -/
structure Server where
  now : Nat
  currentRun : Option RunLock
  arrived : Nat
  pending : Nat → Option Request
  owner : Nat
  answered : Nat → Option Bytes32

def Server.start (now : Nat) : Server := ⟨now, none, 0, fun _ => none, 0, fun _ => none⟩

inductive Event where
  | tick (ms : Nat)
  | arrive (request : Request)
  | finish (q : Nat) (ending : Ending)
  deriving DecidableEq

namespace Server

/-- Whether a request gets the slot; the others answer 409. -/
def granted (s : Server) (request : Request) : Option RunLock :=
  request.acquires.bind fun path => tryAcquireRunLock path s.now s.currentRun

/-- Requests are numbered as they arrive. -/
def arrive (s : Server) (request : Request) : Server :=
  match request.acquires, s.granted request with
  | some _, none => { s with arrived := s.arrived + 1 }
  | some _, some run =>
    { s with currentRun := some run, arrived := s.arrived + 1, owner := s.arrived
             pending := update s.pending s.arrived (some request) }
  | none, _ =>
    { s with arrived := s.arrived + 1
             pending := update s.pending s.arrived (some request) }

def finish (s : Server) (q : Nat) (request : Request) (ending : Ending) : Server :=
  { s with
    currentRun := request.finish ending s.currentRun
    pending := update s.pending q none
    answered :=
      match request.acquires, ending with
      | some _, .result id => update s.answered q (some id)
      | _, _ => s.answered }

def step (s : Server) : Event → Server
  | .tick ms => { s with now := s.now + ms }
  | .arrive request => s.arrive request
  | .finish q ending =>
    match s.pending q with
    | some request => s.finish q request ending
    | none => s

def after (s : Server) (events : List Event) : Server := events.foldl step s

/-- The match or RFQ that pending request `q` names. -/
def about (s : Server) (q : Nat) : Option Bytes32 := (s.pending q).bind Request.about

/-- Request `q` belongs to the run that request `r` started: it is that request,
or names the id that it was answered with. -/
def Belongs (s : Server) (q r : Nat) : Prop :=
  q = r ∨ (s.about q ≠ none ∧ s.about q = s.answered r)

instance (s : Server) (q r : Nat) : Decidable (s.Belongs q r) :=
  inferInstanceAs (Decidable (q = r ∨ (s.about q ≠ none ∧ s.about q = s.answered r)))

/-- The slot as a lease. -/
def holding (s : Server) : Option (Lease.Holding Nat) :=
  s.currentRun.map fun run => ⟨s.owner, run.startedAt⟩

/-- The run whose slot is taken and not timed out. -/
def holder (s : Server) : Option Nat := Lease.live runLockTtlMs s.now s.holding

/-- The request that comes to a `releaseRunLock()` now. -/
def releasing (s : Server) : Event → Option Nat
  | .finish q ending => if (s.pending q).any (·.releases ending) then some q else none
  | .tick _ | .arrive _ => none

end Server

end WhisperDesk.Web
