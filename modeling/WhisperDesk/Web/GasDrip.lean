import WhisperDesk.Contracts.Chain

/-!
# The gas drip

`/api/wallet/gas` reads the balance of the address, then that of the owner, then claims and sends;
every `await` lets other requests and the chain go on. What has been granted, and what of it has
not failed, is kept beside the module's own slots and counter.
-/
namespace WhisperDesk.Web

open Function (update)

section Claims

def gasDripWei : Nat := 500000000000000000

def gasEnoughWei : Nat := 100000000000000000

def gasOwnerReserveWei : Nat := 15 * 10 ^ 18

def gasRateLimitMs : Nat := 10 * 60 * 1000

def gasDailyBudgetWei : Nat := 10 * 10 ^ 18

/-- The day that the date of the ISO text names. -/
def utcDay (now : Nat) : Nat := now / (24 * 60 * 60 * 1000)

structure GasClaims where
  lastGasClaim : Address → Option Nat
  gasSpentToday : Nat
  /-- Empty before the first claim. -/
  gasBudgetDay : Option Nat

inductive GasClaimRefusal where
  | rateLimited
  | budgetExhausted
  deriving DecidableEq

/-- The day's counter, from nothing on another day. -/
def GasClaims.onDay (claims : GasClaims) (today : Nat) : GasClaims :=
  if some today ≠ claims.gasBudgetDay then
    { claims with gasBudgetDay := some today, gasSpentToday := 0 }
  else claims

def GasClaims.rateLimited (claims : GasClaims) (address : Address) (now : Nat) : Prop :=
  ∃ last ∈ claims.lastGasClaim address, now - last < gasRateLimitMs

instance (claims : GasClaims) (address : Address) (now : Nat) :
    Decidable (claims.rateLimited address now) :=
  inferInstanceAs (Decidable (∃ last ∈ claims.lastGasClaim address, now - last < gasRateLimitMs))

def checkAndRecordGasClaim (claims : GasClaims) (address : Address) (now : Nat) :
    Option GasClaimRefusal × GasClaims :=
  if claims.rateLimited address now then (some .rateLimited, claims)
  else
    let today := claims.onDay (utcDay now)
    if today.gasSpentToday + gasDripWei > gasDailyBudgetWei then (some .budgetExhausted, today)
    else
      (none, { today with
        gasSpentToday := today.gasSpentToday + gasDripWei
        lastGasClaim := update today.lastGasClaim address (some now) })

end Claims

/-- All that the owner's account has ever got and paid. -/
structure OwnerAccount where
  received : Nat
  paid : Nat

def OwnerAccount.balance (a : OwnerAccount) : Nat := a.received - a.paid

/-- A drip that was authorised, and when. -/
@[ext]
structure GasGrant where
  address : Address
  claimedAt : Nat
  deriving DecidableEq

/-- A send under way, and the owner's account as its request has read it. -/
structure GasSend extends GasGrant where
  read : OwnerAccount

structure GasDesk where
  now : Nat
  claims : GasClaims
  ownerAddress : Address
  owner : OwnerAccount
  /-- The balances of other accounts. -/
  balanceOf : Address → Nat
  /-- Requests that wait for the balance of their address. -/
  arrived : List Address
  /-- Requests that wait for the owner's balance. -/
  needy : List Address
  /-- Requests that have found enough for a drip on the owner's account. -/
  covered : List (Address × OwnerAccount)
  sending : List GasSend
  granted : List GasGrant
  /-- Granted, and not failed so far. -/
  standing : List GasGrant

def GasDesk.start (now : Nat) (ownerAddress : Address) (owner : Nat) (balanceOf : Address → Nat) :
    GasDesk where
  now := now
  claims := ⟨fun _ => none, 0, none⟩
  ownerAddress := ownerAddress
  owner := ⟨owner, 0⟩
  balanceOf := balanceOf
  arrived := []
  needy := []
  covered := []
  sending := []
  granted := []
  standing := []

inductive GasEvent where
  | elapse (ms : Nat)
  /-- A request with a valid address. -/
  | arrive (address : Address)
  | balanceRead (k : Nat)
  | balanceUnread (k : Nat)
  | ownerRead (k : Nat)
  | ownerUnread (k : Nat)
  | claim (k : Nat)
  /-- The drip is in a block, for that fee. -/
  | sent (k : Nat) (fee : Nat)
  /-- Nothing is transferred; a transfer that reverts has its fee all the same. -/
  | sendFailed (k : Nat) (fee : Nat)
  /-- The owner's key pays for something else. -/
  | ownerPays (amount : Nat)
  | ownerReceives (amount : Nat)
  | balanceMoves (address : Address) (balance : Nat)

namespace GasDesk

def balance (s : GasDesk) (address : Address) : Nat :=
  if address = s.ownerAddress then s.owner.balance else s.balanceOf address

/-- A transaction of the owner's key: the chain wants the whole of it on the account. -/
def pays (s : GasDesk) (amount : Nat) : GasDesk :=
  { s with owner := { s.owner with paid := s.owner.paid + amount } }

def receives (s : GasDesk) (address : Address) (amount : Nat) : GasDesk :=
  if address = s.ownerAddress then
    { s with owner := { s.owner with received := s.owner.received + amount } }
  else { s with balanceOf := update s.balanceOf address (s.balanceOf address + amount) }

def balanceRead (s : GasDesk) (k : Nat) : GasDesk :=
  match s.arrived[k]? with
  | none => s
  | some address =>
    if s.balance address ≥ gasEnoughWei then { s with arrived := s.arrived.eraseIdx k }
    else { s with arrived := s.arrived.eraseIdx k, needy := s.needy ++ [address] }

def ownerRead (s : GasDesk) (k : Nat) : GasDesk :=
  match s.needy[k]? with
  | none => s
  | some address =>
    if (s.owner.balance : Int) - gasDripWei < gasOwnerReserveWei then
      { s with needy := s.needy.eraseIdx k }
    else { s with needy := s.needy.eraseIdx k, covered := s.covered ++ [(address, s.owner)] }

def claim (s : GasDesk) (k : Nat) : GasDesk :=
  match s.covered[k]? with
  | none => s
  | some (address, read) =>
    match checkAndRecordGasClaim s.claims address s.now with
    | (some _, claims) => { s with covered := s.covered.eraseIdx k, claims := claims }
    | (none, claims) =>
      { s with
        covered := s.covered.eraseIdx k
        claims := claims
        sending := s.sending ++ [⟨⟨address, s.now⟩, read⟩]
        granted := s.granted ++ [⟨address, s.now⟩]
        standing := s.standing ++ [⟨address, s.now⟩] }

def sent (s : GasDesk) (k fee : Nat) : GasDesk :=
  match s.sending[k]? with
  | none => s
  | some send =>
    if gasDripWei + fee ≤ s.owner.balance then
      ({ s with sending := s.sending.eraseIdx k }.pays (gasDripWei + fee)).receives send.address
        gasDripWei
    else s

def sendFailed (s : GasDesk) (k fee : Nat) : GasDesk :=
  match s.sending[k]? with
  | none => s
  | some send =>
    if fee ≤ s.owner.balance then
      { s with
        sending := s.sending.eraseIdx k
        standing := s.standing.erase send.toGasGrant }.pays fee
    else s

def step (s : GasDesk) : GasEvent → GasDesk
  | .elapse ms => { s with now := s.now + ms }
  | .arrive address => { s with arrived := s.arrived ++ [address] }
  | .balanceRead k => s.balanceRead k
  | .balanceUnread k => { s with arrived := s.arrived.eraseIdx k }
  | .ownerRead k => s.ownerRead k
  | .ownerUnread k => { s with needy := s.needy.eraseIdx k }
  | .claim k => s.claim k
  | .sent k fee => s.sent k fee
  | .sendFailed k fee => s.sendFailed k fee
  | .ownerPays amount => if amount ≤ s.owner.balance then s.pays amount else s
  | .ownerReceives amount => s.receives s.ownerAddress amount
  | .balanceMoves address balance => { s with balanceOf := update s.balanceOf address balance }

def after (s : GasDesk) (events : List GasEvent) : GasDesk := events.foldl step s

theorem after_concat (s : GasDesk) (events : List GasEvent) (e : GasEvent) :
    s.after (events ++ [e]) = (s.after events).step e := by
  simp only [after, List.foldl_append, List.foldl_cons, List.foldl_nil]

end GasDesk

end WhisperDesk.Web
