import WhisperDesk.General.Await
import WhisperDesk.Contracts.Bystander
import WhisperDesk.Web.MatchInstruction

/-!
# flow.ts: funding a deposit and a bond

The desk's scripts read the chain, decide and send, with an `await` before each
step. Between two steps anybody else transacts; only the wallets whose keys the
script holds stand still. What a script may count on is a book per wallet: an
exact available balance, and lower bounds for its bond and its FXRP.
-/
namespace WhisperDesk.Web.Flow

open Function (update)
open Reverting
open Await
open DvPEscrow (Deployment)

/-- The chain as the next transaction will find it. -/
structure Chain where
  world : World
  env : Env

inductive FlowError where
  | outOfFxrp (wallet : Address) (short reserve : Nat)
  | reverted (r : Revert)
  | unsigned (e : SignError)
  | matchLockedMissing
  deriving DecidableEq, Repr

/-- The messages of the errors the repository throws itself, with an address as text. -/
def FlowError.text (format : Address → String) : FlowError → String
  | .outOfFxrp wallet short reserve =>
    "the desk is out of FXRP: " ++ format wallet ++ " needs " ++ toString short ++
      " raw more and the reserve holds " ++ toString reserve ++
      ". Real FAssets FXRP cannot be minted — top the desk up from faucet.flare.network."
  | .unsigned e => e.text
  | .matchLockedMissing =>
    "demo/flow.fundAndLock: MatchLocked event not found in lock() receipt logs"
  | .reverted _ => ""

abbrev Script := Program Chain FlowError

variable {d : Deployment} (P : Primitives)

/-- A transaction of a plain account, mined on the chain as it is: the events of
its receipt, oldest first, or the revert that `wait()` throws. -/
def mine (sender : Account d) (call : Call) (c : Chain) : Except FlowError (List Event × Chain) :=
  match Tx.exec P ⟨⟨c.env, sender, call⟩, [], true⟩ c.world with
  | .ok w => .ok ((w.log.take (w.log.length - c.world.log.length)).reverse, { c with world := w })
  | .error r => .error (.reverted r)

def send (sender : Account d) (call : Call) : Script (List Event) := .call (mine P sender call)

/-- `approve`: the allowance it writes is the token's own business. -/
def approve : Script Unit := .read fun _ => ()

/-- Tops `wallet` up to `amount` FXRP out of the desk's own reserve, if it is short. -/
def ensureFxrpBalance (ownerWallet wallet : Account d) (amount : Nat) : Script Unit := do
  let have' ← Program.read fun c => c.world.fxrp.balanceOf wallet.address
  if have' ≥ amount then .done ()
  else do
    let short := amount - have'
    let reserve ← Program.read fun c => c.world.fxrp.balanceOf ownerWallet.address
    if reserve < short then .throw (.outOfFxrp wallet.address short reserve)
    else do
      let _ ← send P ownerWallet (.transferFxrp wallet.address short)
      .done ()

/-- Arms `amount` of `wallet`'s FXRP in the escrow, until `armedForSeconds` from `now`. -/
def fundTakerDeposit (ownerWallet wallet : Account d) (amount now armedForSeconds : Nat) :
    Script Unit := do
  let armedUntil := now + armedForSeconds
  let bal ← Program.read fun c => c.world.escrow.balances wallet.address
  let available : Int := bal.armed - bal.committed
  if available ≥ amount then
    if bal.armedUntil < armedUntil then do
      let _ ← send P wallet (.deposit 0 (UInt64.ofNat armedUntil))
      .done ()
    else .done ()
  else do
    let missing := (amount - available).toNat
    ensureFxrpBalance P ownerWallet wallet missing
    approve
    let _ ← send P wallet (.deposit missing (UInt64.ofNat armedUntil))
    .done ()

/-- Posts whatever bond `wallet` is still short of `amount`. -/
def fundMakerBond (ownerWallet wallet : Account d) (amount : Nat) : Script Unit := do
  let free ← Program.read fun c => c.world.ledger.freeBond wallet.address
  if free ≥ amount then .done ()
  else do
    let missing := amount - free
    ensureFxrpBalance P ownerWallet wallet missing
    approve
    let _ ← send P wallet (.depositBond missing)
    .done ()

/-- What is known of one wallet. -/
structure WalletBook where
  available : Int
  armedUntil : Nat
  freeBond : Nat
  purse : Nat

/-- The chain bears a book out. -/
structure WalletBook.Backed (b : WalletBook) (w : World) (a : Address) : Prop where
  available : ((w.escrow.balances a).armed : Int) - (w.escrow.balances a).committed = b.available
  armedUntil : (w.escrow.balances a).armedUntil = b.armedUntil
  freeBond : b.freeBond ≤ w.ledger.freeBond a
  purse : b.purse ≤ w.fxrp.balanceOf a

def WalletBook.deposited (b : WalletBook) (amount armedUntil : Nat) : WalletBook :=
  { b with
    available := b.available + amount
    armedUntil := max armedUntil b.armedUntil
    purse := b.purse - amount }

def WalletBook.bonded (b : WalletBook) (amount : Nat) : WalletBook :=
  { b with freeBond := b.freeBond + amount, purse := b.purse - amount }

theorem WalletBook.Backed.kept {b : WalletBook} {w w' : World} {a : Address} (hb : b.Backed w a)
    (h : Undrained a w w') : b.Backed w' a where
  available := by
    have hsame := h.available
    have hold := hb.available
    omega
  armedUntil := h.armedUntil.trans hb.armedUntil
  freeBond := Nat.le_trans hb.freeBond h.freeBond
  purse := Nat.le_trans hb.purse h.wallet

/-- The token makes every transfer it can and has issued less than `2 ^ 128`, and
what the chain reports of its price and itself are `uint256`s. -/
structure Chain.Sound (c : Chain) : Prop where
  accepts : ∀ src dst amount, c.env.fxrp src dst amount = .accepts
  supply : c.world.fxrp.totalSupply < 2 ^ 128
  mid : ∀ mid18 ts, c.env.getFeedByIdInWei = some (mid18, ts) → mid18 < 2 ^ 256
  chainid : c.env.chainid < 2 ^ 256

/-- What the script's wallets can count on, whoever else transacts. -/
structure Stands (keys : List (Account d)) (books : Address → WalletBook) (c : Chain) : Prop where
  reachable : Reachable P d c.world
  sound : c.Sound
  backed : ∀ a ∈ keys, (books a.address).Backed c.world a.address

/-- What may happen between two steps: others transact, without the script's keys,
and no lock takes from its wallets. -/
structure Interferes (keys : List (Account d)) (c c' : Chain) : Prop where
  others : ∃ txs : List (Tx d), (∀ tx ∈ txs, ∀ a ∈ keys, tx.Without a) ∧
    c'.world = after P c.world txs
  untaken : ∀ new, c'.world.log = new ++ c.world.log →
    ∀ e ∈ new, ∀ a ∈ keys, ¬ e.takesFrom a.address
  sound : c'.Sound

section Standing

variable {P} {keys : List (Account d)} {books books' : Address → WalletBook} {c c' : Chain}

theorem stands_stable : Stable (Interferes P keys) (Stands P keys books) := by
  intro c c' hs h
  obtain ⟨txs, hwithout, hworld⟩ := h.others
  refine ⟨?_, h.sound, fun a ha => ?_⟩
  · rw [hworld]
    exact hs.reachable.after txs
  · obtain ⟨new, hlog, hkept⟩ := after_spares (P := P) (w := c.world) fun tx htx => hwithout tx htx a ha
    rw [← hworld] at hlog hkept
    exact (hs.backed a ha).kept (hkept fun e he => h.untaken new hlog e he a ha)

/-- Nothing need happen on a sound chain. -/
theorem Interferes.refl (h : c.Sound) : Interferes P keys c c where
  others := ⟨[], by simp, rfl⟩
  untaken new hlog e he := by
    rw [List.self_eq_append_left.mp hlog] at he
    cases he
  sound := h

/-- The books have become such that `Φ`, and the chain bears them out. -/
def Leaves (keys : List (Account d)) (Φ : (Address → WalletBook) → Prop) (c : Chain) : Prop :=
  ∃ books, Φ books ∧ Stands P keys books c

theorem leaves_stable {Φ : (Address → WalletBook) → Prop} :
    Stable (Interferes P keys) (Leaves (P := P) keys Φ) := by
  rintro c c' ⟨books, hbooks, hs⟩ h
  exact ⟨books, hbooks, stands_stable _ _ hs h⟩

/-- Two different accounts hold no more than there is. -/
theorem balanceOf_add_le (t : Token) {a b : Address} (h : a ≠ b) :
    t.balanceOf a + t.balanceOf b ≤ t.totalSupply := by
  have hpair := Finset.sum_le_sum_of_subset (f := t.balanceOf) (Finset.subset_univ {a, b})
  rw [Finset.sum_pair h] at hpair
  rw [← t.sum_balanceOf]
  exact hpair

/-- One wallet's book is written; the others must be kept. -/
theorem Stands.write (hs : Stands P keys books c) {a : Address} {b : WalletBook}
    (hself : b.Backed c.world a) : Stands P keys (update books a b) c where
  reachable := hs.reachable
  sound := hs.sound
  backed a' ha' := by
    by_cases heq : a'.address = a
    · rw [heq, Function.update_self]
      exact hself
    · rw [Function.update_of_ne heq]
      exact hs.backed a' ha'

/-- A balance just read is one to count on. -/
theorem Stands.sawPurse (hs : Stands P keys books c) {a : Account d} (ha : a ∈ keys) :
    Stands P keys (Function.update books a.address
      { books a.address with purse := c.world.fxrp.balanceOf a.address }) c :=
  hs.write { hs.backed a ha with purse := Nat.le_refl _ }

theorem Stands.sawBond (hs : Stands P keys books c) {a : Account d} (ha : a ∈ keys) :
    Stands P keys (Function.update books a.address
      { books a.address with freeBond := c.world.ledger.freeBond a.address }) c :=
  hs.write { hs.backed a ha with freeBond := Nat.le_refl _ }

theorem mine_eq_ok {sender : Account d} {call : Call} {receipt : List Event}
    (h : mine P sender call c = .ok (receipt, c')) :
    ∃ w, Tx.exec P ⟨⟨c.env, sender, call⟩, [], true⟩ c.world = .ok w ∧ c' = { c with world := w } ∧
      receipt = (w.log.take (w.log.length - c.world.log.length)).reverse := by
  unfold mine at h
  split at h
  · rename_i w hexec
    simp only [Except.ok.injEq, Prod.mk.injEq] at h
    obtain ⟨rfl, rfl⟩ := h
    exact ⟨w, hexec, rfl, rfl⟩
  · cases h

theorem mine_ok {sender : Account d} {call : Call} {w : World}
    (h : Tx.exec P ⟨⟨c.env, sender, call⟩, [], true⟩ c.world = .ok w) :
    ∃ receipt, mine P sender call c = .ok (receipt, { c with world := w }) := by
  unfold mine
  rw [h]
  exact ⟨_, rfl⟩

/-- A transaction that issues no FXRP leaves the chain sound. -/
theorem send_keeps {sender : Account d} {call : Call}
    (hsupply : ∀ (env : Env) (w w' : World), Tx.exec P ⟨⟨env, sender, call⟩, [], true⟩ w = .ok w' →
      w'.fxrp.totalSupply = w.fxrp.totalSupply) : (send P sender call).Keeps Chain.Sound := by
  refine .call fun c receipt c' hc hmine => ?_
  obtain ⟨w, hexec, rfl, _⟩ := mine_eq_ok hmine
  exact ⟨hc.accepts, hsupply _ _ _ hexec ▸ hc.supply, hc.mid, hc.chainid⟩

/-- A transaction whose outcome is known, book for book. -/
theorem Stands.exec (hs : Stands P keys books c) {tx : Tx d} {w : World}
    (hexec : Tx.exec P tx c.world = .ok w)
    (hsupply : w.fxrp.totalSupply = c.world.fxrp.totalSupply)
    (hbacked : ∀ a ∈ keys, (books' a.address).Backed w a.address) :
    Stands P keys books' { c with world := w } where
  reachable := by
    have hafter := hs.reachable.after [tx]
    rw [WhisperDesk.after, run_cons, hexec] at hafter
    exact hafter
  sound := ⟨hs.sound.accepts, hsupply ▸ hs.sound.supply, hs.sound.mid, hs.sound.chainid⟩
  backed := hbacked

theorem Stands.mined (hs : Stands P keys books c) {sender : Account d} {call : Call} {w : World}
    (hexec : Tx.exec P ⟨⟨c.env, sender, call⟩, [], true⟩ c.world = .ok w)
    (hsupply : w.fxrp.totalSupply = c.world.fxrp.totalSupply)
    (hbacked : ∀ a ∈ keys, (books' a.address).Backed w a.address) :
    ∃ receipt c', mine P sender call c = .ok (receipt, c') ∧ Stands P keys books' c' := by
  obtain ⟨receipt, hmine⟩ := mine_ok hexec
  exact ⟨receipt, _, hmine, hs.exec hexec hsupply hbacked⟩

/-- FXRP between two wallets. -/
def transferred (books : Address → WalletBook) (src dst : Address) (amount : Nat) :
    Address → WalletBook :=
  update (update books src { books src with purse := (books src).purse - amount }) dst
    { books dst with purse := (books dst).purse + amount }

theorem Stands.transfer (hs : Stands P keys books c) {src dst : Account d} (amount : Nat)
    (hsrc : src ∈ keys) (hdst : dst ∈ keys) (hne : src.address ≠ dst.address)
    (hamount : amount ≤ (books src.address).purse) :
    ∃ receipt c', mine P src (.transferFxrp dst.address amount) c = .ok (receipt, c') ∧
      Stands P keys (transferred books src.address dst.address amount) c' := by
  have hbsrc := hs.backed src hsrc
  have hbdst := hs.backed dst hdst
  have hle : amount ≤ c.world.fxrp.balanceOf src.address := Nat.le_trans hamount hbsrc.purse
  refine hs.mined (fxrpTransfer_eq_ok.mpr ⟨hs.sound.accepts _ _ _, hle, rfl⟩) rfl ?_
  intro a ha
  have hmove := c.world.fxrp.move_apply src.address dst.address a.address amount hle
  by_cases hadst : a.address = dst.address
  · rw [hadst] at hmove ⊢
    rw [if_neg hne.symm, if_pos rfl] at hmove
    have hpurse := hbdst.purse
    rw [transferred, Function.update_self]
    exact ⟨hbdst.available, hbdst.armedUntil, hbdst.freeBond, by simp only; omega⟩
  · rw [transferred, Function.update_of_ne hadst]
    by_cases hasrc : a.address = src.address
    · rw [hasrc] at hmove ⊢
      rw [if_pos rfl, if_neg hne] at hmove
      have hpurse := hbsrc.purse
      rw [Function.update_self]
      exact ⟨hbsrc.available, hbsrc.armedUntil, hbsrc.freeBond, by simp only; omega⟩
    · rw [Function.update_of_ne hasrc]
      have hb := hs.backed a ha
      rw [if_neg hasrc, if_neg hadst] at hmove
      have hpurse := hb.purse
      exact ⟨hb.available, hb.armedUntil, hb.freeBond, by simp only; omega⟩

theorem Stands.armed_add_le (hs : Stands P keys books c) (a : Account d) :
    (c.world.escrow.balances a.address).armed + c.world.fxrp.balanceOf a.address < 2 ^ 128 := by
  obtain ⟨p, hp⟩ := hs.reachable.escrowPool
  have harmed : (c.world.escrow.balances a.address).armed ≤ c.world.fxrp.balanceOf d.self := by
    rw [hp.armed, ← hp.held]
    exact p.position_le_held a.address
  have htwo := balanceOf_add_le c.world.fxrp a.ne_self
  have hsupply := hs.sound.supply
  omega

/-- A deposit by one of the wallets, which cannot overflow the escrow's `uint128`. -/
theorem Stands.deposit (hs : Stands P keys books c) {wallet : Account d} (amount : Nat) {armedUntil : Nat}
    (hwallet : wallet ∈ keys) (hamount : amount ≤ (books wallet.address).purse)
    (huntil : armedUntil < 2 ^ 64) :
    ∃ receipt c', mine P wallet (.deposit amount (UInt64.ofNat armedUntil)) c = .ok (receipt, c') ∧
      Stands P keys (update books wallet.address
        ((books wallet.address).deposited amount armedUntil)) c' := by
  have hb := hs.backed wallet hwallet
  have hle : amount ≤ c.world.fxrp.balanceOf wallet.address := Nat.le_trans hamount hb.purse
  have hroom : (c.world.escrow.balances wallet.address).armed + amount < 2 ^ 128 := by
    have hsum := hs.armed_add_le wallet
    omega
  have hu : (UInt64.ofNat armedUntil).toNat = armedUntil := by
    rw [UInt64.toNat_ofNat', Nat.mod_eq_of_lt huntil]
  refine hs.mined (DvPEscrow.deposit_eq_ok.mpr
    ⟨hs.reachable.entered, hroom, hs.sound.accepts _ _ _, hle, rfl⟩) rfl ?_
  intro a ha
  have hmove := c.world.fxrp.move_apply wallet.address d.self a.address amount hle
  rw [if_neg a.ne_self] at hmove
  by_cases heq : a.address = wallet.address
  · rw [heq] at hmove ⊢
    rw [if_pos rfl] at hmove
    have hpurse := hb.purse
    have havailable := hb.available
    rw [Function.update_self]
    constructor
    · simp only [Function.update_self, WalletBook.deposited]; omega
    · simp only [Function.update_self, WalletBook.deposited, hb.armedUntil, hu]
    · exact hb.freeBond
    · simp only [WalletBook.deposited]; omega
  · rw [Function.update_of_ne heq]
    have hba := hs.backed a ha
    rw [if_neg heq] at hmove
    have hpurse := hba.purse
    constructor
    · simp only [Function.update_of_ne heq]; exact hba.available
    · simp only [Function.update_of_ne heq]; exact hba.armedUntil
    · exact hba.freeBond
    · simp only; omega

theorem Stands.depositBond (hs : Stands P keys books c) {wallet : Account d} (amount : Nat)
    (hwallet : wallet ∈ keys) (hamount : amount ≤ (books wallet.address).purse) :
    ∃ receipt c', mine P wallet (.depositBond amount) c = .ok (receipt, c') ∧
      Stands P keys (update books wallet.address ((books wallet.address).bonded amount)) c' := by
  have hb := hs.backed wallet hwallet
  have hle : amount ≤ c.world.fxrp.balanceOf wallet.address := Nat.le_trans hamount hb.purse
  obtain ⟨p, hp⟩ := hs.reachable.ledgerPool
  have hfree : c.world.ledger.freeBond wallet.address ≤ c.world.fxrp.balanceOf d.bondLedger := by
    rw [hp.free, ← hp.held]
    exact p.free_le_held wallet.address
  have hroom : c.world.ledger.freeBond wallet.address + amount < 2 ^ 256 := by
    have htwo := balanceOf_add_le c.world.fxrp wallet.ne_ledger
    have hsupply := c.world.fxrp.totalSupply_lt
    omega
  refine hs.mined (BondLedger.depositBond_eq_ok.mpr
    ⟨hs.reachable.ledgerEntered, hroom, hs.sound.accepts _ _ _, hle, rfl⟩) rfl ?_
  intro a ha
  have hmove := c.world.fxrp.move_apply wallet.address d.bondLedger a.address amount hle
  rw [if_neg a.ne_ledger] at hmove
  by_cases heq : a.address = wallet.address
  · rw [heq] at hmove ⊢
    rw [if_pos rfl] at hmove
    have hpurse := hb.purse
    have hbond := hb.freeBond
    rw [Function.update_self]
    constructor
    · exact hb.available
    · exact hb.armedUntil
    · simp only [Function.update_self, WalletBook.bonded]; omega
    · simp only [WalletBook.bonded]; omega
  · rw [Function.update_of_ne heq]
    have hba := hs.backed a ha
    rw [if_neg heq] at hmove
    have hpurse := hba.purse
    constructor
    · exact hba.available
    · exact hba.armedUntil
    · simp only [Function.update_of_ne heq]; exact hba.freeBond
    · simp only; omega

end Standing

section Funding

variable {P} {keys : List (Account d)} {books : Address → WalletBook} {owner wallet : Account d}
  {amount : Nat}

/-- The reserve in `owner`'s wallet is down by no more than `short`. -/
def Drawn (books books' : Address → WalletBook) (owner : Address) (short : Nat) : Prop :=
  ∃ p, books' owner = { books owner with purse := p } ∧ (books owner).purse ≤ p + short

/-- What a top-up of `wallet` to `amount` out of `owner`'s reserve leaves. -/
structure ToppedUp (owner wallet : Address) (amount : Nat) (books books' : Address → WalletBook) :
    Prop where
  others : ∀ a, a ≠ owner → a ≠ wallet → books' a = books a
  reserve : Drawn books books' owner (amount - (books wallet).purse)
  wallet : ∃ q, books' wallet = { books wallet with purse := q } ∧ amount ≤ q

/-- The script does what it is for; or the reserve and the wallet together hold less
than `missing`, the error says so, and nothing has moved. -/
def Served (keys : List (Account d)) (books : Address → WalletBook) (owner wallet : Account d)
    (missing : Nat) (Φ : (Address → WalletBook) → Prop) : Except FlowError Unit → Chain → Prop
  | .ok _, c => Leaves (P := P) keys Φ c
  | .error e, c => Stands P keys books c ∧
      (books owner.address).purse + (books wallet.address).purse < missing ∧
      ∃ short reserve, e = .outOfFxrp wallet.address short reserve ∧ reserve < short

/-- A wallet that turns out to hold more than its book says bears the book out. -/
theorem Stands.unsee {c : Chain} {a : Address} {b : WalletBook}
    (hs : Stands P keys (update books a b) c)
    (h : b.Backed c.world a → (books a).Backed c.world a) : Stands P keys books c where
  reachable := hs.reachable
  sound := hs.sound
  backed a' ha' := by
    have hb := hs.backed a' ha'
    by_cases heq : a'.address = a
    · rw [heq, Function.update_self] at hb
      rw [heq]
      exact h hb
    · rw [Function.update_of_ne heq] at hb
      exact hb

theorem ensureFxrpBalance_meets (howner : owner ∈ keys) (hwallet : wallet ∈ keys)
    (hne : owner.address ≠ wallet.address) :
    Meets (Interferes P keys) (Stands P keys books) (ensureFxrpBalance P owner wallet amount)
      (Served (P := P) keys books owner wallet amount
        (ToppedUp owner.address wallet.address amount books)) := by
  refine .bind (S := fun have' c => Stands P keys (update books wallet.address
      { books wallet.address with purse := have' }) c ∧ (books wallet.address).purse ≤ have')
    (.read stands_stable fun c hs => ⟨hs.sawPurse hwallet, (hs.backed wallet hwallet).purse⟩) ?_
  intro have'
  refine .of_pure fun hhave => ?_
  by_cases henough : have' ≥ amount
  · rw [if_pos henough]
    refine .done fun c hs => ⟨_, ⟨fun a _ ha => Function.update_of_ne ha .., ?_, ?_⟩, hs⟩
    · exact ⟨_, Function.update_of_ne hne .., Nat.le_add_right _ _⟩
    · exact ⟨have', Function.update_self .., henough⟩
  · rw [if_neg henough]
    refine .bind (S := fun reserve c => Stands P keys (update (update books wallet.address
        { books wallet.address with purse := have' }) owner.address
        { books owner.address with purse := reserve }) c ∧ (books owner.address).purse ≤ reserve)
      (.read stands_stable fun c hs => ?_) ?_
    · have hsaw := hs.sawPurse howner
      have hpurse := (hs.backed owner howner).purse
      rw [Function.update_of_ne hne] at hsaw hpurse
      exact ⟨hsaw, hpurse⟩
    · intro reserve
      refine .of_pure fun hreserve => ?_
      by_cases hshort : reserve < amount - have'
      · rw [if_pos hshort]
        refine .throw fun c hs => ⟨?_, by omega, _, _, rfl, hshort⟩
        rw [← Function.update_of_ne hne { books wallet.address with purse := have' } books] at hs hreserve
        exact (hs.unsee fun hb => { hb with purse := Nat.le_trans hreserve hb.purse }).unsee
          fun hb => { hb with purse := Nat.le_trans hhave hb.purse }
      · rw [if_neg hshort]
        refine .bind (S := fun _ c => Leaves (P := P) keys
            (ToppedUp owner.address wallet.address amount books) c)
          (.call_ok stands_stable fun c hs => ?_) fun _ => .done fun c hs => hs
        obtain ⟨receipt, c', hmine, hs'⟩ := hs.transfer (amount - have') howner hwallet hne
          (by rw [Function.update_self]; simp only; omega)
        refine ⟨receipt, c', hmine, _, ⟨fun a ha ha' => ?_, ?_, ?_⟩, hs'⟩
        · rw [transferred, Function.update_of_ne ha', Function.update_of_ne ha,
            Function.update_of_ne ha, Function.update_of_ne ha']
        · refine ⟨reserve - (amount - have'), ?_, by omega⟩
          rw [transferred, Function.update_of_ne hne, Function.update_self, Function.update_self]
        · refine ⟨have' + (amount - have'), ?_, by omega⟩
          rw [transferred, Function.update_self, Function.update_of_ne hne.symm, Function.update_self]

/-- A top-up, an approval and a call that spends what was topped up. -/
theorem topped_and_spent {Φ : (Address → WalletBook) → Prop} {call : Call}
    (howner : owner ∈ keys) (hwallet : wallet ∈ keys) (hne : owner.address ≠ wallet.address)
    (hcall : ∀ books' c, ToppedUp owner.address wallet.address amount books books' →
      Stands P keys books' c →
      ∃ receipt c', mine P wallet call c = .ok (receipt, c') ∧ Leaves (P := P) keys Φ c') :
    Meets (Interferes P keys) (Stands P keys books)
      (do ensureFxrpBalance P owner wallet amount; approve; let _ ← send P wallet call; .done ())
      (Served (P := P) keys books owner wallet amount Φ) := by
  refine .bind (S := fun _ => Leaves (P := P) keys (ToppedUp owner.address wallet.address amount books))
    ((ensureFxrpBalance_meets howner hwallet hne).post fun r c h => ?_) fun _ => ?_
  · cases r with
    | ok _ => exact h
    | error e => exact h
  · refine .bind (S := fun _ => Leaves (P := P) keys
      (ToppedUp owner.address wallet.address amount books)) (.read leaves_stable fun c h => h) fun _ => ?_
    refine .bind (S := fun _ => Leaves (P := P) keys Φ) (.call_ok leaves_stable ?_) fun _ =>
      .done fun c h => h
    rintro c ⟨books', hbooks, hs⟩
    exact hcall books' c hbooks hs

/-- What `fundTakerDeposit` leaves: `amount` available until `armedUntil`, no more
put in than was missing, and the reserve down by no more than was short. -/
structure Armed (owner wallet : Address) (amount armedUntil : Nat)
    (books books' : Address → WalletBook) : Prop where
  others : ∀ a, a ≠ owner → a ≠ wallet → books' a = books a
  available : (books' wallet).available = max (books wallet).available amount
  armedUntil : (books' wallet).armedUntil = max armedUntil (books wallet).armedUntil
  freeBond : (books' wallet).freeBond = (books wallet).freeBond
  reserve : Drawn books books' owner
    ((amount - (books wallet).available).toNat - (books wallet).purse)

/-- Whatever happens in between, short of a lock that takes from the wallet: the
script ends with the wallet funded as asked, or says that the desk is out of FXRP. -/
theorem fundTakerDeposit_meets {now armedForSeconds : Nat} (howner : owner ∈ keys)
    (hwallet : wallet ∈ keys) (hne : owner.address ≠ wallet.address)
    (htime : now + armedForSeconds < 2 ^ 64) :
    Meets (Interferes P keys) (Stands P keys books)
      (fundTakerDeposit P owner wallet amount now armedForSeconds)
      (Served (P := P) keys books owner wallet (amount - (books wallet.address).available).toNat
        (Armed owner.address wallet.address amount (now + armedForSeconds) books)) := by
  refine .bind (S := fun (bal : TakerBalance) c => Stands P keys books c ∧
      ((bal.armed : Int) - bal.committed = (books wallet.address).available ∧
        bal.armedUntil = (books wallet.address).armedUntil))
    (.read stands_stable fun c hs => ⟨hs, (hs.backed wallet hwallet).available,
      (hs.backed wallet hwallet).armedUntil⟩) ?_
  intro bal
  refine .of_pure fun hbal => ?_
  obtain ⟨havailable, huntil⟩ := hbal
  rw [havailable, huntil]
  by_cases henough : (books wallet.address).available ≥ amount
  · rw [if_pos henough]
    by_cases hextend : (books wallet.address).armedUntil < now + armedForSeconds
    · rw [if_pos hextend]
      refine .bind (S := fun _ => Leaves (P := P) keys
          (Armed owner.address wallet.address amount (now + armedForSeconds) books))
        (.call_ok stands_stable fun c hs => ?_) fun _ => .done fun c h => h
      -- a deposit of nothing, for its second argument
      obtain ⟨receipt, c', hmine, hs'⟩ := hs.deposit 0 hwallet (Nat.zero_le _) htime
      refine ⟨receipt, c', hmine, _, ?_, hs'⟩
      constructor
      case others => exact fun a _ ha => Function.update_of_ne ha ..
      case available =>
        rw [Function.update_self]
        simp only [WalletBook.deposited]; omega
      case armedUntil => rw [Function.update_self]; rfl
      case freeBond => rw [Function.update_self]; rfl
      case reserve => exact ⟨_, Function.update_of_ne hne .., Nat.le_add_right _ _⟩
    · rw [if_neg hextend]
      refine .done fun c hs => ⟨books, ?_, hs⟩
      exact ⟨fun _ _ _ => rfl, by omega, by omega, rfl, _, rfl, Nat.le_add_right _ _⟩
  · rw [if_neg henough]
    refine topped_and_spent howner hwallet hne fun books' c htopped hs => ?_
    obtain ⟨q, hq, hle⟩ := htopped.wallet
    obtain ⟨p, hp, hreserve⟩ := htopped.reserve
    obtain ⟨receipt, c', hmine, hs'⟩ := hs.deposit
      (amount - (books wallet.address).available).toNat hwallet (by rw [hq]; exact hle) htime
    refine ⟨receipt, c', hmine, _, ?_, hs'⟩
    constructor
    case others =>
      intro a ha ha'
      rw [Function.update_of_ne ha']
      exact htopped.others a ha ha'
    case available =>
      rw [Function.update_self, hq]
      simp only [WalletBook.deposited]; omega
    case armedUntil => rw [Function.update_self, hq]; rfl
    case freeBond => rw [Function.update_self, hq]; rfl
    case reserve => exact ⟨p, by rw [Function.update_of_ne hne, hp], hreserve⟩

/-- What `fundMakerBond` leaves. Bonds that come back meanwhile make `free` more
than it was when the script looked. -/
structure Bonded (owner wallet : Address) (amount : Nat) (books books' : Address → WalletBook) :
    Prop where
  others : ∀ a, a ≠ owner → a ≠ wallet → books' a = books a
  freeBond : amount ≤ (books' wallet).freeBond
  available : (books' wallet).available = (books wallet).available
  armedUntil : (books' wallet).armedUntil = (books wallet).armedUntil
  reserve : Drawn books books' owner (amount - (books wallet).freeBond - (books wallet).purse)

theorem fundMakerBond_meets (howner : owner ∈ keys) (hwallet : wallet ∈ keys)
    (hne : owner.address ≠ wallet.address) :
    Meets (Interferes P keys) (Stands P keys books) (fundMakerBond P owner wallet amount)
      (Served (P := P) keys books owner wallet (amount - (books wallet.address).freeBond)
        (Bonded owner.address wallet.address amount books)) := by
  refine .bind (S := fun free c => Stands P keys (update books wallet.address
      { books wallet.address with freeBond := free }) c ∧ (books wallet.address).freeBond ≤ free)
    (.read stands_stable fun c hs => ⟨hs.sawBond hwallet, (hs.backed wallet hwallet).freeBond⟩) ?_
  intro free
  refine .of_pure fun hfree => ?_
  by_cases henough : free ≥ amount
  · rw [if_pos henough]
    refine .done fun c hs => ⟨_, ?_, hs⟩
    constructor
    case others => exact fun a _ ha => Function.update_of_ne ha ..
    case freeBond => rw [Function.update_self]; exact henough
    case available => rw [Function.update_self]
    case armedUntil => rw [Function.update_self]
    case reserve => exact ⟨_, Function.update_of_ne hne .., Nat.le_add_right _ _⟩
  · rw [if_neg henough]
    refine (topped_and_spent (Φ := Bonded owner.address wallet.address amount books) howner hwallet hne
      ?_).post fun r c h => ?_
    · intro books' c htopped hs
      obtain ⟨q, hq, hle⟩ := htopped.wallet
      obtain ⟨p, hp, hreserve⟩ := htopped.reserve
      rw [Function.update_self] at hq hreserve
      rw [Function.update_of_ne hne] at hp hreserve
      obtain ⟨receipt, c', hmine, hs'⟩ := hs.depositBond (amount - free) hwallet
        (by rw [hq]; exact hle)
      refine ⟨receipt, c', hmine, _, ?_, hs'⟩
      constructor
      case others =>
        intro a ha ha'
        rw [Function.update_of_ne ha', htopped.others a ha ha', Function.update_of_ne ha']
      case freeBond =>
        rw [Function.update_self, hq]
        simp only [WalletBook.bonded]; omega
      case available => rw [Function.update_self, hq]; rfl
      case armedUntil => rw [Function.update_self, hq]; rfl
      case reserve => exact ⟨p, by rw [Function.update_of_ne hne, hp], by simp only at hreserve; omega⟩
    · cases r with
      | ok _ => exact h
      | error e =>
        obtain ⟨hs, hfew, herror⟩ := h
        rw [Function.update_self, Function.update_of_ne hne] at hfew
        refine ⟨hs.unsee fun hb => { hb with freeBond := Nat.le_trans hfree hb.freeBond }, ?_, herror⟩
        simp only at hfew
        omega

/-- Both scripts, whatever the others do in between short of a lock that takes from
the script's wallets: they end with the wallet funded as asked, out of no more than
what is missing, or say that the desk is out of FXRP when it is. -/
theorem funds_what_is_missing {now armedForSeconds : Nat} (howner : owner ∈ keys)
    (hwallet : wallet ∈ keys) (hne : owner.address ≠ wallet.address)
    (htime : now + armedForSeconds < 2 ^ 64) :
    Meets (Interferes P keys) (Stands P keys books)
      (fundTakerDeposit P owner wallet amount now armedForSeconds)
      (Served (P := P) keys books owner wallet (amount - (books wallet.address).available).toNat
        (Armed owner.address wallet.address amount (now + armedForSeconds) books)) ∧
    Meets (Interferes P keys) (Stands P keys books) (fundMakerBond P owner wallet amount)
      (Served (P := P) keys books owner wallet (amount - (books wallet.address).freeBond)
        (Bonded owner.address wallet.address amount books)) :=
  ⟨fundTakerDeposit_meets howner hwallet hne htime, fundMakerBond_meets howner hwallet hne⟩

/-! The scripts send nothing that issues FXRP. -/
section Keeping

theorem ensureFxrpBalance_keeps : (ensureFxrpBalance P owner wallet amount).Keeps Chain.Sound := by
  refine .bind (.read _) fun have' => ?_
  by_cases henough : have' ≥ amount
  · rw [if_pos henough]
    exact .done ()
  · rw [if_neg henough]
    refine .bind (.read _) fun reserve => ?_
    by_cases hshort : reserve < amount - have'
    · rw [if_pos hshort]
      exact .throw _
    · rw [if_neg hshort]
      refine .bind (send_keeps fun env w w' hexec => ?_) fun _ => .done ()
      obtain ⟨_, _, rfl⟩ := fxrpTransfer_eq_ok.mp hexec
      rfl

theorem deposit_keeps (armedUntil : UInt64) :
    (send P wallet (.deposit amount armedUntil)).Keeps Chain.Sound := by
  refine send_keeps fun env w w' hexec => ?_
  obtain ⟨_, _, _, _, rfl⟩ := DvPEscrow.deposit_eq_ok.mp hexec
  rfl

theorem depositBond_keeps : (send P wallet (.depositBond amount)).Keeps Chain.Sound := by
  refine send_keeps fun env w w' hexec => ?_
  obtain ⟨_, _, _, _, rfl⟩ := BondLedger.depositBond_eq_ok.mp hexec
  rfl

theorem fundTakerDeposit_keeps (now armedForSeconds : Nat) :
    (fundTakerDeposit P owner wallet amount now armedForSeconds).Keeps Chain.Sound := by
  refine .bind (.read _) fun bal => ?_
  by_cases henough : (bal.armed : Int) - bal.committed ≥ amount
  · rw [if_pos henough]
    by_cases hextend : bal.armedUntil < now + armedForSeconds
    · rw [if_pos hextend]
      exact .bind (deposit_keeps _) fun _ => .done ()
    · rw [if_neg hextend]
      exact .done ()
  · rw [if_neg henough]
    exact .bind ensureFxrpBalance_keeps fun _ => .bind (.read _) fun _ =>
      .bind (deposit_keeps _) fun _ => .done ()

theorem fundMakerBond_keeps : (fundMakerBond P owner wallet amount).Keeps Chain.Sound := by
  refine .bind (.read _) fun free => ?_
  by_cases henough : free ≥ amount
  · rw [if_pos henough]
    exact .done ()
  · rw [if_neg henough]
    exact .bind ensureFxrpBalance_keeps fun _ => .bind (.read _) fun _ =>
      .bind depositBond_keeps fun _ => .done ()

end Keeping

end Funding

/-! A desk that holds 6,000 FXRP, over a bound ledger with its own key as signer. -/
namespace SampleDesk

def primitives : Primitives := { Sample.primitives with ecrecover := fun _ _ _ _ => 1 }

def keys : List (Account Sample.deployment) := [Sample.owner, Sample.taker, Sample.maker]

def chain : Chain where
  world := after primitives Sample.world
    [Sample.tx 900 Sample.owner (.mintFxrp 1 6000000000),
      Sample.tx 900 Sample.owner (.setEscrow 0xE5), Sample.tx 900 Sample.owner (.setTeeSigner 1)]
  env := Sample.env 1000

def books (a : Address) : WalletBook := if a = 1 then ⟨0, 0, 0, 6000000000⟩ else ⟨0, 0, 0, 0⟩

theorem stands : Stands primitives keys books chain where
  reachable := ⟨Sample.world, _, Sample.deployed, rfl⟩
  sound := by
    constructor
    case accepts => simp [chain, Sample.env]
    case supply => decide +kernel
    case mid => simp [chain, Sample.env]
    case chainid => simp [chain, Sample.env]
  backed a ha := by
    simp only [keys, List.mem_cons, List.not_mem_nil, or_false] at ha
    obtain rfl | rfl | rfl := ha
    all_goals exact ⟨by decide +kernel, by decide +kernel, by decide +kernel, by decide +kernel⟩

/-- A script that sends nothing that issues FXRP, left alone. -/
theorem runs_chain {α : Type} {x : Script α} (hx : x.Keeps Chain.Sound) :
    Runs (Interferes primitives keys) chain x (x.alone chain).1 (x.alone chain).2 :=
  runs_alone (fun _ h => .refl h) hx stands.sound

def funding : Script Unit :=
  fundTakerDeposit primitives Sample.owner Sample.taker 5000000000 1000 3600

def bonding : Script Unit := fundMakerBond primitives Sample.owner Sample.maker 500000000

end SampleDesk

open SampleDesk in
/-- Wallets that hold nothing: the reserve is drawn for the deposit, and for the bond. -/
theorem funds_what_is_missing_sample :
    (∃ c, Runs (Interferes primitives keys) chain funding (.ok ()) c ∧
      c.world.fxrp.balanceOf 1 = 1000000000 ∧
      Leaves (P := primitives) keys (Armed 1 2 5000000000 (1000 + 3600) books) c) ∧
    ∃ c, Runs (Interferes primitives keys) chain bonding (.ok ()) c ∧
      c.world.fxrp.balanceOf 1 = 5500000000 ∧
      Leaves (P := primitives) keys (Bonded 1 3 500000000 books) c := by
  have hfunding : (funding.alone chain).1 = .ok () := by decide +kernel
  have hbonding : (bonding.alone chain).1 = .ok () := by decide +kernel
  have hfunded := runs_chain (x := funding) (fundTakerDeposit_keeps 1000 3600)
  have hbonded := runs_chain (x := bonding) fundMakerBond_keeps
  refine ⟨⟨_, hfunding ▸ hfunded, by decide +kernel, ?_⟩, _, hbonding ▸ hbonded, by decide +kernel, ?_⟩
  · exact (funds_what_is_missing (by simp [keys]) (by simp [keys]) (by decide) (by decide)).1 _ _ _ stands
      (hfunding ▸ hfunded)
  · exact (funds_what_is_missing (by simp [keys]) (by simp [keys]) (by decide)
      (by decide : 0 + 0 < 2 ^ 64)).2 _ _ _ stands (hbonding ▸ hbonded)

end WhisperDesk.Web.Flow
