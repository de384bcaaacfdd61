import Mathlib.Algebra.Order.Field.Rat
import Mathlib.Tactic.Linarith
import WhisperDesk.Contracts.Settlement

/-!
# The price band in drops

What `lock` computes, in unbounded integers. Every checked operation is in range
when it succeeds, nothing it stores was cut by a narrowing cast, and a floor
division of a price inside the band is inside the band up to one drop.
-/
namespace WhisperDesk

open Function (update)
open Reverting
open DvPEscrow (Deployment LockAccepted BandAccepted bandBips bondBips takerFeeBips bondOf)
open MatchInstructionLib (MatchInstruction)

section Rounding

variable {amount price mid scale : Nat}

/-- The floor loses less than one unit of what the lower edge promises. -/
theorem mul_lt_of_le_price (lower : Nat) (hmid : 0 < mid) (hscale : 0 < scale)
    (h : mid * lower ≤ price * scale) :
    lower * amount < scale * (amount * price / mid + 1) := by
  have hfloor : amount * price < mid * (amount * price / mid + 1) := Nat.lt_mul_div_succ _ hmid
  have hedge : mid * (lower * amount) ≤ scale * (amount * price) := by
    calc mid * (lower * amount) = mid * lower * amount := by rw [Nat.mul_assoc]
      _ ≤ price * scale * amount := Nat.mul_le_mul_right amount h
      _ = scale * (amount * price) := by rw [Nat.mul_comm price, Nat.mul_assoc, Nat.mul_comm price]
  have hscaled : scale * (amount * price) < mid * (scale * (amount * price / mid + 1)) := by
    calc scale * (amount * price) < scale * (mid * (amount * price / mid + 1)) :=
          Nat.mul_lt_mul_of_pos_left hfloor hscale
      _ = mid * (scale * (amount * price / mid + 1)) := Nat.mul_left_comm _ _ _
  exact Nat.lt_of_mul_lt_mul_left (Nat.lt_of_le_of_lt hedge hscaled)

theorem mul_le_of_price_le (upper : Nat) (hmid : 0 < mid) (h : price * scale ≤ mid * upper) :
    scale * (amount * price / mid) ≤ upper * amount := by
  have hfloor : mid * (amount * price / mid) ≤ amount * price := Nat.mul_div_le _ _
  have hedge : mid * (scale * (amount * price / mid)) ≤ mid * (upper * amount) := by
    calc mid * (scale * (amount * price / mid)) = scale * (mid * (amount * price / mid)) :=
          Nat.mul_left_comm _ _ _
      _ ≤ scale * (amount * price) := Nat.mul_le_mul_left scale hfloor
      _ = price * scale * amount := by rw [Nat.mul_comm price, Nat.mul_assoc, Nat.mul_comm price]
      _ ≤ mid * upper * amount := Nat.mul_le_mul_right amount h
      _ = mid * (upper * amount) := Nat.mul_assoc _ _ _
  exact Nat.le_of_mul_le_mul_left hedge hmid

end Rounding

/-- The cross-multiplied integer tests are the exact rational band. -/
theorem band_iff (price mid18 : Nat) :
    (mid18 * (10000 - bandBips) ≤ price * 10000 ∧ price * 10000 ≤ mid18 * (10000 + bandBips)) ↔
      (99 / 100 : ℚ) * mid18 ≤ price ∧ (price : ℚ) ≤ 101 / 100 * mid18 := by
  have hlower : mid18 * (10000 - bandBips) ≤ price * 10000 ↔ (99 / 100 : ℚ) * mid18 ≤ price := by
    rw [← @Nat.cast_le ℚ]
    simp only [bandBips, Nat.reduceSub, Nat.cast_mul, Nat.cast_ofNat]
    constructor <;> intro h <;> linarith
  have hupper : price * 10000 ≤ mid18 * (10000 + bandBips) ↔ (price : ℚ) ≤ 101 / 100 * mid18 := by
    rw [← @Nat.cast_le ℚ]
    simp only [bandBips, Nat.reduceAdd, Nat.cast_mul, Nat.cast_ofNat]
    constructor <;> intro h <;> linarith
  rw [hlower, hupper]

/-- Every checked operation of `lock` in the source's order: its exact result is
in the range of the type it is computed at, and no divisor is zero. -/
structure ArithmeticInRange (d : Deployment) (env : Env) (value : Nat) (w : World)
    (mi : MatchInstruction) (fee mid18 ts : Nat) : Prop where
  oracleAge : ts ≤ env.timestamp
  priceScaled : mi.priceUsd18 * 10000 < 2 ^ 256
  lowerEdge : mid18 * (10000 - bandBips) < 2 ^ 256
  upperEdge : mid18 * (10000 + bandBips) < 2 ^ 256
  notional : mi.amountFxrp * mi.priceUsd18 < 2 ^ 256
  midDivisor : mid18 ≠ 0
  dropsWide : mi.amountFxrp * mi.priceUsd18 / mid18 < 2 ^ 128
  takerFee : mi.amountFxrp * takerFeeBips < 2 ^ 256
  need : mi.amountFxrp + mi.amountFxrp * takerFeeBips / 10000 < 2 ^ 256
  available : (w.escrow.balances mi.taker).committed ≤ (w.escrow.balances mi.taker).armed
  newCommitted : (w.escrow.balances mi.taker).committed + mi.amountFxrp < 2 ^ 128
  bondScaled : mi.amountFxrp * bondBips < 2 ^ 256
  bondWide : mi.amountFxrp * bondBips / 10000 < 2 ^ 128
  freeBond : mi.amountFxrp * bondBips / 10000 ≤ w.ledger.freeBond mi.maker
  nextTag : w.escrow.nextDestinationTag + 1 < 2 ^ 32
  deadline : env.timestamp + d.paymentWindow < 2 ^ 256
  refundable : env.timestamp + d.settlementWindow.toNat < 2 ^ 256
  amountCast : mi.amountFxrp < 2 ^ 128
  surplus : fee ≤ value

section Lock

variable {P : Primitives} {d : Deployment} {env : Env} {value fee mid18 ts : Nat} {data sig : Bytes}
  {w : World} {mi : MatchInstruction}

theorem arithmetic_in_range (h : LockAccepted P d env value data sig w mi fee mid18 ts) :
    ArithmeticInRange d env value w mi fee mid18 ts := by
  have hprice : mi.priceUsd18 * 10000 < 2 ^ 256 := Nat.lt_of_le_of_lt h.band.upper h.band.upper_lt
  have hamount : mi.amountFxrp < 2 ^ 128 := Nat.lt_of_le_of_lt (Nat.le_add_left _ _) h.committed_lt
  have hwide : (2 : Nat) ^ 128 < 2 ^ 256 := by decide
  have hscaled : mi.amountFxrp * bondBips < 2 ^ 128 * bondBips :=
    Nat.mul_lt_mul_of_pos_right hamount (by decide)
  have hbips : (2 : Nat) ^ 128 * bondBips < 2 ^ 256 := by decide
  have hbond : mi.amountFxrp * bondBips / 10000 ≤ mi.amountFxrp := by unfold bondBips; omega
  have hwindow : d.paymentWindow ≤ d.settlementWindow.toNat := Nat.sub_le _ _
  have hrefundable := h.refundable_lt
  have harmed := h.armed
  exact {
    oracleAge := h.band.past
    priceScaled := hprice
    lowerEdge := Nat.lt_of_le_of_lt h.band.lower hprice
    upperEdge := h.band.upper_lt
    notional := h.notional_lt
    midDivisor := h.band.mid_ne_zero
    dropsWide := h.drops_lt
    takerFee := by simp [takerFeeBips]
    need := by simp only [takerFeeBips]; omega
    available := by omega
    newCommitted := h.committed_lt
    bondScaled := Nat.lt_trans hscaled hbips
    bondWide := by omega
    freeBond := h.bond
    nextTag := h.tag_lt
    deadline := by omega
    refundable := hrefundable
    amountCast := hamount
    surplus := h.fee_le }

/-- The drops owed are within 1% of par, up to less than one drop below. -/
theorem drops_in_band (mi : MatchInstruction) (h : BandAccepted env mid18 ts mi.priceUsd18) :
    9900 * mi.amountFxrp < 10000 * (mi.amountFxrp * mi.priceUsd18 / mid18 + 1) ∧
      10000 * (mi.amountFxrp * mi.priceUsd18 / mid18) ≤ 10100 * mi.amountFxrp := by
  have hmid := Nat.pos_of_ne_zero h.mid_ne_zero
  exact ⟨mul_lt_of_le_price 9900 hmid (by decide) h.lower, mul_le_of_price_le 10100 hmid h.upper⟩

theorem Tx.exec_lock {tx : Tx d} (hcall : tx.call = .lock value data sig) (w : World) :
    tx.exec P w = DvPEscrow.lock P d tx.env (tx.callback P) value data sig w := by
  unfold Tx.exec
  rw [hcall]
  rfl

/-- What a successful `lock` transaction leaves in storage, whatever its sender
did with the surplus. -/
theorem lock_stored {tx : Tx d} {w' : World} (hcall : tx.call = .lock value data sig)
    (h : tx.exec P w = .ok w') :
    ∃ mi fee mid18 ts, LockAccepted P d tx.env value data sig w mi fee mid18 ts ∧
      w'.escrow.matchOf mi.matchId =
        DvPEscrow.lockedMatch P d tx.env mi mid18 w.escrow.nextDestinationTag := by
  rw [Tx.exec_lock hcall] at h
  obtain ⟨mi, fee, mid18, ts, v, haccepted, hfrozen, rfl⟩ := lock_frozen h
  refine ⟨mi, fee, mid18, ts, haccepted, ?_⟩
  have hmatch := congrFun hfrozen.matchOf mi.matchId
  exact hmatch.trans (Function.update_self ..)

/-- A `lock` that succeeds computed in unbounded integers and owes an amount
within 1% of par; a price outside the exact band never succeeds. -/
theorem lock_arithmetic (P : Primitives) (tx : Tx d) (w : World)
    (hcall : tx.call = .lock value data sig) :
    (∀ w', tx.exec P w = .ok w' → ∃ mi fee mid18 ts,
      MatchInstructionLib.decode data = some mi ∧ tx.env.calculateFeeById = some fee ∧
      tx.env.getFeedByIdInWei = some (mid18, ts) ∧
      ArithmeticInRange d tx.env value w mi fee mid18 ts ∧
      (let m := w'.escrow.matchOf mi.matchId
       m.amountFxrp = mi.amountFxrp ∧ m.xrpDrops = mi.amountFxrp * mi.priceUsd18 / mid18 ∧
       m.bondAmount = mi.amountFxrp * bondBips / 10000 ∧
       10000 * (m.xrpDrops + 1) > 9900 * m.amountFxrp ∧
       10000 * m.xrpDrops ≤ 10100 * m.amountFxrp)) ∧
    (∀ mi mid18 ts, MatchInstructionLib.decode data = some mi →
      tx.env.getFeedByIdInWei = some (mid18, ts) →
      ((mi.priceUsd18 : ℚ) < 99 / 100 * mid18 ∨ 101 / 100 * (mid18 : ℚ) < mi.priceUsd18) →
      ∃ e, tx.exec P w = .error e) := by
  constructor
  · intro w' h
    obtain ⟨mi, fee, mid18, ts, haccepted, hstored⟩ := lock_stored hcall h
    obtain ⟨hlower, hupper⟩ := drops_in_band mi haccepted.band
    refine ⟨mi, fee, mid18, ts, haccepted.decoded, haccepted.feeRead, haccepted.feedRead,
      arithmetic_in_range haccepted, ?_⟩
    rw [hstored]
    exact ⟨rfl, rfl, rfl, hlower, hupper⟩
  · intro mi mid18 ts hdecode hfeed houtside
    cases hexec : tx.exec P w with
    | error e => exact ⟨e, rfl⟩
    | ok w' =>
      obtain ⟨mi', fee, mid', ts', haccepted, _⟩ := lock_stored hcall hexec
      obtain rfl : mi' = mi := Option.some.inj (haccepted.decoded.symm.trans hdecode)
      have hread : (mid', ts') = (mid18, ts) := Option.some.inj (haccepted.feedRead.symm.trans hfeed)
      obtain ⟨rfl, rfl⟩ := Prod.mk.inj hread
      have hband := (band_iff mi'.priceUsd18 mid').mp ⟨haccepted.band.lower, haccepted.band.upper⟩
      rcases houtside with hlow | hhigh
      · exact absurd hlow (not_lt.mpr hband.1)
      · exact absurd hhigh (not_lt.mpr hband.2)

end Lock

namespace Sample

/-- The instruction of `opening`, signed at another price. -/
def instructionAt (priceUsd18 : Nat) : MatchInstruction :=
  { instruction 7 with priceUsd18 := priceUsd18 }

def lockAt (priceUsd18 : Nat) : Tx deployment :=
  tx 1000 owner (.lock 0 (MatchInstructionLib.encode (instructionAt priceUsd18))
    (List.replicate 65 0))

/-- `opening` without its `lock`. -/
def funded : World := after primitives world ((opening 1000 7).take 5)

theorem decode_instructionAt {priceUsd18 : Nat} (h : priceUsd18 < 2 ^ 256) :
    MatchInstructionLib.decode (MatchInstructionLib.encode (instructionAt priceUsd18)) =
      some (instructionAt priceUsd18) :=
  MatchInstructionLib.decode_encode _
    ⟨show (5000000000 : Nat) < 2 ^ 256 by decide, h, show takersAddress.length < 2 ^ 64 by decide,
      show 2 ^ 63 < 2 ^ 64 by decide⟩

end Sample

/-- At the upper edge of the band `lock` succeeds; one wei above, it reverts. -/
theorem lock_arithmetic_sample :
    (∃ w', (Sample.lockAt 2020000000000000000).exec Sample.primitives Sample.funded = .ok w' ∧
      (w'.escrow.matchOf 7).xrpDrops = 5050000000 ∧
      10000 * ((w'.escrow.matchOf 7).xrpDrops + 1) > 9900 * (w'.escrow.matchOf 7).amountFxrp ∧
      10000 * (w'.escrow.matchOf 7).xrpDrops ≤ 10100 * (w'.escrow.matchOf 7).amountFxrp) ∧
    ∃ e, (Sample.lockAt 2020000000000000001).exec Sample.primitives Sample.funded = .error e := by
  constructor
  · obtain ⟨w', hexec⟩ := exists_ok_of_isOk
      (x := (Sample.lockAt 2020000000000000000).exec Sample.primitives Sample.funded)
      (by decide +kernel)
    obtain ⟨mi, fee, mid18, ts, hdecode, _, hfeed, _, hamount, hdrops, _, hlower, hupper⟩ :=
      (lock_arithmetic Sample.primitives (Sample.lockAt 2020000000000000000) Sample.funded
        rfl).1 w' hexec
    obtain rfl : Sample.instructionAt 2020000000000000000 = mi :=
      Option.some.inj ((Sample.decode_instructionAt (by decide)).symm.trans hdecode)
    obtain ⟨rfl, rfl⟩ : 2000000000000000000 = mid18 ∧ 1000 = ts :=
      Prod.mk.inj (Option.some.inj hfeed)
    exact ⟨w', hexec, hdrops, hlower, hupper⟩
  · refine (lock_arithmetic Sample.primitives (Sample.lockAt 2020000000000000001) Sample.funded
      rfl).2 _ 2000000000000000000 1000 (Sample.decode_instructionAt (by decide)) rfl (.inr ?_)
    simp only [Sample.instructionAt]
    norm_num

end WhisperDesk
