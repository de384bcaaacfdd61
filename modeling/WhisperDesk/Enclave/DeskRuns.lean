import WhisperDesk.Enclave.BookRuns
import WhisperDesk.Enclave.Retry

/-!
# The desk's book

Whatever comes in at the desk does one call of the book or none, so the book of a
run of the desk is the book after a list of calls, and all that holds after every
list of calls holds of it.
-/
namespace WhisperDesk.Fcewire

open Go
open Matcher
open Reverting

section Runs

variable {σ : Type} {X : Externals} {S : Snapshotter σ} {cfg : Config} {h h' : Handler σ}

/-- A handler that succeeds has made one call of the book, and no sweep. -/
theorem handle_op {c : Command} {p : Payload} (hok : c.handle X S cfg h = .ok (p, h')) :
    ∃ op : Op, (∀ now, op ≠ .gc now) ∧ op.exec X.toLibraries h.book = .ok h'.book := by
  cases c with
  | rfqSubmit a df =>
    simp only [Command.handle, handleRfqSubmit, bind_eq_ok, orRevert_eq_ok, revertIf_eq_ok,
      mapError_eq_ok, pure_eq_ok, Prod.mk.injEq] at hok
    obtain ⟨⟨sender, _⟩, _, _, _, _, _, msg, _, _, _, _, _, _, _, _, _, _, _, amount, _, limit, _,
      ⟨rfq, book⟩, hadd, _, rfl⟩ := hok
    exact ⟨.addRFQ cfg.matcher df.instructionID sender amount (some limit) msg.xrplAddress a.now
      cfg.rfqWindowSec cfg.rfqTTLSec, fun _ => Op.noConfusion, map_snd_eq_ok.mpr ⟨rfq, hadd⟩⟩
  | quoteSubmit a di =>
    simp only [Command.handle, handleQuoteSubmit, bind_eq_ok, orRevert_eq_ok, revertIf_eq_ok,
      mapError_eq_ok, pure_eq_ok, Prod.mk.injEq] at hok
    obtain ⟨_, _, _, _, msg, _, _, _, _, _, price, _, maxSize, _, nonce, _, _, _, _, _, _, _, _, _,
      ⟨replaced, book⟩, hadd, _, rfl⟩ := hok
    exact ⟨.upsertQuote ⟨hexToHash msg.rfqID, hexToAddress msg.maker, price, maxSize, nonce⟩ a.now,
      fun _ => Op.noConfusion, map_snd_eq_ok.mpr ⟨replaced, hadd⟩⟩
  | rfqMatch a data =>
    obtain ⟨rfqID, snap, o, _, _, hmatch, _, _⟩ := handleMatchMessage_eq_ok.mp hok
    exact ⟨.matchWithSignFunc cfg.matcher cfg.escrowAddr
      (fun mi => signWithFunc X.toLibraries mi cfg.chainID (signClient a)) a.quotesOrder rfqID snap a.now,
      fun _ => Op.noConfusion, map_snd_eq_ok.mpr ⟨o, hmatch⟩⟩

variable (X S cfg) in
theorem turn_op (t : Turn σ) (h : Handler σ) :
    (t.exec X S cfg h).book = h.book ∨
      ∃ op : Op, (∀ now, op = .gc now → t = .gc now) ∧
        (t.exec X S cfg h).book = settle h.book (op.exec X.toLibraries h.book) := by
  cases t with
  | gc now => exact .inr ⟨.gc now, fun _ h => by cases h; rfl, rfl⟩
  | call e =>
    cases hc : e.command X cfg with
    | none => exact .inl (exec_no_command hc).1
    | some c =>
      simp only [Turn.exec, (exec_command hc).1]
      cases hv : c.handle X S cfg h with
      | error code => exact .inl rfl
      | ok v =>
        obtain ⟨op, hcall, hop⟩ := handle_op hv
        exact .inr ⟨op, fun now h => absurd h (hcall now), by rw [hop]; rfl⟩

variable (X S cfg) in
/-- Every run of the desk is, to the book, a list of calls. -/
theorem desk_bookAfter (epoch : UInt64) (c₀ : σ) (turns : List (Turn σ)) :
    ∃ ops, (desk X S cfg epoch c₀ turns).book = bookAfter X.toLibraries epoch ops := by
  induction turns using List.reverseRecOn with
  | nil => exact ⟨[], rfl⟩
  | append_singleton turns t ih =>
    obtain ⟨ops, hops⟩ := ih
    rw [desk_concat]
    rcases turn_op X S cfg t (desk X S cfg epoch c₀ turns) with hsame | ⟨op, _, hop⟩
    · exact ⟨ops, hsame.trans hops⟩
    · refine ⟨ops ++ [op], ?_⟩
      rw [hop, hops, bookAfter_concat]

/-- So what every list of calls keeps true of the book, every run of the desk keeps
true of it. -/
theorem desk_kept (epoch : UInt64) (c₀ : σ) (turns : List (Turn σ)) :
    ∃ quotes, Kept quotes (desk X S cfg epoch c₀ turns).book := by
  obtain ⟨ops, hops⟩ := desk_bookAfter X S cfg epoch c₀ turns
  rw [hops]
  exact ⟨_, kept_bookAfter _ _ ops⟩

end Runs

end WhisperDesk.Fcewire
