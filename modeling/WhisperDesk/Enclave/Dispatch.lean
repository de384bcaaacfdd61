import WhisperDesk.Enclave.Provenance

/-!
# What a call is dispatched to

Both ingresses lead to the same three handlers. `command` says which one an
event reaches under a configuration, gates included; every fact about a run of
either ingress is then a fact about three commands.
-/
namespace WhisperDesk.Fcewire

open Function (update)
open Go
open Matcher
open Reverting

/-- A message on its way to one of the three handlers. -/
inductive Command where
  | rfqSubmit (a : Ambient) (df : DataFixed)
  | quoteSubmit (a : Ambient) (di : DirectInstruction)
  | rfqMatch (a : Ambient) (data : Bytes)

section Commands

variable {σ : Type} (X : Externals) (S : Snapshotter σ) (cfg : Config)

def Event.command : Event σ → Option Command
  | .instruction a df =>
    if df.opCommand = Fcewire.rfqSubmit then some (.rfqSubmit a df)
    else if df.opCommand = Fcewire.rfqMatch then some (.rfqMatch a df.originalMessage)
    else none
  | .direct a di =>
    if di.opCommand = Fcewire.quoteSubmit then some (.quoteSubmit a di)
    else if di.opCommand = Fcewire.rfqMatch then
      if cfg.allowDirectMatch then some (.rfqMatch a di.message) else none
    else if di.opCommand = Fcewire.rfqSubmit then
      if cfg.allowDirectRfq then some (.rfqSubmit a (asInstruction X di)) else none
    else none
  | .background _ => none

def Command.handle : Command → Handler σ → Except Code (Payload × Handler σ)
  | .rfqSubmit a df, h => handleRfqSubmit X S cfg a df h
  | .quoteSubmit a di, h => handleQuoteSubmit X S cfg a di h
  | .rfqMatch a data, h => handleMatchMessage X S cfg a data h

/-- The result a caller gets; nobody asked for a background change. -/
def Event.result : Event σ → Handler σ → Option Result
  | .instruction a df, h => some (handleInstruction X S cfg a df h).1
  | .direct a di, h => some (handleDirect X S cfg a di h).1
  | .background _, _ => none

/-- The success that an event's result reports. -/
def Event.answer (e : Event σ) (h : Handler σ) : Option Payload :=
  (e.result X S cfg h).bind fun r => if r.status = 1 then r.data else none

variable {X S cfg} {e : Event σ} {h : Handler σ}

variable (X S cfg) in
/-- The handler's own result, with the path error where no handler is reached. -/
def dispatched (c : Option Command) (h : Handler σ) : Except Code (Payload × Handler σ) :=
  match c with
  | some c => c.handle X S cfg h
  | none => .error .path

theorem handleInstruction_eq (a : Ambient) (df : DataFixed) (h : Handler σ) :
    handleInstruction X S cfg a df h = reply df.opType df.opCommand h
      (dispatched X S cfg ((Event.instruction a df : Event σ).command X cfg) h) := by
  simp only [handleInstruction, Event.command]
  congr 1
  split_ifs <;> rfl

theorem handleDirect_eq (a : Ambient) (di : DirectInstruction) (h : Handler σ) :
    handleDirect X S cfg a di h = reply di.opType di.opCommand h
      (dispatched X S cfg ((Event.direct a di : Event σ).command X cfg) h) := by
  simp only [handleDirect, Event.command]
  congr 1
  split_ifs <;> rfl

theorem reply_settles (opType opCommand : Bytes32) (r : Except Code (Payload × Handler σ)) :
    (reply opType opCommand h r).2 = settle h (r.map Prod.snd) ∧
      (if (reply opType opCommand h r).1.status = 1 then (reply opType opCommand h r).1.data
        else none) = r.toOption.map Prod.fst := by
  cases r with
  | error code => exact ⟨rfl, rfl⟩
  | ok v => exact ⟨rfl, rfl⟩

/-- An event settles what it was dispatched to, and reports its success. -/
theorem exec_dispatched (hcall : ∀ f, e ≠ .background f) :
    e.exec X S cfg h = settle h ((dispatched X S cfg (e.command X cfg) h).map Prod.snd) ∧
      e.answer X S cfg h = (dispatched X S cfg (e.command X cfg) h).toOption.map Prod.fst := by
  cases e with
  | background f => exact absurd rfl (hcall f)
  | instruction a df =>
    simp only [Event.exec, Event.answer, Event.result, Option.bind_some, handleInstruction_eq]
    exact reply_settles _ _ _
  | direct a di =>
    simp only [Event.exec, Event.answer, Event.result, Option.bind_some, handleDirect_eq]
    exact reply_settles _ _ _

theorem exec_command {c : Command} (hc : e.command X cfg = some c) :
    e.exec X S cfg h = settle h ((c.handle X S cfg h).map Prod.snd) ∧
      e.answer X S cfg h = (c.handle X S cfg h).toOption.map Prod.fst := by
  have hcall : ∀ f, e ≠ .background f := by
    rintro f rfl
    cases hc
  have hdispatched := @exec_dispatched σ X S cfg e h hcall
  rw [hc] at hdispatched
  exact hdispatched

/-- Any other event leaves the book alone and reports no success. -/
theorem exec_no_command (hc : e.command X cfg = none) :
    (e.exec X S cfg h).book = h.book ∧ e.answer X S cfg h = none := by
  by_cases hcall : ∀ f, e ≠ .background f
  · obtain ⟨hexec, hanswer⟩ := @exec_dispatched σ X S cfg e h hcall
    rw [hexec, hanswer, hc]
    exact ⟨rfl, rfl⟩
  · obtain ⟨f, hf⟩ := not_forall.mp hcall
    rw [not_not.mp hf]
    exact ⟨rfl, rfl⟩

/-- What a successful RFQ_MATCH read and did. -/
theorem handleMatchMessage_eq_ok {a : Ambient} {data : Bytes} {p : Payload} {h' : Handler σ} :
    handleMatchMessage X S cfg a data h = .ok (p, h') ↔
      ∃ rfqID snap o, decodeRfqID X data = some rfqID ∧ matchSnap S a rfqID h = .ok snap ∧
        matchWithSigner X.toLibraries h.book cfg.matcher cfg.escrowAddr cfg.chainID (signClient a)
          a.quotesOrder rfqID snap a.now = .ok (o, h'.book) ∧
        p = .matchResponse o ∧ h'.chain = h.chain := by
  simp only [handleMatchMessage, handleMatch, bind_eq_ok, orRevert_eq_ok, mapError_eq_ok, pure_eq_ok,
    Prod.mk.injEq]
  constructor
  · rintro ⟨rfqID, hid, snap, hsnap, ⟨o, book⟩, hmatch, rfl, rfl⟩
    exact ⟨rfqID, snap, o, hid, hsnap, hmatch, rfl, rfl⟩
  · rintro ⟨rfqID, snap, o, hid, hsnap, hmatch, rfl, hchain⟩
    refine ⟨rfqID, hid, snap, hsnap, (o, h'.book), hmatch, rfl, ?_⟩
    rw [← hchain]

end Commands

end WhisperDesk.Fcewire
