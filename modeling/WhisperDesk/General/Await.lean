import Mathlib

/-!
# Programs cut at their awaits

A program acts on a shared state one atomic action at a time. Before each
action the rest of the world may change the state by a relation `R`, the rely;
an assertion that `R` keeps is stable. The rules follow the program text:
what holds before an action and is stable holds when the action happens. What the
actions met on the way can be recorded beside the state.
-/
namespace Await

/-- `next` continues with what the action saw. -/
inductive Program (σ ε α : Type) where
  | done (a : α)
  | throw (e : ε)
  | atomic (act : σ → σ) (next : σ → Program σ ε α)

variable {σ ε α β : Type}

namespace Program

def bind (x : Program σ ε α) (k : α → Program σ ε β) : Program σ ε β :=
  match x with
  | .done a => k a
  | .throw e => .throw e
  | .atomic act next => .atomic act fun s => (next s).bind k

instance : Monad (Program σ ε) where
  pure := .done
  bind := Program.bind

/-- An awaited read. -/
def read (f : σ → α) : Program σ ε α := .atomic id fun s => .done (f s)

/-- An awaited call, which fails without a trace or changes the state. -/
def call (f : σ → Except ε (α × σ)) : Program σ ε α :=
  .atomic
    (fun s =>
      match f s with
      | .ok (_, s') => s'
      | .error _ => s)
    (fun s =>
      match f s with
      | .ok (a, _) => .done a
      | .error e => .throw e)

/-- A program on a part of a larger state, with its errors reworded. -/
def on {τ δ : Type} (get : τ → σ) (put : τ → σ → τ) (word : ε → δ) : Program σ ε α → Program τ δ α
  | .done a => .done a
  | .throw e => .throw (word e)
  | .atomic act next =>
    .atomic (fun t => put t (act (get t))) fun t => (next (get t)).on get put word

/-- An awaited read that may fail. -/
def ask (f : σ → Except ε α) : Program σ ε α := .call fun s => (f s).map fun a => (a, s)

theorem answer_eq_ok {x : Except ε α} {a : α} {s s' : σ} :
    (x.map fun a => (a, s)) = .ok (a, s') ↔ x = .ok a ∧ s = s' := by
  cases x <;> simp [Except.map]

theorem answer_eq_error {x : Except ε α} {e : ε} {s : σ} :
    (x.map fun a => (a, s)) = .error e ↔ x = .error e := by
  cases x <;> simp [Except.map]

/-- The program with a record of the states that its actions meet, the last first. -/
def traced : Program σ ε α → Program (σ × List σ) ε α
  | .done a => .done a
  | .throw e => .throw e
  | .atomic act next => .atomic (fun p => (act p.1, p.1 :: p.2)) fun p => (next p.1).traced

theorem traced_bind (x : Program σ ε α) (k : α → Program σ ε β) :
    (x >>= k).traced = x.traced >>= fun a => (k a).traced := by
  change (x.bind k).traced = x.traced.bind fun a => (k a).traced
  induction x with
  | done a => rfl
  | throw e => rfl
  | atomic act next ih => simp only [Program.bind, traced, ih]

/-- What the program comes to when nobody interferes. -/
def alone : Program σ ε α → σ → Except ε α × σ
  | .done a, s => (.ok a, s)
  | .throw e, s => (.error e, s)
  | .atomic act next, s => (next s).alone (act s)

/-- Every action of the program keeps `I`. -/
inductive Keeps (I : σ → Prop) : Program σ ε α → Prop
  | done (a : α) : Keeps I (.done a)
  | throw (e : ε) : Keeps I (.throw e)
  | atomic {act : σ → σ} {next : σ → Program σ ε α} (hact : ∀ s, I s → I (act s))
      (hnext : ∀ s, I s → Keeps I (next s)) : Keeps I (.atomic act next)

namespace Keeps

variable {I : σ → Prop}

theorem bind {x : Program σ ε α} {k : α → Program σ ε β} (hx : x.Keeps I) (hk : ∀ a, (k a).Keeps I) :
    (x >>= k).Keeps I := by
  change (x.bind k).Keeps I
  induction hx with
  | done a => exact hk a
  | throw e => exact .throw e
  | atomic hact _ ih => exact .atomic hact ih

theorem read (f : σ → α) : (Program.read f : Program σ ε α).Keeps I :=
  .atomic (fun _ h => h) fun _ _ => .done _

theorem call {f : σ → Except ε (α × σ)} (h : ∀ s a s', I s → f s = .ok (a, s') → I s') :
    (Program.call f).Keeps I := by
  refine .atomic (fun s hs => ?_) fun s hs => ?_
  · cases hf : f s with
    | ok v => exact h s v.1 v.2 hs hf
    | error e => exact hs
  · cases hf : f s with
    | ok v => exact .done v.1
    | error e => exact .throw e

theorem ask (f : σ → Except ε α) : (Program.ask f).Keeps I := by
  refine call fun s a s' hs hf => ?_
  obtain ⟨_, rfl⟩ := answer_eq_ok.mp hf
  exact hs

theorem on {τ δ : Type} {get : τ → σ} {put : τ → σ → τ} {word : ε → δ} {J : τ → Prop}
    {x : Program σ ε α} (hx : x.Keeps I) (hget : ∀ t, J t → I (get t))
    (hput : ∀ t s, J t → I s → J (put t s)) : (x.on get put word).Keeps J := by
  induction hx with
  | done a => exact .done a
  | throw e => exact .throw _
  | atomic hact _ ih =>
    exact .atomic (fun t ht => hput t _ ht (hact _ (hget t ht))) fun t ht => ih _ (hget t ht)

end Keeps

end Program

open Program

/-- The program's runs among the interference that `R` allows. -/
inductive Runs (R : σ → σ → Prop) : σ → Program σ ε α → Except ε α → σ → Prop
  | done {s : σ} (a : α) : Runs R s (.done a) (.ok a) s
  | throw {s : σ} (e : ε) : Runs R s (.throw e) (.error e) s
  | atomic {s u t : σ} {act : σ → σ} {next : σ → Program σ ε α} {r : Except ε α} (hrely : R s u)
      (h : Runs R (act u) (next u) r t) : Runs R s (.atomic act next) r t

/-- Where it is allowed that nothing interferes, the program alone is one of its runs. -/
theorem runs_alone {R : σ → σ → Prop} {I : σ → Prop} (hrely : ∀ s, I s → R s s) {x : Program σ ε α}
    (hx : x.Keeps I) {s : σ} (hs : I s) : Runs R s x (x.alone s).1 (x.alone s).2 := by
  induction hx generalizing s with
  | done a => exact .done a
  | throw e => exact .throw e
  | atomic hact _ ih => exact .atomic (hrely s hs) (ih s hs (hact s hs))

/-- The others leave the record alone. -/
def Beside (R : σ → σ → Prop) (p q : σ × List σ) : Prop := R p.1 q.1 ∧ q.2 = p.2

theorem runs_of_traced {R : σ → σ → Prop} {x : Program σ ε α} {p q : σ × List σ} {r : Except ε α}
    (h : Runs (Beside R) p x.traced r q) : Runs R p.1 x r q.1 := by
  induction x generalizing p with
  | done a =>
    cases h
    exact .done a
  | throw e =>
    cases h
    exact .throw e
  | atomic act next ih =>
    cases h with
    | @atomic _ u _ _ _ _ hrely hnext => exact .atomic hrely.1 (ih u.1 hnext)

/-- Every run leaves a record. -/
theorem exists_traced {R : σ → σ → Prop} {x : Program σ ε α} {s t : σ} {r : Except ε α}
    (h : Runs R s x r t) (met : List σ) :
    ∃ met', Runs (Beside R) (s, met) x.traced r (t, met') := by
  induction h generalizing met with
  | done a => exact ⟨met, .done a⟩
  | throw e => exact ⟨met, .throw e⟩
  | @atomic s u _ act _ _ hrely _ ih =>
    obtain ⟨met', hrun⟩ := ih (u :: met)
    exact ⟨met', .atomic (show Beside _ (s, met) (u, met) from ⟨hrely, rfl⟩) hrun⟩

/-- On a part: the runs are those on the part, and what `F` says of the rest stays. -/
theorem runs_on {τ δ : Type} {get : τ → σ} {put : τ → σ → τ} {word : ε → δ} {R : τ → τ → Prop}
    {S : σ → σ → Prop} {F : τ → Prop} (hget : ∀ t s, get (put t s) = s)
    (hput : ∀ t s, F t → F (put t s)) (hrely : ∀ t u, F t → R t u → S (get t) (get u) ∧ F u)
    {x : Program σ ε α} {t u : τ} {r : Except δ α} (ht : F t) (h : Runs R t (x.on get put word) r u) :
    ∃ r', Runs S (get t) x r' (get u) ∧ r = r'.mapError word ∧ F u := by
  induction x generalizing t with
  | done a =>
    cases h
    exact ⟨_, .done a, rfl, ht⟩
  | throw e =>
    cases h
    exact ⟨_, .throw e, rfl, ht⟩
  | atomic act next ih =>
    cases h with
    | @atomic _ v _ _ _ _ hstep hnext =>
      obtain ⟨hpart, hv⟩ := hrely t v ht hstep
      obtain ⟨r', hruns, hr, hu⟩ := ih (get v) (hput v (act (get v)) hv) hnext
      rw [hget] at hruns
      exact ⟨r', .atomic hpart hruns, hr, hu⟩

def Stable (R : σ → σ → Prop) (P : σ → Prop) : Prop := ∀ s u, P s → R s u → P u

theorem Stable.fst {R : σ → σ → Prop} {P : σ → Prop} (h : Stable R P) :
    Stable (Beside R) fun p => P p.1 :=
  fun _ _ hp hrely => h _ _ hp hrely.1

theorem Stable.beside {R : σ → σ → Prop} {P : σ → Prop} (h : Stable R P) (Φ : List σ → Prop) :
    Stable (Beside R) fun p => P p.1 ∧ Φ p.2 := by
  rintro p q ⟨hp, hmet⟩ ⟨hrely, hsame⟩
  exact ⟨h _ _ hp hrely, hsame ▸ hmet⟩

/-- Started where `P` holds, the program ends as `Q` says, with a value or an error. -/
def Meets (R : σ → σ → Prop) (P : σ → Prop) (x : Program σ ε α) (Q : Except ε α → σ → Prop) : Prop :=
  ∀ s r t, P s → Runs R s x r t → Q r t

/-- Between two parts: what the second starts from, or the error that ends both. -/
def Then (P : α → σ → Prop) (Q : Except ε β → σ → Prop) : Except ε α → σ → Prop
  | .ok a, s => P a s
  | .error e, s => Q (.error e) s

namespace Meets

variable {R : σ → σ → Prop} {P P' : σ → Prop} {Q Q' : Except ε α → σ → Prop} {x : Program σ ε α}

theorem pre (hx : Meets R P x Q) (h : ∀ s, P' s → P s) : Meets R P' x Q :=
  fun s r t hs => hx s r t (h s hs)

theorem post (hx : Meets R P x Q) (h : ∀ r s, Q r s → Q' r s) : Meets R P x Q' :=
  fun s r t hs hrun => h r t (hx s r t hs hrun)

/-- A precondition that does not depend on the state is a hypothesis. -/
theorem of_pure {p : Prop} (h : p → Meets R P x Q) : Meets R (fun s => P s ∧ p) x Q :=
  fun s r t hs hrun => h hs.2 s r t hs.1 hrun

theorem of_exists {ι : Type} {Φ : ι → Prop} {S : ι → σ → Prop}
    (h : ∀ i, Φ i → Meets R (S i) x Q) : Meets R (fun s => ∃ i, Φ i ∧ S i s) x Q := by
  rintro s r t ⟨i, hi, hs⟩ hrun
  exact h i hi s r t hs hrun

theorem done {a : α} (h : ∀ s, P s → Q (.ok a) s) : Meets R P (Program.done a) Q := by
  intro s r t hs hrun
  cases hrun
  exact h s hs

theorem throw {e : ε} (h : ∀ s, P s → Q (.error e) s) : Meets R P (Program.throw e) Q := by
  intro s r t hs hrun
  cases hrun
  exact h s hs

theorem read {f : σ → α} (hstable : Stable R P) (h : ∀ s, P s → Q (.ok (f s)) s) :
    Meets R P (Program.read f) Q := by
  intro s r t hs hrun
  cases hrun with
  | atomic hrely hnext =>
    cases hnext
    exact h _ (hstable _ _ hs hrely)

theorem call {f : σ → Except ε (α × σ)} (hstable : Stable R P)
    (hok : ∀ s a s', P s → f s = .ok (a, s') → Q (.ok a) s')
    (herror : ∀ s e, P s → f s = .error e → Q (.error e) s) : Meets R P (Program.call f) Q := by
  intro s r t hs hrun
  cases hrun with
  | @atomic _ u _ _ _ _ hrely hnext =>
    have hu := hstable _ _ hs hrely
    cases hf : f u with
    | ok v =>
      simp only [hf] at hnext
      cases hnext
      exact hok u v.1 v.2 hu hf
    | error e =>
      simp only [hf] at hnext
      cases hnext
      exact herror _ e hu hf

/-- A call that cannot fail where `P` holds. -/
theorem call_ok {f : σ → Except ε (α × σ)} (hstable : Stable R P)
    (h : ∀ s, P s → ∃ a s', f s = .ok (a, s') ∧ Q (.ok a) s') : Meets R P (Program.call f) Q := by
  refine call hstable ?_ ?_
  · intro s a s' hs hf
    obtain ⟨a', t, hok, hq⟩ := h s hs
    rw [hf, Except.ok.injEq, Prod.mk.injEq] at hok
    obtain ⟨rfl, rfl⟩ := hok
    exact hq
  · intro s e hs hf
    obtain ⟨a', t, hok, _⟩ := h s hs
    rw [hf] at hok
    cases hok

/-- An action, and what it leaves of the state it met. -/
theorem atomic {act : σ → σ} {next : σ → Program σ ε α} {S : σ → σ → Prop} (hstable : Stable R P)
    (hact : ∀ s, P s → S s (act s)) (hnext : ∀ s, Meets R (S s) (next s) Q) :
    Meets R P (Program.atomic act next) Q := by
  intro s r t hs hrun
  cases hrun with
  | @atomic _ u _ _ _ _ hrely hrest =>
    exact hnext u _ r t (hact u (hstable s u hs hrely)) hrest

theorem on {τ δ : Type} {get : τ → σ} {put : τ → σ → τ} {word : ε → δ} {S : τ → τ → Prop} {F : τ → Prop}
    (hx : Meets R P x Q) (hget : ∀ t s, get (put t s) = s) (hput : ∀ t s, F t → F (put t s))
    (hrely : ∀ t u, F t → S t u → R (get t) (get u) ∧ F u) :
    Meets S (fun t => P (get t) ∧ F t) (x.on get put word)
      (fun r t => ∃ r', r = r'.mapError word ∧ Q r' (get t) ∧ F t) := by
  rintro t r u ⟨hp, hf⟩ hrun
  obtain ⟨r', hruns, rfl, hu⟩ := runs_on hget hput hrely hf hrun
  exact ⟨r', rfl, hx _ _ _ hp hruns, hu⟩

theorem ask {f : σ → Except ε α} (hstable : Stable R P)
    (hok : ∀ s a, P s → f s = .ok a → Q (.ok a) s)
    (herror : ∀ s e, P s → f s = .error e → Q (.error e) s) : Meets R P (Program.ask f) Q := by
  refine call hstable ?_ ?_
  · intro s a s' hs hf
    obtain ⟨hfs, rfl⟩ := answer_eq_ok.mp hf
    exact hok s a hs hfs
  · intro s e hs hf
    exact herror s e hs (answer_eq_error.mp hf)

theorem bind {k : α → Program σ ε β} {S : α → σ → Prop} {Q : Except ε β → σ → Prop}
    (hx : Meets R P x (Then S Q)) (hk : ∀ a, Meets R (S a) (k a) Q) : Meets R P (x >>= k) Q := by
  intro s r t hs hrun
  change Runs R s (x.bind k) r t at hrun
  induction x generalizing s P with
  | done a => exact hk a s r t (hx s _ s hs (.done a)) hrun
  | throw e =>
    cases hrun
    exact hx _ _ _ hs (.throw e)
  | atomic act next ih =>
    cases hrun with
    | @atomic _ u _ _ _ _ hrely hnext =>
      refine ih u (P := fun s' => s' = act u) ?_ (act u) rfl hnext
      rintro _ r' t' rfl hrun'
      exact hx s r' t' hs (.atomic hrely hrun')

/-- What is known of the program is known of it with its record. -/
theorem traced (hx : Meets R P x Q) :
    Meets (Beside R) (fun p => P p.1) x.traced fun r p => Q r p.1 :=
  fun p r q hp hrun => hx p.1 r q.1 hp (runs_of_traced hrun)

/-- The same of a part that another one follows, where the end of both may look at the record. -/
theorem traced_then {S : α → σ → Prop} {Q : Except ε β → σ × List σ → Prop}
    (hx : Meets R P x (Then S fun r s => ∀ met, Q r (s, met))) :
    Meets (Beside R) (fun p => P p.1) x.traced (Then (fun a p => S a p.1) Q) := by
  refine hx.traced.post fun r p h => ?_
  cases r with
  | ok a => exact h
  | error e => exact h p.2

section Traced

variable {P : σ × List σ → Prop} {Q : Except ε α → σ × List σ → Prop}

theorem read_traced {f : σ → α} (hstable : Stable (Beside R) P)
    (h : ∀ s met, P (s, met) → Q (.ok (f s)) (s, s :: met)) :
    Meets (Beside R) P (Program.read f).traced Q := by
  intro p r q hp hrun
  cases hrun with
  | atomic hrely hnext =>
    cases hnext
    exact h _ _ (hstable _ _ hp hrely)

theorem call_traced {f : σ → Except ε (α × σ)} (hstable : Stable (Beside R) P)
    (hok : ∀ s met a s', P (s, met) → f s = .ok (a, s') → Q (.ok a) (s', s :: met))
    (herror : ∀ s met e, P (s, met) → f s = .error e → Q (.error e) (s, s :: met)) :
    Meets (Beside R) P (Program.call f).traced Q := by
  intro p r q hp hrun
  cases hrun with
  | @atomic _ u _ _ _ _ hrely hnext =>
    have hu := hstable _ _ hp hrely
    cases hf : f u.1 with
    | ok v =>
      simp only [hf, Program.traced] at hnext
      cases hnext
      exact hok u.1 u.2 v.1 v.2 hu hf
    | error e =>
      simp only [hf, Program.traced] at hnext
      cases hnext
      exact herror u.1 u.2 e hu hf

theorem ask_traced {f : σ → Except ε α} (hstable : Stable (Beside R) P)
    (hok : ∀ s met a, P (s, met) → f s = .ok a → Q (.ok a) (s, s :: met))
    (herror : ∀ s met e, P (s, met) → f s = .error e → Q (.error e) (s, s :: met)) :
    Meets (Beside R) P (Program.ask f).traced Q := by
  refine call_traced hstable ?_ ?_
  · intro s met a s' hs hf
    obtain ⟨hfs, rfl⟩ := answer_eq_ok.mp hf
    exact hok s met a hs hfs
  · intro s met e hs hf
    exact herror s met e hs (answer_eq_error.mp hf)

end Traced

end Meets

end Await
