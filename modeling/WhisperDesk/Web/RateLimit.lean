import WhisperDesk.General.Window
import Mathlib.Data.Nat.Init
import Mathlib.Logic.Function.Basic

/-!
# The rate limiter

`checkAndConsume` prunes the times it has kept for the caller and for the kind, and writes a
pruned list back only on some paths. It answers as a limiter would that forgets nothing: from what
it has accepted in the last 24 hours.
-/
namespace WhisperDesk.Web.RateLimit

open Function (update)
open Window (recent)

section Limiter

def windowMs : Nat := 24 * 60 * 60 * 1000

inductive RateLimitKind where
  | demoLock
  | demoAttest
  | demoPay
  | makerFaucet
  | makerOpenRfq
  | makerJoinRfq
  | takerOpenRfq
  | makerQuote
  | makerMatch
  | makerSettle
  | makerXrplAccount
  | makerPay
  deriving DecidableEq

structure Limits where
  perIp : Nat
  global : Nat

def limits : RateLimitKind → Limits
  | .demoLock => ⟨3, 20⟩
  | .demoAttest => ⟨5, 30⟩
  | .demoPay => ⟨5, 30⟩
  | .makerJoinRfq => ⟨30, 200⟩
  | .takerOpenRfq => ⟨5, 40⟩
  | .makerFaucet => ⟨5, 30⟩
  | .makerOpenRfq => ⟨3, 20⟩
  | .makerQuote => ⟨8, 40⟩
  | .makerMatch => ⟨5, 30⟩
  | .makerSettle => ⟨5, 30⟩
  | .makerXrplAccount => ⟨5, 30⟩
  | .makerPay => ⟨5, 30⟩

inductive Scope where
  | ip
  | global
  deriving DecidableEq

inductive RateLimitResult where
  | ok
  | refused (retryAfterSeconds : Nat) (scope : Scope)
  deriving DecidableEq

structure Limiter where
  ipHits : RateLimitKind → String → List Nat
  globalHits : RateLimitKind → List Nat

/-- As the module starts. -/
def Limiter.empty : Limiter := ⟨fun _ _ => [], fun _ => []⟩

def pruneOld (timestamps : List Nat) (now : Nat) : List Nat := recent windowMs now timestamps

/-- To the oldest one's end, in whole seconds rounded up. -/
def retryAfterFrom (timestamps : List Nat) (now : Nat) : Nat :=
  match timestamps.min? with
  | none => 0
  | some oldest => (oldest + windowMs - now + 999) / 1000

structure Call where
  kind : RateLimitKind
  ip : String
  now : Nat
  deriving DecidableEq

def Limiter.setIpHits (s : Limiter) (c : Call) (timestamps : List Nat) : Limiter :=
  { s with ipHits := update s.ipHits c.kind (update (s.ipHits c.kind) c.ip timestamps) }

def Limiter.setGlobalHits (s : Limiter) (c : Call) (timestamps : List Nat) : Limiter :=
  { s with globalHits := update s.globalHits c.kind timestamps }

def checkAndConsume (s : Limiter) (c : Call) : RateLimitResult × Limiter :=
  let ipTimestamps := pruneOld (s.ipHits c.kind c.ip) c.now
  let globalTimestamps := pruneOld (s.globalHits c.kind) c.now
  if ipTimestamps.length ≥ (limits c.kind).perIp then
    (.refused (retryAfterFrom ipTimestamps c.now) .ip, s.setIpHits c ipTimestamps)
  else if globalTimestamps.length ≥ (limits c.kind).global then
    (.refused (retryAfterFrom globalTimestamps c.now) .global, s.setGlobalHits c globalTimestamps)
  else
    (.ok, (s.setIpHits c (ipTimestamps ++ [c.now])).setGlobalHits c (globalTimestamps ++ [c.now]))

structure Answer where
  call : Call
  result : RateLimitResult
  deriving DecidableEq

def Limiter.answers (s : Limiter) : List Call → List Answer
  | [] => []
  | c :: calls => ⟨c, (checkAndConsume s c).1⟩ :: Limiter.answers (checkAndConsume s c).2 calls

/-- What the calls of a run are answered. -/
def answers (calls : List Call) : List Answer := Limiter.empty.answers calls

end Limiter

section Memory

/-- The times accepted for the caller. -/
def ipTimes (accepted : List Call) (kind : RateLimitKind) (ip : String) : List Nat :=
  (accepted.filter fun c => c.kind = kind ∧ c.ip = ip).map Call.now

/-- The times accepted for the kind. -/
def globalTimes (accepted : List Call) (kind : RateLimitKind) : List Nat :=
  (accepted.filter fun c => c.kind = kind).map Call.now

/-- What is answered from all that was ever accepted. -/
def answerFrom (accepted : List Call) (c : Call) : RateLimitResult :=
  if (limits c.kind).perIp ≤ (recent windowMs c.now (ipTimes accepted c.kind c.ip)).length then
    .refused (retryAfterFrom (recent windowMs c.now (ipTimes accepted c.kind c.ip)) c.now) .ip
  else if (limits c.kind).global ≤ (recent windowMs c.now (globalTimes accepted c.kind)).length then
    .refused (retryAfterFrom (recent windowMs c.now (globalTimes accepted c.kind)) c.now) .global
  else .ok

def remember (accepted : List Call) (c : Call) : List Call :=
  if answerFrom accepted c = .ok then accepted ++ [c] else accepted

def answersFrom (accepted : List Call) : List Call → List Answer
  | [] => []
  | c :: calls => ⟨c, answerFrom accepted c⟩ :: answersFrom (remember accepted c) calls

def remembered (accepted : List Call) (calls : List Call) : List Call := calls.foldl remember accepted

/-- The calls that were let through. -/
def accepted (answers : List Answer) : List Call :=
  (answers.filter fun a => a.result = .ok).map Answer.call

variable {past : List Call} {c : Call} {now : Nat}

theorem ipTimes_concat (kind : RateLimitKind) (ip : String) :
    ipTimes (past ++ [c]) kind ip =
      ipTimes past kind ip ++ if c.kind = kind ∧ c.ip = ip then [c.now] else [] := by
  by_cases hsame : c.kind = kind ∧ c.ip = ip
  · simp [ipTimes, hsame]
  · simp [ipTimes, hsame]

theorem globalTimes_concat (kind : RateLimitKind) :
    globalTimes (past ++ [c]) kind =
      globalTimes past kind ++ if c.kind = kind then [c.now] else [] := by
  by_cases hsame : c.kind = kind
  · simp [globalTimes, hsame]
  · simp [globalTimes, hsame]

theorem remember_refused (h : answerFrom past c ≠ .ok) : remember past c = past := if_neg h

theorem remembered_accepted (past calls : List Call) :
    remembered past calls = past ++ accepted (answersFrom past calls) := by
  induction calls generalizing past with
  | nil => simp [remembered, answersFrom, accepted]
  | cons c calls ih =>
    change remembered (remember past c) calls = _
    rw [ih]
    by_cases hok : answerFrom past c = .ok
    · simp [answersFrom, accepted, remember, hok]
    · simp [answersFrom, accepted, remember, hok]

theorem answersFrom_getElem? (past calls : List Call) (i : Nat) :
    (answersFrom past calls)[i]? =
      calls[i]?.map fun c => ⟨c, answerFrom (remembered past (calls.take i)) c⟩ := by
  induction calls generalizing past i with
  | nil => simp [answersFrom]
  | cons c calls ih =>
    cases i with
    | zero => simp [answersFrom, remembered]
    | succ i => simp [answersFrom, remembered, ih]

theorem answersFrom_eq_some {calls : List Call} {i : Nat} {result : RateLimitResult} :
    (answersFrom past calls)[i]? = some ⟨c, result⟩ ↔
      calls[i]? = some c ∧ answerFrom (remembered past (calls.take i)) c = result := by
  rw [answersFrom_getElem?, Option.map_eq_some_iff]
  constructor
  · rintro ⟨_, hc, ⟨⟩⟩
    exact ⟨hc, rfl⟩
  · rintro ⟨hc, rfl⟩
    exact ⟨c, hc, rfl⟩

end Memory

section Refinement

/-- The limiter keeps, of what it has accepted, all that can still count. -/
structure Tracks (s : Limiter) (past : List Call) (now : Nat) : Prop where
  ip : ∀ kind ip later, now ≤ later →
    recent windowMs later (s.ipHits kind ip) = recent windowMs later (ipTimes past kind ip)
  global : ∀ kind later, now ≤ later →
    recent windowMs later (s.globalHits kind) = recent windowMs later (globalTimes past kind)

variable {s : Limiter} {past : List Call} {c : Call} {now : Nat}

theorem setIpHits_ipHits (timestamps : List Nat) (kind : RateLimitKind) (ip : String) :
    (s.setIpHits c timestamps).ipHits kind ip =
      if c.kind = kind ∧ c.ip = ip then timestamps else s.ipHits kind ip := by
  change update s.ipHits c.kind (update (s.ipHits c.kind) c.ip timestamps) kind ip = _
  by_cases hkind : c.kind = kind
  · subst hkind
    rw [Function.update_self]
    by_cases hip : c.ip = ip
    · rw [hip, Function.update_self, if_pos ⟨rfl, rfl⟩]
    · rw [Function.update_of_ne (Ne.symm hip), if_neg fun h => hip h.2]
  · rw [Function.update_of_ne (Ne.symm hkind), if_neg fun h => hkind h.1]

theorem setGlobalHits_globalHits (timestamps : List Nat) (kind : RateLimitKind) :
    (s.setGlobalHits c timestamps).globalHits kind =
      if c.kind = kind then timestamps else s.globalHits kind := by
  change update s.globalHits c.kind timestamps kind = _
  by_cases hkind : c.kind = kind
  · rw [hkind, Function.update_self, if_pos rfl]
  · rw [Function.update_of_ne (Ne.symm hkind), if_neg hkind]

namespace Tracks

/-- The lists may be written back as pruned. -/
theorem pruneIp (h : Tracks s past now) (hnow : now ≤ c.now) :
    Tracks (s.setIpHits c (pruneOld (s.ipHits c.kind c.ip) c.now)) past c.now where
  ip kind ip later hlater := by
    rw [setIpHits_ipHits]
    by_cases hsame : c.kind = kind ∧ c.ip = ip
    · obtain ⟨rfl, rfl⟩ := hsame
      rw [if_pos ⟨rfl, rfl⟩, pruneOld, Window.recent_recent hlater]
      exact h.ip _ _ later (Nat.le_trans hnow hlater)
    · rw [if_neg hsame]
      exact h.ip kind ip later (Nat.le_trans hnow hlater)
  global kind later hlater := h.global kind later (Nat.le_trans hnow hlater)

theorem pruneGlobal (h : Tracks s past now) (hnow : now ≤ c.now) :
    Tracks (s.setGlobalHits c (pruneOld (s.globalHits c.kind) c.now)) past c.now where
  ip kind ip later hlater := h.ip kind ip later (Nat.le_trans hnow hlater)
  global kind later hlater := by
    rw [setGlobalHits_globalHits]
    by_cases hsame : c.kind = kind
    · subst hsame
      rw [if_pos rfl, pruneOld, Window.recent_recent hlater]
      exact h.global _ later (Nat.le_trans hnow hlater)
    · rw [if_neg hsame]
      exact h.global kind later (Nat.le_trans hnow hlater)

theorem consume (h : Tracks s past now) (hnow : now ≤ c.now) :
    Tracks ((s.setIpHits c (pruneOld (s.ipHits c.kind c.ip) c.now ++ [c.now])).setGlobalHits c
      (pruneOld (s.globalHits c.kind) c.now ++ [c.now])) (past ++ [c]) c.now where
  ip kind ip later hlater := by
    change recent windowMs later ((s.setIpHits c _).ipHits kind ip) = _
    rw [setIpHits_ipHits, ipTimes_concat, Window.recent_append]
    by_cases hsame : c.kind = kind ∧ c.ip = ip
    · obtain ⟨rfl, rfl⟩ := hsame
      rw [if_pos ⟨rfl, rfl⟩, if_pos ⟨rfl, rfl⟩, pruneOld, Window.recent_append,
        Window.recent_recent hlater, h.ip _ _ later (Nat.le_trans hnow hlater)]
    · rw [if_neg hsame, if_neg hsame, h.ip kind ip later (Nat.le_trans hnow hlater)]
      exact (List.append_nil _).symm
  global kind later hlater := by
    rw [setGlobalHits_globalHits, globalTimes_concat, Window.recent_append]
    by_cases hsame : c.kind = kind
    · subst hsame
      rw [if_pos rfl, if_pos rfl, pruneOld, Window.recent_append, Window.recent_recent hlater,
        h.global _ later (Nat.le_trans hnow hlater)]
    · rw [if_neg hsame, if_neg hsame]
      change recent windowMs later (s.globalHits kind) = _
      rw [h.global kind later (Nat.le_trans hnow hlater)]
      exact (List.append_nil _).symm

/-- A call is answered from memory, and remembered if it is accepted. -/
theorem call (h : Tracks s past now) (hnow : now ≤ c.now) :
    (checkAndConsume s c).1 = answerFrom past c ∧
      Tracks (checkAndConsume s c).2 (remember past c) c.now := by
  have hip : pruneOld (s.ipHits c.kind c.ip) c.now = recent windowMs c.now (ipTimes past c.kind c.ip) :=
    h.ip c.kind c.ip c.now hnow
  have hglobal : pruneOld (s.globalHits c.kind) c.now =
      recent windowMs c.now (globalTimes past c.kind) := h.global c.kind c.now hnow
  unfold checkAndConsume remember answerFrom
  simp only [← hip, ← hglobal]
  by_cases hfull : (pruneOld (s.ipHits c.kind c.ip) c.now).length ≥ (limits c.kind).perIp
  · simp only [if_pos hfull]
    exact ⟨trivial, h.pruneIp hnow⟩
  · simp only [if_neg hfull]
    by_cases hall : (pruneOld (s.globalHits c.kind) c.now).length ≥ (limits c.kind).global
    · simp only [if_pos hall]
      exact ⟨trivial, h.pruneGlobal hnow⟩
    · simp only [if_neg hall]
      exact ⟨trivial, h.consume hnow⟩

end Tracks

/-- The clock of a run does not go back. -/
def Ordered (calls : List Call) : Prop := calls.Pairwise fun c later => c.now ≤ later.now

instance (calls : List Call) : Decidable (Ordered calls) :=
  inferInstanceAs (Decidable (calls.Pairwise fun c later => c.now ≤ later.now))

theorem Tracks.answers {calls : List Call} (h : Tracks s past now) (hclock : Ordered calls)
    (hnow : ∀ c ∈ calls, now ≤ c.now) : s.answers calls = answersFrom past calls := by
  induction calls generalizing s past now with
  | nil => rfl
  | cons c calls ih =>
    obtain ⟨hlater, hclock⟩ := List.pairwise_cons.mp hclock
    obtain ⟨hresult, htracks⟩ := h.call (hnow c List.mem_cons_self)
    rw [Limiter.answers, answersFrom, hresult, ih htracks hclock hlater]

theorem answers_eq {calls : List Call} (hclock : Ordered calls) : answers calls = answersFrom [] calls := by
  have hempty : Tracks Limiter.empty [] 0 := ⟨fun _ _ _ _ => rfl, fun _ _ _ => rfl⟩
  exact hempty.answers hclock fun c _ => Nat.zero_le _

end Refinement

section Bounds

variable {past calls : List Call} {c : Call} {now : Nat} {kind : RateLimitKind} {ip : String}

def limitOf (kind : RateLimitKind) : Scope → Nat
  | .ip => (limits kind).perIp
  | .global => (limits kind).global

def timesOf (past : List Call) (kind : RateLimitKind) (ip : String) : Scope → List Nat
  | .ip => ipTimes past kind ip
  | .global => globalTimes past kind

theorem limitOf_pos (kind : RateLimitKind) (scope : Scope) : 0 < limitOf kind scope := by
  cases scope with
  | ip => cases kind <;> decide
  | global => cases kind <;> decide

theorem answerFrom_refused {retryAfterSeconds : Nat} {scope : Scope}
    (h : answerFrom past c = .refused retryAfterSeconds scope) :
    limitOf c.kind scope ≤ (recent windowMs c.now (timesOf past c.kind c.ip scope)).length ∧
      retryAfterFrom (recent windowMs c.now (timesOf past c.kind c.ip scope)) c.now =
        retryAfterSeconds := by
  unfold answerFrom at h
  split at h
  case isTrue hfull =>
    cases h
    exact ⟨hfull, rfl⟩
  case isFalse =>
    split at h
    case isTrue hfull =>
      cases h
      exact ⟨hfull, rfl⟩
    case isFalse => cases h

theorem answerFrom_ok (h : answerFrom past c = .ok) (scope : Scope) :
    (recent windowMs c.now (timesOf past c.kind c.ip scope)).length < limitOf c.kind scope := by
  unfold answerFrom at h
  split at h
  case isTrue => cases h
  case isFalse hip =>
    split at h
    case isTrue => cases h
    case isFalse hglobal =>
      cases scope with
      | ip => exact Nat.lt_of_not_le hip
      | global => exact Nat.lt_of_not_le hglobal

/-- All that was let in found room, by then. -/
structure Kept (past : List Call) (now : Nat) : Prop where
  times : ∀ kind ip scope, Window.Admitted windowMs (limitOf kind scope) (timesOf past kind ip scope)
  before : ∀ c ∈ past, c.now ≤ now

theorem mem_timesOf {t : Nat} {scope : Scope} (h : t ∈ timesOf past kind ip scope) :
    ∃ c ∈ past, c.now = t := by
  cases scope with
  | ip =>
    obtain ⟨c, hc, rfl⟩ := List.mem_map.mp h
    exact ⟨c, (List.mem_filter.mp hc).1, rfl⟩
  | global =>
    obtain ⟨c, hc, rfl⟩ := List.mem_map.mp h
    exact ⟨c, (List.mem_filter.mp hc).1, rfl⟩

theorem Kept.latest (h : Kept past now) (scope : Scope) : ∀ t ∈ timesOf past kind ip scope, t ≤ now := by
  intro t ht
  obtain ⟨c, hc, rfl⟩ := mem_timesOf ht
  exact h.before c hc

theorem Kept.later (h : Kept past now) {later : Nat} (hlater : now ≤ later) : Kept past later where
  times := h.times
  before c hc := Nat.le_trans (h.before c hc) hlater

theorem Kept.remember (h : Kept past now) (hnow : now ≤ c.now) : Kept (remember past c) c.now := by
  by_cases hok : answerFrom past c = .ok
  · rw [RateLimit.remember, if_pos hok]
    constructor
    case times =>
      intro kind ip scope
      have hentered : Window.Admitted windowMs (limitOf c.kind scope)
          (timesOf past c.kind c.ip scope ++ [c.now]) :=
        .concat (h.times c.kind c.ip scope) ((h.later hnow).latest scope) (answerFrom_ok hok scope)
      cases scope with
      | ip =>
        change Window.Admitted _ _ (ipTimes (past ++ [c]) kind ip)
        rw [ipTimes_concat]
        by_cases hsame : c.kind = kind ∧ c.ip = ip
        · obtain ⟨rfl, rfl⟩ := hsame
          rw [if_pos ⟨rfl, rfl⟩]
          exact hentered
        · rw [if_neg hsame, List.append_nil]
          exact h.times kind ip .ip
      | global =>
        change Window.Admitted _ _ (globalTimes (past ++ [c]) kind)
        rw [globalTimes_concat]
        by_cases hsame : c.kind = kind
        · subst hsame
          rw [if_pos rfl]
          exact hentered
        · rw [if_neg hsame, List.append_nil]
          exact h.times kind ip .global
    case before =>
      intro d hd
      rcases List.mem_append.mp hd with hold | hnew
      · exact Nat.le_trans (h.before d hold) hnow
      · obtain rfl := List.mem_singleton.mp hnew
        exact Nat.le_refl _
  · rw [remember_refused hok]
    exact h.later hnow

theorem Kept.remembered (h : Kept past now) (hclock : Ordered calls)
    (hnow : ∀ c ∈ calls, now ≤ c.now) {later : Nat} (hlater : ∀ c ∈ calls, c.now ≤ later)
    (hle : now ≤ later) : Kept (remembered past calls) later := by
  induction calls generalizing past now with
  | nil => exact h.later hle
  | cons c calls ih =>
    obtain ⟨hnext, hclock⟩ := List.pairwise_cons.mp hclock
    exact ih (h.remember (hnow c List.mem_cons_self)) hclock hnext
      (fun d hd => hlater d (List.mem_cons_of_mem _ hd)) (hlater c List.mem_cons_self)

theorem exists_latest (calls : List Call) : ∃ later, ∀ c ∈ calls, c.now ≤ later := by
  induction calls with
  | nil => exact ⟨0, fun c hc => nomatch hc⟩
  | cons c calls ih =>
    obtain ⟨later, hlater⟩ := ih
    refine ⟨max c.now later, ?_⟩
    intro d hd
    rcases List.mem_cons.mp hd with rfl | hold
    · exact Nat.le_max_left ..
    · exact Nat.le_trans (hlater d hold) (Nat.le_max_right ..)

theorem kept_nil (now : Nat) : Kept [] now where
  times kind ip scope := by
    cases scope with
    | ip => exact .nil
    | global => exact .nil
  before c hc := nomatch hc

end Bounds

section Independence

variable {past calls : List Call} {c : Call}

/-- A refused call might as well not have been made. -/
theorem answersFrom_eraseIdx {i retryAfterSeconds : Nat} {scope : Scope}
    (h : (answersFrom past calls)[i]? = some ⟨c, .refused retryAfterSeconds scope⟩) :
    answersFrom past (calls.eraseIdx i) = (answersFrom past calls).eraseIdx i := by
  induction calls generalizing past i with
  | nil => cases h
  | cons d calls ih =>
    cases i with
    | zero =>
      have hresult : answerFrom past d = .refused retryAfterSeconds scope :=
        congrArg Answer.result (Option.some.inj h)
      have hrefused : answerFrom past d ≠ .ok := by
        rw [hresult]
        exact RateLimitResult.noConfusion
      simp only [answersFrom, List.eraseIdx_cons_zero, remember_refused hrefused]
    | succ i =>
      simp only [answersFrom, List.eraseIdx_cons_succ]
      rw [ih h]

theorem timesOf_filter (kind : RateLimitKind) (ip : String) (scope : Scope) :
    timesOf (past.filter fun c => c.kind = kind) kind ip scope = timesOf past kind ip scope := by
  cases scope with
  | ip =>
    simp only [timesOf, ipTimes, List.filter_filter]
    congr 2
    funext c
    by_cases hkind : c.kind = kind
    · simp [hkind]
    · simp [hkind]
  | global => simp [timesOf, globalTimes]

theorem answerFrom_congr {other : List Call}
    (h : (past.filter fun d => d.kind = c.kind) = other.filter fun d => d.kind = c.kind) :
    answerFrom past c = answerFrom other c := by
  have htimes (scope : Scope) : timesOf past c.kind c.ip scope = timesOf other c.kind c.ip scope := by
    rw [← timesOf_filter, h, timesOf_filter]
  have hip : ipTimes past c.kind c.ip = ipTimes other c.kind c.ip := htimes .ip
  have hglobal : globalTimes past c.kind = globalTimes other c.kind := htimes .global
  unfold answerFrom
  rw [hip, hglobal]

/-- A call of another kind leaves what is remembered of a kind as it is. -/
theorem remember_filter_of_ne {kind : RateLimitKind} (h : c.kind ≠ kind) :
    (remember past c).filter (fun d => d.kind = kind) = past.filter fun d => d.kind = kind := by
  unfold remember
  by_cases hok : answerFrom past c = .ok
  · simp [if_pos hok, List.filter_append, h]
  · rw [if_neg hok]

theorem remember_filter (past : List Call) (c : Call) :
    (remember past c).filter (fun d => d.kind = c.kind) =
      remember (past.filter fun d => d.kind = c.kind) c := by
  have hrecall : answerFrom (past.filter fun d => d.kind = c.kind) c = answerFrom past c :=
    answerFrom_congr (by simp)
  unfold remember
  rw [hrecall]
  by_cases hok : answerFrom past c = .ok
  · simp [if_pos hok, List.filter_append]
  · rw [if_neg hok, if_neg hok]

/-- The calls of a kind are answered as if there were no others. -/
theorem answersFrom_filter (past calls : List Call) (kind : RateLimitKind) :
    answersFrom (past.filter fun c => c.kind = kind) (calls.filter fun c => c.kind = kind) =
      (answersFrom past calls).filter fun a => a.call.kind = kind := by
  induction calls generalizing past with
  | nil => rfl
  | cons c calls ih =>
    by_cases hkind : c.kind = kind
    · subst hkind
      have hrecall : answerFrom (past.filter fun d => d.kind = c.kind) c = answerFrom past c :=
        answerFrom_congr (by simp)
      simp only [answersFrom, List.filter_cons, decide_true, if_true, hrecall, ← remember_filter, ih]
    · simp only [answersFrom, List.filter_cons, hkind, decide_false, Bool.false_eq_true, if_false]
      rw [← ih, remember_filter_of_ne hkind]

end Independence

section Retry

variable {past calls : List Call} {c later : Call}

/-- By the time that was named, one of the times that stood in the way has gone. -/
theorem not_refused_later {retryAfterSeconds : Nat} {scope : Scope} (hkept : Kept past c.now)
    (h : answerFrom past c = .refused retryAfterSeconds scope) (hkind : later.kind = c.kind)
    (hip : later.ip = c.ip) (hlater : c.now ≤ later.now)
    (hretry : c.now + 1000 * retryAfterSeconds ≤ later.now) (again : Nat) :
    answerFrom past later ≠ .refused again scope := by
  intro hagain
  obtain ⟨hfull, hseconds⟩ := answerFrom_refused h
  obtain ⟨hstill, _⟩ := answerFrom_refused hagain
  rw [hkind, hip] at hstill
  have hroom := (hkept.times c.kind c.ip scope).length_recent_le (hkept.latest scope)
  have hpos := limitOf_pos c.kind scope
  cases holdest : (recent windowMs c.now (timesOf past c.kind c.ip scope)).min? with
  | none =>
    rw [List.min?_eq_none_iff] at holdest
    rw [holdest, List.length_nil] at hfull
    omega
  | some oldest =>
    rw [retryAfterFrom, holdest] at hseconds
    have hgone : oldest + windowMs ≤ later.now := by
      change (oldest + windowMs - c.now + 999) / 1000 = retryAfterSeconds at hseconds
      omega
    have hfewer := Window.length_recent_lt (List.min?_mem holdest) hlater hgone
    omega

theorem remembered_take_succ (past calls : List Call) {i : Nat} (h : calls[i]? = some c) :
    remembered past (calls.take (i + 1)) = remember (remembered past (calls.take i)) c := by
  obtain ⟨hi, rfl⟩ := List.getElem?_eq_some_iff.mp h
  rw [List.take_succ_eq_append_getElem hi, remembered, List.foldl_append]
  rfl

/-- While no call of the kind is accepted, what is remembered of the kind does not change. -/
theorem remembered_between {i j : Nat} {kind : RateLimitKind} (hij : i ≤ j) (hj : j ≤ calls.length)
    (hnone : ∀ k d, i ≤ k → k < j → (answersFrom past calls)[k]? = some ⟨d, .ok⟩ → d.kind ≠ kind) :
    (remembered past (calls.take j)).filter (fun d => d.kind = kind) =
      (remembered past (calls.take i)).filter fun d => d.kind = kind := by
  induction j, hij using Nat.le_induction with
  | base => rfl
  | succ j hij ih =>
    rw [← ih (Nat.le_of_succ_le hj) fun k d hik hkj => hnone k d hik (Nat.lt_succ_of_lt hkj)]
    have hat : calls[j]? = some calls[j] := List.getElem?_eq_getElem hj
    rw [remembered_take_succ past calls hat]
    by_cases hok : answerFrom (remembered past (calls.take j)) calls[j] = .ok
    · exact remember_filter_of_ne
        (hnone j _ hij (Nat.lt_succ_self j) (answersFrom_eq_some.mpr ⟨hat, hok⟩))
    · rw [remember_refused hok]

theorem Ordered.now_le (hclock : Ordered calls) {i j : Nat} (hi : calls[i]? = some c)
    (hj : calls[j]? = some later) (hij : i < j) : c.now ≤ later.now := by
  obtain ⟨hileft, rfl⟩ := List.getElem?_eq_some_iff.mp hi
  obtain ⟨hjleft, rfl⟩ := List.getElem?_eq_some_iff.mp hj
  exact List.pairwise_iff_getElem.mp hclock i j hileft hjleft hij

theorem Ordered.kept (hclock : Ordered calls) {i : Nat} (hc : calls[i]? = some c) :
    Kept (remembered [] (calls.take i)) c.now := by
  refine (kept_nil 0).remembered (hclock.sublist (List.take_sublist _ _))
    (fun c _ => Nat.zero_le _) ?_ (Nat.zero_le _)
  intro d hd
  obtain ⟨k, hk⟩ := List.getElem?_of_mem hd
  have hki : k < i := by
    have hlength := (List.getElem?_eq_some_iff.mp hk).1
    rw [List.length_take] at hlength
    omega
  rw [List.getElem?_take_of_lt hki] at hk
  exact hclock.now_le hk hc hki

end Retry

/-- Of calls whose clock does not go back: any 24 hours hold at most the limits of accepted calls; a
refused call, and the calls of other kinds, change no other answer; and a retry when it was told to
come, with nothing accepted since, is not refused by the same scope. -/
theorem rate_limit_slides (calls : List Call) (hclock : Ordered calls) :
    (∀ kind ip start,
      Window.within windowMs start (ipTimes (accepted (answers calls)) kind ip) ≤
        (limits kind).perIp ∧
      Window.within windowMs start (globalTimes (accepted (answers calls)) kind) ≤
        (limits kind).global) ∧
    (∀ (i : Nat) c retryAfterSeconds scope,
      (answers calls)[i]? = some ⟨c, .refused retryAfterSeconds scope⟩ →
      answers (calls.eraseIdx i) = (answers calls).eraseIdx i) ∧
    (∀ kind, answers (calls.filter fun c => c.kind = kind) =
      (answers calls).filter fun a => a.call.kind = kind) ∧
    ∀ (i j : Nat) c later retryAfterSeconds scope result, i < j →
      (answers calls)[i]? = some ⟨c, .refused retryAfterSeconds scope⟩ →
      (answers calls)[j]? = some ⟨later, result⟩ → later.kind = c.kind → later.ip = c.ip →
      (∀ (k : Nat) d, i < k → k < j → (answers calls)[k]? = some ⟨d, .ok⟩ → d.kind ≠ c.kind) →
      c.now + 1000 * retryAfterSeconds ≤ later.now → ∀ again, result ≠ .refused again scope := by
  rw [answers_eq hclock]
  refine ⟨?bounds, ?refused, ?kinds, ?retry⟩
  case bounds =>
    intro kind ip start
    obtain ⟨later, hlast⟩ := exists_latest calls
    have hkept := (kept_nil 0).remembered hclock (fun c _ => Nat.zero_le _) hlast (Nat.zero_le _)
    rw [remembered_accepted, List.nil_append] at hkept
    exact ⟨(hkept.times kind ip .ip).within_le start, (hkept.times kind ip .global).within_le start⟩
  case refused =>
    intro i c retryAfterSeconds scope hrefused
    rw [answers_eq (hclock.sublist (List.eraseIdx_sublist _ _))]
    exact answersFrom_eraseIdx hrefused
  case kinds =>
    intro kind
    rw [answers_eq (hclock.sublist List.filter_sublist)]
    exact answersFrom_filter [] calls kind
  case retry =>
    intro i j c later retryAfterSeconds scope result hij hrefused hlater hkind hip hnone hretry again
    obtain ⟨hc, hfirst⟩ := answersFrom_eq_some.mp hrefused
    obtain ⟨hl, hsecond⟩ := answersFrom_eq_some.mp hlater
    have hsame : (remembered [] (calls.take j)).filter (fun d => d.kind = later.kind) =
        (remembered [] (calls.take i)).filter fun d => d.kind = later.kind := by
      refine remembered_between (Nat.le_of_lt hij)
        (Nat.le_of_lt (List.getElem?_eq_some_iff.mp hl).1) ?_
      intro k d hik hkj hok
      rcases Nat.eq_or_lt_of_le hik with rfl | hik
      · rw [hrefused] at hok
        cases hok
      · rw [hkind]
        exact hnone k d hik hkj hok
    rw [← hsecond, answerFrom_congr hsame]
    exact not_refused_later (hclock.kept hc) hfirst hkind hip (hclock.now_le hc hl hij) hretry again

/-- A fourth lock within the day, and its retry; a pay between them. -/
def impatient : List Call :=
  [⟨.demoLock, "a", 0⟩, ⟨.demoLock, "a", 1000⟩, ⟨.demoLock, "a", 2000⟩, ⟨.demoLock, "a", 3000⟩,
    ⟨.demoPay, "a", 4000⟩, ⟨.demoLock, "a", 86400000⟩]

theorem rate_limit_slides_sample :
    (answers impatient).map Answer.result = [.ok, .ok, .ok, .refused 86397 .ip, .ok, .ok] ∧
      answers (impatient.eraseIdx 3) = (answers impatient).eraseIdx 3 ∧
      Window.within windowMs 1 (ipTimes (accepted (answers impatient)) .demoLock "a") ≤ 3 := by
  have hslides := rate_limit_slides impatient (by decide)
  exact ⟨by decide, hslides.2.1 3 ⟨.demoLock, "a", 3000⟩ 86397 .ip (by decide),
    (hslides.1 .demoLock "a" 1).1⟩

end WhisperDesk.Web.RateLimit
