import Mathlib.Data.List.Nodup
import Mathlib.Data.List.Induction
import Mathlib.Tactic.Common

/-!
# Maps whose entries lapse

A map in the order of insertion, whose entries count only while they are live.
Entries that have lapsed are dropped at a look for them or at a sweep, or stay until
then. Neither shows: what a look finds is the last value put under its key, if that
is live.
-/
namespace LapsingMap

variable {κ ν : Type} [DecidableEq κ]

def get (m : List (κ × ν)) (k : κ) : Option ν := (m.find? fun e => e.1 = k).map Prod.snd

/-- A key that is there keeps its place. -/
def set : List (κ × ν) → κ → ν → List (κ × ν)
  | [], k, v => [(k, v)]
  | e :: m, k, v => if e.1 = k then (k, v) :: m else e :: set m k v

def delete (m : List (κ × ν)) (k : κ) : List (κ × ν) := m.filter fun e => e.1 ≠ k

def Keyed (m : List (κ × ν)) : Prop := (m.map Prod.fst).Nodup

section Operations

variable {m : List (κ × ν)} {j k : κ} {v : ν}

@[simp] theorem get_nil : get ([] : List (κ × ν)) k = none := rfl

theorem get_cons (e : κ × ν) : get (e :: m) k = if e.1 = k then some e.2 else get m k := by
  by_cases h : e.1 = k <;> simp [get, h]

theorem get_eq_none : get m k = none ↔ k ∉ m.map Prod.fst := by
  simp [get]
  grind

theorem mem_iff_get (h : Keyed m) : (k, v) ∈ m ↔ get m k = some v := by
  induction m with
  | nil => simp
  | cons e m ih =>
    obtain ⟨hfresh, hkeyed⟩ := List.nodup_cons.mp h
    rw [get_cons, List.mem_cons]
    by_cases hk : e.1 = k
    · have hnot : (k, v) ∉ m := by
        intro hmem
        exact hfresh (hk ▸ List.mem_map_of_mem (f := Prod.fst) hmem)
      simp only [hnot, or_false, if_pos hk, Option.some.injEq]
      constructor
      · intro he
        rw [← he]
      · intro hv
        rw [← hk, ← hv]
    · have hne : (k, v) ≠ e := by
        intro he
        exact hk (by rw [← he])
      simp only [hne, false_or, if_neg hk]
      exact ih hkeyed

theorem get_set : get (set m k v) j = if j = k then some v else get m j := by
  induction m with
  | nil => simp [set, get_cons, eq_comm]
  | cons e m ih =>
    by_cases he : e.1 = k
    · by_cases hj : j = k
      · simp [set, he, get_cons, hj]
      · simp [set, he, get_cons, hj, Ne.symm hj]
    · rw [set, if_neg he, get_cons, ih, get_cons]
      by_cases hj : j = k
      · simp [he, hj]
      · simp [hj]

theorem mem_keys_set : j ∈ (set m k v).map Prod.fst ↔ j = k ∨ j ∈ m.map Prod.fst := by
  rw [← not_iff_not, not_or, ← get_eq_none, ← get_eq_none, get_set]
  by_cases hj : j = k <;> simp [hj]

theorem Keyed.set (h : Keyed m) : Keyed (set m k v) := by
  induction m with
  | nil => simp [LapsingMap.set, Keyed]
  | cons e m ih =>
    obtain ⟨hfresh, hkeyed⟩ := List.nodup_cons.mp h
    by_cases he : e.1 = k
    · rw [LapsingMap.set, if_pos he, Keyed, List.map_cons]
      exact List.nodup_cons.mpr ⟨he ▸ hfresh, hkeyed⟩
    · rw [LapsingMap.set, if_neg he, Keyed, List.map_cons]
      refine List.nodup_cons.mpr ⟨?_, ih hkeyed⟩
      rw [mem_keys_set]
      exact not_or.mpr ⟨he, hfresh⟩

omit [DecidableEq κ] in
theorem Keyed.filter (h : Keyed m) (p : κ × ν → Bool) : Keyed (m.filter p) :=
  (List.filter_sublist.map Prod.fst).nodup h

theorem get_delete : get (delete m k) j = if j = k then none else get m j := by
  induction m with
  | nil => simp [delete]
  | cons e m ih =>
    rw [delete] at ih
    by_cases he : e.1 = k
    · rw [delete, List.filter_cons_of_neg (by simp [he]), ih, get_cons]
      by_cases hj : j = k
      · simp [hj]
      · simp [hj, he, Ne.symm hj]
    · rw [delete, List.filter_cons_of_pos (by simp [he]), get_cons, ih, get_cons]
      by_cases hj : j = k
      · simp [hj, he]
      · simp [hj]

/-- A sweep drops the values that fail the test. -/
theorem get_sweep (h : Keyed m) (p : ν → Bool) :
    get (m.filter fun e => p e.2) k = (get m k).filter p := by
  induction m with
  | nil => rfl
  | cons e m ih =>
    obtain ⟨hfresh, hkeyed⟩ := List.nodup_cons.mp h
    rw [get_cons]
    by_cases hk : e.1 = k
    · have hnone : get m k = none := get_eq_none.mpr (hk ▸ hfresh)
      by_cases hp : p e.2
      · simp [hp, get_cons, hk, Option.filter]
      · simp [hp, ih hkeyed, hk, hnone, Option.filter]
    · by_cases hp : p e.2
      · simp [hp, get_cons, hk, ih hkeyed]
      · simp [hp, ih hkeyed, hk]

end Operations

/-- What happens to the map, and when: `live t v` says whether a value counts at `t`. -/
inductive Op (κ ν : Type) where
  | put (k : κ) (v : ν)
  | look (k : κ) (now : Nat)
  | sweep (now : Nat)

section Runs

variable (live : Nat → ν → Bool)

/-- A look drops what it finds lapsed. -/
def look (m : List (κ × ν)) (k : κ) (now : Nat) : Option ν × List (κ × ν) :=
  match get m k with
  | none => (none, m)
  | some v => if live now v then (some v, m) else (none, delete m k)

def step (m : List (κ × ν)) : Op κ ν → List (κ × ν)
  | .put k v => set m k v
  | .look k now => (look live m k now).2
  | .sweep now => m.filter fun e => live now e.2

def run (ops : List (Op κ ν)) : List (κ × ν) := ops.foldl (step live) []

/-- The last value put under the key. -/
def lastPut (ops : List (Op κ ν)) (k : κ) : Option ν :=
  ops.foldl (fun last op => match op with
    | .put j v => if k = j then some v else last
    | _ => last) none

def Op.time : Op κ ν → Option Nat
  | .put _ _ => none
  | .look _ now => some now
  | .sweep now => some now

theorem run_concat (ops : List (Op κ ν)) (op : Op κ ν) :
    run live (ops ++ [op]) = step live (run live ops) op := by
  simp only [run, List.foldl_append, List.foldl_cons, List.foldl_nil]

theorem lastPut_concat (ops : List (Op κ ν)) (op : Op κ ν) (k : κ) :
    lastPut (ops ++ [op]) k = match op with
      | .put j v => if k = j then some v else lastPut ops k
      | _ => lastPut ops k := by
  simp only [lastPut, List.foldl_append, List.foldl_cons, List.foldl_nil]

variable {live} {m : List (κ × ν)} {ops : List (Op κ ν)} {t : Nat}

theorem keyed_look (h : Keyed m) (k : κ) (now : Nat) : Keyed (look live m k now).2 := by
  unfold look
  split
  · exact h
  · split
    · exact h
    · exact h.filter _

theorem keyed_step (h : Keyed m) (op : Op κ ν) : Keyed (step live m op) := by
  cases op with
  | put k v => exact Keyed.set h
  | look k now => exact keyed_look h k now
  | sweep now => exact h.filter _

theorem keyed_run (ops : List (Op κ ν)) : Keyed (run live ops) := by
  induction ops using List.reverseRecOn with
  | nil => exact List.nodup_nil
  | append_singleton ops op ih =>
    rw [run_concat]
    exact keyed_step ih op

/-- Dropping what has lapsed by `now` is not noticed from then on. -/
theorem filter_of_lapsed (hlive : ∀ s t v, s ≤ t → live t v = true → live s v = true) {now : Nat}
    (hnow : now ≤ t) {x : Option ν} : (x.filter (live now)).filter (live t) = x.filter (live t) := by
  cases x with
  | none => rfl
  | some v =>
    by_cases ht : live t v = true
    · simp [Option.filter, ht, hlive now t v hnow ht]
    · by_cases hs : live now v = true
      · simp [Option.filter, ht, hs]
      · simp [Option.filter, ht, hs]

theorem get_look {j k : κ} {now : Nat} :
    get (look live m k now).2 j = if j = k then (get m k).filter (live now) else get m j := by
  unfold look
  split
  · rename_i hnone
    by_cases hj : j = k
    · simp [hj, hnone]
    · simp [hj]
  · rename_i v hsome
    by_cases hv : live now v = true
    · by_cases hj : j = k
      · simp [hv, hj, hsome, Option.filter]
      · simp [hv, hj]
    · by_cases hj : j = k
      · simp [hv, hj, hsome, get_delete, Option.filter]
      · simp [hv, hj, get_delete]

/-- What counts at `t` is what was put last, whatever was looked at and swept by then. -/
theorem get_run (hlive : ∀ s t v, s ≤ t → live t v = true → live s v = true)
    (htimes : ∀ op ∈ ops, ∀ now, op.time = some now → now ≤ t) (k : κ) :
    (get (run live ops) k).filter (live t) = (lastPut ops k).filter (live t) := by
  induction ops using List.reverseRecOn with
  | nil => rfl
  | append_singleton ops op ih =>
    have ih := ih fun op hop => htimes op (List.mem_append_left _ hop)
    have hop := htimes op (List.mem_append_right _ (List.mem_singleton_self _))
    rw [run_concat, lastPut_concat]
    cases op with
    | put j v =>
      rw [step, get_set]
      by_cases hk : k = j
      · simp [hk]
      · simp [hk, ih]
    | look j now =>
      rw [step, get_look]
      by_cases hk : k = j
      · subst hk
        rw [if_pos rfl, filter_of_lapsed hlive (hop now rfl)]
        exact ih
      · rw [if_neg hk]
        exact ih
    | sweep now =>
      rw [step, get_sweep (keyed_run ops), filter_of_lapsed hlive (hop now rfl)]
      exact ih

end Runs

end LapsingMap
