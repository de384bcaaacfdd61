import WhisperDesk.General.ByteCodec

/-!
# ABI words

The 32-byte slots of the contract ABI: writing a list of words, reading one
back at its offset, and the zero-padded tail that a dynamic byte string leaves
behind them.
-/
namespace AbiWords

open ByteCodec

/-- The width of one ABI slot, as a bound on what it can hold. -/
def wordSize : Nat := 2 ^ 256

/-- One 32-byte slot; a larger number keeps its low 256 bits. -/
def word (n : Nat) : List UInt8 := beBytes 32 n

@[simp] theorem length_word (n : Nat) : (word n).length = 32 := length_beBytes 32 n

theorem ofBE_word (n : Nat) : ofBE (word n) = n % wordSize := by
  rw [word, ofBE_beBytes]
  rfl

def words (ns : List Nat) : List UInt8 := ns.flatMap word

@[simp] theorem words_cons (n : Nat) (ns : List Nat) : words (n :: ns) = word n ++ words ns := rfl

@[simp] theorem length_words (ns : List Nat) : (words ns).length = 32 * ns.length := by
  induction ns with
  | nil => rfl
  | cons n ns ih =>
    rw [words_cons, List.length_append, length_word, ih, List.length_cons]
    omega

theorem word_injective {m n : Nat} (hm : m < wordSize) (hn : n < wordSize) (h : word m = word n) :
    m = n := by
  have hvalue := congrArg ofBE h
  rwa [ofBE_word, ofBE_word, Nat.mod_eq_of_lt hm, Nat.mod_eq_of_lt hn] at hvalue

theorem words_injective {ms ns : List Nat} (hm : ∀ m ∈ ms, m < wordSize)
    (hn : ∀ n ∈ ns, n < wordSize) (h : words ms = words ns) : ms = ns := by
  induction ms generalizing ns with
  | nil =>
    have hlen := congrArg List.length h
    rw [length_words, length_words] at hlen
    exact (List.length_eq_zero_iff.mp (by simpa using hlen.symm)).symm
  | cons m ms ih =>
    cases ns with
    | nil =>
      have hlen := congrArg List.length h
      simp at hlen
    | cons n ns =>
      rw [words_cons, words_cons] at h
      obtain ⟨hhead, htail⟩ := List.append_inj h (by simp)
      have hmn := word_injective (hm m List.mem_cons_self) (hn n List.mem_cons_self) hhead
      have hrest := ih (fun k hk => hm k (List.mem_cons_of_mem m hk))
        (fun k hk => hn k (List.mem_cons_of_mem n hk)) htail
      rw [hmn, hrest]

/-- The slot at byte offset `at`, when the data reaches that far. -/
def wordAt (data : List UInt8) (offset : Nat) : Option Nat :=
  if offset + 32 ≤ data.length then some (ofBE ((data.drop offset).take 32)) else none

/-- Slot `i` of written words reads as the `i`-th number, whatever follows. -/
theorem wordAt_words (ns : List Nat) (tail : List UInt8) (i n : Nat) (h : ns[i]? = some n) :
    wordAt (words ns ++ tail) (32 * i) = some (n % wordSize) := by
  induction ns generalizing i with
  | nil => simp at h
  | cons m ns ih =>
    cases i with
    | zero =>
      simp only [List.getElem?_cons_zero, Option.some.injEq] at h
      subst m
      have htake : ((words (n :: ns) ++ tail).drop 0).take 32 = word n := by
        rw [List.drop_zero, words_cons, List.append_assoc]
        exact List.take_left' (length_word n)
      unfold wordAt
      rw [Nat.mul_zero, htake, ofBE_word, if_pos]
      simp only [words_cons, List.length_append, length_word]
      omega
    | succ i =>
      simp only [List.getElem?_cons_succ] at h
      have hi := ih i h
      have hdrop : (words (m :: ns) ++ tail).drop (32 * (i + 1)) = (words ns ++ tail).drop (32 * i) := by
        rw [words_cons, List.append_assoc, Nat.mul_succ, Nat.add_comm, ← List.drop_drop,
          List.drop_left' (length_word m)]
      unfold wordAt at hi ⊢
      rw [hdrop]
      simp only [words_cons, List.append_assoc, List.length_append, length_word] at hi ⊢
      split at hi
      · rw [if_pos (by omega)]
        exact hi
      · cases hi

/-- Zero bytes that fill a byte string up to whole slots. -/
def padding (n : Nat) : List UInt8 := List.replicate ((32 - n % 32) % 32) 0

def padRight (bs : List UInt8) : List UInt8 := bs ++ padding bs.length

/-- `n` bytes from byte offset `offset` on, when the data reaches that far. -/
def bytesAt (data : List UInt8) (offset n : Nat) : Option (List UInt8) :=
  if offset + n ≤ data.length then some ((data.drop offset).take n) else none

theorem bytesAt_append (pre bs tail : List UInt8) :
    bytesAt (pre ++ (bs ++ tail)) pre.length bs.length = some bs := by
  unfold bytesAt
  rw [if_pos (by simp only [List.length_append]; omega), List.drop_left, List.take_left]

end AbiWords
