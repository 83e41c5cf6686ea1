import Resolver.Cache.Arena
import Resolver.Proofs.Contents

/-!
# Words and chains in an arena

A chain starts at a bucket link and runs through the links of its entries, the newest first. Each
link holds the exclusive or of the offsets of its neighbours.

Main statements: the end of a chain names the link before it (`Chained.word_last`), taking the end
off leaves a chain (`Chained.cut`), and so does putting a link in behind the bucket link
(`Chained.push`).
-/

namespace Resolver.Arena

/-! ## Words -/

/-- A number that stands in the arena is the word there. -/
theorem word_eq_of_holds {a : Arena} {pos n : Nat} (h : Block.Holds a pos (toLittleEndian 4 n))
    (hn : n < 0x100000000) : word a pos = .ok n := by
  unfold word
  rw [h.slice?_eq (length_toLittleEndian 4 n)]
  show Except.ok (littleEndian (toLittleEndian 4 n)) = .ok n
  rw [littleEndian_toLittleEndian]
  exact congrArg Except.ok (Nat.mod_eq_of_lt hn)

theorem lt_of_word_eq {a : Arena} {pos n : Nat} (h : word a pos = .ok n) : n < 0x100000000 := by
  unfold word at h
  split at h
  · rename_i bytes hbytes
    obtain rfl := Except.ok.inj h
    have hlt := littleEndian_lt bytes
    rw [(Block.slice?_eq_some_iff.1 hbytes).1] at hlt
    exact hlt
  · contradiction

/-- The exclusive or of two words is a word. -/
theorem xor_lt {m n : Nat} (hm : m < 0x100000000) (hn : n < 0x100000000) :
    m ^^^ n < 0x100000000 :=
  Nat.xor_lt_two_pow (n := 32) hm hn

theorem slice_eq_of_holds {a : Arena} {pos len : Nat} {bytes : Bytes}
    (h : Block.Holds a pos bytes) (hlen : bytes.length = len) : slice a pos len = .ok bytes := by
  unfold slice
  rw [h.slice?_eq hlen]

/-- Bytes are written wherever there is room for them. -/
theorem exists_write {a : Arena} {pos : Nat} {new : Bytes} (h : pos + new.length ≤ a.size) :
    ∃ a', write a pos new = .ok a' ∧ Block.write? a pos new = some a' := by
  obtain ⟨a', ha'⟩ := Block.exists_write? h
  refine ⟨a', ?_, ha'⟩
  unfold write
  rw [ha']

/-- A word that does not overlap the written bytes is what it was. -/
theorem word_of_write? {a a' : Arena} {pos place : Nat} {new : Bytes}
    (h : Block.write? a pos new = some a')
    (hapart : place + 4 ≤ pos ∨ pos + new.length ≤ place) : word a' place = word a place := by
  unfold word
  rw [Block.slice?_of_write? h hapart]

/-! ## Chains -/

/-- The link at `here` and those at the given offsets make a chain: each holds the exclusive or of
the offsets of its two neighbours, the first neighbour of all being at `before`, and the last holds
the offset of the one before it. -/
def Chained (a : Arena) : (before here : Nat) → List Nat → Prop
  | before, here, [] => word a here = .ok before
  | before, here, next :: rest => word a here = .ok (before ^^^ next) ∧ Chained a here next rest

/-- A chain says what its first link holds: its neighbours, with 0 beyond the end. -/
theorem Chained.word_here {a : Arena} {before here : Nat} {rest : List Nat}
    (h : Chained a before here rest) : word a here = .ok (before ^^^ rest.headD 0) := by
  cases rest with
  | nil =>
    rw [List.headD_nil, Nat.xor_zero]
    exact h
  | cons next rest => exact h.1

/-- Every link of a chain can be read. -/
theorem Chained.exists_word {a : Arena} {before here q : Nat} {rest : List Nat}
    (h : Chained a before here rest) (hq : q ∈ here :: rest) : ∃ link, word a q = .ok link := by
  induction rest generalizing before here with
  | nil =>
    obtain rfl := List.mem_singleton.1 hq
    exact ⟨_, h⟩
  | cons next rest ih =>
    rcases List.mem_cons.1 hq with rfl | hq
    · exact ⟨_, h.1⟩
    · exact ih h.2 hq

/-- A chain whose links are left alone stays one. -/
theorem Chained.congr {a a' : Arena} {before here : Nat} {rest : List Nat}
    (h : Chained a before here rest) (hsame : ∀ q ∈ here :: rest, word a' q = word a q) :
    Chained a' before here rest := by
  induction rest generalizing before here with
  | nil =>
    unfold Chained at h ⊢
    rw [hsame here List.mem_cons_self, h]
  | cons next rest ih =>
    obtain ⟨hlink, hrest⟩ := h
    refine ⟨?_, ih hrest fun q hq => hsame q (List.mem_cons_of_mem _ hq)⟩
    rw [hsame here List.mem_cons_self, hlink]

/-- The last link of a chain holds the offset of the link before it. -/
theorem Chained.word_last {a : Arena} {before here last : Nat} {rest : List Nat}
    (h : Chained a before here (rest ++ [last])) : word a last = .ok (rest.getLastD here) := by
  induction rest generalizing before here with
  | nil => exact h.2
  | cons next rest ih =>
    rw [List.getLastD_cons]
    exact ih h.2

/-- Taking the offset of the last link out of the link before it leaves a chain without it. -/
theorem Chained.cut {a a' : Arena} {before here last link : Nat} {rest : List Nat}
    (h : Chained a before here (rest ++ [last])) (hnodup : (here :: rest).Nodup)
    (hlink : word a (rest.getLastD here) = .ok link)
    (hcut : word a' (rest.getLastD here) = .ok (link ^^^ last))
    (hsame : ∀ q ∈ here :: rest, q ≠ rest.getLastD here → word a' q = word a q) :
    Chained a' before here rest := by
  induction rest generalizing before here with
  | nil =>
    simp only [List.getLastD_nil] at hlink hcut
    -- without the end, the link before it holds its other neighbour alone
    have heq : before ^^^ last = link := by
      rw [h.1] at hlink
      exact Except.ok.inj hlink
    unfold Chained
    rw [hcut, ← heq, Nat.xor_assoc, Nat.xor_self, Nat.xor_zero]
  | cons next rest ih =>
    obtain ⟨hhere, hrest⟩ := h
    rw [List.nodup_cons] at hnodup
    rw [List.getLastD_cons] at hlink hcut hsame
    -- the link cut is the last of those behind `here`, so `here` is left alone
    have hne : here ≠ rest.getLastD next := fun heq =>
      hnodup.1 (heq ▸ List.getLastD_mem_cons)
    refine ⟨?_, ih hrest hnodup.2 hlink hcut fun q hq => hsame q (List.mem_cons_of_mem _ hq)⟩
    rw [hsame here List.mem_cons_self hne, hhere]

/-- Putting a new link in behind the bucket link at `head`: the bucket link holds the new offset,
the new link its two neighbours, and the link that was first has the new one for its neighbour in
place of the bucket link. -/
theorem Chained.push {a a' : Arena} {head new : Nat} {rest : List Nat}
    (h : Chained a 0 head rest) (hhead : word a' head = .ok new)
    (hnew : word a' new = .ok (rest.headD 0 ^^^ head))
    (hfirst : ∀ first link, rest.head? = some first → word a first = .ok link →
      word a' first = .ok (link ^^^ head ^^^ new))
    (hsame : ∀ q ∈ rest.tail, word a' q = word a q) : Chained a' 0 head (new :: rest) := by
  refine ⟨by rw [hhead, Nat.zero_xor], ?_⟩
  cases rest with
  | nil =>
    unfold Chained
    rw [hnew, List.headD_nil, Nat.zero_xor]
  | cons first rest =>
    rw [List.headD_cons, Nat.xor_comm] at hnew
    refine ⟨hnew, ?_⟩
    have hrest := h.2
    -- what was the first link has the new one for its neighbour in place of the bucket link
    have hlink := hfirst first _ rfl hrest.word_here
    have hswap : ∀ next, head ^^^ next ^^^ head ^^^ new = new ^^^ next := by
      intro next
      rw [Nat.xor_comm head next, Nat.xor_assoc next, Nat.xor_self, Nat.xor_zero, Nat.xor_comm]
    rw [hswap] at hlink
    cases rest with
    | nil =>
      rw [List.headD_nil, Nat.xor_zero] at hlink
      exact hlink
    | cons next rest =>
      refine ⟨hlink, hrest.2.congr fun q hq => hsame q hq⟩

end Resolver.Arena
