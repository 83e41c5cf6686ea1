import Mathlib
import Resolver.Proofs.Cache.Run

/-!
# Entries that no arena has room for

Whether there is room for an entry is found out by making it. For an entry that is larger than all the
space for entries, this comes out only after every other entry was given up.

Main statements: storing such an entry succeeds and leaves nothing in the store
(`Laid.exists_set_oversize`), so that it changes nothing exactly if nothing was there before
(`Clocked.set_oversize_iff`); an answer that was there is lost (`Clocked.oversize_loses_answer`).
-/

namespace Resolver.Cache

variable {c c' : Cache} {filed : Nat → Bytes} {old young : List Placed} {length : Nat}

/-- Making room moves cursors and links, but writes no entry. -/
theorem motion_of_makeRoom {fits : Bool} (h : c.makeRoom length = .ok (fits, c')) :
    c'.motion = c.motion := by
  fun_induction makeRoom c length with
  | case1 c hfit =>
    obtain ⟨-, rfl⟩ := Prod.mk.inj (Except.ok.inj h)
    rfl
  | case2 c hfull hnone hempty =>
    obtain ⟨-, rfl⟩ := Prod.mk.inj (Except.ok.inj h)
    rfl
  | case3 => contradiction
  | case4 c hfull hnone hsome c₁ hevict ih =>
    obtain ⟨-, -, -, hmotion, -⟩ := evictOldest_ok hevict
    exact (ih h).trans hmotion
  | case5 => contradiction
  | case6 c hfull hsome c₁ hevict ih =>
    obtain ⟨-, -, -, hmotion, -⟩ := evictOldest_ok hevict
    exact (ih h).trans hmotion

namespace Laid

/-- No space is in use where no entry is. -/
theorem used_eq_zero_iff (h : Laid c filed old young) : c.used = 0 ↔ c.live = [] := by
  have hold : old = [] ↔ c.oldest = c.unused := h.old_tiled.eq_nil_iff
  have hyoung : young = [] ↔ c.heads = c.writer := h.young_tiled.eq_nil_iff
  have hwriter := h.heads_le_writer
  have holdest := h.oldest_le_unused
  rw [h.live_eq, List.append_eq_nil_iff, hold, hyoung]
  unfold used
  omega

/-- A store without entries has no answer to any key. -/
theorem get_eq_none (h : Laid c filed old young) (hlive : c.live = []) (now : Tai64) (key : Bytes) :
    c.get now key = .ok none := by
  obtain ⟨answer, hget, hanswer⟩ := h.exists_get now key
  rw [h.live_eq] at hlive
  cases answer with
  | none => exact hget
  | some hit =>
    obtain ⟨older, p, newer, hentries, -⟩ := (hanswer hit).1 rfl
    rw [hlive] at hentries
    exact absurd hentries.symm (by simp)

/-- Storing what is within the limits but larger than all the space for entries gives up every entry
and adds none. -/
theorem exists_set_oversize (h : Laid c filed old young) (now : Tai64) {key data : Bytes} {ttl : Nat}
    (hkey : key.length ≤ maxKey) (hdata : data.length ≤ maxData) (httl : ttl ≠ 0)
    (hover : c.size - c.heads < key.length + data.length + entryHeader) :
    ∃ c', c.set now key data ttl = .ok c' ∧ Laid c' filed [] [] ∧
      c'.stats = { c.stats with used := 0 } := by
  obtain ⟨c', old', young', gone, hroom, hlaid, halike, -, hend⟩ :=
    h.makesRoom (key.length + data.length + entryHeader)
  have hfull : ¬ c.heads + (key.length + data.length + entryHeader) ≤ c.size := by omega
  rw [if_neg hfull] at hend
  rw [decide_eq_false hfull] at hroom
  obtain ⟨rfl, rfl⟩ := List.append_eq_nil_iff.1 hend
  have hused : c'.used = 0 := hlaid.used_eq_zero_iff.2 hlaid.live_eq
  refine ⟨c', ?_, hlaid, ?_⟩
  · unfold set
    rw [if_neg (by omega)]
    simp only [bind, Except.bind, pure, Except.pure, hroom, Bool.false_eq_true, if_false]
  · unfold stats
    rw [hused, halike.size_eq, halike.heads_eq, motion_of_makeRoom hroom]

end Laid

namespace Clocked

/-- Whatever was done with a store, storing an entry that is within the limits of keys, data and times
to live but larger than all the space for entries succeeds. It leaves no entry: no space is in use, and
there is no answer to any key, while sizes and the count of bytes written stay as they were. So it
leaves what the store tells of itself and all its answers as they were exactly if there was no entry
before. -/
theorem set_oversize_iff {capacity : Nat} {hashKey : Bytes} {start : Tai64} {ops : List Operation}
    {answers : List (Option Hit)} {s : Clocked}
    (hrun : (Clocked.new capacity hashKey start).run ops = .ok (answers, s)) {key data : Bytes}
    {ttl : Nat} (hkey : key.length ≤ 1000) (hdata : data.length ≤ 1000000) (httl : 0 < ttl)
    (hover : s.cache.size - s.cache.heads < key.length + data.length + 20) :
    ∃ c', s.perform (.set key data ttl) = .ok (none, { s with cache := c' }) ∧
      c'.live = [] ∧ c'.stats = { s.cache.stats with used := 0 } ∧
      (∀ now key', c'.get now key' = .ok none) ∧
      (c'.stats = s.cache.stats ∧ (∀ now key', c'.get now key' = s.cache.get now key') ↔
        s.cache.live = []) := by
  obtain ⟨filed, hlaid⟩ := exists_wellFormed hrun
  obtain ⟨c', hset, hlaid', hstats⟩ :=
    Laid.exists_set_oversize hlaid s.now hkey hdata (Nat.ne_of_gt httl) hover
  have hnone : ∀ now key', c'.get now key' = .ok none := hlaid'.get_eq_none hlaid'.live_eq
  refine ⟨c', ?_, hlaid'.live_eq, hstats, hnone, ?_⟩
  · rw [perform, hset]
    rfl
  · constructor
    · rintro ⟨hsame, -⟩
      have hused : s.cache.stats.used = 0 := by rw [← hsame, hstats]
      exact (Laid.used_eq_zero_iff hlaid).1 hused
    · intro hlive
      have hused : s.cache.used = 0 := (Laid.used_eq_zero_iff hlaid).2 hlive
      refine ⟨?_, fun now key' => ?_⟩
      · rw [hstats]
        unfold stats
        rw [hused]
      · rw [hnone, Laid.get_eq_none hlaid hlive]

set_option maxRecDepth 2000 in
/-- The key `keep` gets an answer, of 26 bytes with its entry, in a store of 100 bytes. -/
theorem exists_run_keep : ∃ s filed,
    (Clocked.new 100 [] ⟨0⟩).run [.set [107, 101, 101, 112] [109, 101] 60] = .ok ([none], s) ∧
      s.cache.WellFormed filed ∧ s.cache.stats = ⟨100, 4, 26, 26⟩ ∧
      s.cache.get s.now [107, 101, 101, 112] = .ok (some ⟨[109, 101], 60⟩) := by
  have hkeep : ((Clocked.new 100 [] ⟨0⟩).run [.set [107, 101, 101, 112] [109, 101] 60]).map
      (fun r => (r.1, r.2.cache.stats, r.2.cache.get r.2.now [107, 101, 101, 112])) =
        .ok ([none], ⟨100, 4, 26, 26⟩, .ok (some ⟨[109, 101], 60⟩)) := by cbv
  obtain ⟨answers, s, filed, hrun, hlaid, -⟩ :=
    exists_run_new 100 [] ⟨0⟩ [.set [107, 101, 101, 112] [109, 101] 60]
  rw [hrun] at hkeep
  obtain ⟨rfl, hrest⟩ := Prod.mk.inj (Except.ok.inj hkeep)
  obtain ⟨hstats, hget⟩ := Prod.mk.inj hrest
  exact ⟨s, filed, hrun, hlaid, hstats, hget⟩

/-- 200 bytes of data under the key `huge` are more than a store of 100 bytes has room for. -/
theorem exists_set_huge {s : Clocked} {filed : Nat → Bytes} {used : Nat} {motion : UInt64}
    (h : s.cache.WellFormed filed) (hstats : s.cache.stats = ⟨100, 4, used, motion⟩) :
    ∃ c', s.perform (.set [104, 117, 103, 101] (List.replicate 200 7) 60) =
        .ok (none, { s with cache := c' }) ∧
      Laid c' filed [] [] ∧ c'.stats = ⟨100, 4, 0, motion⟩ := by
  have hsize : s.cache.size = 100 := congrArg Stats.size hstats
  have hheads : s.cache.heads = 4 := congrArg Stats.heads hstats
  have hlength : (List.replicate 200 (7 : UInt8)).length = 200 := List.length_replicate
  obtain ⟨c', hset, hlaid, hstats'⟩ := Laid.exists_set_oversize h s.now
    (show [(104 : UInt8), 117, 103, 101].length ≤ maxKey by decide)
    (show (List.replicate 200 (7 : UInt8)).length ≤ maxData by rw [hlength]; decide)
    (show 60 ≠ 0 by decide) (by rw [hsize, hheads, hlength]; decide)
  rw [hstats] at hstats'
  refine ⟨c', ?_, hlaid, hstats'⟩
  rw [perform, hset]
  rfl

/-- A store of 100 bytes was used and then emptied for an entry that it has no room for. It stays as it
is when 80 bytes of data come to be stored under a key of one byte, which with the entry take more than
the 96 bytes there are. -/
theorem set_oversize_iff_emptied :
    ∃ s c', (Clocked.new 100 [] ⟨0⟩).run [.set [107, 101, 101, 112] [109, 101] 60,
        .set [104, 117, 103, 101] (List.replicate 200 7) 60] = .ok ([none, none], s) ∧
      s.cache.stats = ⟨100, 4, 0, 26⟩ ∧
      s.perform (.set [1] (List.replicate 80 7) 60) = .ok (none, { s with cache := c' }) ∧
      c'.stats = s.cache.stats ∧ ∀ now key, c'.get now key = s.cache.get now key := by
  obtain ⟨s, filed, hkeep, hlaid, hstats, -⟩ := exists_run_keep
  obtain ⟨c, hhuge, hlaid', hstats'⟩ := exists_set_huge hlaid hstats
  have hrun : (Clocked.new 100 [] ⟨0⟩).run ([.set [107, 101, 101, 112] [109, 101] 60] ++
      [.set [104, 117, 103, 101] (List.replicate 200 7) 60]) =
        .ok ([none] ++ [none], { s with cache := c }) := by
    refine run_append hkeep ?_
    rw [run, hhuge]
    rfl
  have hsize : c.size = 100 := congrArg Stats.size hstats'
  have hheads : c.heads = 4 := congrArg Stats.heads hstats'
  have hspace : c.size - c.heads <
      [(1 : UInt8)].length + (List.replicate 80 (7 : UInt8)).length + 20 := by
    rw [hsize, hheads]
    decide
  obtain ⟨c', hset, -, -, -, hsame⟩ :=
    set_oversize_iff hrun (by decide) (by decide) (show 0 < 60 by decide) hspace
  obtain ⟨hunchanged, hget⟩ := hsame.2 hlaid'.live_eq
  exact ⟨{ s with cache := c }, c', hrun, hstats', hset, hunchanged, hget⟩

/-- The key `keep` has an answer, of 26 bytes with its entry. When 200 bytes of data come to be stored
under the key `huge`, which a store of 100 bytes has no room for, the answer is lost. -/
theorem oversize_loses_answer :
    ∃ s c', (Clocked.new 100 [] ⟨0⟩).run [.set [107, 101, 101, 112] [109, 101] 60] =
        .ok ([none], s) ∧
      s.perform (.set [104, 117, 103, 101] (List.replicate 200 7) 60) =
        .ok (none, { s with cache := c' }) ∧
      s.cache.stats = ⟨100, 4, 26, 26⟩ ∧ c'.stats = ⟨100, 4, 0, 26⟩ ∧
      s.cache.get s.now [107, 101, 101, 112] = .ok (some ⟨[109, 101], 60⟩) ∧
      c'.get s.now [107, 101, 101, 112] = .ok none := by
  obtain ⟨s, filed, hrun, hlaid, hstats, hget⟩ := exists_run_keep
  obtain ⟨c', hhuge, hlaid', hstats'⟩ := exists_set_huge hlaid hstats
  exact ⟨s, c', hrun, hhuge, hstats, hstats', hget, hlaid'.get_eq_none hlaid'.live_eq _ _⟩

end Clocked

end Resolver.Cache
