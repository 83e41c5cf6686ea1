import Mathlib.Logic.Function.Basic
import Resolver.Proofs.Cache.Eviction

/-!
# Storing an entry

Main statements: an entry for which there is room is written behind the younger entries and put in
front of its chain (`Laid.exists_push`), and storing is never damaged and leaves the entries it
should (`Laid.exists_set`).
-/

namespace Resolver.Cache

/-- What putting an entry in comes to when every access succeeds. -/
theorem push_eq {c : Cache} {expiry : Tai64} {key data : Bytes} {first link : Nat}
    {a₁ a₂ a₃ : Arena} (hfirst : Arena.word c.arena (c.bucket key) = .ok first)
    (hlink : (if first = 0 then pure 0 else Arena.word c.arena first) = .ok link)
    (hrelink : (if first = 0 then pure c.arena
      else Arena.setWord c.arena first (link ^^^ c.bucket key ^^^ c.writer)) = .ok a₁)
    (hwrite : Arena.write a₁ c.writer (entryBytes (c.bucket key) first expiry key data) = .ok a₂)
    (hhead : Arena.setWord a₂ (c.bucket key) c.writer = .ok a₃) :
    c.push expiry key data =
      .ok { c with
        arena := a₃
        writer := c.writer + (key.length + data.length + entryHeader)
        motion := c.motion + UInt64.ofNat (key.length + data.length + entryHeader) } := by
  unfold push
  simp only [bind, Except.bind, pure, Except.pure, hfirst] at hlink hrelink ⊢
  by_cases hnone : first = 0
  · rw [if_pos hnone] at hrelink
    obtain rfl := Except.ok.inj hrelink
    rw [if_pos hnone, if_pos hnone, hwrite]
    simp only
    rw [hhead]
  · rw [if_neg hnone] at hlink hrelink
    rw [if_neg hnone, hlink]
    simp only
    rw [if_neg hnone, hrelink]
    simp only
    rw [hwrite]
    simp only
    rw [hhead]

/-- What is past the limits is not stored. -/
theorem set_of_refused {c : Cache} {key data : Bytes} {ttl : Nat} (now : Tai64)
    (h : maxKey < key.length ∨ maxData < data.length ∨ ttl = 0) :
    c.set now key data ttl = .ok c := by
  unfold set
  rw [if_pos h]
  rfl

/-- What is within the limits is put in if room was made for it; otherwise the store stays as it is
by then. -/
theorem set_of_makeRoom {c c₁ : Cache} {key data : Bytes} {ttl : Nat} {fits : Bool} (now : Tai64)
    (hlimits : ¬ (maxKey < key.length ∨ maxData < data.length ∨ ttl = 0))
    (hroom : c.makeRoom (key.length + data.length + entryHeader) = .ok (fits, c₁)) :
    c.set now key data ttl =
      if fits then c₁.push (now.add (min ttl maxTtl)) key data else .ok c₁ := by
  unfold set
  rw [if_neg hlimits]
  simp only [bind, Except.bind, pure, Except.pure, hroom]

namespace Laid

variable {c : Cache} {filed : Nat → Bytes} {old young : List Placed}

/-! ## The free space -/

/-- No entry reaches into the free space. -/
theorem entry_apart_free (h : Laid c filed old young) {p : Placed} (hp : p ∈ old ++ young) :
    p.pos + p.entry.length ≤ c.writer ∨ c.oldest ≤ p.pos := by
  rcases List.mem_append.1 hp with hp | hp
  · exact .inr (h.old_tiled.mem hp).2.1
  · exact .inl (h.young_tiled.mem hp).2.2

/-- No entry begins where the free space does. -/
theorem pos_ne_writer (h : Laid c filed old young) (hfree : c.writer < c.oldest) {p : Placed}
    (hp : p ∈ old ++ young) : p.pos ≠ c.writer := by
  have := h.entry_apart_free hp
  have := p.entry.header_le_length
  omega

/-- No link reaches into the free space. -/
theorem node_apart_free (h : Laid c filed old young) {head q : Nat} (hhead : c.IsHead head)
    (hq : q ∈ head :: c.chainOf filed head (old ++ young)) : q + 4 ≤ c.writer ∨ c.oldest ≤ q := by
  obtain ⟨hlt, hdvd⟩ := hhead
  have := h.heads_dvd
  have := h.heads_le_writer
  rcases node_cases hq with rfl | ⟨p, hp, -, rfl⟩
  · omega
  · have := h.entry_apart_free hp
    have := p.entry.header_le_length
    omega

/-! ## The three writes -/

/-- The entry that was the newest of its bucket gets the new entry for a neighbour in place of the
bucket link; without one, nothing is written. -/
theorem exists_relink (h : Laid c filed old young) {head first : Nat} (hhead : c.IsHead head)
    (hfirst : first = (c.chainOf filed head (old ++ young)).headD 0)
    (hwriter : c.writer < 0x100000000) :
    ∃ link a,
      (if first = 0 then pure 0 else Arena.word c.arena first) = Except.ok (ε := Damage) link ∧
      (if first = 0 then pure c.arena
        else Arena.setWord c.arena first (link ^^^ head ^^^ c.writer)) = .ok a ∧
      a.size = c.size ∧ (∀ p ∈ old ++ young, EntryAt a p.pos p.entry) ∧
      (∀ q link', (c.chainOf filed head (old ++ young)).head? = some q →
        Arena.word c.arena q = .ok link' → Arena.word a q = .ok (link' ^^^ head ^^^ c.writer)) ∧
      ∀ head' q, c.IsHead head' → q ∈ head' :: c.chainOf filed head' (old ++ young) →
        (c.chainOf filed head (old ++ young)).head? ≠ some q →
        Arena.word a q = Arena.word c.arena q := by
  cases hchain : c.chainOf filed head (old ++ young) with
  | nil =>
    rw [hchain, List.headD_nil] at hfirst
    refine ⟨0, c.arena, if_pos hfirst, if_pos hfirst, rfl, fun p hp => (h.mem hp).1, ?_, ?_⟩
    · intro q link' hq
      contradiction
    · intro head' q _ _ _
      rfl
  | cons newest rest =>
    rw [hchain, List.headD_cons] at hfirst
    subst hfirst
    have hnode : first ∈ head :: c.chainOf filed head (old ++ young) := by
      rw [hchain]
      exact List.mem_cons_of_mem _ List.mem_cons_self
    -- entries stand behind the bucket links, so 0 is not the offset of one
    have hne : first ≠ 0 := by
      obtain ⟨p, hp, -, hpos⟩ := mem_chainOf.1 (hchain ▸ List.mem_cons_self)
      have := (h.mem hp).2.1
      have := h.heads_pos
      omega
    obtain ⟨link, hlink⟩ := (h.chained head hhead).exists_word hnode
    have hlt : link ^^^ head ^^^ c.writer < 0x100000000 :=
      Arena.xor_lt (Arena.xor_lt (Arena.lt_of_word_eq hlink)
        (h.node_lt hhead List.mem_cons_self)) hwriter
    obtain ⟨a, hset, hsize, hword, hsame, hentries⟩ := h.setWord hhead hnode hlt
    refine ⟨link, a, ?_, ?_, hsize, hentries, ?_, ?_⟩
    · rw [if_neg hne, hlink]
    · rw [if_neg hne, hset]
    · intro q link' hq hlink'
      obtain rfl := Option.some.inj hq
      rw [hlink] at hlink'
      obtain rfl := Except.ok.inj hlink'
      exact hword
    · intro head' q hhead' hq hqne
      exact hsame head' q hhead' hq fun heq => hqne (by rw [heq, List.head?_cons])

/-- The new entry goes into the free space, where it touches no other entry and no link. -/
theorem exists_placed (h : Laid c filed old young) {e : Entry} {a : Arena} {head first : Nat}
    (hsize : a.size = c.size) (hlink : first ^^^ head < 0x100000000) (hlimits : e.WithinLimits)
    (hroom : c.writer + e.length ≤ c.oldest) :
    ∃ a', Arena.write a c.writer (entryBytes head first e.expiry e.key e.data) = .ok a' ∧
      a'.size = c.size ∧ EntryAt a' c.writer e ∧ Arena.word a' c.writer = .ok (first ^^^ head) ∧
      (∀ q, q + 4 ≤ c.writer ∨ c.oldest ≤ q → Arena.word a' q = Arena.word a q) ∧
      ∀ p ∈ old ++ young, EntryAt a p.pos p.entry → EntryAt a' p.pos p.entry := by
  have hlong := e.header_le_length
  have hbytes : (entryBytes head first e.expiry e.key e.data).length = e.length := by
    show (toLittleEndian 4 (first ^^^ head) ++ e.body).length = e.length
    rw [List.length_append, length_toLittleEndian, Entry.length_body]
    omega
  have hfit : c.writer + (entryBytes head first e.expiry e.key e.data).length ≤ a.size := by
    have := h.oldest_le_size
    rw [hbytes, hsize]
    omega
  obtain ⟨a', hwritten, hwrite⟩ := Arena.exists_write hfit
  obtain ⟨hlinkBytes, hbody⟩ := Block.holds_append_iff.1 (Block.holds_of_write? hwrite)
  rw [length_toLittleEndian] at hbody
  refine ⟨a', hwritten, (Block.size_of_write? hwrite).trans hsize, ⟨hlimits, hbody⟩,
    Arena.word_eq_of_holds hlinkBytes hlink, ?_, ?_⟩
  · intro q hq
    exact Arena.word_of_write? hwrite (by omega)
  · intro p hp hentry
    have hfree := h.entry_apart_free hp
    exact hentry.of_write? hwrite (by omega)

/-- A bucket link is written without touching an entry or another link. -/
theorem exists_headed (h : Laid c filed old young) {a : Arena} {head value : Nat}
    (hhead : c.IsHead head) (hsize : a.size = c.size) (hvalue : value < 0x100000000) :
    ∃ a', Arena.setWord a head value = .ok a' ∧ a'.size = c.size ∧
      Arena.word a' head = .ok value ∧
      (∀ q, q + 4 ≤ head ∨ head + 4 ≤ q → Arena.word a' q = Arena.word a q) ∧
      ∀ pos e, c.heads ≤ pos → EntryAt a pos e → EntryAt a' pos e := by
  have hlen := length_toLittleEndian 4 value
  have hbelow : head + 4 ≤ c.heads := by
    obtain ⟨hlt, hdvd⟩ := hhead
    have := h.heads_dvd
    omega
  have hfit : head + (toLittleEndian 4 value).length ≤ a.size := by
    rw [hlen, hsize]
    exact h.node_le_size hhead List.mem_cons_self
  obtain ⟨a', hset, hwrite⟩ := Arena.exists_write hfit
  refine ⟨a', hset, (Block.size_of_write? hwrite).trans hsize,
    Arena.word_eq_of_holds (Block.holds_of_write? hwrite) hvalue, ?_, ?_⟩
  · intro q hq
    exact Arena.word_of_write? hwrite (by omega)
  · intro pos e hpos hentry
    exact hentry.of_write? hwrite (by omega)

end Laid

/-- What the arena holds once an entry was put in among the given ones. -/
structure Inserted (c : Cache) (filed : Nat → Bytes) (ps : List Placed) (e : Entry) (a : Arena) :
    Prop where
  size_eq : a.size = c.size
  entry : EntryAt a c.writer e
  entries : ∀ p ∈ ps, EntryAt a p.pos p.entry
  word_head : Arena.word a (c.bucket e.key) = .ok c.writer
  word_new : Arena.word a c.writer =
    .ok ((c.chainOf filed (c.bucket e.key) ps).headD 0 ^^^ c.bucket e.key)
  word_first : ∀ q link, (c.chainOf filed (c.bucket e.key) ps).head? = some q →
    Arena.word c.arena q = .ok link →
    Arena.word a q = .ok (link ^^^ c.bucket e.key ^^^ c.writer)
  word_other : ∀ head q, c.IsHead head → q ∈ head :: c.chainOf filed head ps →
    q ≠ c.bucket e.key → (c.chainOf filed (c.bucket e.key) ps).head? ≠ some q →
    Arena.word a q = Arena.word c.arena q

namespace Laid

variable {c : Cache} {filed : Nat → Bytes} {old young : List Placed} {e : Entry} {a : Arena}

/-- Where there is room for an entry, it can be put in. -/
theorem exists_inserted (h : Laid c filed old young) (hlimits : e.WithinLimits)
    (hroom : c.writer + e.length ≤ c.oldest) :
    ∃ a, Inserted c filed (old ++ young) e a ∧
      c.push e.expiry e.key e.data =
        .ok { c with
          arena := a
          writer := c.writer + e.length
          motion := c.motion + UInt64.ofNat e.length } := by
  have hhead := isHead_bucket h.heads_pos e.key
  have hheadNode : c.bucket e.key ∈
      c.bucket e.key :: c.chainOf filed (c.bucket e.key) (old ++ young) := List.mem_cons_self
  have hheadLt := h.node_lt hhead hheadNode
  have hwriter : c.writer < 0x100000000 := by
    have := h.writer_le_oldest
    have := h.oldest_le_size
    have := h.size_le
    unfold maxSize at this
    omega
  have hfirst : Arena.word c.arena (c.bucket e.key) =
      .ok ((c.chainOf filed (c.bucket e.key) (old ++ young)).headD 0) := by
    rw [(h.chained _ hhead).word_here, Nat.zero_xor]
  have hlinkLt := Arena.xor_lt (Arena.lt_of_word_eq hfirst) hheadLt
  -- the link of the newest entry, the entry itself and the bucket link are written in turn
  obtain ⟨link, a₁, hlink, hrelink, hsize₁, hentries₁, hword₁, hsame₁⟩ :=
    h.exists_relink hhead rfl hwriter
  obtain ⟨a₂, hwrite, hsize₂, hentry₂, hnew₂, hsame₂, hentries₂⟩ :=
    h.exists_placed hsize₁ hlinkLt hlimits hroom
  obtain ⟨a₃, hset, hsize₃, hword₃, hsame₃, hentries₃⟩ := h.exists_headed hhead hsize₂ hwriter
  have hlate : ∀ head q, c.IsHead head → q ∈ head :: c.chainOf filed head (old ++ young) →
      q ≠ c.bucket e.key → Arena.word a₃ q = Arena.word a₁ q := by
    intro head q hhead' hq hne
    have hfree := h.node_apart_free hhead' hq
    have hapart := h.nodes_apart hhead' hhead hq hheadNode hne
    rw [hsame₃ q hapart, hsame₂ q hfree]
  refine ⟨a₃, ?_, push_eq hfirst hlink hrelink hwrite hset⟩
  exact {
    size_eq := hsize₃
    entry := hentries₃ _ _ h.heads_le_writer hentry₂
    entries := by
      intro p hp
      exact hentries₃ _ _ (h.mem hp).2.1 (hentries₂ p hp (hentries₁ p hp))
    word_head := hword₃
    word_new := by
      have hheadFree : c.bucket e.key + 4 ≤ c.writer := by
        obtain ⟨hlt, hdvd⟩ := hhead
        have := h.heads_dvd
        have := h.heads_le_writer
        omega
      rw [hsame₃ c.writer (.inr hheadFree), hnew₂]
    word_first := by
      intro q link' hq hlink'
      have hmem := List.mem_of_mem_head? hq
      have hne : q ≠ c.bucket e.key := fun heq =>
        (List.nodup_cons.1 (h.nodup_nodes hhead)).1 (heq ▸ hmem)
      rw [hlate _ q hhead (List.mem_cons_of_mem _ hmem) hne]
      exact hword₁ q link' hq hlink'
    word_other := by
      intro head q hhead' hq hne hqne
      rw [hlate head q hhead' hq hne]
      exact hsame₁ head q hhead' hq hqne }

/-- Once an entry was put in, the chains are those of the entries with it. -/
theorem chained_of_inserted (h : Laid c filed old young) (hfiled : filed c.writer = c.hashKey)
    (hin : Inserted c filed (old ++ young) e a) {head : Nat} (hhead : c.IsHead head) :
    Arena.Chained a 0 head (c.chainOf filed head (old ++ young ++ [⟨c.writer, e⟩])) := by
  have hhome : c.home filed ⟨c.writer, e⟩ = c.bucket e.key := by
    unfold home bucket
    rw [hfiled]
  have heHead := isHead_bucket h.heads_pos e.key
  have hchain := h.chained head hhead
  by_cases heq : c.bucket e.key = head
  · subst heq
    have hnodup := h.nodup_nodes hhead
    rw [← hhome, chainOf_concat c filed ⟨c.writer, e⟩, hhome]
    apply hchain.push hin.word_head hin.word_new hin.word_first
    intro q hq
    cases hrest : c.chainOf filed (c.bucket e.key) (old ++ young) with
    | nil =>
      rw [hrest] at hq
      contradiction
    | cons first rest =>
      rw [hrest, List.tail_cons] at hq
      rw [hrest, List.nodup_cons, List.nodup_cons] at hnodup
      refine hin.word_other _ q hhead ?_ ?_ ?_
      · rw [hrest]
        exact List.mem_cons_of_mem _ (List.mem_cons_of_mem _ hq)
      · exact fun hqh => hnodup.1 (hqh ▸ List.mem_cons_of_mem _ hq)
      · rw [hrest, List.head?_cons]
        exact fun hqf => hnodup.2.1 (Option.some.inj hqf ▸ hq)
  · -- the three links written are those of the bucket of the entry
    rw [chainOf_concat_of_ne (p := ⟨c.writer, e⟩) (hhome ▸ heq)]
    refine hchain.congr fun q hq => hin.word_other head q hhead hq ?_ ?_
    · exact fun hqh => heq (h.head_unique heHead hhead (hqh ▸ List.mem_cons_self) hq)
    · intro hqf
      exact heq (h.head_unique heHead hhead
        (List.mem_cons_of_mem _ (List.mem_of_mem_head? hqf)) hq)

/-- An entry for which there is room is written behind the younger entries and put in front of its
chain, and counts with its length. -/
theorem exists_push (h : Laid c filed old young) (hfiled : filed c.writer = c.hashKey)
    (hlimits : e.WithinLimits) (hroom : c.writer + e.length ≤ c.oldest) :
    ∃ c', c.push e.expiry e.key e.data = .ok c' ∧
      Laid c' filed old (young ++ [⟨c.writer, e⟩]) ∧ Alike c c' ∧
      c'.motion = c.motion + UInt64.ofNat e.length := by
  obtain ⟨a, hin, hpush⟩ := h.exists_inserted hlimits hroom
  refine ⟨_, hpush, ?_, ⟨hin.size_eq, rfl, rfl⟩, rfl⟩
  exact {
    size_le := Nat.le_trans (Nat.le_of_eq hin.size_eq) h.size_le
    heads_pos := h.heads_pos
    heads_dvd := h.heads_dvd
    heads_le_writer := Nat.le_trans h.heads_le_writer (Nat.le_add_right _ _)
    writer_le_oldest := hroom
    oldest_le_unused := h.oldest_le_unused
    unused_le_size := Nat.le_trans h.unused_le_size (Nat.le_of_eq hin.size_eq.symm)
    unused_eq_size := fun heq => (h.unused_eq_size heq).trans hin.size_eq.symm
    old_tiled := h.old_tiled.congr fun p hp _ => hin.entries p (List.mem_append_left _ hp)
    young_tiled := (h.young_tiled.congr fun p hp _ =>
      hin.entries p (List.mem_append_right _ hp)).concat hin.entry
    chained := by
      intro head hhead
      rw [← List.append_assoc]
      exact h.chained_of_inserted hfiled hin hhead }

/-- Where there is free space, what is told of its first byte says nothing of an entry. -/
theorem update_writer (h : Laid c filed old young) (hfree : c.writer < c.oldest) (hashKey : Bytes) :
    Laid c (Function.update filed c.writer hashKey) old young := by
  refine h.refiled fun p hp => ?_
  exact Function.update_of_ne (h.pos_ne_writer hfree hp) hashKey filed

/-- An entry for which there is room is filed under the hash key of the store where the free space
began. -/
theorem exists_push_update (h : Laid c filed old young) (hlimits : e.WithinLimits)
    (hroom : c.writer + e.length ≤ c.oldest) :
    ∃ c', c.push e.expiry e.key e.data = .ok c' ∧
      Laid c' (Function.update filed c.writer c.hashKey) old (young ++ [⟨c.writer, e⟩]) ∧
      Alike c c' ∧ c'.motion = c.motion + UInt64.ofNat e.length := by
  have hfree : c.writer < c.oldest := by
    have := e.header_le_length
    omega
  exact (h.update_writer hfree c.hashKey).exists_push (Function.update_self ..) hlimits hroom

/-! ## Storing -/

/-- Storing what is within the limits gives up some of the oldest entries and adds the new one. It
is not added exactly if it takes more than all the space for entries, and then none is left. The new
entry is filed under the hash key of the store, the others stay where they were filed. -/
theorem exists_set (h : Laid c filed old young) (now : Tai64) (key data : Bytes) (ttl : Nat)
    (hkey : key.length ≤ maxKey) (hdata : data.length ≤ maxData) (httl : ttl ≠ 0) :
    ∃ c' filed' old' young' gone kept,
      c.set now key data ttl = .ok c' ∧ Laid c' filed' old' young' ∧ Alike c c' ∧
        old ++ young = gone ++ kept ∧ (∀ p ∈ kept, filed' p.pos = filed p.pos) ∧
        if c.heads + (key.length + data.length + entryHeader) ≤ c.size then
          ∃ pos, filed' pos = c.hashKey ∧
            old' ++ young' = kept ++ [⟨pos, key, data, now.add (min ttl maxTtl)⟩]
        else old' ++ young' = [] := by
  obtain ⟨c₁, old₁, young₁, gone, hroom, hlaid, halike, hgone, hend⟩ :=
    h.makesRoom (key.length + data.length + entryHeader)
  have hlimits : ¬ (maxKey < key.length ∨ maxData < data.length ∨ ttl = 0) := by omega
  have hset := set_of_makeRoom now hlimits hroom
  by_cases hfits : c.heads + (key.length + data.length + entryHeader) ≤ c.size
  · rw [if_pos hfits] at hend
    rw [decide_eq_true hfits, if_pos rfl] at hset
    have hfree : c₁.writer < c₁.oldest := by
      unfold entryHeader at hend
      omega
    obtain ⟨c₂, hpush, hlaid₂, halike₂, -⟩ := hlaid.exists_push_update
      (e := ⟨key, data, now.add (min ttl maxTtl)⟩) ⟨hkey, hdata⟩ hend
    refine ⟨c₂, _, old₁, _, gone, old₁ ++ young₁, hset.trans hpush, hlaid₂, halike.trans halike₂,
      hgone, ?_, ?_⟩
    · intro p hp
      exact Function.update_of_ne (hlaid.pos_ne_writer hfree hp) c₁.hashKey filed
    · rw [if_pos hfits]
      refine ⟨c₁.writer, ?_, (List.append_assoc ..).symm⟩
      rw [Function.update_self, halike.hashKey_eq]
  · rw [if_neg hfits] at hend
    rw [decide_eq_false hfits, if_neg Bool.false_ne_true] at hset
    refine ⟨c₁, filed, old₁, young₁, gone, old₁ ++ young₁, hset, hlaid, halike, hgone,
      fun _ _ => rfl, ?_⟩
    rw [if_neg hfits]
    exact hend

end Laid

end Resolver.Cache
