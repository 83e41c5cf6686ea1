import Mathlib.Logic.Relation
import Resolver.Proofs.Packet

/-!
# Compressed names

What a name in a message stands for is told twice: by the labels that are read from a position on,
pointers being followed wherever they lead (`Spells`), and by a loop that collects the name in turns
of one label or one pointer each (`Reading.turn`).

Main statements: a name is read exactly where labels are spelled with no more than a hundred
pointers and within the length of a name (`nameAt?_eq_some_iff`), the loop comes to this result on
every message in a bounded number of turns (`ends_nameAt?`), and both are put together in
`nameAt?_exact`.
-/

namespace Resolver.Packet

/-! ## Labels as they are spelled -/

/-- From the position on these labels are read up to a zero byte, all inside the message, following
so many pointers; the encoding ends behind the first pointer, or behind the zero byte if there is no
pointer. -/
inductive Spells (packet : Bytes) : (pos : Nat) → List Bytes → (jumps after : Nat) → Prop
  | root {pos : Nat} (hzero : packet[pos]? = some 0) : Spells packet pos [] 0 (pos + 1)
  | label {pos jumps after : Nat} {n : UInt8} {labels : List Bytes} (hbyte : packet[pos]? = some n)
      (hlow : 1 ≤ n.toNat) (hhigh : n.toNat ≤ 63) (hinside : pos + 1 + n.toNat ≤ packet.length)
      (rest : Spells packet (pos + 1 + n.toNat) labels jumps after) :
      Spells packet pos ((packet.drop (pos + 1)).take n.toNat :: labels) jumps after
  | pointer {pos jumps behind : Nat} {high low : UInt8} {labels : List Bytes}
      (hbyte : packet[pos]? = some high) (hhigh : 0xC0 ≤ high.toNat)
      (hlow : packet[pos + 1]? = some low)
      (rest : Spells packet (high.toNat % 64 * 256 + low.toNat) labels jumps behind) :
      Spells packet pos labels (jumps + 1) (pos + 2)

variable {packet name : Bytes} {pos jumps left used after : Nat} {labels : List Bytes}

theorem drop_eq_cons {n : UInt8} (h : packet[pos]? = some n) :
    packet.drop pos = n :: packet.drop (pos + 1) := by
  obtain ⟨hlt, rfl⟩ := List.getElem?_eq_some_iff.1 h
  exact List.drop_eq_getElem_cons hlt

theorem getElem?_of_drop_eq_cons {n : UInt8} {tail : Bytes} (h : packet.drop pos = n :: tail) :
    packet[pos]? = some n ∧ packet.drop (pos + 1) = tail := by
  constructor
  · rw [← List.head?_drop, h, List.head?_cons]
  · rw [← List.tail_drop, h, List.tail_cons]

namespace Spells

/-- The encoding of a name takes at least a byte, and ends inside the message. -/
theorem bounds (h : Spells packet pos labels jumps after) : pos < after ∧ after ≤ packet.length := by
  induction h with
  | root hzero =>
    have := (List.getElem?_eq_some_iff.1 hzero).1
    omega
  | label hbyte hlow hhigh hinside rest ih => omega
  | pointer hbyte hhigh hlow rest ih =>
    have := (List.getElem?_eq_some_iff.1 hlow).1
    omega

/-- Skipping a name comes to the end of its encoding. -/
theorem skipName_eq (h : Spells packet pos labels jumps after) :
    skipName (packet.drop pos) = some (packet.drop after) := by
  induction h with
  | root hzero =>
    rw [drop_eq_cons hzero, skipName, if_neg (by decide), if_pos rfl]
  | @label pos _ _ n _ hbyte hlow hhigh hinside rest ih =>
    have hplain : ¬ (192 : UInt8) ≤ n := UInt8.not_le.2 (UInt8.lt_iff_toNat_lt.2 (by
      show n.toNat < 192
      omega))
    have hne : n ≠ 0 := fun heq => by simp [heq] at hlow
    rw [drop_eq_cons hbyte, skipName, if_neg hplain, if_neg hne, List.drop_drop, ih]
  | @pointer pos _ _ high _ _ hbyte hhigh hlow rest ih =>
    have hpointer : (192 : UInt8) ≤ high := UInt8.le_iff_toNat_le.2 hhigh
    rw [drop_eq_cons hbyte, skipName, if_pos hpointer, List.drop_drop]

/-- Labels that are spelled with pointers to spare and within the length of a name are read. -/
theorem expand_eq (h : Spells packet pos labels jumps after) (hjumps : jumps ≤ left)
    (hlength : used + Name.wireLength labels ≤ Name.maxLength) :
    expand packet left used (packet.drop pos) = some (Name.ofLabels labels) := by
  induction h generalizing left used with
  | root hzero =>
    rw [drop_eq_cons hzero]
    unfold expand
    rw [if_neg (by decide), if_neg (by decide), if_pos rfl]
    rfl
  | @label pos _ _ n labels hbyte hlow hhigh hinside rest ih =>
    have hplain : ¬ (192 : UInt8) ≤ n := UInt8.not_le.2 (UInt8.lt_iff_toNat_lt.2 (by
      show n.toNat < 192
      omega))
    have hshort : ¬ (64 : UInt8) ≤ n := UInt8.not_le.2 (UInt8.lt_iff_toNat_lt.2 (by
      show n.toNat < 64
      omega))
    have hne : n ≠ 0 := fun heq => by simp [heq] at hlow
    have hlabel : ((packet.drop (pos + 1)).take n.toNat).length = n.toNat := by
      rw [List.length_take, List.length_drop]
      omega
    rw [Name.wireLength, hlabel] at hlength
    have hroot := Name.wireLength_pos labels
    rw [drop_eq_cons hbyte]
    unfold expand
    rw [if_neg hplain, if_neg hshort, if_neg hne, hlabel, if_neg (Nat.lt_irrefl _),
      if_neg (by omega), List.drop_drop, ih hjumps (by omega), Name.ofLabels, hlabel,
      UInt8.ofNat_toNat]
    rfl
  | @pointer pos jumps _ high low _ hbyte hhigh hlow rest ih =>
    obtain ⟨spare, rfl⟩ : ∃ spare, left = spare + 1 := ⟨left - 1, by omega⟩
    have hpointer : (192 : UInt8) ≤ high := UInt8.le_iff_toNat_le.2 hhigh
    rw [drop_eq_cons hbyte, drop_eq_cons hlow]
    unfold expand
    rw [if_pos hpointer]
    exact ih (Nat.le_of_succ_le_succ hjumps) hlength

end Spells

/-- What is read as a name is spelled, with pointers to spare and within the length of a name. -/
theorem exists_spells_of_expand (h : expand packet left used (packet.drop pos) = some name)
    (hused : used < Name.maxLength) :
    ∃ labels jumps after, Spells packet pos labels jumps after ∧ jumps ≤ left ∧
      name = Name.ofLabels labels ∧ used + Name.wireLength labels ≤ Name.maxLength := by
  generalize hrest : packet.drop pos = rest at h
  fun_induction expand packet left used rest generalizing pos name with
  | case1 => contradiction
  | case2 used n hpointer low tail left ih =>
    obtain ⟨hbyte, htail⟩ := getElem?_of_drop_eq_cons hrest
    obtain ⟨hlow, -⟩ := getElem?_of_drop_eq_cons htail
    obtain ⟨labels, jumps, behind, hspells, hjumps, hname, hlength⟩ := ih hused rfl h
    exact ⟨labels, jumps + 1, pos + 2,
      .pointer hbyte (UInt8.le_iff_toNat_le.1 hpointer) hlow hspells, Nat.succ_le_succ hjumps, hname,
      hlength⟩
  | case3 => contradiction
  | case4 => contradiction
  | case5 used tail hplain hlow =>
    obtain rfl := Option.some.inj h
    exact ⟨[], 0, pos + 1, .root (getElem?_of_drop_eq_cons hrest).1, Nat.zero_le _, rfl, hused⟩
  | case6 => contradiction
  | case7 => contradiction
  | case8 left used n tail hplain hlow hzero hshort hroom ih =>
    obtain ⟨name, hname, rfl⟩ := Option.map_eq_some_iff.1 h
    obtain ⟨hbyte, htail⟩ := getElem?_of_drop_eq_cons hrest
    have hlabel : (tail.take n.toNat).length = n.toNat := by
      have := List.length_take_le n.toNat tail
      omega
    have hpos : n.toNat ≠ 0 := fun heq => hzero (UInt8.toNat_inj.1 heq)
    have hmax : n.toNat < 64 := UInt8.not_le.1 hlow
    have hinside : pos + 1 + n.toNat ≤ packet.length := by
      rw [← htail, List.length_take, List.length_drop] at hlabel
      omega
    obtain ⟨labels, jumps, after, hspells, hjumps, rfl, hlength⟩ :=
      ih (by omega) (by rw [← List.drop_drop, htail]) hname
    refine ⟨tail.take n.toNat :: labels, jumps, after, ?_, hjumps, ?_, ?_⟩
    · rw [← htail]
      exact .label hbyte (by omega) (by omega) hinside hspells
    · rw [Name.ofLabels, hlabel, UInt8.ofNat_toNat]
    · rw [Name.wireLength, hlabel]
      omega

/-- A name is read where labels are spelled with no more pointers than are followed and within the
length of a name. -/
theorem nameAt?_eq_some_iff :
    nameAt? packet pos = some (name, after) ↔
      ∃ labels jumps, Spells packet pos labels jumps after ∧ jumps ≤ maxJumps ∧
        name = Name.ofLabels labels ∧ name.length ≤ Name.maxLength := by
  unfold nameAt? takeName
  constructor
  · intro h
    obtain ⟨⟨found, behind⟩, htake, hplace⟩ := Option.map_eq_some_iff.1 h
    obtain ⟨rfl, rfl⟩ := Prod.mk.inj hplace
    obtain ⟨expanded, hexpand, hskip⟩ := Option.bind_eq_some_iff.1 htake
    obtain ⟨rest, hrest, hpair⟩ := Option.bind_eq_some_iff.1 hskip
    obtain ⟨rfl, rfl⟩ := Prod.mk.inj (Option.some.inj hpair)
    obtain ⟨labels, jumps, after, hspells, hjumps, rfl, hlength⟩ :=
      exists_spells_of_expand hexpand (by decide)
    -- the rest behind the name begins where its encoding ends
    rw [hspells.skipName_eq] at hrest
    obtain rfl := Option.some.inj hrest
    have hafter : packet.length - (packet.drop after).length = after := by
      have := hspells.bounds
      rw [List.length_drop]
      omega
    rw [hafter]
    refine ⟨labels, jumps, hspells, hjumps, rfl, ?_⟩
    rw [Name.length_ofLabels]
    omega
  · rintro ⟨labels, jumps, hspells, hjumps, rfl, hlength⟩
    rw [Name.length_ofLabels] at hlength
    have hexpand : expand packet maxJumps 0 (packet.drop pos) = some (Name.ofLabels labels) :=
      hspells.expand_eq hjumps (by omega)
    have hafter : packet.length - (packet.drop after).length = after := by
      have := hspells.bounds
      rw [List.length_drop]
      omega
    rw [hexpand, hspells.skipName_eq]
    show some (Name.ofLabels labels, packet.length - (packet.drop after).length) = _
    rw [hafter]

/-! ## Reading in turns -/

/-- How far the reading of a name has come: the position looked at, what was collected of the name,
where its encoding ends if that is known, and how many pointers were followed. -/
structure Reading where
  pos : Nat
  name : Bytes
  after? : Option Nat
  jumps : Nat
  deriving DecidableEq, Repr

namespace Reading

/-- The reading of a name begins. -/
def start (pos : Nat) : Reading :=
  ⟨pos, [], none, 0⟩

/-- What a turn of the reading comes to. -/
inductive Turn
  /-- The reading ends, with the name and the end of its encoding or in vain. -/
  | ended (result : Option (Bytes × Nat))
  | goesOn (r : Reading)
  deriving DecidableEq, Repr

/-- One turn follows a pointer or collects a label. -/
def turn (packet : Bytes) (r : Reading) : Turn :=
  match packet[r.pos]? with
  | none => .ended none
  | some n =>
    if 0xC0 ≤ n then
      match packet[r.pos + 1]? with
      | none => .ended none
      | some low =>
        if maxJumps < r.jumps + 1 then .ended none
        else
          .goesOn ⟨n.toNat % 64 * 256 + low.toNat, r.name, some (r.after?.getD (r.pos + 2)),
            r.jumps + 1⟩
    else if 64 ≤ n then .ended none
    else if n = 0 then
      if Name.maxLength < r.name.length + 1 then .ended none
      else .ended (some (r.name ++ [0], r.after?.getD (r.pos + 1)))
    else
      match copy? packet (r.pos + 1) n.toNat with
      | none => .ended none
      | some (label, next) =>
        if Name.maxLength ≤ (r.name ++ n :: label).length then .ended none
        else .goesOn ⟨next, r.name ++ n :: label, r.after?, r.jumps⟩

/-- The reading ends with this result, in so many turns. -/
inductive Ends (packet : Bytes) : Reading → Nat → Option (Bytes × Nat) → Prop
  | last {r : Reading} {result : Option (Bytes × Nat)} (h : r.turn packet = .ended result) :
      Ends packet r 1 result
  | next {r r' : Reading} {turns : Nat} {result : Option (Bytes × Nat)}
      (h : r.turn packet = .goesOn r') (rest : Ends packet r' turns result) :
      Ends packet r (turns + 1) result

/-- The result of a reading is the name that is spelled from there on, behind what was collected
before, unless it takes too many pointers or gets too long. -/
def Answers (packet : Bytes) (r : Reading) (result : Option (Bytes × Nat)) : Prop :=
  ∀ name after, result = some (name, after) ↔
    ∃ labels jumps stop, Spells packet r.pos labels jumps stop ∧ r.jumps + jumps ≤ maxJumps ∧
      name = r.name ++ Name.ofLabels labels ∧ name.length ≤ Name.maxLength ∧
      after = r.after?.getD stop

variable {r : Reading} {result : Option (Bytes × Nat)} {n low : UInt8}

/-- Nothing is read where nothing is spelled that has pointers to spare and is short enough. -/
theorem answers_none (h : ∀ labels jumps stop, Spells packet r.pos labels jumps stop →
    r.jumps + jumps ≤ maxJumps → ¬ (r.name ++ Name.ofLabels labels).length ≤ Name.maxLength) :
    r.Answers packet none := by
  refine fun name after => iff_of_false nofun ?_
  rintro ⟨labels, jumps, stop, hspells, hjumps, rfl, hlength, -⟩
  exact h labels jumps stop hspells hjumps hlength

/-- Behind a pointer, the name goes on where it leads. -/
theorem answers_of_pointer (hbyte : packet[r.pos]? = some n) (hpointer : 0xC0 ≤ n.toNat)
    (hlow : packet[r.pos + 1]? = some low)
    (h : Answers packet ⟨n.toNat % 64 * 256 + low.toNat, r.name, some (r.after?.getD (r.pos + 2)),
      r.jumps + 1⟩ result) : r.Answers packet result := by
  refine fun name after => (h name after).trans ⟨?_, ?_⟩
  · rintro ⟨labels, jumps, stop, hspells, hjumps, hname, hlength, rfl⟩
    exact ⟨labels, jumps + 1, r.pos + 2, .pointer hbyte hpointer hlow hspells,
      by rw [← Nat.add_assoc, Nat.add_right_comm]; exact hjumps, hname, hlength, rfl⟩
  · rintro ⟨labels, jumps, stop, hspells, hjumps, hname, hlength, rfl⟩
    cases hspells with
    | root hzero =>
      obtain rfl := Option.some.inj (hbyte.symm.trans hzero)
      exact absurd hpointer (by decide)
    | label hbyte' _ hhigh =>
      obtain rfl := Option.some.inj (hbyte.symm.trans hbyte')
      omega
    | @pointer _ jumps behind _ _ _ hbyte' _ hlow' rest =>
      obtain rfl := Option.some.inj (hbyte.symm.trans hbyte')
      obtain rfl := Option.some.inj (hlow.symm.trans hlow')
      exact ⟨labels, jumps, behind, rest,
        by rw [Nat.add_assoc, Nat.add_comm 1]; exact hjumps, hname, hlength, rfl⟩

/-- Behind a label, the name goes on with the next. -/
theorem answers_of_label (hbyte : packet[r.pos]? = some n) (hlow : 1 ≤ n.toNat)
    (hhigh : n.toNat ≤ 63) (hinside : r.pos + 1 + n.toNat ≤ packet.length)
    (h : Answers packet ⟨r.pos + 1 + n.toNat,
      r.name ++ n :: (packet.drop (r.pos + 1)).take n.toNat, r.after?, r.jumps⟩ result) :
    r.Answers packet result := by
  have hlabel : ((packet.drop (r.pos + 1)).take n.toNat).length = n.toNat := by
    rw [List.length_take, List.length_drop]
    omega
  have hname : ∀ labels, r.name ++ Name.ofLabels
      ((packet.drop (r.pos + 1)).take n.toNat :: labels) =
      r.name ++ n :: (packet.drop (r.pos + 1)).take n.toNat ++ Name.ofLabels labels := by
    intro labels
    rw [Name.ofLabels, hlabel, UInt8.ofNat_toNat, List.append_assoc]
  refine fun name after => (h name after).trans ⟨?_, ?_⟩
  · rintro ⟨labels, jumps, stop, hspells, hjumps, rfl, hlength, hafter⟩
    exact ⟨_, jumps, stop, .label hbyte hlow hhigh hinside hspells, hjumps, (hname labels).symm,
      hlength, hafter⟩
  · rintro ⟨labels, jumps, stop, hspells, hjumps, rfl, hlength, hafter⟩
    cases hspells with
    | root hzero =>
      obtain rfl := Option.some.inj (hbyte.symm.trans hzero)
      exact absurd hlow (by decide)
    | @label _ _ _ _ labels hbyte' _ _ _ rest =>
      obtain rfl := Option.some.inj (hbyte.symm.trans hbyte')
      exact ⟨labels, jumps, stop, rest, hjumps, hname labels, hlength, hafter⟩
    | pointer hbyte' hpointer =>
      obtain rfl := Option.some.inj (hbyte.symm.trans hbyte')
      omega

/-- How many pointers and labels can still be taken: a label takes two bytes at least. -/
def spare (r : Reading) : Nat :=
  (maxJumps - r.jumps) + (Name.maxLength - 1 - r.name.length) / 2

/-- A turn that does not end the reading with what it should leaves it with less to spare and the
same to answer. -/
def Advances (packet : Bytes) (r : Reading) : Turn → Prop
  | .ended result => r.Answers packet result
  | .goesOn r' => r'.jumps ≤ maxJumps ∧ r'.name.length < Name.maxLength ∧ r'.spare < r.spare ∧
      ∀ result, r'.Answers packet result → r.Answers packet result

/-- A pointer is followed, if there is one to spare. -/
theorem advances_pointer (hjumps : r.jumps ≤ maxJumps) (hname : r.name.length < Name.maxLength)
    (hbyte : packet[r.pos]? = some n) (hpointer : 0xC0 ≤ n) : r.Advances packet (r.turn packet) := by
  have hhigh : 192 ≤ n.toNat := UInt8.le_iff_toNat_le.1 hpointer
  unfold turn
  rw [hbyte]
  dsimp only
  rw [if_pos hpointer]
  -- whatever is spelled from here on begins with the pointer
  have hspelled : ∀ {labels jumps stop}, Spells packet r.pos labels jumps stop →
      jumps ≠ 0 ∧ packet[r.pos + 1]? ≠ none := by
    intro labels jumps stop hspells
    cases hspells with
    | root hzero =>
      obtain rfl := Option.some.inj (hbyte.symm.trans hzero)
      exact absurd hhigh (by decide)
    | label hbyte' _ hlabel =>
      obtain rfl := Option.some.inj (hbyte.symm.trans hbyte')
      omega
    | pointer _ _ hlow => exact ⟨Nat.succ_ne_zero _, by rw [hlow]; exact Option.some_ne_none _⟩
  cases hlow : packet[r.pos + 1]? with
  | none => exact answers_none fun labels jumps stop hspells _ _ => (hspelled hspells).2 hlow
  | some low =>
    dsimp only
    split
    · refine answers_none fun labels jumps stop hspells hspare _ => ?_
      have := (hspelled hspells).1
      omega
    · refine ⟨by dsimp only; omega, hname, ?_, fun result => answers_of_pointer hbyte hhigh hlow⟩
      unfold spare
      dsimp only
      omega

/-- A label is collected, if it is whole and the name does not get too long. -/
theorem advances_label (hjumps : r.jumps ≤ maxJumps) (hname : r.name.length < Name.maxLength)
    (hbyte : packet[r.pos]? = some n) (hne : n ≠ 0) (hshort : ¬ 64 ≤ n) :
    r.Advances packet (r.turn packet) := by
  have hlow : 1 ≤ n.toNat := Nat.one_le_iff_ne_zero.2 fun heq => hne (UInt8.toNat_inj.1 heq)
  have hhigh : n.toNat < 64 := UInt8.not_le.1 hshort
  have hplain : ¬ 0xC0 ≤ n := fun h => by
    have : 192 ≤ n.toNat := UInt8.le_iff_toNat_le.1 h
    omega
  unfold turn copy?
  rw [hbyte]
  dsimp only
  rw [if_neg hplain, if_neg hshort, if_neg hne]
  -- whatever is spelled from here on begins with the label and ends with the root label
  have hspelled : ∀ {labels jumps stop}, Spells packet r.pos labels jumps stop →
      r.pos + 1 + n.toNat ≤ packet.length ∧ n.toNat + 2 ≤ Name.wireLength labels := by
    intro labels jumps stop hspells
    cases hspells with
    | root hzero => exact absurd (Option.some.inj (hbyte.symm.trans hzero)) hne
    | @label _ _ _ _ labels hbyte' _ _ hinside =>
      obtain rfl := Option.some.inj (hbyte.symm.trans hbyte')
      have hroot := Name.wireLength_pos labels
      rw [Name.wireLength, List.length_take, List.length_drop]
      omega
    | pointer hbyte' hpointer =>
      obtain rfl := Option.some.inj (hbyte.symm.trans hbyte')
      omega
  by_cases hinside : r.pos + 1 + n.toNat ≤ packet.length
  · have hcollected : (r.name ++ n :: (packet.drop (r.pos + 1)).take n.toNat).length =
        r.name.length + 1 + n.toNat := by
      rw [List.length_append, List.length_cons, List.length_take, List.length_drop]
      omega
    rw [if_pos hinside]
    dsimp only
    split
    · refine answers_none fun labels jumps stop hspells _ hlength => ?_
      have := (hspelled hspells).2
      rw [List.length_append, Name.length_ofLabels] at hlength
      omega
    · refine ⟨hjumps, by dsimp only; omega, ?_,
        fun result => answers_of_label hbyte hlow (Nat.le_of_lt_succ hhigh) hinside⟩
      unfold spare
      dsimp only
      omega
  · rw [if_neg hinside]
    exact answers_none fun labels jumps stop hspells _ _ => hinside (hspelled hspells).1

/-- A zero byte ends the name. -/
theorem answers_root (hjumps : r.jumps ≤ maxJumps) (hname : r.name.length < Name.maxLength)
    (hbyte : packet[r.pos]? = some 0) :
    r.Answers packet (some (r.name ++ [0], r.after?.getD (r.pos + 1))) := by
  intro name after
  rw [Option.some.injEq, Prod.mk.injEq]
  constructor
  · rintro ⟨rfl, rfl⟩
    refine ⟨[], 0, r.pos + 1, .root hbyte, hjumps, rfl, ?_, rfl⟩
    rw [List.length_append]
    exact hname
  · rintro ⟨labels, jumps, stop, hspells, -, rfl, -, rfl⟩
    cases hspells with
    | root => exact ⟨rfl, rfl⟩
    | label hbyte' hlow =>
      obtain rfl := Option.some.inj (hbyte.symm.trans hbyte')
      exact absurd hlow (by decide)
    | pointer hbyte' hpointer =>
      obtain rfl := Option.some.inj (hbyte.symm.trans hbyte')
      exact absurd hpointer (by decide)

/-- A byte of 64 to 191 ends the reading in vain. -/
theorem turn_reserved (hbyte : packet[r.pos]? = some n) (hlow : 64 ≤ n) (hhigh : n < 0xC0) :
    r.turn packet = .ended none := by
  unfold turn
  rw [hbyte]
  dsimp only
  rw [if_neg (UInt8.not_le.2 hhigh), if_pos hlow]

/-- Whatever byte is looked at, a turn does what it should. -/
theorem advances_turn (hjumps : r.jumps ≤ maxJumps) (hname : r.name.length < Name.maxLength) :
    r.Advances packet (r.turn packet) := by
  cases hbyte : packet[r.pos]? with
  | none =>
    have hturn : r.turn packet = .ended none := by
      unfold turn
      rw [hbyte]
    rw [hturn]
    refine answers_none fun labels jumps stop hspells _ _ => ?_
    cases hspells with
    | root h | label h | pointer h => exact nomatch hbyte.symm.trans h
  | some n =>
    by_cases hpointer : 0xC0 ≤ n
    · exact advances_pointer hjumps hname hbyte hpointer
    by_cases hreserved : 64 ≤ n
    · rw [turn_reserved hbyte hreserved (UInt8.not_le.1 hpointer)]
      have hlow : 64 ≤ n.toNat := UInt8.le_iff_toNat_le.1 hreserved
      have hhigh : n.toNat < 192 := UInt8.not_le.1 hpointer
      refine answers_none fun labels jumps stop hspells _ _ => ?_
      cases hspells with
      | root h =>
        obtain rfl := Option.some.inj (hbyte.symm.trans h)
        exact absurd hlow (by decide)
      | label h | pointer h =>
        obtain rfl := Option.some.inj (hbyte.symm.trans h)
        omega
    by_cases hzero : n = 0
    · subst hzero
      have hroot := answers_root hjumps hname hbyte
      unfold turn
      rw [hbyte]
      dsimp only
      rw [if_neg hpointer, if_neg hreserved, if_pos rfl, if_neg (Nat.not_lt.2 hname)]
      exact hroot
    · exact advances_label hjumps hname hbyte hzero hreserved

/-! ## Whole readings -/

/-- A reading ends with the answer it should come to, after no more turns than it has pointers and
labels to spare and one more. -/
theorem exists_ends (hjumps : r.jumps ≤ maxJumps) (hname : r.name.length < Name.maxLength) :
    ∃ turns result, turns ≤ r.spare + 1 ∧ r.Ends packet turns result ∧
      r.Answers packet result := by
  induction hspare : r.spare using Nat.strongRecOn generalizing r with
  | ind spare ih =>
    have hadvances : r.Advances packet (r.turn packet) := advances_turn hjumps hname
    cases hturn : r.turn packet with
    | ended result =>
      rw [hturn] at hadvances
      exact ⟨1, result, Nat.le_add_left 1 spare, .last hturn, hadvances⟩
    | goesOn r' =>
      rw [hturn] at hadvances
      obtain ⟨hjumps', hname', hless, hanswers⟩ := hadvances
      obtain ⟨turns, result, hle, hends, hresult⟩ :=
        ih r'.spare (hspare ▸ hless) hjumps' hname' rfl
      exact ⟨turns + 1, result, by omega, .next hturn hends, hanswers result hresult⟩

/-- A reading that comes by a stage ends as it does from there. -/
theorem Ends.of_comes {r' : Reading} {turns : Nat} (h : r.Ends packet turns result)
    (hcomes : Relation.ReflTransGen (fun r r' => r.turn packet = .goesOn r') r r') :
    ∃ turns', r'.Ends packet turns' result := by
  induction hcomes generalizing turns with
  | refl => exact ⟨turns, h⟩
  | tail before hturn ih =>
    obtain ⟨turns', hends⟩ := ih h
    cases hends with
    | last hended => exact nomatch hturn.symm.trans hended
    | next hnext rest =>
      obtain rfl := Turn.goesOn.inj (hturn.symm.trans hnext)
      exact ⟨_, rest⟩

end Reading

/-- The reading of a name in turns comes to what stands there. -/
theorem ends_nameAt? (packet : Bytes) (pos : Nat) :
    ∃ turns, turns ≤ 228 ∧ (Reading.start pos).Ends packet turns (nameAt? packet pos) := by
  obtain ⟨turns, result, hturns, hends, hanswers⟩ : ∃ turns result,
      turns ≤ (Reading.start pos).spare + 1 ∧ (Reading.start pos).Ends packet turns result ∧
        (Reading.start pos).Answers packet result :=
    Reading.exists_ends (Nat.zero_le _) (Nat.succ_pos 254)
  have hjumps : ∀ jumps, (Reading.start pos).jumps + jumps = jumps := Nat.zero_add
  have hresult : nameAt? packet pos = result := by
    refine Option.ext fun ⟨name, after⟩ => ?_
    rw [nameAt?_eq_some_iff, hanswers]
    constructor
    · rintro ⟨labels, jumps, hspells, hle, rfl, hlength⟩
      exact ⟨labels, jumps, after, hspells, (hjumps jumps).symm ▸ hle, rfl, hlength, rfl⟩
    · rintro ⟨labels, jumps, stop, hspells, hle, rfl, hlength, rfl⟩
      exact ⟨labels, jumps, hspells, hjumps jumps ▸ hle, rfl, hlength⟩
  have hspare : (Reading.start pos).spare = 227 := by
    unfold Reading.spare Reading.start
    dsimp only
    decide
  exact ⟨turns, by omega, hresult ▸ hends⟩

/-- On every message and from every position, a name is read exactly where its labels are spelled
with at most a hundred pointers and it takes at most 255 bytes; it is then made of these labels, and
the encoding ends behind the first pointer or behind the zero byte, inside the message. The reading
ends after at most 228 turns, however the pointers lead, and is in vain as soon as it comes upon a
byte of 64 to 191 where a label or a pointer should be. -/
theorem nameAt?_exact (packet : Bytes) (pos : Nat) :
    (∀ name after, nameAt? packet pos = some (name, after) ↔
      ∃ labels jumps, Spells packet pos labels jumps after ∧ jumps ≤ maxJumps ∧
        name = Name.ofLabels labels ∧ name.length ≤ Name.maxLength) ∧
    (∀ name after, nameAt? packet pos = some (name, after) →
      pos < after ∧ after ≤ packet.length) ∧
    (∃ turns, turns ≤ 228 ∧ (Reading.start pos).Ends packet turns (nameAt? packet pos)) ∧
    ∀ r n, Relation.ReflTransGen (fun r r' => Reading.turn packet r = .goesOn r') (.start pos) r →
      packet[r.pos]? = some n → 64 ≤ n → n < 0xC0 → nameAt? packet pos = none := by
  refine ⟨fun name after => nameAt?_eq_some_iff, fun name after h => ?_, ends_nameAt? packet pos,
    fun r n hcomes hbyte hlow hhigh => ?_⟩
  · obtain ⟨labels, jumps, hspells, -⟩ := nameAt?_eq_some_iff.1 h
    exact hspells.bounds
  · obtain ⟨turns, -, hends⟩ := ends_nameAt? packet pos
    obtain ⟨turns', hrest⟩ := hends.of_comes hcomes
    have hturn := Reading.turn_reserved hbyte hlow hhigh
    cases hrest with
    | last hended => exact (Reading.Turn.ended.inj (hturn.symm.trans hended)).symm
    | next hnext => exact nomatch hturn.symm.trans hnext

/-- A pointer to itself is followed a hundred times and no further. -/
example : nameAt? [0xC0, 0] 0 = none := by cbv

end Resolver.Packet
