import Resolver.Proofs.Packet.Compression

/-!
# The smallest time to live

The questions and the answers of a message are told record by record, by the bytes that stand behind
each name (`Questions`, `Answers`, `Whole`), and the scan over them by turns of one record each, with
every access to a buffer checked (`Scan.turn`).

Main statements: the scan finds a time to live exactly in a message that is whole up to the end of its
answers (`minAnswerTtl?_eq_some_iff`), it ends on every byte string and strays outside no buffer
(`ends_minAnswerTtl?`), a message that is whole stays so with more bytes behind it (`Whole.append`), and
all of this is put together in `minAnswerTtl?_exact`.
-/

namespace Resolver.Packet

variable {packet tail : Bytes} {pos stop stop' : Nat}

/-! ## Records as they stand -/

/-- A question stands at the position: a name and behind it its type and its class, up to `stop`. -/
inductive QuestionAt (packet : Bytes) (pos : Nat) : (stop : Nat) → Prop
  | mk {next : Nat} {name tail : Bytes} {qtype qclass : UInt16}
      (hname : nameAt? packet pos = some (name, next))
      (hbehind : packet.drop next = wordBytes qtype ++ (wordBytes qclass ++ tail)) :
      QuestionAt packet pos (next + 4)

/-- An answer stands at the position: a name and behind it its type, its class, its time to live, the
length of its data and the data, up to `stop`. -/
inductive AnswerAt (packet : Bytes) (pos : Nat) : (ttl stop : Nat) → Prop
  | mk {next ttl : Nat} {name data tail : Bytes} {rtype rclass : UInt16}
      (hname : nameAt? packet pos = some (name, next))
      (hbehind : packet.drop next = wordBytes rtype ++ (wordBytes rclass ++
        (toBigEndian 4 ttl ++ (toBigEndian 2 data.length ++ (data ++ tail)))))
      (httl : ttl < 0x100000000) (hdata : data.length < 0x10000) :
      AnswerAt packet pos ttl (next + 10 + data.length)

/-- So many questions stand one behind the other, from the position up to `stop`. -/
inductive Questions (packet : Bytes) : (count pos stop : Nat) → Prop
  | none {pos : Nat} : Questions packet 0 pos pos
  | more {count pos next stop : Nat} (first : QuestionAt packet pos next)
      (rest : Questions packet count next stop) : Questions packet (count + 1) pos stop

/-- Answers with these times to live stand one behind the other, from the position up to `stop`. -/
inductive Answers (packet : Bytes) : (ttls : List Nat) → (pos stop : Nat) → Prop
  | none {pos : Nat} : Answers packet [] pos pos
  | more {ttl pos next stop : Nat} {ttls : List Nat} (first : AnswerAt packet pos ttl next)
      (rest : Answers packet ttls next stop) : Answers packet (ttl :: ttls) pos stop

/-- The message has a whole header, and behind it as many questions and answers as the header counts;
the answers have these times to live, and the last one ends at `stop`. -/
structure Whole (packet : Bytes) (questions : Nat) (ttls : List Nat) (stop : Nat) : Prop where
  header : headerLength ≤ packet.length
  questionCount : (packet.drop 4).take 2 = toBigEndian 2 questions
  questions_lt : questions < 0x10000
  answerCount : (packet.drop 6).take 2 = toBigEndian 2 ttls.length
  answers_lt : ttls.length < 0x10000
  body : ∃ middle, Questions packet questions headerLength middle ∧ Answers packet ttls middle stop

/-! ## Bytes behind a name -/

/-- The bytes from one position to another and those from there on are the bytes from the first. -/
theorem take_drop_append_drop (bytes : Bytes) (i n : Nat) :
    (bytes.drop i).take n ++ bytes.drop (i + n) = bytes.drop i := by
  rw [← List.drop_drop, List.take_append_drop]

theorem length_take_drop {bytes : Bytes} {i n : Nat} (h : i + n ≤ bytes.length) :
    ((bytes.drop i).take n).length = n := by
  rw [List.length_take, List.length_drop]
  omega

theorem exists_wordBytes_eq {bytes : Bytes} (h : bytes.length = 2) : ∃ w, wordBytes w = bytes := by
  match bytes, h with
  | [high, low], _ => exact ⟨wordOf high low, wordBytes_wordOf high low⟩

theorem nameAt?_bounds {name : Bytes} {next : Nat} (h : nameAt? packet pos = some (name, next)) :
    pos < next ∧ next ≤ packet.length := by
  obtain ⟨labels, jumps, hspells, -⟩ := nameAt?_eq_some_iff.1 h
  exact hspells.bounds

/-- A name that is taken from what is left of a message is the name at that position. -/
theorem takeName_drop (packet : Bytes) (pos : Nat) :
    takeName packet (packet.drop pos) =
      (nameAt? packet pos).map fun (name, next) => (name, packet.drop next) := by
  unfold nameAt?
  cases htake : takeName packet (packet.drop pos) with
  | none => rfl
  | some found =>
    obtain ⟨name, rest⟩ := found
    have hsuffix : rest <:+ packet := (of_takeName htake).2.trans (List.drop_suffix pos packet)
    show some (name, rest) = some (name, packet.drop (packet.length - rest.length))
    rw [← List.suffix_iff_eq_drop.1 hsuffix]

/-- A question stands where a name has four bytes behind it. -/
theorem questionAt_iff :
    QuestionAt packet pos stop ↔
      ∃ name next, nameAt? packet pos = some (name, next) ∧ stop = next + 4 ∧ stop ≤ packet.length := by
  constructor
  · rintro ⟨hname, hbehind⟩
    have hlength := congrArg List.length hbehind
    simp only [List.length_drop, List.length_append, wordBytes, length_toBigEndian] at hlength
    exact ⟨_, _, hname, rfl, by omega⟩
  · rintro ⟨name, next, hname, rfl, hstop⟩
    obtain ⟨qtype, htype⟩ : ∃ w, wordBytes w = (packet.drop next).take 2 :=
      exists_wordBytes_eq (length_take_drop (by omega))
    obtain ⟨qclass, hclass⟩ : ∃ w, wordBytes w = (packet.drop (next + 2)).take 2 :=
      exists_wordBytes_eq (length_take_drop (by omega))
    have hbehind : packet.drop next = wordBytes qtype ++ (wordBytes qclass ++ packet.drop (next + 4)) := by
      rw [htype, hclass, take_drop_append_drop packet (next + 2) 2, take_drop_append_drop]
    exact .mk hname hbehind

/-- An answer stands where a name has ten bytes behind it, and behind these as many as the last two of
them say. -/
theorem answerAt_iff {ttl : Nat} :
    AnswerAt packet pos ttl stop ↔
      ∃ name next, nameAt? packet pos = some (name, next) ∧
        ttl = bigEndian ((packet.drop (next + 4)).take 4) ∧
        stop = next + 10 + bigEndian ((packet.drop (next + 8)).take 2) ∧ stop ≤ packet.length := by
  constructor
  · rintro ⟨hname, hbehind, httl, hdata⟩
    rename_i next name data tail rtype rclass
    have hread : bigEndian (toBigEndian 4 ttl) = ttl := by
      rw [bigEndian_toBigEndian]
      exact Nat.mod_eq_of_lt httl
    have hsize : bigEndian (toBigEndian 2 data.length) = data.length := by
      rw [bigEndian_toBigEndian]
      exact Nat.mod_eq_of_lt hdata
    -- each number stands behind the fields before it, whose widths are known
    have htime : packet.drop (next + 4) =
        toBigEndian 4 ttl ++ (toBigEndian 2 data.length ++ (data ++ tail)) := by
      rw [← List.drop_drop, hbehind, ← List.append_assoc, List.drop_left']
      simp only [List.length_append, wordBytes, length_toBigEndian]
    have hwidth : packet.drop (next + 8) = toBigEndian 2 data.length ++ (data ++ tail) := by
      rw [← List.drop_drop (i := 4) (j := next + 4), htime, List.drop_left' (length_toBigEndian 4 ttl)]
    have hlength := congrArg List.length hbehind
    simp only [List.length_drop, List.length_append, wordBytes, length_toBigEndian] at hlength
    refine ⟨name, next, hname, ?_, ?_, by omega⟩
    · rw [htime, List.take_left' (length_toBigEndian 4 ttl), hread]
    · rw [hwidth, List.take_left' (length_toBigEndian 2 data.length), hsize]
  · rintro ⟨name, next, hname, rfl, rfl, hstop⟩
    obtain ⟨rtype, htype⟩ : ∃ w, wordBytes w = (packet.drop next).take 2 :=
      exists_wordBytes_eq (length_take_drop (by omega))
    obtain ⟨rclass, hclass⟩ : ∃ w, wordBytes w = (packet.drop (next + 2)).take 2 :=
      exists_wordBytes_eq (length_take_drop (by omega))
    have htime : ((packet.drop (next + 4)).take 4).length = 4 := length_take_drop (by omega)
    have hwidth : ((packet.drop (next + 8)).take 2).length = 2 := length_take_drop (by omega)
    generalize hsize : bigEndian ((packet.drop (next + 8)).take 2) = size at hstop ⊢
    have hdata : ((packet.drop (next + 10)).take size).length = size := length_take_drop hstop
    have hbehind : packet.drop next = wordBytes rtype ++ (wordBytes rclass ++
        (toBigEndian 4 (bigEndian ((packet.drop (next + 4)).take 4)) ++
          (toBigEndian 2 ((packet.drop (next + 10)).take size).length ++
            ((packet.drop (next + 10)).take size ++ packet.drop (next + 10 + size))))) := by
      have htimeBytes := toBigEndian_bigEndian ((packet.drop (next + 4)).take 4)
      have hwidthBytes := toBigEndian_bigEndian ((packet.drop (next + 8)).take 2)
      rw [htime] at htimeBytes
      rw [hwidth, hsize] at hwidthBytes
      rw [htype, hclass, htimeBytes, hdata, hwidthBytes, take_drop_append_drop,
        take_drop_append_drop packet (next + 8) 2, take_drop_append_drop packet (next + 4) 4,
        take_drop_append_drop packet (next + 2) 2, take_drop_append_drop]
    have httl : bigEndian ((packet.drop (next + 4)).take 4) < 0x100000000 := by
      have hlt := bigEndian_lt ((packet.drop (next + 4)).take 4)
      rw [htime] at hlt
      exact hlt
    have hshort : ((packet.drop (next + 10)).take size).length < 0x10000 := by
      have hlt := bigEndian_lt ((packet.drop (next + 8)).take 2)
      rw [hwidth, hsize] at hlt
      rw [hdata]
      exact hlt
    have hanswer := AnswerAt.mk hname hbehind httl hshort
    rwa [hdata] at hanswer

/-! ## More bytes behind a message -/

namespace Spells

/-- Labels that are spelled stay so with more bytes behind the message. -/
theorem append {labels : List Bytes} {jumps after : Nat} (h : Spells packet pos labels jumps after)
    (tail : Bytes) : Spells (packet ++ tail) pos labels jumps after := by
  have hbytes : ∀ {i : Nat} {n : UInt8}, packet[i]? = some n → (packet ++ tail)[i]? = some n := by
    intro i n hbyte
    rw [List.getElem?_append_left (List.getElem?_eq_some_iff.1 hbyte).1, hbyte]
  induction h with
  | root hzero => exact .root (hbytes hzero)
  | @label pos _ _ n labels hbyte hlow hhigh hinside rest ih =>
    have hlabel : ((packet ++ tail).drop (pos + 1)).take n.toNat =
        (packet.drop (pos + 1)).take n.toNat := by
      rw [List.drop_append_of_le_length (by omega), List.take_append_of_le_length]
      rw [List.length_drop]
      omega
    rw [← hlabel]
    refine .label (hbytes hbyte) hlow hhigh ?_ ih
    rw [List.length_append]
    omega
  | pointer hbyte hhigh hlow rest ih => exact .pointer (hbytes hbyte) hhigh (hbytes hlow) ih

end Spells

theorem nameAt?_append {name : Bytes} {next : Nat} (h : nameAt? packet pos = some (name, next))
    (tail : Bytes) : nameAt? (packet ++ tail) pos = some (name, next) := by
  obtain ⟨labels, jumps, hspells, hrest⟩ := nameAt?_eq_some_iff.1 h
  exact nameAt?_eq_some_iff.2 ⟨labels, jumps, hspells.append tail, hrest⟩

theorem QuestionAt.append (h : QuestionAt packet pos stop) (tail : Bytes) :
    QuestionAt (packet ++ tail) pos stop := by
  obtain ⟨hname, hbehind⟩ := h
  have hmore : (packet ++ tail).drop _ = packet.drop _ ++ tail :=
    List.drop_append_of_le_length (nameAt?_bounds hname).2
  rw [hbehind, List.append_assoc, List.append_assoc] at hmore
  exact .mk (nameAt?_append hname tail) hmore

theorem AnswerAt.append {ttl : Nat} (h : AnswerAt packet pos ttl stop) (tail : Bytes) :
    AnswerAt (packet ++ tail) pos ttl stop := by
  obtain ⟨hname, hbehind, httl, hdata⟩ := h
  have hmore : (packet ++ tail).drop _ = packet.drop _ ++ tail :=
    List.drop_append_of_le_length (nameAt?_bounds hname).2
  rw [hbehind] at hmore
  simp only [List.append_assoc] at hmore
  exact .mk (nameAt?_append hname tail) hmore httl hdata

theorem Questions.append {count : Nat} (h : Questions packet count pos stop) (tail : Bytes) :
    Questions (packet ++ tail) count pos stop := by
  induction h with
  | none => exact .none
  | more first rest ih => exact .more (first.append tail) ih

theorem Answers.append {ttls : List Nat} (h : Answers packet ttls pos stop) (tail : Bytes) :
    Answers (packet ++ tail) ttls pos stop := by
  induction h with
  | none => exact .none
  | more first rest ih => exact .more (first.append tail) ih

/-- A message that is whole up to the end of its answers stays so with more bytes behind it. -/
theorem Whole.append {questions : Nat} {ttls : List Nat} (h : Whole packet questions ttls stop)
    (tail : Bytes) : Whole (packet ++ tail) questions ttls stop := by
  have hheader := h.header
  unfold headerLength at hheader
  have hcount : ∀ i, i + 2 ≤ 12 → ((packet ++ tail).drop i).take 2 = (packet.drop i).take 2 := by
    intro i hi
    rw [List.drop_append_of_le_length (by omega), List.take_append_of_le_length]
    rw [List.length_drop]
    omega
  obtain ⟨middle, hquestions, hanswers⟩ := h.body
  refine ⟨?_, ?_, h.questions_lt, ?_, h.answers_lt, middle, hquestions.append tail,
    hanswers.append tail⟩
  · rw [List.length_append]
    exact Nat.le_add_right_of_le h.header
  · rw [hcount 4 (by omega), h.questionCount]
  · rw [hcount 6 (by omega), h.answerCount]

/-! ## One reading of the records -/

/-- A question has one end. -/
theorem QuestionAt.unique (h : QuestionAt packet pos stop) (h' : QuestionAt packet pos stop') :
    stop = stop' := by
  obtain ⟨name, next, hname, rfl, -⟩ := questionAt_iff.1 h
  obtain ⟨name', next', hname', rfl, -⟩ := questionAt_iff.1 h'
  obtain ⟨rfl, rfl⟩ := Prod.mk.inj (Option.some.inj (hname.symm.trans hname'))
  rfl

/-- An answer has one time to live and one end. -/
theorem AnswerAt.unique {ttl ttl' : Nat} (h : AnswerAt packet pos ttl stop)
    (h' : AnswerAt packet pos ttl' stop') : ttl = ttl' ∧ stop = stop' := by
  obtain ⟨name, next, hname, rfl, rfl, -⟩ := answerAt_iff.1 h
  obtain ⟨name', next', hname', rfl, rfl, -⟩ := answerAt_iff.1 h'
  obtain ⟨rfl, rfl⟩ := Prod.mk.inj (Option.some.inj (hname.symm.trans hname'))
  exact ⟨rfl, rfl⟩

theorem Questions.unique {count : Nat} (h : Questions packet count pos stop)
    (h' : Questions packet count pos stop') : stop = stop' := by
  induction h with
  | none =>
    cases h'
    rfl
  | more first rest ih =>
    cases h' with
    | more first' rest' =>
      obtain rfl := first.unique first'
      exact ih rest'

theorem Answers.unique {ttls ttls' : List Nat} (hcount : ttls.length = ttls'.length)
    (h : Answers packet ttls pos stop) (h' : Answers packet ttls' pos stop') :
    ttls = ttls' ∧ stop = stop' := by
  induction h generalizing ttls' with
  | none =>
    cases h' with
    | none => exact ⟨rfl, rfl⟩
    | more => contradiction
  | more first rest ih =>
    cases h' with
    | none => contradiction
    | more first' rest' =>
      obtain ⟨rfl, rfl⟩ := first.unique first'
      obtain ⟨rfl, rfl⟩ := ih (Nat.succ.inj hcount) rest'
      exact ⟨rfl, rfl⟩

/-- A message is whole in one way. -/
theorem Whole.unique {questions questions' : Nat} {ttls ttls' : List Nat}
    (h : Whole packet questions ttls stop) (h' : Whole packet questions' ttls' stop') :
    ttls = ttls' ∧ stop = stop' := by
  have hwidth : ∀ {m n : Nat}, m < 0x10000 → n < 0x10000 → toBigEndian 2 m = toBigEndian 2 n →
      m = n := by
    intro m n hm hn heq
    have hread := congrArg bigEndian heq
    rw [bigEndian_toBigEndian, bigEndian_toBigEndian] at hread
    exact (Nat.mod_eq_of_lt hm).symm.trans (hread.trans (Nat.mod_eq_of_lt hn))
  obtain rfl := hwidth h.questions_lt h'.questions_lt (h.questionCount.symm.trans h'.questionCount)
  have hcount := hwidth h.answers_lt h'.answers_lt (h.answerCount.symm.trans h'.answerCount)
  obtain ⟨middle, hquestions, hanswers⟩ := h.body
  obtain ⟨middle', hquestions', hanswers'⟩ := h'.body
  obtain rfl := hquestions.unique hquestions'
  exact hanswers.unique hcount hanswers'

/-! ## What the scan reads -/

/-- The time to live and the end of the answer at the position, if one stands there. -/
def answerAt? (packet : Bytes) (pos : Nat) : Option (Nat × Nat) :=
  match nameAt? packet pos with
  | none => none
  | some (_, next) =>
    let stop := next + 10 + bigEndian ((packet.drop (next + 8)).take 2)
    if stop ≤ packet.length then some (bigEndian ((packet.drop (next + 4)).take 4), stop) else none

theorem answerAt?_eq_some_iff {ttl : Nat} :
    answerAt? packet pos = some (ttl, stop) ↔ AnswerAt packet pos ttl stop := by
  rw [answerAt_iff]
  unfold answerAt?
  constructor
  · intro h
    split at h
    · contradiction
    · rename_i name next hname
      dsimp only at h
      split at h
      · rename_i hstop
        obtain ⟨rfl, rfl⟩ := Prod.mk.inj (Option.some.inj h)
        exact ⟨name, next, hname, rfl, rfl, hstop⟩
      · contradiction
  · rintro ⟨name, next, hname, rfl, rfl, hstop⟩
    rw [hname]
    exact if_pos hstop

/-- The ten bytes behind a name, one by one, and the numbers among them. -/
theorem exists_ten {next : Nat} (h : next + 10 ≤ packet.length) :
    ∃ y1 y0 c1 c0 t3 t2 t1 t0 l1 l0, packet.drop next =
      y1 :: y0 :: c1 :: c0 :: t3 :: t2 :: t1 :: t0 :: l1 :: l0 :: packet.drop (next + 10) ∧
        (packet.drop (next + 4)).take 4 = [t3, t2, t1, t0] ∧
        (packet.drop (next + 8)).take 2 = [l1, l0] := by
  have hlength : 10 ≤ (packet.drop next).length := by
    rw [List.length_drop]
    omega
  simp only [← List.drop_drop]
  match packet.drop next, hlength with
  | y1 :: y0 :: c1 :: c0 :: t3 :: t2 :: t1 :: t0 :: l1 :: l0 :: body, _ =>
    exact ⟨y1, y0, c1, c0, t3, t2, t1, t0, l1, l0, rfl, rfl, rfl⟩

/-- The scan takes the answer at its place, if one stands there, and is in vain otherwise. -/
theorem leastTtl_succ (count : Nat) (least : Option Nat) :
    leastTtl packet (count + 1) least (packet.drop pos) =
      match answerAt? packet pos with
      | none => none
      | some (ttl, stop) => leastTtl packet count (some (lowerTtl least ttl)) (packet.drop stop) := by
  unfold answerAt?
  rw [leastTtl, takeName_drop]
  cases hname : nameAt? packet pos with
  | none => rfl
  | some found =>
    obtain ⟨name, next⟩ := found
    have hnext := (nameAt?_bounds hname).2
    simp only [Option.map_some, Option.bind_eq_bind, Option.bind_some]
    by_cases hten : next + 10 ≤ packet.length
    · obtain ⟨y1, y0, c1, c0, t3, t2, t1, t0, l1, l0, hbehind, htime, hwidth⟩ := exists_ten hten
      simp only [hbehind, htime, hwidth, List.length_take, List.length_drop, List.drop_drop]
      by_cases hstop : next + 10 + bigEndian [l1, l0] ≤ packet.length
      · rw [if_pos hstop, if_neg (by omega)]
      · rw [if_neg hstop, if_pos (by omega)]
    · have hshort : (packet.drop next).length < 10 := by
        rw [List.length_drop]
        omega
      rw [if_neg (by omega)]
      split
      · rename_i hbehind
        rw [hbehind] at hshort
        simp only [List.length_cons] at hshort
        omega
      · rfl

theorem skipQuestions_succ (count : Nat) :
    skipQuestions packet (count + 1) (packet.drop pos) =
      match nameAt? packet pos with
      | none => none
      | some (_, next) => skipQuestions packet count (packet.drop (next + 4)) := by
  rw [skipQuestions, takeName_drop]
  cases nameAt? packet pos with
  | none => rfl
  | some found =>
    simp only [Option.map_some, Option.bind_eq_bind, Option.bind_some, List.drop_drop]

/-- In front of a whole header nothing is read; the counts are in its third and fourth word. -/
theorem minAnswerTtl?_of_header (h : headerLength ≤ packet.length) :
    minAnswerTtl? packet =
      (skipQuestions packet (bigEndian ((packet.drop 4).take 2)) (packet.drop headerLength)).bind
        (leastTtl packet (bigEndian ((packet.drop 6).take 2)) none) := by
  match packet, h with
  | _ :: _ :: _ :: _ :: q1 :: q0 :: a1 :: a0 :: _ :: _ :: _ :: _ :: body, _ => rfl

theorem minAnswerTtl?_of_short (h : packet.length < headerLength) : minAnswerTtl? packet = none := by
  unfold minAnswerTtl?
  split
  · simp only [List.length_cons, headerLength] at h
    omega
  · rfl

/-! ## Whole messages are what is read -/

theorem min?_lowerTtl (least : Option Nat) (ttl : Nat) (ttls : List Nat) :
    ((some (lowerTtl least ttl)).toList ++ ttls).min? = (least.toList ++ ttl :: ttls).min? := by
  cases least with
  | none => rfl
  | some t => rfl

theorem Answers.leastTtl_eq {ttls : List Nat} (h : Answers packet ttls pos stop)
    (least : Option Nat) :
    leastTtl packet ttls.length least (packet.drop pos) = (least.toList ++ ttls).min? := by
  induction h generalizing least with
  | none =>
    cases least with
    | none => rfl
    | some t => rfl
  | more first rest ih =>
    rw [List.length_cons, leastTtl_succ, answerAt?_eq_some_iff.2 first]
    dsimp only
    rw [ih, min?_lowerTtl]

theorem Questions.skipQuestions_eq {count : Nat} (h : Questions packet count pos stop) :
    skipQuestions packet count (packet.drop pos) = some (packet.drop stop) := by
  induction h with
  | none => rfl
  | more first rest ih =>
    obtain ⟨name, next, hname, rfl, -⟩ := questionAt_iff.1 first
    rw [skipQuestions_succ, hname]
    exact ih

/-- The scan over a whole message comes to the smallest time to live. -/
theorem Whole.minAnswerTtl?_eq {questions : Nat} {ttls : List Nat}
    (h : Whole packet questions ttls stop) : minAnswerTtl? packet = ttls.min? := by
  obtain ⟨middle, hquestions, hanswers⟩ := h.body
  have hcount : bigEndian (toBigEndian 2 questions) = questions := by
    rw [bigEndian_toBigEndian]
    exact Nat.mod_eq_of_lt h.questions_lt
  have hanswerCount : bigEndian (toBigEndian 2 ttls.length) = ttls.length := by
    rw [bigEndian_toBigEndian]
    exact Nat.mod_eq_of_lt h.answers_lt
  rw [minAnswerTtl?_of_header h.header, h.questionCount, h.answerCount, hcount, hanswerCount,
    hquestions.skipQuestions_eq]
  exact hanswers.leastTtl_eq none

/-- Where a smallest time to live is found, the answers stand. -/
theorem exists_answers {count ttl : Nat} {least : Option Nat}
    (h : leastTtl packet count least (packet.drop pos) = some ttl) :
    ∃ ttls stop, ttls.length = count ∧ Answers packet ttls pos stop := by
  induction count generalizing pos least with
  | zero => exact ⟨[], pos, rfl, .none⟩
  | succ count ih =>
    rw [leastTtl_succ] at h
    split at h
    · contradiction
    · rename_i first next hfirst
      obtain ⟨ttls, stop, hcount, hanswers⟩ := ih h
      exact ⟨first :: ttls, stop, congrArg Nat.succ hcount,
        .more (answerAt?_eq_some_iff.1 hfirst) hanswers⟩

/-- Where questions were skipped they stand, unless the message ends within the last of them. -/
theorem exists_questions {count : Nat} {rest : Bytes}
    (h : skipQuestions packet count (packet.drop pos) = some rest) :
    ∃ stop, pos ≤ stop ∧ rest = packet.drop stop ∧
      (stop ≤ packet.length → Questions packet count pos stop) := by
  induction count generalizing pos with
  | zero =>
    obtain rfl := Option.some.inj h
    exact ⟨pos, Nat.le_refl pos, rfl, fun _ => .none⟩
  | succ count ih =>
    rw [skipQuestions_succ] at h
    split at h
    · contradiction
    · rename_i name next hname
      obtain ⟨stop, hle, rfl, hquestions⟩ := ih h
      have hpos := (nameAt?_bounds hname).1
      refine ⟨stop, by omega, rfl, fun hstop => ?_⟩
      exact .more (questionAt_iff.2 ⟨name, next, hname, rfl, by omega⟩) (hquestions hstop)

theorem AnswerAt.bounds {ttl : Nat} (h : AnswerAt packet pos ttl stop) :
    pos < stop ∧ stop ≤ packet.length := by
  obtain ⟨name, next, hname, -, rfl, hstop⟩ := answerAt_iff.1 h
  have hpos := (nameAt?_bounds hname).1
  omega

/-- Answers, if there are any, stand inside the message. -/
theorem Answers.bounds {ttls : List Nat} (h : Answers packet ttls pos stop) (hne : ttls ≠ []) :
    pos < stop ∧ stop ≤ packet.length := by
  induction h with
  | none => contradiction
  | more first rest ih =>
    have hfirst := first.bounds
    cases rest with
    | none => exact hfirst
    | more second rest =>
      have hrest := ih (List.cons_ne_nil _ _)
      omega

/-- The scan finds a time to live exactly in a message that is whole up to the end of its answers, and
it is the smallest of theirs. -/
theorem minAnswerTtl?_eq_some_iff {ttl : Nat} :
    minAnswerTtl? packet = some ttl ↔
      ∃ questions ttls stop, Whole packet questions ttls stop ∧ ttls.min? = some ttl := by
  constructor
  · intro h
    by_cases hheader : headerLength ≤ packet.length
    · have hscan := h
      rw [minAnswerTtl?_of_header hheader] at hscan
      obtain ⟨answers, hskip, hleast⟩ := Option.bind_eq_some_iff.1 hscan
      obtain ⟨middle, -, rfl, hquestions⟩ := exists_questions hskip
      obtain ⟨ttls, stop, hcount, hanswers⟩ := exists_answers hleast
      have hwidth : ∀ i, i + 2 ≤ 12 → ((packet.drop i).take 2).length = 2 := by
        intro i hi
        unfold headerLength at hheader
        exact length_take_drop (by omega)
      have hquestionBytes := toBigEndian_bigEndian ((packet.drop 4).take 2)
      have hquestionsLt := bigEndian_lt ((packet.drop 4).take 2)
      rw [hwidth 4 (by omega)] at hquestionBytes hquestionsLt
      have hanswerBytes := toBigEndian_bigEndian ((packet.drop 6).take 2)
      have hanswersLt := bigEndian_lt ((packet.drop 6).take 2)
      rw [hwidth 6 (by omega)] at hanswerBytes hanswersLt
      -- no answer at all would leave nothing to be the smallest
      have hne : ttls ≠ [] := by
        rintro rfl
        rw [← hcount] at hleast
        exact nomatch hleast
      have hbounds := hanswers.bounds hne
      have hwhole : Whole packet (bigEndian ((packet.drop 4).take 2)) ttls stop :=
        ⟨hheader, hquestionBytes.symm, hquestionsLt, hcount ▸ hanswerBytes.symm,
          hcount ▸ hanswersLt, middle, hquestions (by omega), hanswers⟩
      exact ⟨_, ttls, stop, hwhole, hwhole.minAnswerTtl?_eq.symm.trans h⟩
    · rw [minAnswerTtl?_of_short (Nat.lt_of_not_le hheader)] at h
      contradiction
  · rintro ⟨questions, ttls, stop, hwhole, hmin⟩
    rw [hwhole.minAnswerTtl?_eq, hmin]

/-! ## The scan in turns -/

/-- How far the scan has come: in front of the header, or behind it with so many questions and answers
left, a position, and the smallest time to live so far. -/
inductive Scan
  | header
  | records (questions answers pos : Nat) (least : Option Nat)
  deriving DecidableEq, Repr

namespace Scan

/-- What a turn of the scan comes to. -/
inductive Turn
  | ended (result : Option Nat)
  | goesOn (s : Scan)
  /-- A byte outside a buffer was accessed. -/
  | strays
  deriving DecidableEq, Repr

/-- One turn reads the header, a question or an answer. What has a fixed width is copied into a buffer
of that width, whose bytes are then accessed. -/
def turn (packet : Bytes) : Scan → Turn
  | header =>
    match copy? packet 0 headerLength with
    | none => .ended none
    | some (buffer, pos) =>
      match buffer[4]?, buffer[5]?, buffer[6]?, buffer[7]? with
      | some q1, some q0, some a1, some a0 =>
        .goesOn (records (bigEndian [q1, q0]) (bigEndian [a1, a0]) pos none)
      | _, _, _, _ => .strays
  | records (questions + 1) answers pos least =>
    match nameAt? packet pos with
    | none => .ended none
    | some (_, next) => .goesOn (records questions answers (next + 4) least)
  | records 0 (answers + 1) pos least =>
    match nameAt? packet pos with
    | none => .ended none
    | some (_, next) =>
      match copy? packet next 10 with
      | none => .ended none
      | some (buffer, body) =>
        match buffer[4]?, buffer[5]?, buffer[6]?, buffer[7]?, buffer[8]?, buffer[9]? with
        | some t3, some t2, some t1, some t0, some l1, some l0 =>
          let least := some (lowerTtl least (bigEndian [t3, t2, t1, t0]))
          let stop := body + bigEndian [l1, l0]
          if packet.length < stop then .ended none else .goesOn (records 0 answers stop least)
        | _, _, _, _, _, _ => .strays
  | records 0 0 _ least => .ended least

/-- The scan ends with this result, in so many turns, none of which strays. -/
inductive Ends (packet : Bytes) : Scan → Nat → Option Nat → Prop
  | last {s : Scan} {result : Option Nat} (h : s.turn packet = .ended result) :
      Ends packet s 1 result
  | next {s s' : Scan} {turns : Nat} {result : Option Nat} (h : s.turn packet = .goesOn s')
      (rest : Ends packet s' turns result) : Ends packet s (turns + 1) result

/-- A turn at the answers takes the one at its place, or ends the scan in vain. -/
theorem turn_answer (answers : Nat) (least : Option Nat) :
    (records 0 (answers + 1) pos least).turn packet =
      match answerAt? packet pos with
      | none => .ended none
      | some (ttl, stop) => .goesOn (records 0 answers stop (some (lowerTtl least ttl))) := by
  unfold turn answerAt? copy?
  dsimp only
  cases hname : nameAt? packet pos with
  | none => rfl
  | some found =>
    obtain ⟨name, next⟩ := found
    dsimp only
    by_cases hten : next + 10 ≤ packet.length
    · obtain ⟨y1, y0, c1, c0, t3, t2, t1, t0, l1, l0, hbehind, htime, hwidth⟩ := exists_ten hten
      rw [if_pos hten, htime, hwidth, hbehind]
      by_cases hstop : next + 10 + bigEndian [l1, l0] ≤ packet.length
      · rw [if_pos hstop]
        exact if_neg (Nat.not_lt.2 hstop)
      · rw [if_neg hstop]
        exact if_pos (Nat.lt_of_not_le hstop)
    · rw [if_neg hten, if_neg (by omega)]

/-- The scan over the answers ends in a turn for each of them and one more. -/
theorem exists_ends_answers (answers pos : Nat) (least : Option Nat) :
    ∃ turns, turns ≤ answers + 1 ∧
      (records 0 answers pos least).Ends packet turns
        (leastTtl packet answers least (packet.drop pos)) := by
  induction answers generalizing pos least with
  | zero => exact ⟨1, Nat.le_refl 1, .last rfl⟩
  | succ answers ih =>
    have hturn := @turn_answer packet pos answers least
    rw [leastTtl_succ]
    cases hanswer : answerAt? packet pos with
    | none =>
      rw [hanswer] at hturn
      exact ⟨1, Nat.le_add_left 1 (answers + 1), .last hturn⟩
    | some found =>
      obtain ⟨ttl, stop⟩ := found
      rw [hanswer] at hturn
      obtain ⟨turns, hle, hends⟩ := ih stop (some (lowerTtl least ttl))
      exact ⟨turns + 1, Nat.succ_le_succ hle, .next hturn hends⟩

/-- The scan over questions and answers ends in a turn for each of them and one more. -/
theorem exists_ends_records (questions answers pos : Nat) (least : Option Nat) :
    ∃ turns, turns ≤ questions + answers + 1 ∧
      (records questions answers pos least).Ends packet turns
        ((skipQuestions packet questions (packet.drop pos)).bind (leastTtl packet answers least)) := by
  induction questions generalizing pos with
  | zero =>
    obtain ⟨turns, hle, hends⟩ := @exists_ends_answers packet answers pos least
    exact ⟨turns, by omega, hends⟩
  | succ questions ih =>
    rw [skipQuestions_succ]
    cases hname : nameAt? packet pos with
    | none =>
      have hturn : (records (questions + 1) answers pos least).turn packet = .ended none := by
        unfold turn
        dsimp only
        rw [hname]
      exact ⟨1, by omega, .last hturn⟩
    | some found =>
      have hturn : (records (questions + 1) answers pos least).turn packet =
          .goesOn (records questions answers (found.2 + 4) least) := by
        unfold turn
        dsimp only
        rw [hname]
      obtain ⟨turns, hle, hends⟩ := ih (found.2 + 4)
      exact ⟨turns + 1, by omega, .next hturn hends⟩

end Scan

/-- The scan of every byte string ends, with what it finds, and strays outside no buffer. -/
theorem ends_minAnswerTtl? (packet : Bytes) :
    ∃ turns, turns ≤ 0x20000 ∧ Scan.header.Ends packet turns (minAnswerTtl? packet) := by
  by_cases hheader : headerLength ≤ packet.length
  · have hcount : ∀ i, i + 2 ≤ 12 → bigEndian ((packet.drop i).take 2) < 0x10000 := by
      intro i hi
      have hlt := bigEndian_lt ((packet.drop i).take 2)
      unfold headerLength at hheader
      rw [length_take_drop (by omega)] at hlt
      exact hlt
    have hquestions := hcount 4 (by omega)
    have hanswers := hcount 6 (by omega)
    have hturn : Scan.header.turn packet =
        .goesOn (.records (bigEndian ((packet.drop 4).take 2)) (bigEndian ((packet.drop 6).take 2))
          headerLength none) := by
      unfold Scan.turn copy?
      dsimp only
      rw [if_pos (by omega)]
      match packet, hheader with
      | _ :: _ :: _ :: _ :: q1 :: q0 :: a1 :: a0 :: _ :: _ :: _ :: _ :: body, _ => rfl
    obtain ⟨turns, hle, hends⟩ := @Scan.exists_ends_records packet
      (bigEndian ((packet.drop 4).take 2)) (bigEndian ((packet.drop 6).take 2)) headerLength none
    rw [minAnswerTtl?_of_header hheader]
    exact ⟨turns + 1, by omega, .next hturn hends⟩
  · have hturn : Scan.header.turn packet = .ended none := by
      unfold Scan.turn copy?
      dsimp only
      rw [if_neg (by omega)]
    rw [minAnswerTtl?_of_short (Nat.lt_of_not_le hheader)]
    exact ⟨1, by decide, .last hturn⟩

/-- In a message that is whole up to the end of its answers, the smallest time to live is the smallest
of theirs, and none without answers, whatever stands behind them; cut off anywhere before the end of its
last answer, the message has none. And the scan of every byte string, whole or not, ends in no more
turns than a header can count records, each of which reads a name in at most 228 turns, and no access
strays outside a buffer. -/
theorem minAnswerTtl?_exact :
    (∀ packet questions ttls stop, Whole packet questions ttls stop →
      minAnswerTtl? packet = ttls.min? ∧
      (ttls ≠ [] → ∀ m < stop, minAnswerTtl? (packet.take m) = none)) ∧
    ∀ packet, (∃ turns, turns ≤ 0x20000 ∧ Scan.header.Ends packet turns (minAnswerTtl? packet)) ∧
      ∀ pos, ∃ turns, turns ≤ 228 ∧ (Reading.start pos).Ends packet turns (nameAt? packet pos) := by
  refine ⟨fun packet questions ttls stop hwhole => ⟨hwhole.minAnswerTtl?_eq, fun _ m hm => ?_⟩,
    fun packet => ⟨ends_minAnswerTtl? packet, ends_nameAt? packet⟩⟩
  cases hread : minAnswerTtl? (packet.take m) with
  | none => rfl
  | some ttl =>
    -- what is whole in a part of the message is so in the message, and ends where it ended there
    obtain ⟨questions', ttls', stop', hpart, hmin⟩ := minAnswerTtl?_eq_some_iff.1 hread
    have hne : ttls' ≠ [] := by
      rintro rfl
      exact nomatch hmin
    obtain ⟨middle, -, hanswers⟩ := hpart.body
    have hinside := (hanswers.bounds hne).2
    have hall := hpart.append (packet.drop m)
    rw [List.take_append_drop] at hall
    obtain ⟨rfl, rfl⟩ := hwhole.unique hall
    rw [List.length_take] at hinside
    omega

/-- A question for `a`, answered for `a` by a pointer to it and for `b.a` by a label and a pointer, and
a byte behind the answers. -/
def pointedReply : Bytes :=
  [0x12, 0x34, 0x81, 0x80, 0, 1, 0, 2, 0, 0, 0, 0, 1, 97, 0, 0, 1, 0, 1,
    0xC0, 12, 0, 1, 0, 1, 0, 0, 1, 44, 0, 4, 10, 0, 0, 1,
    1, 98, 0xC0, 12, 0, 1, 0, 1, 0, 0, 0, 60, 0, 0, 7]

/-- The reply is whole in its first 49 bytes, and one byte less leaves nothing to be read. -/
theorem minAnswerTtl?_exact_pointed :
    Whole pointedReply 1 [300, 60] 49 ∧ minAnswerTtl? pointedReply = some 60 ∧
      minAnswerTtl? (pointedReply.take 48) = none := by
  have hquestion : QuestionAt pointedReply 12 19 :=
    questionAt_iff.2 ⟨[1, 97, 0], 15, by cbv, rfl, by decide⟩
  have hfirst : AnswerAt pointedReply 19 300 35 :=
    answerAt_iff.2 ⟨[1, 97, 0], 21, by cbv, rfl, rfl, by decide⟩
  have hsecond : AnswerAt pointedReply 35 60 49 :=
    answerAt_iff.2 ⟨[1, 98, 1, 97, 0], 39, by cbv, rfl, rfl, by decide⟩
  have hwhole : Whole pointedReply 1 [300, 60] 49 :=
    ⟨by decide, by decide, by decide, by decide, by decide, 19, .more hquestion .none,
      .more hfirst (.more hsecond .none)⟩
  obtain ⟨hmin, hcut⟩ := minAnswerTtl?_exact.1 pointedReply 1 [300, 60] 49 hwhole
  exact ⟨hwhole, hmin, hcut (List.cons_ne_nil _ _) 48 (by decide)⟩

end Resolver.Packet
