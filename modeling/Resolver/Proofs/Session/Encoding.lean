import Resolver.Proofs.Packet.Uncompressed
import Resolver.Proofs.Session.Lockstep
import Resolver.Proofs.Session.Recognition

/-!
# Queries as they are written

A query is written as a message around the id of an attempt, and read with the same functions that
replies are read with: the name with the one that follows pointers, of which a query has none.

Main statements: a message that is written for a query is read as its question, with its own length and
the flag of recursion (`Query.encodes_message`), and a message that echoes it carries its id and
question, however the letters of the name are cased (`Query.carries_of_echoes`).
-/

namespace Resolver

/-! ## Names in plain form -/

/-- A byte below the letters is the lower-case form of itself alone. -/
theorem eq_of_lowerByte_eq {b n : UInt8} (h : lowerByte b = lowerByte n) (hlow : n.toNat < 65) :
    b = n := by
  have hn : lowerByte n = n := by
    refine if_neg fun hcapital => ?_
    exact absurd (UInt8.le_iff_toNat_le.1 hcapital.1) (Nat.not_le.2 hlow)
  rw [hn] at h
  unfold lowerByte at h
  split at h
  · rename_i hcapital
    -- a capital is folded to a letter
    obtain ⟨hfrom, hto⟩ := hcapital
    have hsum := congrArg UInt8.toNat h
    rw [UInt8.toNat_add] at hsum
    have hfrom' : 65 ≤ b.toNat := UInt8.le_iff_toNat_le.1 hfrom
    have hto' : b.toNat ≤ 90 := UInt8.le_iff_toNat_le.1 hto
    have hstep : (32 : UInt8).toNat = 32 := rfl
    omega
  · exact h

namespace Name

/-- What differs from labels in letter case alone is labels that do. -/
theorem exists_ofLabels_of_lowerBytes {labels : List Bytes} (h : WellSized labels) {bytes : Bytes}
    (hlower : lowerBytes bytes = lowerBytes (ofLabels labels)) :
    ∃ labels', bytes = ofLabels labels' ∧ labels'.map lowerBytes = labels.map lowerBytes := by
  induction labels generalizing bytes with
  | nil =>
    obtain ⟨b, rest, rfl, hb, hrest⟩ := List.map_eq_cons_iff.1 hlower
    obtain rfl := eq_of_lowerByte_eq hb (by decide)
    obtain rfl := List.map_eq_nil_iff.1 hrest
    exact ⟨[], rfl, rfl⟩
  | cons label labels ih =>
    obtain ⟨⟨-, hhigh⟩, hsized⟩ := wellSized_cons.1 h
    have hlength : (UInt8.ofNat label.length).toNat < 65 := by
      rw [toNat_ofNat_length hhigh]
      unfold maxLabel at hhigh
      omega
    have hfront : lowerBytes (ofLabels (label :: labels)) =
        lowerByte (UInt8.ofNat label.length) :: (lowerBytes label ++ lowerBytes (ofLabels labels)) := by
      unfold lowerBytes
      rw [ofLabels, List.map_append, List.map_cons, List.cons_append]
    rw [hfront] at hlower
    obtain ⟨b, rest, rfl, hb, hrest⟩ := List.map_eq_cons_iff.1 hlower
    obtain rfl := eq_of_lowerByte_eq hb hlength
    obtain ⟨label', rest', rfl, hlabel, hrest'⟩ := List.map_eq_append_iff.1 hrest
    obtain ⟨labels', rfl, hlabels⟩ := ih hsized hrest'
    have hsame : label'.length = label.length := by
      rw [← length_lowerBytes label', ← length_lowerBytes label]
      exact congrArg List.length hlabel
    refine ⟨label' :: labels', ?_, ?_⟩
    · rw [ofLabels, hsame, List.cons_append]
    · rw [List.map_cons, List.map_cons, hlabels]
      exact congrArg (· :: _) hlabel

/-- A name stays a name in any letter case. -/
theorem IsName.of_lowerBytes {name name' : Bytes} (h : IsName name)
    (hlower : lowerBytes name' = lowerBytes name) : IsName name' := by
  obtain ⟨labels, hsized, hlength, rfl⟩ := h
  obtain ⟨labels', rfl, hlabels⟩ := exists_ofLabels_of_lowerBytes hsized hlower
  refine ⟨labels', fun label hlabel => ?_, ?_, rfl⟩
  · have hmem : lowerBytes label ∈ labels.map lowerBytes := by
      rw [← hlabels]
      exact List.mem_map_of_mem hlabel
    obtain ⟨original, horiginal, hfolded⟩ := List.mem_map.1 hmem
    rw [← length_lowerBytes label, ← hfolded, length_lowerBytes]
    exact hsized original horiginal
  · rw [← length_ofLabels, ← length_lowerBytes, hlower, length_lowerBytes, length_ofLabels]
    exact hlength

end Name

/-! ## Written and read -/

/-- A message is written for a query with this id: it is read as the one question that is asked, it
asks for recursion if the query does, it is as long as the name makes it, and its length fits in two
bytes. -/
structure Encodes (m : Bytes) (id : UInt16) (q : Query) : Prop where
  question_eq : Packet.question? m = some ⟨id, q.name, q.qtype, Packet.classInternet⟩
  recursion : ∃ flags, m[2]? = some flags ∧ (flags &&& 1 ≠ 0 ↔ q.recursive = true)
  length_eq : m.length = q.name.length + 16
  length_le : m.length ≤ 271
  length_read : bigEndian (toBigEndian 2 m.length) = m.length

/-- A message echoes another one, whose name takes so many bytes: it has the same id and the same
number of questions, the same name in any letter case, and behind it the same type and class. The rest
of the header and what follows the question may be anything. -/
structure Echoes (echo m : Bytes) (length : Nat) : Prop where
  id_eq : echo.take 2 = m.take 2
  count_eq : (echo.drop 4).take 2 = (m.drop 4).take 2
  name_eq : lowerBytes ((echo.drop 12).take length) = lowerBytes ((m.drop 12).take length)
  behind_eq : (echo.drop (12 + length)).take 4 = (m.drop (12 + length)).take 4

namespace Query

variable (q : Query) (id : UInt16)

theorem take_message : (q.message id).take 2 = wordBytes id :=
  List.take_left' (length_wordBytes id)

/-- Behind the id a message is the same for every attempt. -/
theorem drop_message : (q.message id).drop 2 = headerTail q.recursive ++ q.question :=
  List.drop_left' (length_wordBytes id)

theorem count_message : ((q.message id).drop 4).take 2 = [0, 1] := by
  rw [show 4 = 2 + 2 from rfl, ← List.drop_drop, drop_message]
  rfl

theorem question_message : (q.message id).drop 12 = q.question := by
  rw [show 12 = 2 + 10 from rfl, ← List.drop_drop, drop_message]
  rfl

theorem name_message : ((q.message id).drop 12).take q.name.length = q.name := by
  rw [question_message]
  exact List.take_left' rfl

theorem behind_message : ((q.message id).drop (12 + q.name.length)).take 4 =
    wordBytes q.qtype ++ wordBytes Packet.classInternet := by
  have hlength : (wordBytes q.qtype ++ wordBytes Packet.classInternet).length = 4 := by
    rw [List.length_append]
    rfl
  rw [← List.drop_drop, question_message, question, List.drop_left' rfl,
    List.take_of_length_le (Nat.le_of_eq hlength)]

variable {q : Query}

/-- What is written for a query is read as its question. -/
theorem encodes_message (hname : Name.IsName q.name) : Encodes (q.message id) id q := by
  have hlength := q.length_message id
  have hmax : q.name.length ≤ 255 := by
    obtain ⟨labels, -, hmax, hlabels⟩ := hname
    rw [hlabels, Name.length_ofLabels]
    exact hmax
  have hnameAt : Packet.nameAt? (q.message id) 12 = some (q.name, 12 + q.name.length) := by
    rw [← q.name_message id] at hname
    have hread := Packet.nameAt?_of_isName 12 (by omega) hname
    rw [q.name_message id] at hread
    exact hread
  constructor
  case question_eq =>
    exact Packet.question?_eq_some (by rw [hlength]; exact Nat.le_add_left 12 (q.name.length + 4))
      (q.take_message id) (q.count_message id) hnameAt (q.behind_message id)
  case recursion =>
    refine ⟨if q.recursive then 1 else 0, ?_, ?_⟩
    · rw [← List.head?_drop, drop_message]
      rfl
    · cases q.recursive <;> decide
  case length_eq => exact hlength
  case length_le => omega
  case length_read =>
    rw [bigEndian_toBigEndian, Nat.mod_eq_of_lt]
    show _ < 65536
    omega

/-- What echoes the message of an attempt carries its id and its question. -/
theorem carries_of_echoes {echo : Bytes} (hname : Name.IsName q.name)
    (h : Echoes echo (q.message id) q.name.length) : Carries echo id q := by
  obtain ⟨hid, hcount, hlower, hbehind⟩ := h
  rw [take_message] at hid
  rw [count_message] at hcount
  rw [name_message] at hlower
  rw [behind_message] at hbehind
  -- the type and the class are there, so everything before them is
  have hwhole : 12 + q.name.length + 4 ≤ echo.length := by
    have hlength := congrArg List.length hbehind
    rw [List.length_take, List.length_drop, List.length_append] at hlength
    rw [length_wordBytes, length_wordBytes] at hlength
    omega
  have hnameAt := Packet.nameAt?_of_isName 12 (by omega) (hname.of_lowerBytes hlower)
  exact ⟨by omega, hid, hcount, _, _, hnameAt, hlower, hbehind⟩

end Query

/-- An echo of the query in the buffer is never irrelevant. -/
theorem Transmission.irrelevant?_of_echoes {t : Transmission} {attempt : Attempt} {echo : Bytes}
    (haimed : t.Aimed attempt)
    (h : Echoes echo (attempt.query.message attempt.id) attempt.query.name.length) :
    t.irrelevant? echo = some false := by
  have hname := haimed.asks.isName
  rw [irrelevant?_eq haimed.query_eq haimed.asks.qtype_eq hname,
    Attempt.isAnsweredBy_of_carries hname (Query.carries_of_echoes _ hname h)]
  rfl

end Resolver
