import Resolver.Packet
import Resolver.Proofs.Bytes
import Resolver.Proofs.Name

/-!
# What is read from a message

Main statements: a name read from a message, compressed or not, is a name in plain wire form
(`isName_of_expand`), and the question that is read from a message is what stands there byte by byte
(`of_question?`, `question?_eq_some`).
-/

namespace Resolver.Packet

/-! ## Names -/

/-- What is read behind some bytes of a name completes them to labels that a name can have. -/
theorem exists_labels_of_expand {packet name : Bytes} {jumps used : Nat} {rest : Bytes}
    (h : expand packet jumps used rest = some name) (hused : used < Name.maxLength) :
    ∃ labels, Name.WellSized labels ∧ name = Name.ofLabels labels ∧
      used + Name.wireLength labels ≤ Name.maxLength := by
  -- a pointer goes on elsewhere with the bytes already used, a label adds its own to them
  fun_induction expand packet jumps used rest generalizing name with
  | case1 => contradiction
  | case2 used n hpointer low tail left ih => exact ih h hused
  | case3 => contradiction
  | case4 => contradiction
  | case5 used tail hplain hlow =>
    obtain rfl := Option.some.inj h
    exact ⟨[], fun label hlabel => (nomatch hlabel), rfl, hused⟩
  | case6 => contradiction
  | case7 => contradiction
  | case8 jumps used n tail hplain hlow hzero hshort hroom ih =>
    obtain ⟨name, hname, rfl⟩ := Option.map_eq_some_iff.1 h
    obtain ⟨labels, hsized, rfl, hlength⟩ := ih hname (by omega)
    have hlabel : (tail.take n.toNat).length = n.toNat := by
      have := List.length_take_le n.toNat tail
      omega
    have hpos : n.toNat ≠ 0 := fun heq => hzero (UInt8.toNat_inj.1 heq)
    have hmax : n.toNat ≤ Name.maxLabel := by
      have hlt : n.toNat < 64 := UInt8.not_le.1 hlow
      unfold Name.maxLabel
      omega
    refine ⟨tail.take n.toNat :: labels,
      Name.wellSized_cons.2 ⟨⟨by omega, by omega⟩, hsized⟩, ?_, ?_⟩
    · rw [Name.ofLabels, hlabel, UInt8.ofNat_toNat]
    · rw [Name.wireLength, hlabel]
      omega

/-- A name read from a message is a name in plain wire form. -/
theorem isName_of_expand {packet name rest : Bytes} {jumps : Nat}
    (h : expand packet jumps 0 rest = some name) : Name.IsName name := by
  obtain ⟨labels, hsized, rfl, hlength⟩ := exists_labels_of_expand h (by decide)
  rw [Nat.zero_add] at hlength
  exact ⟨labels, hsized, hlength, rfl⟩

/-- What follows a name is the end of what it was read from. -/
theorem suffix_of_skipName {rest after : Bytes} (h : skipName rest = some after) :
    after <:+ rest := by
  fun_induction skipName rest with
  | case1 => contradiction
  | case2 n tail hpointer =>
    obtain rfl := Option.some.inj h
    exact (List.drop_suffix 1 tail).trans (List.suffix_cons n tail)
  | case3 tail =>
    obtain rfl := Option.some.inj h
    exact List.suffix_cons 0 tail
  | case4 n tail hplain hzero ih =>
    exact ((ih h).trans (List.drop_suffix n.toNat tail)).trans (List.suffix_cons n tail)

theorem of_takeName {packet rest name after : Bytes}
    (h : takeName packet rest = some (name, after)) : Name.IsName name ∧ after <:+ rest := by
  unfold takeName at h
  obtain ⟨name', hname, h⟩ := Option.bind_eq_some_iff.1 h
  obtain ⟨after', hafter, h⟩ := Option.bind_eq_some_iff.1 h
  obtain ⟨rfl, rfl⟩ := Prod.mk.inj (Option.some.inj h)
  exact ⟨isName_of_expand hname, suffix_of_skipName hafter⟩

/-! ## The question -/

/-- A question that is read from a message stands there: behind the whole header with the id and a
count of one, a name, and behind the name the type and the class. -/
theorem of_question? {packet : Bytes} {q : Question} (h : question? packet = some q) :
    headerLength ≤ packet.length ∧ packet.take 2 = wordBytes q.id ∧
      (packet.drop 4).take 2 = [0, 1] ∧ Name.IsName q.name ∧
      ∃ stop, nameAt? packet headerLength = some (q.name, stop) ∧
        (packet.drop stop).take 4 = wordBytes q.qtype ++ wordBytes q.qclass := by
  unfold question? at h
  split at h
  · rename_i id1 id0 f1 f0 count1 count0 a1 a0 n1 n0 m1 m0 body
    split at h
    · rename_i hcount
      split at h
      · rename_i name t1 t0 c1 c0 tail hname
        obtain rfl := Option.some.inj h
        obtain ⟨hisName, hsuffix⟩ := of_takeName hname
        have hbody : body <:+ id1 :: id0 :: f1 :: f0 :: count1 :: count0 :: a1 :: a0 :: n1 :: n0 ::
            m1 :: m0 :: body := ⟨[id1, id0, f1, f0, count1, count0, a1, a0, n1, n0, m1, m0], rfl⟩
        -- what follows the name is the message from the place where the name stops
        have hafter := List.suffix_iff_eq_drop.1 (hsuffix.trans hbody)
        refine ⟨Nat.le_add_left 12 body.length, ?_, ?_, hisName, ?_⟩
        · rw [wordBytes_wordOf]
          rfl
        · rw [hcount.1, hcount.2]
          rfl
        · refine ⟨_, by unfold nameAt?; exact congrArg _ hname, ?_⟩
          rw [← hafter, wordBytes_wordOf, wordBytes_wordOf]
          rfl
      · contradiction
    · contradiction
  · contradiction

/-- What stands in a message as its one question is read as its question. -/
theorem question?_eq_some {packet name : Bytes} {id qtype qclass : UInt16} {stop : Nat}
    (hheader : headerLength ≤ packet.length) (hid : packet.take 2 = wordBytes id)
    (hcount : (packet.drop 4).take 2 = [0, 1])
    (hname : nameAt? packet headerLength = some (name, stop))
    (hbehind : (packet.drop stop).take 4 = wordBytes qtype ++ wordBytes qclass) :
    question? packet = some ⟨id, name, qtype, qclass⟩ := by
  -- a message with a whole header has twelve bytes in front of its body
  match packet, hheader with
  | id1 :: id0 :: f1 :: f0 :: count1 :: count0 :: a1 :: a0 :: n1 :: n0 :: m1 :: m0 :: body, _ =>
    obtain ⟨rfl, h⟩ := List.cons.inj hcount
    obtain ⟨rfl, -⟩ := List.cons.inj h
    unfold nameAt? at hname
    obtain ⟨⟨found, after⟩, htake, hplace⟩ := Option.map_eq_some_iff.1 hname
    obtain ⟨rfl, rfl⟩ := Prod.mk.inj hplace
    obtain ⟨-, hsuffix⟩ := of_takeName htake
    have hbody : body <:+ id1 :: id0 :: f1 :: f0 :: 0 :: 1 :: a1 :: a0 :: n1 :: n0 :: m1 :: m0 ::
        body := ⟨[id1, id0, f1, f0, 0, 1, a1, a0, n1, n0, m1, m0], rfl⟩
    rw [← List.suffix_iff_eq_drop.1 (hsuffix.trans hbody)] at hbehind
    obtain ⟨t1, t0, htype⟩ := exists_wordBytes qtype
    obtain ⟨c1, c0, hclass⟩ := exists_wordBytes qclass
    rw [htype, hclass] at hbehind
    obtain ⟨tail, rfl⟩ : ∃ tail, after = t1 :: t0 :: c1 :: c0 :: tail :=
      ⟨after.drop 4, by rw [← List.take_append_drop 4 after, hbehind]; rfl⟩
    unfold question?
    dsimp only
    rw [if_pos ⟨rfl, rfl⟩]
    replace htake : takeName (id1 :: id0 :: f1 :: f0 :: 0 :: 1 :: a1 :: a0 :: n1 :: n0 :: m1 ::
      m0 :: body) body = some (found, t1 :: t0 :: c1 :: c0 :: tail) := htake
    rw [htake]
    dsimp only
    rw [wordOf_of_wordBytes hid.symm, wordOf_of_wordBytes htype, wordOf_of_wordBytes hclass]

end Resolver.Packet
