import Mathlib
import Resolver.Command.Asking
import Resolver.Proofs.Cache.Recall
import Resolver.Proofs.Session.Driving

/-!
# Packets that are shown for names

Main statement: every packet that is shown for a name is a reply to that name, and one that is shown
from the cache is what a server sent last for the same name with answers that live on
(`run_shown`).
-/

namespace Resolver

/-- A reply to a name is a reply to the same name in other letter case. -/
theorem Answers.congr {p : Bytes} {id : UInt16} {q q' : Query} (h : Answers p id q)
    (hname : lowerBytes q.name = lowerBytes q'.name) (hqtype : q.qtype = q'.qtype) :
    Answers p id q' := by
  obtain ⟨name, stop, hnameAt, hfolded, hbehind⟩ := h.question
  rw [hname] at hfolded
  rw [hqtype] at hbehind
  exact { h with question := ⟨name, stop, hnameAt, hfolded, hbehind⟩ }

namespace Asking

open Dialogue

/-- Two texts name the same labels, letter case aside. -/
def SameName (a b : String) : Prop :=
  (Name.dottedLabels (Utf8.encode a)).map lowerBytes =
    (Name.dottedLabels (Utf8.encode b)).map lowerBytes

/-- What is shown for a name is a reply to it: a message with one question, for that name in any
letter case, for the type that is asked for and for the Internet class, that is not cut off and
reports no failure. -/
def Shown.Fits (request : Request) (shown : Shown) : Prop :=
  ∃ wire id, Name.ofDotted? shown.name = some wire ∧
    Answers shown.packet id ⟨wire, request.qtype, request.recursive⟩

/-- A server sent it, and all its answers live for some time. -/
def Shown.Lasts (shown : Shown) : Prop :=
  shown.source = .server ∧ ∃ ttl, Packet.minAnswerTtl? shown.packet = some ttl ∧ 0 < ttl

/-- Of what was shown before, the last that a server sent for the same name with answers that live
for some time is the same packet. -/
def Repeats (past : List Shown) (shown : Shown) : Prop :=
  ∃ before origin after, past = before ++ origin :: after ∧ origin.Lasts ∧
    SameName origin.name shown.name ∧ origin.packet = shown.packet ∧
    ∀ later ∈ after, later.Lasts → ¬ SameName later.name shown.name

/-- A packet whose answers live for some time is stored for as long. -/
theorem remember_of_lasting {cache : Cache} {now : Tai64} {key packet : Bytes} {ttl : Nat}
    (httl : Packet.minAnswerTtl? packet = some ttl) (hpos : 0 < ttl) :
    remember cache now key packet = cache.set now key packet ttl := by
  unfold remember
  rw [httl]
  exact if_pos hpos

/-! ## Keys -/

/-- The key that the packets for a name are stored under. -/
def keyOf? (request : Request) (name : String) : Option Bytes :=
  (Name.ofDotted? name).bind (Packet.cacheKey? request.qtype)

theorem isName_of_ofDotted? {name : String} {wire : Bytes} (h : Name.ofDotted? name = some wire) :
    Name.IsName wire := by
  obtain ⟨hsized, hlength, rfl⟩ := Name.of_ofDotted? h
  exact ⟨_, hsized, hlength, rfl⟩

theorem keyOf?_eq (request : Request) {name : String} {wire : Bytes}
    (h : Name.ofDotted? name = some wire) :
    keyOf? request name = some (wordBytes request.qtype ++ lowerBytes wire) := by
  unfold keyOf? Packet.cacheKey?
  rw [h, Option.bind_some, (isName_of_ofDotted? h).lower?_eq]
  rfl

/-- Two names have one key exactly if they are the same, letter case aside. -/
theorem keyOf?_eq_iff (request : Request) {a b : String} {wireA wireB : Bytes}
    (ha : Name.ofDotted? a = some wireA) (hb : Name.ofDotted? b = some wireB) :
    keyOf? request a = keyOf? request b ↔ SameName a b := by
  obtain ⟨hsizedA, -, hwireA⟩ := Name.of_ofDotted? ha
  obtain ⟨hsizedB, -, hwireB⟩ := Name.of_ofDotted? hb
  rw [keyOf?_eq request ha, keyOf?_eq request hb, Option.some.injEq, List.append_cancel_left_eq,
    hwireA, hwireB]
  exact Name.lowerBytes_ofLabels_inj hsizedA hsizedB

/-- A key is no longer than a key in the cache can be. -/
theorem length_key_le (request : Request) {name : String} {wire : Bytes}
    (h : Name.ofDotted? name = some wire) :
    (wordBytes request.qtype ++ lowerBytes wire).length ≤ Cache.maxKey := by
  obtain ⟨-, hlength, rfl⟩ := Name.of_ofDotted? h
  rw [List.length_append, length_wordBytes, length_lowerBytes, Name.length_ofLabels]
  unfold Name.maxLength at hlength
  unfold Cache.maxKey
  omega

/-! ## What the cache holds -/

/-- The key and the packet that the cache is to store. -/
def kept? (request : Request) (shown : Shown) : Option (Bytes × Bytes) :=
  match shown.source, Packet.minAnswerTtl? shown.packet with
  | .server, some ttl =>
    if 0 < ttl then (keyOf? request shown.name).map fun key => (key, shown.packet) else none
  | _, _ => none

theorem kept?_eq_some_iff {request : Request} {shown : Shown} {key packet : Bytes} :
    kept? request shown = some (key, packet) ↔
      shown.Lasts ∧ keyOf? request shown.name = some key ∧ shown.packet = packet := by
  unfold kept? Shown.Lasts
  constructor
  · intro h
    split at h
    · rename_i ttl hsource httl
      split at h
      · rename_i hpos
        obtain ⟨key', hkey, heq⟩ := Option.map_eq_some_iff.1 h
        obtain ⟨rfl, rfl⟩ := Prod.mk.inj heq
        exact ⟨⟨hsource, ttl, httl, hpos⟩, hkey, rfl⟩
      · contradiction
    · contradiction
  · rintro ⟨⟨hsource, ttl, httl, hpos⟩, hkey, rfl⟩
    rw [hsource, httl]
    dsimp only
    rw [if_pos hpos, hkey]
    rfl

/-- The cache is settled and holds the newest of the packets that were to be stored, each of which is a
reply to the name it was shown for. -/
structure Holds (request : Request) (past : List Shown) (cache : Cache) : Prop where
  settled : cache.Settled
  pairs_suffix : cache.pairs <:+ past.filterMap (kept? request)
  fits : ∀ shown ∈ past, shown.Fits request

variable {request : Request} {past : List Shown} {cache : Cache} {name : String} {wire : Bytes}

theorem holds_new (request : Request) (capacity : Nat) (hashKey : Bytes) :
    Holds request [] (Cache.new capacity hashKey) where
  settled := Cache.settled_new capacity hashKey
  pairs_suffix := by
    rw [Cache.pairs_new]
    exact List.nil_suffix
  fits := fun _ h => nomatch h

/-- A packet that is found in the cache is what a server sent last for the same name. -/
theorem Holds.repeats (h : Holds request past cache) (hwire : Name.ofDotted? name = some wire)
    {now : Tai64} {hit : Cache.Hit}
    (hget : cache.get now (wordBytes request.qtype ++ lowerBytes wire) = .ok (some hit)) :
    Repeats past ⟨name, .cache hit.ttl, hit.data⟩ ∧
      (Shown.mk name (.cache hit.ttl) hit.data).Fits request := by
  obtain ⟨older, newer, hpairs, hnewer⟩ := Cache.exists_of_get h.settled hget
  obtain ⟨front, hfront⟩ := h.pairs_suffix
  -- the pair stands among those that were to be stored, and none behind it has the key
  rw [hpairs, ← List.append_assoc] at hfront
  obtain ⟨early, late, rfl, -, hlate⟩ := List.filterMap_eq_append_iff.1 hfront.symm
  obtain ⟨skipped, origin, after, rfl, hskipped, horigin, hafter⟩ :=
    List.filterMap_eq_cons_iff.1 hlate
  obtain ⟨hlasts, hkey, hpacket⟩ := kept?_eq_some_iff.1 horigin
  have hmem : origin ∈ early ++ (skipped ++ origin :: after) := by simp
  obtain ⟨wire', id, hwire', hanswers⟩ := h.fits origin hmem
  have hsame : SameName origin.name name := by
    rw [← keyOf?_eq_iff request hwire' hwire, hkey, keyOf?_eq request hwire]
  refine ⟨⟨early ++ skipped, origin, after, (List.append_assoc ..).symm, hlasts, hsame, hpacket,
    ?_⟩, wire, id, hwire, ?_⟩
  · intro later hlater hlasts' hsame'
    have hmem' : later ∈ early ++ (skipped ++ origin :: after) := by simp [hlater]
    obtain ⟨wire'', -, hwire'', -⟩ := h.fits later hmem'
    have hkey' : keyOf? request later.name = some (wordBytes request.qtype ++ lowerBytes wire) := by
      rw [(keyOf?_eq_iff request hwire'' hwire).2 hsame', keyOf?_eq request hwire]
    have hkept := kept?_eq_some_iff.2 ⟨hlasts', hkey', rfl⟩
    have hstored := List.mem_filterMap.2 ⟨later, hlater, hkept⟩
    rw [hafter] at hstored
    exact hnewer _ hstored rfl
  · rw [hpacket] at hanswers
    refine hanswers.congr ?_ rfl
    have hfolded := keyOf?_eq request hwire'
    rw [hkey, Option.some.injEq, List.append_cancel_left_eq] at hfolded
    exact hfolded.symm

/-- What is not to be stored leaves the cache as it is. -/
theorem Holds.keep (h : Holds request past cache) {shown : Shown} (hfits : shown.Fits request)
    (hkept : kept? request shown = none) : Holds request (past ++ [shown]) cache where
  settled := h.settled
  pairs_suffix := by
    rw [List.filterMap_append, List.filterMap_cons_none hkept, List.filterMap_nil, List.append_nil]
    exact h.pairs_suffix
  fits := List.forall_mem_append.2 ⟨h.fits, List.forall_mem_singleton.2 hfits⟩

/-- What is to be stored goes in behind the others. -/
theorem Holds.store (h : Holds request past cache) {shown : Shown} (hfits : shown.Fits request)
    {cache' : Cache} {pair : Bytes × Bytes} (hkept : kept? request shown = some pair)
    (hsettled : cache'.Settled) (hpairs : cache'.pairs <:+ cache.pairs ++ [pair]) :
    Holds request (past ++ [shown]) cache' where
  settled := hsettled
  pairs_suffix := by
    rw [List.filterMap_append, List.filterMap_cons_some hkept, List.filterMap_nil]
    obtain ⟨front, hfront⟩ := h.pairs_suffix
    rw [← hfront, List.append_assoc]
    exact hpairs.trans (List.suffix_append _ _)
  fits := List.forall_mem_append.2 ⟨h.fits, List.forall_mem_singleton.2 hfits⟩

/-- After a packet from a server, the cache holds what it should. -/
theorem Holds.remember (h : Holds request past cache) (hwire : Name.ofDotted? name = some wire)
    {packet : Bytes} {now : Tai64} {cache' : Cache}
    (hfits : (Shown.mk name .server packet).Fits request) (hlength : packet.length < 65536)
    (hremember : remember cache now (wordBytes request.qtype ++ lowerBytes wire) packet =
      .ok cache') : Holds request (past ++ [⟨name, .server, packet⟩]) cache' := by
  unfold Asking.remember at hremember
  split at hremember
  · rename_i ttl httl
    split at hremember
    · rename_i hpos
      have hkept : kept? request ⟨name, .server, packet⟩ =
          some (wordBytes request.qtype ++ lowerBytes wire, packet) :=
        kept?_eq_some_iff.2 ⟨⟨rfl, ttl, httl, hpos⟩, keyOf?_eq request hwire, rfl⟩
      have hdata : packet.length ≤ Cache.maxData := by
        unfold Cache.maxData
        omega
      obtain ⟨c, hset, hsettled, hpairs⟩ := Cache.exists_set_pairs h.settled now
        (length_key_le request hwire) hdata (Nat.pos_iff_ne_zero.1 hpos)
      obtain rfl := Except.ok.inj (hset.symm.trans hremember)
      exact h.store hfits hkept hsettled hpairs
    · rename_i hzero
      obtain rfl := Except.ok.inj hremember
      refine h.keep hfits ?_
      unfold kept?
      dsimp only
      rw [httl]
      exact if_neg hzero
  · rename_i httl
    obtain rfl := Except.ok.inj hremember
    refine h.keep hfits ?_
    unfold kept?
    dsimp only
    rw [httl]

/-! ## Asking -/

variable {waits : Nat} {st st' : State} {exchanges : List Exchange} {shown : Shown}

/-- What servers send for a name is a reply to it, and the cache then holds what it should. -/
theorem Holds.fromServers (h : Holds request past st.cache)
    (hwire : Name.ofDotted? name = some wire)
    (hcourse : Course (fromServers request waits name wire
      (wordBytes request.qtype ++ lowerBytes wire) st) exchanges (.ok (shown, st'))) :
    shown.name = name ∧ shown.source = .server ∧ shown.Fits request ∧
      Holds request (past ++ [shown]) st'.cache := by
  have hisName := isName_of_ofDotted? hwire
  unfold Asking.fromServers at hcourse
  obtain ⟨⟨started, session, g⟩, opening, rest, rfl, hstart, hrest⟩ := course_seq_iff.1 hcourse
  cases started with
  | error cause => exact nomatch (course_pure_iff.1 hrest).2
  | ok _ =>
    obtain ⟨length, hlength, htracks⟩ := Session.tracks_of_start none hstart
    obtain rfl := Option.some.inj (hlength.symm.trans hisName.length?_eq)
    rw [List.take_length] at htracks
    obtain ⟨⟨outcome, session', g'⟩, talk, last, rfl, hresolve, hlast⟩ := course_seq_iff.1 hrest
    cases outcome with
    | unfinished => exact nomatch (course_pure_iff.1 hlast).2
    | failure cause => exact nomatch (course_pure_iff.1 hlast).2
    | reply packet =>
      obtain ⟨f, id, hdelivers, hanswers⟩ := Session.answers_of_resolve hisName htracks hresolve
      have hfits : (Shown.mk name .server packet).Fits request := ⟨wire, id, hwire, hanswers⟩
      obtain ⟨now, final, rfl, hfinal⟩ := course_call_iff.1 hlast
      split at hfinal
      · exact nomatch (course_pure_iff.1 hfinal).2
      · rename_i cache' hremember
        obtain ⟨rfl, rfl⟩ := Prod.mk.inj (Except.ok.inj (course_pure_iff.1 hfinal).2)
        exact ⟨rfl, rfl, hfits, h.remember hwire hfits hdelivers.length_lt hremember⟩

/-- What is shown for a name is a reply to it, and one from the cache is what a server sent last;
the cache then holds what it should. -/
theorem Holds.ask (h : Holds request past st.cache)
    (hcourse : Course (ask request waits name st) exchanges (.ok (shown, st'))) :
    shown.name = name ∧ shown.Fits request ∧
      (∀ ttl, shown.source = .cache ttl → Repeats past shown) ∧
      Holds request (past ++ [shown]) st'.cache := by
  unfold Asking.ask at hcourse
  cases hwire : Name.ofDotted? name with
  | none =>
    rw [hwire] at hcourse
    exact nomatch (course_pure_iff.1 hcourse).2
  | some wire =>
    have hkey : Packet.cacheKey? request.qtype wire =
        some (wordBytes request.qtype ++ lowerBytes wire) := by
      rw [← keyOf?_eq request hwire]
      unfold keyOf?
      rw [hwire, Option.bind_some]
    rw [hwire] at hcourse
    dsimp only at hcourse
    rw [hkey] at hcourse
    obtain ⟨now, rest, rfl, hrest⟩ := course_call_iff.1 hcourse
    split at hrest
    · exact nomatch (course_pure_iff.1 hrest).2
    · rename_i hit hget
      obtain ⟨rfl, rfl⟩ := Prod.mk.inj (Except.ok.inj (course_pure_iff.1 hrest).2)
      obtain ⟨hrepeats, hfits⟩ := h.repeats hwire hget
      exact ⟨rfl, hfits, fun _ _ => hrepeats, h.keep hfits rfl⟩
    · obtain ⟨hname, hsource, hfits, hholds⟩ := h.fromServers hwire hrest
      refine ⟨hname, hfits, fun ttl hcache => ?_, hholds⟩
      exact nomatch hsource.symm.trans hcache

/-- Packets that are shown one after the other, behind others, are what they should be. -/
def Sound (request : Request) (past shown : List Shown) : Prop :=
  ∀ earlier s later, shown = earlier ++ s :: later → s.Fits request ∧
    ∀ ttl, s.source = .cache ttl → Repeats (past ++ earlier) s

theorem sound_nil (request : Request) (past : List Shown) : Sound request past [] :=
  fun _ _ _ h => absurd h.symm (by simp)

theorem Sound.cons {s : Shown} {more : List Shown} (h : Sound request (past ++ [s]) more)
    (hfits : s.Fits request) (hrepeats : ∀ ttl, s.source = .cache ttl → Repeats past s) :
    Sound request past (s :: more) := by
  intro earlier x later hsplit
  cases earlier with
  | nil =>
    obtain ⟨rfl, -⟩ := List.cons.inj hsplit
    rw [List.append_nil]
    exact ⟨hfits, hrepeats⟩
  | cons y earlier =>
    obtain ⟨rfl, hmore⟩ := List.cons.inj hsplit
    rw [← List.singleton_append, ← List.append_assoc]
    exact h earlier x later hmore

/-- Whatever was shown before, the packets that are shown for further names are what they should
be. -/
theorem Holds.run {names : List String} {shown : List Shown} {stop : Option Stop}
    (h : Holds request past st.cache)
    (hcourse : Course (run request waits names st) exchanges (shown, stop)) :
    shown.map Shown.name <+: names ∧ Sound request past shown := by
  induction names generalizing past st exchanges shown stop with
  | nil =>
    rw [Asking.run] at hcourse
    obtain ⟨rfl, -⟩ := Prod.mk.inj (course_pure_iff.1 hcourse).2
    exact ⟨List.nil_prefix, sound_nil request past⟩
  | cons name names ih =>
    rw [Asking.run] at hcourse
    obtain ⟨asked, first, rest, rfl, hask, hrest⟩ := course_seq_iff.1 hcourse
    cases asked with
    | error cause =>
      obtain ⟨rfl, -⟩ := Prod.mk.inj (course_pure_iff.1 hrest).2
      exact ⟨List.nil_prefix, sound_nil request past⟩
    | ok asked =>
      obtain ⟨s, st₁⟩ := asked
      obtain ⟨rfl, hfits, hrepeats, hholds⟩ := h.ask hask
      dsimp only at hrest
      split at hrest
      · -- a packet that cannot be taken apart is the last one
        obtain ⟨rfl, -⟩ := Prod.mk.inj (course_pure_iff.1 hrest).2
        exact ⟨List.prefix_append [s.name] names,
          (sound_nil request (past ++ [s])).cons hfits hrepeats⟩
      · obtain ⟨⟨more, stop'⟩, second, last, rfl, hmore, hlast⟩ := course_seq_iff.1 hrest
        obtain ⟨rfl, -⟩ := Prod.mk.inj (course_pure_iff.1 hlast).2
        obtain ⟨hinTurn, hsound⟩ := ih hholds hmore
        exact ⟨List.cons_prefix_cons.2 ⟨rfl, hinTurn⟩, hsound.cons hfits hrepeats⟩

/-- A packet that is in the cache is shown, and everything stays as it was. -/
theorem exists_ask_cached (request : Request) (waits : Nat) {key : Bytes} {now : Tai64}
    {hit : Cache.Hit}
    (hwire : Name.ofDotted? name = some wire) (hkey : Packet.cacheKey? request.qtype wire = some key)
    (hget : st.cache.get now key = .ok (some hit)) : ∃ exchanges,
      Course (ask request waits name st) exchanges
        (.ok (⟨name, .cache hit.ttl, hit.data⟩, st)) := by
  unfold Asking.ask
  rw [hwire]
  dsimp only
  rw [hkey]
  refine ⟨[⟨.wallClock, now⟩], course_call_iff.2 ⟨now, [], rfl, ?_⟩⟩
  rw [hget]
  exact .done _

/-- What the servers send is shown and put into the cache. -/
theorem exists_fromServers {session session' : Session} {g g' : Generator}
    {opening talk : List Exchange} {key packet : Bytes} {cache' : Cache} (now : Tai64)
    (hstart : Course (st.session.start request.servers request.recursive wire request.qtype
      st.generator) opening (.ok (), session, g))
    (hresolve : Course (session.resolve g waits) talk (.reply packet, session', g'))
    (hremember : remember st.cache now key packet = .ok cache') :
    ∃ exchanges, Course (fromServers request waits name wire key st) exchanges
      (.ok (⟨name, .server, packet⟩, ⟨cache', session'.free, g'⟩)) := by
  unfold fromServers
  refine ⟨opening ++ (talk ++ [⟨.wallClock, now⟩]), ?_⟩
  refine course_seq_iff.2 ⟨(.ok (), session, g), opening, _, rfl, hstart, ?_⟩
  refine course_seq_iff.2 ⟨(.reply packet, session', g'), talk, _, rfl, hresolve, ?_⟩
  refine course_call_iff.2 ⟨now, [], rfl, ?_⟩
  rw [hremember]
  exact .done _

/-- What is not in the cache is asked of the servers. -/
theorem exists_ask_fromServers {key : Bytes} {now : Tai64}
    {result : Except Stop (Shown × State)}
    (hwire : Name.ofDotted? name = some wire) (hkey : Packet.cacheKey? request.qtype wire = some key)
    (hget : st.cache.get now key = .ok none)
    (h : Course (fromServers request waits name wire key st) exchanges result) :
    ∃ exchanges, Course (ask request waits name st) exchanges result := by
  unfold Asking.ask
  rw [hwire]
  dsimp only
  rw [hkey]
  refine ⟨⟨.wallClock, now⟩ :: exchanges, course_call_iff.2 ⟨now, exchanges, rfl, ?_⟩⟩
  rw [hget]
  exact h

/-- After a packet that can be taken apart, the next name is asked for. -/
theorem exists_run_cons {names : List String} {rest : List Exchange} {more : List Shown}
    {stop : Option Stop}
    (h : Course (ask request waits name st) exchanges (.ok (shown, st')))
    (hwhole : (Message.ofBytes shown.packet).isOk = true)
    (hrest : Course (run request waits names st') rest (more, stop)) :
    ∃ exchanges, Course (run request waits (name :: names) st) exchanges (shown :: more, stop) := by
  rw [Asking.run]
  refine ⟨exchanges ++ (rest ++ []), course_seq_iff.2 ⟨_, exchanges, _, rfl, h, ?_⟩⟩
  dsimp only
  cases hmessage : Message.ofBytes shown.packet with
  | error flaw =>
    rw [hmessage] at hwhole
    contradiction
  | ok message => exact course_seq_iff.2 ⟨_, rest, [], rfl, hrest, .done _⟩

/-- A name is asked of the servers, and then one with the same key is found in the cache. -/
theorem exists_run_again {a b : String} {wireA wireB key packet : Bytes} {now later : Tai64}
    {ttl : Nat}
    (hwireA : Name.ofDotted? a = some wireA) (hkeyA : Packet.cacheKey? request.qtype wireA = some key)
    (hwireB : Name.ofDotted? b = some wireB) (hkeyB : Packet.cacheKey? request.qtype wireB = some key)
    (hnone : st.cache.get now key = .ok none)
    (hsent : Course (fromServers request waits a wireA key st) exchanges
      (.ok (⟨a, .server, packet⟩, st')))
    (hwhole : (Message.ofBytes packet).isOk = true)
    (hfound : st'.cache.get later key = .ok (some ⟨packet, ttl⟩)) :
    ∃ exchanges, Course (run request waits [a, b] st) exchanges
      ([⟨a, .server, packet⟩, ⟨b, .cache ttl, packet⟩], none) := by
  obtain ⟨first, hfirst⟩ := exists_ask_fromServers hwireA hkeyA hnone hsent
  obtain ⟨second, hsecond⟩ := exists_ask_cached request waits hwireB hkeyB hfound
  have hend : Course (run request waits [] st') [] ([], none) := by
    rw [run]
    exact .done _
  obtain ⟨rest, hrest⟩ := exists_run_cons hsecond hwhole hend
  exact exists_run_cons hfirst hwhole hrest

/-- Whatever the size of the cache, its hash key, the policy of the sessions and the random source
are, and whatever the clocks and the servers do, packets are shown for the names in turn. Each is a
reply to its name. One that is shown from the cache is, byte for byte, the packet that a server sent
last in the same run for a name with the same labels, letter case aside, and with answers that live
for some time. -/
theorem run_shown {names : List String} {capacity : Nat} {hashKey : Bytes} {policy : Policy}
    {g : Generator} {shown : List Shown} {stop : Option Stop}
    (h : Course (run request waits names ⟨Cache.new capacity hashKey, Session.new policy, g⟩)
      exchanges (shown, stop)) :
    shown.map Shown.name <+: names ∧
      ∀ earlier s later, shown = earlier ++ s :: later → s.Fits request ∧
        ∀ ttl, s.source = .cache ttl → Repeats earlier s := by
  have hholds : Holds request []
      (State.mk (Cache.new capacity hashKey) (Session.new policy) g).cache :=
    holds_new request capacity hashKey
  obtain ⟨hinTurn, hsound⟩ := hholds.run h
  exact ⟨hinTurn, hsound⟩

/-- A name is asked for in small letters and then in capitals. The only server answers the first time,
and the second time the packet comes from the cache. -/
theorem run_shown_capitals :
    ∃ (hashKey : Bytes) (policy : Policy) (g : Generator) (exchanges : List Exchange)
      (first second : Shown),
      Course (run ⟨1, .ofList [.localhost], true⟩ 1 ["a", "A"]
        ⟨Cache.new 100 hashKey, Session.new policy, g⟩) exchanges ([first, second], none) ∧
      second.source = .cache 60 ∧
      [first, second].map Shown.name <+: ["a", "A"] ∧
        ∀ earlier s later, [first, second] = earlier ++ s :: later →
          s.Fits ⟨1, .ofList [.localhost], true⟩ ∧
            ∀ ttl, s.source = .cache ttl → Repeats earlier s := by
  let request : Request := ⟨1, .ofList [.localhost], true⟩
  let key : Bytes := [0, 1, 1, 97, 0]
  let reply : Bytes := [0x12, 0x34, 0x81, 0x80, 0, 1, 0, 1, 0, 0, 0, 0, 1, 97, 0, 0, 1, 0, 1,
    192, 12, 0, 1, 0, 1, 0, 0, 0, 60, 0, 4, 127, 0, 0, 9]
  have hsmall : Name.ofDotted? "a" = some [1, 97, 0] := by decide +kernel
  have hlarge : Name.ofDotted? "A" = some [1, 65, 0] := by decide +kernel
  have hsmallKey : Packet.cacheKey? 1 [1, 97, 0] = some key := by cbv
  have hlargeKey : Packet.cacheKey? 1 [1, 65, 0] = some key := by cbv
  have hschedule : request.servers.schedule (Session.firstRound true) 0 =
      ⟨0, 0, .localhost⟩ :: request.servers.schedule 1 0 := by decide
  have hjudge : Session.judgeDatagram ⟨⟨[1, 97, 0], 1, true⟩, request.servers, 4660⟩ 0
      (.awaitingDatagram 3) reply = .accept reply := by cbv
  obtain ⟨opening, talk, session, session', g, hstart, hresolve⟩ :=
    Session.exists_answered_hasty 0 hschedule ⟨reply, by decide⟩ (List.cons_ne_nil _ _) hjudge
  have hempty : (Cache.new 100 []).get ⟨0⟩ key = .ok none := by cbv
  have hfits : (Cache.new 100 []).heads + (key.length + reply.length + Cache.entryHeader) ≤
      (Cache.new 100 []).size := by
    have hsize : (Cache.new 100 []).size = 100 := Block.size_zeros 100
    rw [hsize]
    decide
  obtain ⟨c, hset, hcached⟩ : ∃ c, (Cache.new 100 []).set ⟨0⟩ key reply 60 = .ok c ∧
      ∀ later hit, (Cache.Entry.mk key reply ⟨60⟩).answer later = some hit →
        c.get later key = .ok (some hit) :=
    Cache.exists_set_get (Cache.settled_new 100 []) ⟨0⟩ (by decide) (by decide) (by decide) hfits
  have httl : Packet.minAnswerTtl? reply = some 60 := by cbv
  have hremember : remember (Cache.new 100 []) ⟨0⟩ key reply = .ok c :=
    (remember_of_lasting httl (by decide)).trans hset
  have hwhole : (Message.ofBytes reply).isOk = true := by cbv
  let st : State :=
    ⟨Cache.new 100 [], Session.new Session.hasty, { Generator.ofSeed [] with pending := [4660] }⟩
  obtain ⟨sent, hsent⟩ : ∃ exchanges, Course (fromServers request 1 "a" [1, 97, 0] key st) exchanges
      (.ok (⟨"a", .server, reply⟩, ⟨c, session'.free, g⟩)) :=
    exists_fromServers ⟨0⟩ hstart hresolve hremember
  obtain ⟨exchanges, hrun⟩ : ∃ exchanges, Course (run request 1 ["a", "A"] st) exchanges
      ([⟨"a", .server, reply⟩, ⟨"A", .cache 60, reply⟩], none) :=
    exists_run_again hsmall hsmallKey hlarge hlargeKey hempty hsent hwhole
      (hcached ⟨0⟩ ⟨reply, 60⟩ (by decide))
  exact ⟨[], Session.hasty, _, exchanges, _, _, hrun, rfl, run_shown hrun⟩

end Asking

end Resolver
