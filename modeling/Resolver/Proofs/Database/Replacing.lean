import Resolver.Database.Replacement
import Resolver.Proofs.Database.RoundTrip

/-!
# Databases that are being replaced

One writer replaces a database over and over, and readers open it whenever they like. The system may
refuse any step of the writer, and while a file is being written the temporary place may hold any
part of it, or anything that was left there.

Main statements: a call puts the whole file of its records in place or leaves the database as it was
(`replace_ok`, `replace_error`), and whoever opens the database at any moment finds in it the records
of the last call that came to its end, and goes on finding them (`answers_of_moments`).
-/

namespace Resolver.Database

/-! ## Versions -/

/-- What was put in the place of a database last. -/
inductive Version
  /-- What stood there before anything was written. -/
  | first (contents : Option Bytes)
  /-- The file of some records. -/
  | written (records : List (Bytes × Bytes))
  deriving DecidableEq

namespace Version

/-- A version stands in the place of a database. -/
def Stands (current : Option Bytes) : Version → Prop
  | .first contents => current = contents
  | .written records => ∃ image, current = some image ∧ build records = .ok image

/-- A database has, for every key, exactly the data that belong to it in a version. -/
def Answers (db : Database) : Version → Prop
  | .first none => False
  | .first (some bytes) => ∀ key, db.getAll key = (ofContent (.file (.ofList bytes))).getAll key
  | .written records => ∀ key, db.getAll key = .ok ((records.filter (·.1 = key)).map (·.2))

variable {folder : Folder} {version : Version}

theorem Stands.answers (h : version.Stands folder.current) {db : Database}
    (hopen : folder.open? = .ok db) : version.Answers db := by
  unfold Folder.open? at hopen
  split at hopen
  · rename_i bytes hcurrent
    obtain rfl := Except.ok.inj hopen
    cases version with
    | first contents =>
      obtain rfl : some bytes = contents := hcurrent.symm.trans h
      exact fun key => rfl
    | written records =>
      obtain ⟨image, himage, hbuild⟩ := h
      obtain rfl := Option.some.inj (hcurrent.symm.trans himage)
      exact getAll_of_build hbuild _
  · contradiction

/-- Once a file was put in place, there is always one to be opened. -/
theorem Stands.eq_first (h : version.Stands folder.current) {cause : OsError}
    (hopen : folder.open? = .error cause) : version = .first none := by
  unfold Folder.open? at hopen
  split at hopen
  · contradiction
  · rename_i hcurrent
    cases version with
    | first contents => rw [← hcurrent.symm.trans h]
    | written records =>
      obtain ⟨image, himage, -⟩ := h
      exact nomatch hcurrent.symm.trans himage

end Version

/-! ## One call -/

namespace Writing

variable {records : List (Bytes × Bytes)} {before : Option Bytes} {folder : Folder} {w : Writing}
  {refusal : Option OsError}

/-- What a writer of some records has come to, and what there is in the folder then: what stood in
the place of the database before, up to the moment when the file of the records takes it. -/
def Follows (records : List (Bytes × Bytes)) (before : Option Bytes) (folder : Folder) :
    Writing → Prop
  | .creating rest => rest = records ∧ folder.current = before
  | .adding builder rest =>
    builder.addAll rest = Builder.empty.addAll records ∧ folder.current = before
  | .finishing builder => Builder.empty.addAll records = .ok builder ∧ folder.current = before
  | .flushing | .renaming =>
    (∃ image, folder.temporary = some image ∧ build records = .ok image) ∧ folder.current = before
  | .done => ∃ image, folder.current = some image ∧ build records = .ok image
  | .failed _ => folder.current = before

/-- The writer puts its file in place of the database. -/
def renames (refusal : Option OsError) : Writing → Bool
  | .renaming => refusal.isNone
  | _ => false

/-- The temporary file is not whole yet, or not there any more. -/
def isLoose : Writing → Bool
  | .flushing | .renaming => false
  | _ => true

/-- The writer has come to its end. -/
def isOver : Writing → Bool
  | .done | .failed _ => true
  | _ => false

/-- Only a writer that is done has touched the database. -/
theorem Follows.current_eq (h : w.Follows records before folder) (hdone : w ≠ .done) :
    folder.current = before := by
  match w, h with
  | .creating _, h | .adding _ _, h | .finishing _, h | .flushing, h | .renaming, h => exact h.2
  | .done, _ => exact absurd rfl hdone
  | .failed _, h => exact h

/-- What stands in the temporary place makes no difference while the file is not whole. -/
theorem Follows.spill (h : w.Follows records before folder) (hloose : w.isLoose = true)
    (temporary : Option Bytes) :
    w.Follows records before { folder with temporary := temporary } := by
  match w, h with
  | .flushing, _ | .renaming, _ => exact nomatch hloose
  | .creating _, h | .adding _ _, h | .finishing _, h | .done, h | .failed _, h => exact h

/-- A step that is not the last leaves the database alone. -/
theorem current_step (h : w.renames refusal = false) :
    (w.step refusal folder).2.current = folder.current := by
  match w, refusal with
  | .renaming, none => exact nomatch h
  | .creating _, some _ | .adding _ _, some _ | .finishing _, some _ | .flushing, some _
  | .renaming, some _ | .done, _ | .failed _, _ => rfl
  | .creating _, none | .adding _ [], none | .flushing, none => rfl
  | .adding builder ((key, data) :: rest), none =>
    unfold step
    dsimp only
    split <;> rfl
  | .finishing builder, none =>
    unfold step
    dsimp only
    split <;> rfl

/-- Each step of a writer follows from the one before, whether the system refuses it or not. -/
theorem Follows.step (h : w.Follows records before folder) (refusal : Option OsError) :
    (w.step refusal folder).1.Follows records before (w.step refusal folder).2 := by
  match w, refusal, h with
  | .creating _, some _, h | .adding _ _, some _, h | .finishing _, some _, h
  | .flushing, some _, h | .renaming, some _, h => exact h.2
  | .done, _, h | .failed _, _, h => exact h
  | .creating _, none, ⟨rfl, hcurrent⟩ => exact ⟨rfl, hcurrent⟩
  | .adding builder [], none, ⟨hadded, hcurrent⟩ => exact ⟨hadded.symm, hcurrent⟩
  | .adding builder ((key, data) :: rest), none, ⟨hadded, hcurrent⟩ =>
    rw [Builder.addAll] at hadded
    unfold Writing.step
    dsimp only
    split
    · rename_i builder' hadd
      rw [hadd] at hadded
      exact ⟨hadded, hcurrent⟩
    · exact hcurrent
  | .finishing builder, none, ⟨hadded, hcurrent⟩ =>
    unfold Writing.step
    dsimp only
    split
    · rename_i image hfinish
      refine ⟨⟨image, rfl, ?_⟩, hcurrent⟩
      unfold build
      rw [hadded]
      exact hfinish
    · exact hcurrent
  | .flushing, none, h => exact h
  | .renaming, none, ⟨⟨image, htemporary, hbuild⟩, _⟩ => exact ⟨image, htemporary, hbuild⟩

/-- How many steps a writer still takes at most. -/
def stepsLeft : Writing → Nat
  | .creating rest => rest.length + 5
  | .adding _ rest => rest.length + 4
  | .finishing _ => 3
  | .flushing => 2
  | .renaming => 1
  | .done | .failed _ => 0

/-- Every step is one less to take. -/
theorem stepsLeft_step (w : Writing) (refusal : Option OsError) (folder : Folder) :
    (w.step refusal folder).1.stepsLeft ≤ w.stepsLeft - 1 := by
  match w, refusal with
  | .creating _, some _ | .adding _ _, some _ | .finishing _, some _ | .flushing, some _
  | .renaming, some _ | .done, _ | .failed _, _ => exact Nat.zero_le _
  | .creating _, none | .adding _ [], none | .flushing, none | .renaming, none =>
    exact Nat.le_refl _
  | .adding builder ((key, data) :: rest), none =>
    unfold step
    dsimp only
    split
    · exact Nat.le_refl _
    · exact Nat.zero_le _
  | .finishing builder, none =>
    unfold step
    dsimp only
    split
    · exact Nat.le_refl _
    · exact Nat.zero_le _

/-- A writer that has taken all its steps has come to its end. -/
theorem isOver_run (refusals : Nat → Option OsError) (w : Writing) (folder : Folder) :
    (run refusals w folder w.stepsLeft).1.isOver = true := by
  have hleft : ∀ n, (run refusals w folder n).1.stepsLeft ≤ w.stepsLeft - n := by
    intro n
    induction n with
    | zero => exact Nat.le_refl _
    | succ n ih =>
      have hstep := stepsLeft_step (run refusals w folder n).1 (refusals n)
        (run refusals w folder n).2
      show ((run refusals w folder n).1.step (refusals n) _).1.stepsLeft ≤ _
      omega
  have hnone : (run refusals w folder w.stepsLeft).1.stepsLeft = 0 := by
    have := hleft w.stepsLeft
    omega
  match (run refusals w folder w.stepsLeft).1, hnone with
  | .done, _ | .failed _, _ => rfl

theorem Follows.run (h : w.Follows records before folder) (refusals : Nat → Option OsError)
    (n : Nat) :
    (Writing.run refusals w folder n).1.Follows records before
      (Writing.run refusals w folder n).2 := by
  induction n with
  | zero => exact h
  | succ n ih => exact ih.step (refusals n)

end Writing

variable {refusals : Nat → Option OsError} {folder folder' : Folder}
  {records : List (Bytes × Bytes)}

/-- A call comes to its end. -/
theorem exists_run_call (refusals : Nat → Option OsError) (folder : Folder)
    (records : List (Bytes × Bytes)) : ∃ w folder',
      Writing.run refusals (.creating records) folder (Writing.stepCount records) = (w, folder') ∧
      w.isOver = true ∧ w.Follows records folder.current folder' := by
  have hbegun : (Writing.creating records).Follows records folder.current folder := ⟨rfl, rfl⟩
  exact ⟨_, _, rfl, Writing.isOver_run refusals (.creating records) folder,
    hbegun.run refusals (Writing.stepCount records)⟩

/-- A call that succeeds has put the file of its records in place. -/
theorem replace_ok (h : replace refusals folder records = (.ok (), folder')) :
    ∃ image, folder'.current = some image ∧ build records = .ok image := by
  obtain ⟨w, last, hrun, hover, hfollows⟩ := exists_run_call refusals folder records
  unfold replace at h
  rw [hrun] at h
  match w, hover, hfollows, h with
  | .done, _, hfollows, h =>
    obtain rfl := (Prod.mk.inj h).2
    exact hfollows
  | .failed _, _, _, h => exact nomatch (Prod.mk.inj h).1

/-- A call that fails leaves the database as it was. -/
theorem replace_error {cause : MakeError}
    (h : replace refusals folder records = (.error cause, folder')) :
    folder'.current = folder.current := by
  obtain ⟨w, last, hrun, hover, hfollows⟩ := exists_run_call refusals folder records
  unfold replace at h
  rw [hrun] at h
  match w, hover, hfollows, h with
  | .done, _, _, h => exact nomatch (Prod.mk.inj h).1
  | .failed _, _, hfollows, h =>
    obtain rfl := (Prod.mk.inj h).2
    exact hfollows

/-! ## One call after another -/

/-- A moment in the life of a folder in which one writer replaces the database. -/
structure Moment where
  folder : Folder
  writer : Writing
  /-- The records of the writer's call. -/
  records : List (Bytes × Bytes)
  /-- What stood in the place of the database when that call began. -/
  before : Option Bytes
  /-- What was put there last. -/
  version : Version

namespace Moment

/-- A call begins. -/
def begin (folder : Folder) (version : Version) (records : List (Bytes × Bytes)) : Moment :=
  ⟨folder, .creating records, records, folder.current, version⟩

/-- The writer takes a step, which the system may refuse. -/
def next (m : Moment) (refusal : Option OsError) : Moment :=
  let (writer, folder) := m.writer.step refusal m.folder
  { m with
    writer := writer
    folder := folder
    version := if m.writer.renames refusal then .written m.records else m.version }

/-- Something else comes to stand in the temporary place. -/
def spill (m : Moment) (temporary : Option Bytes) : Moment :=
  { m with folder := { m.folder with temporary := temporary } }

/-- What may happen next: the writer takes a step; a part of a file that is not whole, or anything
else, comes to stand in the temporary place; or the writer has come to an end and begins another
call. -/
inductive Step (m : Moment) : Moment → Prop
  | next (refusal : Option OsError) : Step m (m.next refusal)
  | spill (temporary : Option Bytes) (hloose : m.writer.isLoose = true) : Step m (m.spill temporary)
  | begin (records : List (Bytes × Bytes)) (hover : m.writer.isOver = true) :
      Step m (.begin m.folder m.version records)

/-- The writer follows its call, and the version stands in the place of the database. -/
structure Sound (m : Moment) : Prop where
  follows : m.writer.Follows m.records m.before m.folder
  stands : m.version.Stands m.folder.current

variable {m m' : Moment}

theorem sound_next (h : m.Sound) (refusal : Option OsError) : (m.next refusal).Sound := by
  refine ⟨h.follows.step refusal, ?_⟩
  show (if m.writer.renames refusal then .written m.records else m.version : Version).Stands
    (m.writer.step refusal m.folder).2.current
  by_cases hrenames : m.writer.renames refusal = true
  · -- the file that is renamed is the whole file of the records
    rw [if_pos hrenames]
    obtain ⟨folder, writer, records, before, version⟩ := m
    match writer, refusal, hrenames, h.follows with
    | .renaming, none, _, ⟨⟨image, htemporary, hbuild⟩, _⟩ => exact ⟨image, htemporary, hbuild⟩
  · rw [if_neg hrenames, Writing.current_step (Bool.not_eq_true _ ▸ hrenames)]
    exact h.stands

theorem Step.sound (step : Step m m') (h : m.Sound) : m'.Sound := by
  cases step with
  | next refusal => exact sound_next h refusal
  | spill temporary hloose => exact ⟨h.follows.spill hloose temporary, h.stands⟩
  | begin records hover => exact ⟨⟨rfl, rfl⟩, h.stands⟩

end Moment

/-- The moments from the beginning of the first call on, the last one first. What stands in the
folder at the beginning is not known to be anything. -/
inductive Moments (folder : Folder) : List Moment → Prop
  | begin (records : List (Bytes × Bytes)) :
      Moments folder [.begin folder (.first folder.current) records]
  | step {m m' : Moment} {past : List Moment} (moments : Moments folder (m :: past))
      (h : m.Step m') : Moments folder (m' :: m :: past)

theorem Moments.sound {moments : List Moment} (h : Moments folder moments) :
    ∀ m ∈ moments, m.Sound := by
  induction h with
  | begin records =>
    intro m hm
    obtain rfl := List.mem_singleton.1 hm
    exact ⟨⟨rfl, rfl⟩, rfl⟩
  | step moments h ih =>
    intro m hm
    rcases List.mem_cons.1 hm with rfl | hm
    · exact h.sound (ih _ List.mem_cons_self)
    · exact ih m hm

/-! ## Readers -/

/-- A folder can be read from if there is something in the place of the database. -/
theorem Folder.toOption_open? (look : Folder) :
    look.open?.toOption = look.current.map fun bytes => ofContent (.file (.ofList bytes)) := by
  unfold Folder.open?
  cases look.current <;> rfl

/-- Opening again puts a fresh database in place of another if one of the looks it takes finds one,
and leaves the other alone if none does. -/
theorem Folder.reload_cases (db : Database) (looks : List Folder) :
    (∃ look ∈ looks, ∃ fresh, look.open? = .ok fresh ∧ reload db looks = (true, fresh)) ∨
      (∀ look ∈ looks.take maxTries, look.current = none) ∧ reload db looks = (false, db) := by
  unfold reload
  cases hfound : (looks.take maxTries).findSome? fun folder => folder.open?.toOption with
  | some fresh =>
    obtain ⟨look, hmem, hsome⟩ := List.exists_of_findSome?_eq_some hfound
    refine .inl ⟨look, List.mem_of_mem_take hmem, fresh, ?_, rfl⟩
    cases hopen : look.open? with
    | ok found =>
      rw [hopen] at hsome
      rw [Option.some.inj hsome]
    | error cause =>
      rw [hopen] at hsome
      exact nomatch hsome
  | none =>
    refine .inr ⟨fun look hmem => ?_, rfl⟩
    have hnone := List.findSome?_eq_none_iff.1 hfound look hmem
    rw [toOption_open?] at hnone
    exact Option.map_eq_none_iff.1 hnone

/-- While one writer makes any calls, one after another, of which the system may refuse any step, and
whatever stands in the temporary place at first or as long as no file is whole there:

* whoever opens the database at any moment gets what has, for every key, exactly the data of the last
  call whose file was put in place, or of the file that stood there at first, and goes on having them
  whatever happens later; only where there was no file at first, and no call has put one in place, is
  there nothing to open;
* a call has changed nothing in the place of the database as long as it is not done, nor if it fails;
* opening again, with looks at any moments of which the system may refuse some, gives what was in
  place at one of these moments, or else leaves the database that was open before. -/
theorem answers_of_moments {moments : List Moment} (h : Moments folder moments) :
    (∀ m ∈ moments, (∀ db, m.folder.open? = .ok db → m.version.Answers db) ∧
      (∀ cause, m.folder.open? = .error cause → m.version = .first none) ∧
      (m.writer ≠ .done → m.folder.current = m.before)) ∧
    ∀ db looks, (∀ look ∈ looks, look.current = none ∨ ∃ m ∈ moments, look = m.folder) →
      (∃ m ∈ moments, m.folder ∈ looks ∧
        ∃ fresh, Folder.reload db looks = (true, fresh) ∧ m.version.Answers fresh) ∨
      (∀ look ∈ looks.take Folder.maxTries, look.current = none) ∧
        Folder.reload db looks = (false, db) := by
  have hsound := h.sound
  refine ⟨fun m hm => ⟨fun db => (hsound m hm).stands.answers,
    fun cause => (hsound m hm).stands.eq_first, (hsound m hm).follows.current_eq⟩, ?_⟩
  intro db looks hlooks
  rcases Folder.reload_cases db looks with ⟨look, hmem, fresh, hopen, hreload⟩ | hfailed
  · refine .inl ?_
    rcases hlooks look hmem with hnone | ⟨m, hm, rfl⟩
    · -- a look that found a database was not refused
      unfold Folder.open? at hopen
      rw [hnone] at hopen
      exact nomatch hopen
    · exact ⟨m, hm, hmem, fresh, hreload, (hsound m hm).stands.answers hopen⟩
  · exact .inr hfailed

/-- A call over a temporary file that was left behind fails when part of its file is written, and the
next one comes to its end. -/
theorem answers_of_moments_twoCalls :
    ∃ m past, Moments ⟨some [], some [7]⟩ (m :: past) ∧ m.version = .written [([97], [2])] ∧
      (∃ m' ∈ past, m'.writer = .failed (.system (.refused 28))) ∧
      (∀ m' ∈ m :: past, (∀ db, m'.folder.open? = .ok db → m'.version.Answers db) ∧
        (∀ cause, m'.folder.open? = .error cause → m'.version = .first none) ∧
        (m'.writer ≠ .done → m'.folder.current = m'.before)) ∧
      ∀ db looks, (∀ look ∈ looks, look.current = none ∨ ∃ m' ∈ m :: past, look = m'.folder) →
        (∃ m' ∈ m :: past, m'.folder ∈ looks ∧
          ∃ fresh, Folder.reload db looks = (true, fresh) ∧ m'.version.Answers fresh) ∨
        (∀ look ∈ looks.take Folder.maxTries, look.current = none) ∧
          Folder.reload db looks = (false, db) := by
  let begun : Moment := .begin ⟨some [], some [7]⟩ (.first (some [])) [([97], [1])]
  let failed : Moment := ((begun.next none).spill (some [0, 0])).next (some (.refused 28))
  let again : Moment := .begin failed.folder failed.version [([97], [2])]
  have hfailed : Moments ⟨some [], some [7]⟩ [failed, (begun.next none).spill (some [0, 0]),
      begun.next none, begun] :=
    .step (.step (.step (.begin [([97], [1])]) (.next none)) (.spill (some [0, 0]) rfl))
      (.next (some (.refused 28)))
  have hdone : Moments ⟨some [], some [7]⟩ _ :=
    .step (.step (.step (.step (.step (.step (.step hfailed (.begin [([97], [2])] rfl))
      (.next none)) (.next none)) (.next none)) (.next none)) (.next none)) (.next none)
  refine ⟨_, _, hdone, by decide +kernel, ⟨failed, ?_, rfl⟩, answers_of_moments hdone⟩
  simp

end Resolver.Database
