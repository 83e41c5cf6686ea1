import Resolver.Database.Builder
import Resolver.Database.Reader

/-!
# Replacing a database

A new database is written beside the old one and then renamed over it, so that the path always
names a whole file. The writer goes through small steps, any of which the system may refuse;
readers may open the path between any two of them. A database that was opened before keeps the
contents it was opened with.
-/

namespace Resolver.Database

/-- A directory with a database in it, as far as replacing the database is concerned. -/
structure Folder where
  /-- What stands at the path of the database. -/
  current : Option Bytes
  /-- What stands at the path of the temporary file. -/
  temporary : Option Bytes
  deriving DecidableEq, Repr

namespace Folder

/-- Opens the database. -/
def open? (folder : Folder) : Except OsError Database :=
  match folder.current with
  | some bytes => .ok (ofContent (.file (Block.ofList bytes)))
  | none => .error .noEntry

/-- The times a reload tries to open the database before it gives up. -/
def maxTries : Nat := 3

/-- Opens the database again in place of `db`. The folder is looked at up to three times, as it is
at those moments; if the database cannot be opened at any of them, `db` stays. -/
def reload (db : Database) (moments : List Folder) : Bool × Database :=
  match (moments.take maxTries).findSome? fun folder => folder.open?.toOption with
  | some fresh => (true, fresh)
  | none => (false, db)

end Folder

/-- How far a writer has come. -/
inductive Writing
  /-- The temporary file is to be created. -/
  | creating (records : List (Bytes × Bytes))
  /-- Records are to be added. -/
  | adding (builder : Builder) (records : List (Bytes × Bytes))
  /-- The tables and the header are to be written. -/
  | finishing (builder : Builder)
  /-- The finished file is to be flushed to the disk. -/
  | flushing
  /-- The temporary file is to be renamed over the database. -/
  | renaming
  /-- The new database is in place. -/
  | done
  /-- The writer has given up. -/
  | failed (cause : MakeError)

namespace Writing

/-- The next step of a writer, which the system refuses with `refusal` if it is given. The file
grows in the temporary place only, and a writer that gives up leaves it there. -/
def step (refusal : Option OsError) (w : Writing) (folder : Folder) : Writing × Folder :=
  match w, refusal with
  | .done, _ => (.done, folder)
  | .failed cause, _ => (.failed cause, folder)
  | _, some cause => (.failed (.system cause), folder)
  | .creating records, none => (.adding .empty records, { folder with temporary := some [] })
  | .adding builder [], none => (.finishing builder, folder)
  | .adding builder ((key, data) :: records), none =>
    match builder.add key data with
    | .ok builder => (.adding builder records, folder)
    | .error cause => (.failed cause, folder)
  | .finishing builder, none =>
    match builder.finish with
    | .ok bytes => (.flushing, { folder with temporary := some bytes })
    | .error cause => (.failed cause, folder)
  | .flushing, none => (.renaming, folder)
  | .renaming, none => (.done, ⟨folder.temporary, none⟩)

/-- The steps a writer of `records` takes at most. -/
def stepCount (records : List (Bytes × Bytes)) : Nat :=
  records.length + 5

/-- A writer after `n` more steps, the system refusing as `refusals` says, one entry a step. -/
def run (refusals : Nat → Option OsError) (w : Writing) (folder : Folder) :
    Nat → Writing × Folder
  | 0 => (w, folder)
  | n + 1 =>
    let (w, folder) := run refusals w folder n
    w.step (refusals n) folder

end Writing

/-- Replaces the database by one with the given records, while the system refuses as `refusals`
says. -/
def replace (refusals : Nat → Option OsError) (folder : Folder) (records : List (Bytes × Bytes)) :
    Except MakeError Unit × Folder :=
  match Writing.run refusals (.creating records) folder (Writing.stepCount records) with
  | (.failed cause, folder) => (.error cause, folder)
  | (_, folder) => (.ok (), folder)

end Resolver.Database
