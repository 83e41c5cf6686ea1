import Resolver.Session.Basic

/-!
# Driving a session

Waits for what a session wants and lets it go on, over and over, until it has its reply or gives
up. A single wait never takes longer than two minutes, whatever the session's deadline.
-/

namespace Resolver.Session

/-- The longest single wait. -/
def longestWait : Duration := Duration.seconds 120

/-- How driving a session ends: its reply, or why there is none. -/
inductive Outcome
  | reply (packet : Bytes)
  | failure (cause : Failure)
  /-- The waits allowed were used up. -/
  | unfinished
  deriving DecidableEq, Repr

/-- Waits for what a session wants, no longer than until `cap`. A session that wants nothing is not
waited for and is not ready. -/
def await (s : Session) (cap : Instant) : Dialogue (Except OsError Bool) :=
  match s.wanted cap with
  | (some (socket, interest), deadline) => Dialogue.call (.await socket interest deadline)
  | (none, _) => return .ok false

/-- Drives a started session to its end, with at most `waits` waits that take no longer than
`longest` each. -/
def resolveWithin (longest : Duration) (s : Session) (g : Generator) :
    Nat → Dialogue (Outcome × Session × Generator)
  | 0 => return (.unfinished, s, g)
  | waits + 1 => do
    let before ← Dialogue.call .now
    match before.add? longest with
    | none => return (.failure .clockOverflow, s, g)
    | some cap =>
      match ← s.await cap with
      | .error cause => return (.failure (.socket cause), s, g)
      | .ok ready =>
        let now ← Dialogue.call .now
        let (result, s, g) ← s.get ready now g
        match result with
        | .error cause => return (.failure cause, s, g)
        | .ok .pending => resolveWithin longest s g waits
        | .ok .done =>
          match s.reply? with
          | some packet => return (.reply packet, s, g)
          | none => return (.failure .noQuery, s, g)

/-- Drives a started session to its end, with at most `waits` waits. -/
def resolve (s : Session) (g : Generator) (waits : Nat) :
    Dialogue (Outcome × Session × Generator) :=
  s.resolveWithin longestWait g waits

end Resolver.Session
