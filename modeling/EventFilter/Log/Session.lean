import EventFilter.Log.Channel

/-! A channel over time: it is configured, used, and put back as it was. -/
namespace EventFilter.Log

structure Session where
  channel : Channel
  /-- The channel as it was before each configuration, in order. -/
  saved : List Channel
  written : Written

def Session.initial : Session := ⟨.initial, [], {}⟩

inductive Step where
  | configure (verbosity : Int) (path : Option String)
  | restore (slot : Nat)
  | log (entry : Entry)
  deriving DecidableEq, Repr

def Session.step (session : Session) : Step → Session
  | .configure verbosity path => ⟨.configured verbosity path, session.saved ++ [session.channel],
      session.written.opened path⟩
  | .restore slot => { session with channel := session.saved[slot]?.getD session.channel }
  | .log entry => { session with written := session.written.emit session.channel entry }

theorem Session.restore_configure (session : Session) (verbosity : Int) (path : Option String) :
    ((session.step (.configure verbosity path)).step (.restore session.saved.length)).channel
      = session.channel := by
  simp [Session.step]

end EventFilter.Log
