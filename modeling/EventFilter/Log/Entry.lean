/-! Log records and their levels; a higher level is more urgent. -/
namespace EventFilter.Log

def debug : Nat := 10
def info : Nat := 20
def warning : Nat := 30
def error : Nat := 40
def critical : Nat := 50

structure Entry where
  logger : String
  level : Nat
  message : String
  deriving DecidableEq, Repr

/-- The name of the program's channel; the loggers below it add a dot and a name of their own. -/
def channelName : String := "evtquery"

def Entry.isOwn (entry : Entry) : Bool :=
  entry.logger = channelName
    || (channelName.toList ++ ['.']).isPrefixOf entry.logger.toList

def levelName (level : Nat) : String :=
  if level = debug then "DEBUG"
  else if level = info then "INFO"
  else if level = warning then "WARNING"
  else if level = error then "ERROR"
  else if level = critical then "CRITICAL"
  else "Level " ++ toString level

end EventFilter.Log
