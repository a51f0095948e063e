import EventFilter.Severity

/-! The severity limit that a command line asks for. -/
namespace EventFilter.Cli

/-- Of several flags the most severe counts, and a flag counts before a number. -/
def threshold (level : Option Int) (warnings errors critical : Bool) : Int :=
  if critical then Severity.critical.number
  else if errors then Severity.error.number
  else if warnings then Severity.warning.number
  else level.getD (Severity.code none)

end EventFilter.Cli
