/-! Names of log files. Two paths lead to one file if they agree after empty and single-dot steps are
left out and a double dot takes back the step before it. -/
namespace EventFilter.Log

/-- The steps so far, the last one first; above the root there is nothing. -/
def stepTo (absolute : Bool) (sofar : List String) (step : String) : List String :=
  if step = "" || step = "." then sofar
  else if step = ".." then
    match sofar with
    | [] => if absolute then [] else [step]
    | last :: before => if last = ".." then step :: sofar else before
  else step :: sofar

def isAbsolute (path : String) : Bool := path.toList.head? = some '/'

def plainPath (path : String) : String :=
  let absolute := isAbsolute path
  let steps := (path.splitOn "/").foldl (stepTo absolute) []
  (if absolute then "/" else "") ++ "/".intercalate steps.reverse

end EventFilter.Log
