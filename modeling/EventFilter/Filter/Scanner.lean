import EventFilter.Filter.Fault

/-! Reading a filter one character at a time. Blanks are skipped wherever they stand, also inside
a number. A hyphen is a sign at the start of a token and joins two bounds after that, so what has
been read of a token decides what may follow. -/
namespace EventFilter

/-- What has been read of the token under way. -/
inductive Pending where
  | start
  | number (side : Side) (digits : String)
  | range (side : Side) (first last : String)
  deriving DecidableEq, Repr

def readBound (digits : String) : Except Fault Nat :=
  if Text.maxDigits < digits.length then .error (.oversizedBound digits.length)
  else .ok (Text.ofDigits (digits.toList.map Text.asciiDigitValue))

/-- Both bounds must be there, be readable, and differ in the right order. -/
def Span.check (side : Side) (span : Span) : Except Fault Unit :=
  if span.first.isEmpty || span.last.isEmpty then .error (.missingBound side span)
  else do
    let first ← readBound span.first
    let last ← readBound span.last
    if first < last then .ok () else .error (.notAscending side first last)

/-- The token that ends here, if one has begun. -/
def Pending.finish : Pending → Except Fault (Option Token)
  | .start => .ok none
  | .number side digits =>
    if digits.isEmpty then .error .missingId else .ok (some (.id side digits))
  | .range side first last =>
    (Span.check side ⟨first, last⟩).map fun _ => some (.range side ⟨first, last⟩)

theorem Pending.finish_start : Pending.start.finish = .ok none := rfl

/-- A comma ends a token; at the start of one it is as unexpected as any other character. -/
def Pending.step : Pending → Char → Except Fault (Pending × Option Token)
  | .start, c =>
    if c = '-' then .ok (.number .excluded "", none)
    else if Text.isAsciiDigit c then .ok (.number .included (String.singleton c), none)
    else .error .unexpected
  | .number side digits, c =>
    if c = ',' then (Pending.finish (.number side digits)).map fun token => (.start, token)
    else if c = '-' then .ok (.range side digits "", none)
    else if Text.isAsciiDigit c then .ok (.number side (digits.push c), none)
    else .error .unexpected
  | .range side first last, c =>
    if c = ',' then (Pending.finish (.range side first last)).map fun token => (.start, token)
    else if Text.isAsciiDigit c then .ok (.range side first (last.push c), none)
    else .error (.malformedSpan side)

structure Scan where
  pending : Pending
  tokens : Array Token

def Scan.empty : Scan := ⟨.start, #[]⟩

def Scan.add (scan : Scan) (pending : Pending) : Option Token → Scan
  | none => ⟨pending, scan.tokens⟩
  | some token => ⟨pending, scan.tokens.push token⟩

def Scan.feed (scan : Scan) (c : Char) : Except Fault Scan :=
  if c = ' ' then .ok scan
  else (scan.pending.step c).map fun (pending, token) => scan.add pending token

theorem Scan.feed_space (scan : Scan) : scan.feed ' ' = .ok scan := rfl

/-- The end of the text ends a token as a comma would, but needs none. -/
def Scan.close (scan : Scan) : Except Fault (List Token) :=
  scan.pending.finish.map fun token => (scan.add .start token).tokens.toList

def tokens (text : String) : Except Fault (List Token) := do
  (← text.toList.foldlM Scan.feed Scan.empty).close

end EventFilter
