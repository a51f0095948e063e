import EventFilter.Text.Style
import EventFilter.Text.Terminal

/-! Styled text. A span says which characters are shown in a style, and moves with them when the
text is divided into lines, cut or filled up. Styles do not show here, but where a span begins or
ends the text is set in two stretches, each measured by itself, so what joins characters or makes a
symbol wide does not reach across. -/
namespace EventFilter.Text

structure Span where
  start : Nat
  stop : Nat
  /-- The style by its name; what only reacts to the mouse has none. -/
  style : Option String
  deriving DecidableEq, Repr

namespace Span

/-- What lies between two positions, counted from the first of them; nothing is left of a span
without characters. -/
def within? (start stop : Nat) (span : Span) : Option Span :=
  let first := max span.start start
  let last := min span.stop stop
  if first < last then some { span with start := first - start, stop := last - start } else none

def crop? (length : Nat) (span : Span) : Option Span :=
  if span.start < length then some { span with stop := min span.stop length } else none

def shift (offset : Nat) (span : Span) : Span :=
  { span with start := span.start + offset, stop := span.stop + offset }

/-- A span that reaches the end goes on over what is added there. -/
def extend (stop added : Nat) (span : Span) : Span :=
  if stop ≤ span.stop then { span with stop := span.stop + added } else span

/-- A style is looked at when it is to be shown. A name that means nothing is passed over, but a
color without a number is not. -/
def fault? (span : Span) : Option IntegerError :=
  match span.style.map fun style => TextStyle.parse style.toList with
  | some (.error error) => some error
  | _ => none

end Span

structure Styled where
  text : List Char
  spans : List Span := []
  deriving DecidableEq, Repr

namespace Styled

def plain (text : List Char) : Styled := ⟨text, []⟩

def fault? (styled : Styled) : Option IntegerError := styled.spans.findSome? Span.fault?

/-- The spans over pieces of a text, between each two of which lie as many characters as `gap`
says. -/
def overPieces (spans : List Span) (gap offset : Nat) : List (List Char) → List Styled
  | [] => []
  | piece :: pieces =>
    let stop := offset + piece.length
    ⟨piece, spans.filterMap (Span.within? offset stop)⟩
      :: overPieces spans gap (stop + gap) pieces

/-- A text in a single piece keeps the spans without characters too. -/
def divideInto (styled : Styled) (gap : Nat) : List (List Char) → List Styled
  | [_] => [styled]
  | pieces => overPieces styled.spans gap 0 pieces

def lines (styled : Styled) : List Styled := styled.divideInto 1 (Text.lines styled.text)

def concat : List Styled → Styled
  | [] => ⟨[], []⟩
  | first :: rest =>
    let rest := concat rest
    ⟨first.text ++ rest.text, first.spans ++ rest.spans.map (Span.shift first.text.length)⟩

def extend (styled : Styled) (added : Nat) : Styled :=
  ⟨styled.text ++ blanks added, styled.spans.map (Span.extend styled.text.length added)⟩

/-- A tab counts as one blank, which is measured with the text in front of it. -/
def tabsAsBlanks : List (List Char) → List (List Char)
  | [] => []
  | [part] => [part]
  | part :: parts => (part ++ [' ']) :: tabsAsBlanks parts

/-- Every part but the last is filled up to the next stop. -/
def fillParts (column : Nat) : List Styled → List Styled
  | [] => []
  | [part] => [part]
  | part :: parts =>
    let reached := column + width part.text
    part.extend (toTabStop reached) :: fillParts (reached + toTabStop reached) parts

def expandTabs (line : Styled) : Styled :=
  let parts := tabsAsBlanks (splitAt (· = '\t') line.text)
  concat (fillParts 0 (line.divideInto 0 parts))

/-- The first characters, and a text in their place that need not be any of them. -/
def cropTo (styled : Styled) (text : List Char) : Styled :=
  ⟨text, styled.spans.filterMap (Span.crop? text.length)⟩

/-- Blanks at the end are in no style. -/
def padTo (columns : Nat) (line : Styled) : Styled :=
  { line with text := line.text ++ blanks (columns - width line.text) }

def breaksAt (styled : Styled) (position : Nat) : Bool :=
  styled.spans.any fun span => span.start = position || span.stop = position

def stretchesFrom (breaksAt : Nat → Bool) (position : Nat) : List Char → List (List Char)
  | [] => []
  | c :: cs =>
    match stretchesFrom breaksAt (position + 1) cs with
    | [] => [[c]]
    | stretch :: stretches =>
      if breaksAt (position + 1) then [c] :: stretch :: stretches
      else (c :: stretch) :: stretches

def stretches (styled : Styled) : List (List Char) := stretchesFrom styled.breaksAt 0 styled.text

theorem flatten_stretchesFrom (breaksAt : Nat → Bool) (position : Nat) (cs : List Char) :
    (stretchesFrom breaksAt position cs).flatten = cs := by
  induction cs generalizing position with
  | nil => rfl
  | cons c cs ih =>
    have rest := ih (position + 1)
    simp only [stretchesFrom]
    split
    · next h => simp_all
    · next h =>
      rw [h] at rest
      split <;> simp_all

/-- Nothing is lost between the stretches. -/
theorem flatten_stretches (styled : Styled) : styled.stretches.flatten = styled.text :=
  flatten_stretchesFrom _ _ _

end Styled

/-- A text with an end of line; each line counts its columns from zero. -/
def printLine (text : String) : String :=
  joinLines ((lines (withoutControls text.toList)).map fun line =>
    (Styled.plain line).expandTabs.text)

/-- The columns of stretches that are each measured by themselves. -/
def stretchesWidth (stretches : List (List Char)) : Nat :=
  stretches.foldl (fun columns stretch => columns + width stretch) 0

def cutStretches (columns : Nat) : List (List Char) → List (List Char)
  | [] => []
  | stretch :: stretches =>
    if width stretch < columns then stretch :: cutStretches (columns - width stretch) stretches
    else [resize columns stretch]

/-- Stretches cut or filled up to a number of columns. -/
def fitStretches (columns : Nat) (stretches : List (List Char)) : List (List Char) :=
  let taken := stretchesWidth stretches
  if columns < taken then cutStretches columns stretches
  else stretches ++ [blanks (columns - taken)]

end EventFilter.Text
