import EventFilter.Text.Blank
import EventFilter.Text.Styled

/-! Breaking a line to a width. Words stay whole as long as they fit on a line of their own; a word
that does not is either folded over several lines or cut off with an ellipsis. -/
namespace EventFilter.Text

inductive Overflow where
  | fold
  | ellipsis
  deriving DecidableEq, Repr

/-- A word and the blanks after it. -/
def wordEnd (cs : List Char) : List Char × List Char :=
  let (word, rest) := cs.span (!blank.contains ·)
  let (gap, rest) := rest.span blank.contains
  (word ++ gap, rest)

/-- Every word takes the blanks after it, the first one also those in front; a line of blanks has no
words. Each word leaves less, so the length is fuel enough. -/
def wordsWithin : Nat → List Char → List (List Char)
  | 0, _ => []
  | fuel + 1, cs =>
    let (gap, rest) := cs.span blank.contains
    if rest.isEmpty then []
    else
      let (word, rest) := wordEnd rest
      (gap ++ word) :: wordsWithin fuel rest

def words (cs : List Char) : List (List Char) := wordsWithin cs.length cs

def trimEnd (cs : List Char) : List Char := (cs.reverse.dropWhile blank.contains).reverse

/-- How far the words have been set: where the next one starts in the line, how many columns of the
last line are taken, and where the line is broken. -/
structure Setting where
  start : Nat := 0
  columns : Nat := 0
  breaks : List Nat := []

namespace Setting

/-- The beginning of the line is no place for a break. -/
def breakAt (state : Setting) (position : Nat) : Setting :=
  if position = 0 then state else { state with breaks := state.breaks ++ [position] }

/-- The pieces of a word that is too long for any line; the last of them begins a line. -/
def spread (state : Setting) (position : Nat) : List (List Char) → Setting
  | [] => state
  | [piece] => { state.breakAt position with columns := width piece }
  | piece :: pieces => (state.breakAt position).spread (position + piece.length) pieces

def place (limit : Nat) (overflow : Overflow) (state : Setting) (word : List Char) : Setting :=
  let needed := width (trimEnd word)
  if state.columns + needed ≤ limit then { state with columns := state.columns + width word }
  else if limit < needed then
    match overflow with
    | .fold => state.spread state.start (fold limit word)
    | .ellipsis => { state.breakAt state.start with columns := width word }
  else if state.columns = 0 || state.start = 0 then state
  else { state.breakAt state.start with columns := width word }

def add (limit : Nat) (overflow : Overflow) (state : Setting) (word : List Char) : Setting :=
  { state.place limit overflow word with start := state.start + word.length }

end Setting

def breaks (limit : Nat) (overflow : Overflow) (line : List Char) : List Nat :=
  ((words line).foldl (Setting.add limit overflow) {}).breaks

/-- The pieces between ascending positions. -/
def divide (start : Nat) (line : List Char) : List Nat → List (List Char)
  | [] => [line]
  | position :: positions =>
    line.take (position - start) :: divide position (line.drop (position - start)) positions

/-- Blanks at the end go as far as there are more characters than columns. -/
def Styled.trimTo (limit : Nat) (line : Styled) : Styled :=
  let cs := line.text
  let trailing := cs.length - (trimEnd cs).length
  let excess := min trailing (cs.length - limit)
  if excess = 0 then line else line.cropTo (cs.take (cs.length - excess))

def ellipsis : Char := '…'

def truncate (limit : Nat) (overflow : Overflow) (line : List Char) : List Char :=
  match overflow with
  | .fold => resize limit line
  | .ellipsis => resize (limit - 1) line ++ [ellipsis]

/-- Spans only give way if there are fewer characters than before. -/
def Styled.truncate (limit : Nat) (overflow : Overflow) (line : Styled) : Styled :=
  if width line.text ≤ limit then line
  else
    let text := Text.truncate limit overflow line.text
    if text.length < line.text.length then line.cropTo text else { line with text }

def wrapLine (limit : Nat) (overflow : Overflow) (line : Styled) : List Styled :=
  let line := line.expandTabs
  (line.divideInto 0 (divide 0 line.text (breaks limit overflow line.text))).map fun line =>
    (line.trimTo limit).truncate limit overflow

/-- The lines of a text, none wider than the limit. -/
def wrap (limit : Nat) (overflow : Overflow) (styled : Styled) : List Styled :=
  styled.lines.flatMap (wrapLine limit overflow)

theorem flatten_divide (start : Nat) (line : List Char) (positions : List Nat) :
    (divide start line positions).flatten = line := by
  induction positions generalizing start line with
  | nil => simp [divide]
  | cons position positions ih => simp [divide, ih]

end EventFilter.Text
