import EventFilter.Text.Width

/-! Characters that are drawn as one. A mark that takes no column stands with what is before it, a
joiner ties the next character to the last, and the emoji selector makes a narrow symbol wide. A
text is measured character by character, and cut only between clusters. -/
namespace EventFilter.Text

def joiner : Char := '\u200d'

def emojiSelector : Char := '\ufe0f'

/-- One more column if the selector follows a narrow symbol that can be an emoji. -/
def selectorWidth (last : Option Char) : Nat :=
  if last.any widened.contains then 1 else 0

/-- The columns of a text after a character that may still be widened; what a joiner ties on takes
no column of its own. -/
def widthAfter : Option Char → List Char → Nat
  | _, [] => 0
  | last, [c] =>
    if c = joiner then 0
    else if c = emojiSelector then selectorWidth last
    else charWidth c
  | last, c :: next :: cs =>
    if c = joiner then widthAfter last cs
    else if c = emojiSelector then selectorWidth last + widthAfter none (next :: cs)
    else charWidth c + widthAfter (if charWidth c = 0 then last else some c) (next :: cs)

def width (cs : List Char) : Nat := widthAfter none cs

structure Cluster where
  text : List Char
  columns : Nat
  deriving DecidableEq, Repr

/-- What has been read of a text: whole clusters, the newest first, and the last character that may
still be widened. -/
structure Clustering where
  newestFirst : List Cluster
  last : Option Char

namespace Clustering

def start : Clustering := ⟨[], none⟩

/-- At the beginning of a text there is nothing to join to. -/
def join (state : Clustering) (cs : List Char) (columns : Nat) : Clustering :=
  match state.newestFirst with
  | [] => { state with newestFirst := [⟨cs, 0⟩] }
  | newest :: older =>
    { state with newestFirst := ⟨newest.text ++ cs, newest.columns + columns⟩ :: older }

def select (state : Clustering) : Clustering :=
  { state.join [emojiSelector] (selectorWidth state.last) with last := none }

def add (state : Clustering) (c : Char) : Clustering :=
  if charWidth c = 0 then state.join [c] 0
  else ⟨⟨[c], charWidth c⟩ :: state.newestFirst, some c⟩

def feed (state : Clustering) : List Char → Clustering
  | [] => state
  | [c] => if c = emojiSelector then state.select else state.add c
  | c :: next :: cs =>
    if c = emojiSelector then state.select.feed (next :: cs)
    else if c = joiner && !state.newestFirst.isEmpty then (state.join [c, next] 0).feed cs
    else (state.add c).feed (next :: cs)

end Clustering

def clusters (cs : List Char) : List Cluster := (Clustering.start.feed cs).newestFirst.reverse

def blanks (n : Nat) : List Char := List.replicate n ' '

/-- The clusters at the front that fit, and a blank for a wide one that is cut in half. -/
def cut (columns : Nat) : List Cluster → List Char
  | [] => []
  | cluster :: rest =>
    if cluster.columns ≤ columns then cluster.text ++ cut (columns - cluster.columns) rest
    else blanks columns

/-- A text cut or filled up to a number of columns. -/
def resize (columns : Nat) (cs : List Char) : List Char :=
  if columns = 0 then []
  else if width cs ≤ columns then cs ++ blanks (columns - width cs)
  else cut columns (clusters cs)

/-- Pieces that each fit, as full as they can be. -/
structure Folding where
  pieces : List (List Char) := []
  piece : List Char := []
  columns : Nat := 0

def Folding.add (limit : Nat) (state : Folding) (cluster : Cluster) : Folding :=
  if limit < state.columns + cluster.columns then
    ⟨state.pieces ++ [state.piece], cluster.text, cluster.columns⟩
  else { state with
    piece := state.piece ++ cluster.text, columns := state.columns + cluster.columns }

def Folding.all (state : Folding) : List (List Char) :=
  if state.columns = 0 then state.pieces else state.pieces ++ [state.piece]

def fold (limit : Nat) (cs : List Char) : List (List Char) :=
  ((clusters cs).foldl (Folding.add limit) {}).all

end EventFilter.Text
