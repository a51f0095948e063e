import EventFilter.Literal.Value
import EventFilter.Text.Emoji
import EventFilter.Text.Styled

/-! Markup in names. A tag in square brackets opens a style, and one that begins with a slash closes
it again; backslashes in front of a tag make it plain text. A tag that closes nothing is an
error. -/
namespace EventFilter.Text

structure Tag where
  name : List Char
  parameters : Option (List Char)
  deriving DecidableEq, Repr

def Tag.ofBody (body : List Char) : Tag :=
  match body.span (· != '=') with
  | (name, _ :: parameters) => ⟨name, some parameters⟩
  | (name, []) => ⟨name, none⟩

def Tag.display (tag : Tag) : String :=
  let parameters := match tag.parameters with
    | some parameters => '=' :: parameters
    | none => []
  String.ofList ('[' :: tag.name ++ parameters ++ [']'])

inductive MarkupError where
  | unmatched (tag : Tag) (position : Nat)
  | nothingToClose (position : Nat)
  /-- Parameters of a handler of which a part, or the whole, is no literal. -/
  | parameters (written part : List Char) (fault : Literal.Fault)
  /-- A color whose components are not even numbers. -/
  | color (error : IntegerError)
  deriving DecidableEq, Repr

def MarkupError.message : MarkupError → String
  | unmatched tag position => "closing tag '" ++ tag.display ++ "' at position "
    ++ toString position ++ " doesn't match any open tag"
  | nothingToClose position =>
    "closing tag '[/]' at position " ++ toString position ++ " has nothing to close"
  | parameters written part (.expression (.mistake message)) =>
    "error parsing " ++ quoted (String.ofList part) ++ " in " ++ quoted (String.ofList written)
      ++ "; " ++ message
  | parameters written _ (.expression (.limit limit)) =>
    "error parsing " ++ quoted (String.ofList written) ++ "; " ++ limit.message
  | parameters written _ (.value fault) =>
    "error parsing " ++ quoted (String.ofList written) ++ "; " ++ fault.message
  | color error => error.message

/-- A stretch of plain text, or a tag and where its bracket opens. -/
inductive Piece where
  | plain (text : List Char)
  | tag (tag : Tag) (position : Nat)
  deriving DecidableEq, Repr

def beginsTag (c : Char) : Bool := ('a' ≤ c && c ≤ 'z') || c = '#' || c = '/' || c = '@'

/-- What stands between an opening bracket and the closing one, if it can be a tag. -/
def tagBody? : List Char → Option (List Char × List Char)
  | '[' :: c :: cs =>
    match cs.span fun c => c != '[' && c != ']' with
    | (body, ']' :: rest) => if beginsTag c then some (c :: body, rest) else none
    | _ => none
  | _ => none

/-- Two backslashes stand for one; a single one left over makes the tag plain text. -/
def piecesOf (position backslashes : Nat) (body : List Char) : List Piece :=
  let literal := if backslashes < 2 then [] else
    [.plain (List.replicate (backslashes / 2) '\\')]
  let tag := if backslashes % 2 = 0 then .tag (Tag.ofBody body) (position + backslashes)
    else .plain ('[' :: body ++ [']'])
  literal ++ [tag]

def plainPiece (newestFirst : List Char) : List Piece :=
  if newestFirst.isEmpty then [] else [.plain newestFirst.reverse]

/-- The text before the next tag is kept with its last character first. -/
def piecesWithin : Nat → Nat → List Char → List Char → List Piece
  | 0, _, before, cs => plainPiece (cs.reverse ++ before)
  | _, _, before, [] => plainPiece before
  | fuel + 1, position, before, c :: cs =>
    let (backslashes, rest) := (c :: cs).span (· = '\\')
    match tagBody? rest with
    | some (body, rest) =>
      plainPiece before ++ piecesOf position backslashes.length body
        ++ piecesWithin fuel (position + backslashes.length + body.length + 2) [] rest
    | none =>
      if backslashes.isEmpty then piecesWithin fuel (position + 1) (c :: before) cs
      else piecesWithin fuel (position + backslashes.length) (backslashes ++ before) rest

/-- Each step takes at least one character, so the length is fuel enough. -/
def pieces (cs : List Char) : List Piece := piecesWithin cs.length 0 [] cs

/-- A backslash before a bracket that opens no tag is dropped. -/
def unescape : List Char → List Char
  | '\\' :: '[' :: cs => '[' :: unescape cs
  | c :: cs => c :: unescape cs
  | [] => []

/-- A tag that waits for its end: from where on, in which style, and with which parameters. -/
structure OpenTag where
  start : Nat
  name : String
  parameters : Option (List Char)

/-- A handler for the mouse, as opposed to a style. -/
def OpenTag.isHandler (tag : OpenTag) : Bool := tag.name.toList.head? = some '@'

/-- Parameters are further words of the style. -/
def OpenTag.style (tag : OpenTag) : String :=
  match tag.parameters with
  | some parameters => tag.name ++ " " ++ String.ofList parameters
  | none => tag.name

/-- What must be a literal: the arguments of a handler that is named, or all of the parameters. A name
alone takes no arguments. -/
def handlerLiteral? (parameters : List Char) : Option (List Char) :=
  match parameters.dropWhile fun c => isWordChar c || c = '.' with
  | [] => none
  | '(' :: rest =>
    if rest.getLast? = some ')' && !rest.contains '\n' then some ('(' :: rest)
    else some parameters
  | _ => some parameters

/-- The tags that are still open and the spans so far, the last of each first, and the text so far. -/
structure Rendering where
  opened : List OpenTag := []
  spans : List Span := []
  text : List Char := []

namespace Rendering

def normalize (name : List Char) : Except MarkupError String :=
  match styleName name with
  | .ok name => .ok name
  | .error error => .error (.color error)

/-- The span of a tag that ends here. -/
def add (state : Rendering) (tag : OpenTag) (style : Option String) : Rendering :=
  { state with spans := ⟨tag.start, state.text.length, style⟩ :: state.spans }

/-- What a tag does when it is closed: only then are the parameters of a handler looked at. -/
def finish (state : Rendering) (tag : OpenTag) : Except MarkupError Rendering :=
  if !tag.isHandler then .ok (state.add tag (some tag.style))
  else
    let written := tag.parameters.getD []
    match (handlerLiteral? (trimChars blank written)).map fun part => (part, Literal.check part) with
    | some (part, .error fault) => .error (.parameters written part fault)
    | _ => .ok (state.add tag none)

/-- A closing tag without a name closes what was opened last. -/
def close (state : Rendering) (tag : Tag) (name : List Char) (position : Nat) :
    Except MarkupError Rendering :=
  if name.isEmpty then
    match state.opened with
    | [] => .error (.nothingToClose position)
    | tag :: opened => finish { state with opened } tag
  else do
    let name ← normalize name
    match state.opened.find? (·.name = name) with
    | some found => finish { state with opened := state.opened.eraseP (·.name = name) } found
    | none => .error (.unmatched tag position)

def feed (state : Rendering) : Piece → Except MarkupError Rendering
  | .plain text =>
    let shown := withoutControls (replaceEmoji (unescape text))
    .ok { state with text := state.text ++ shown }
  | .tag tag position =>
    match tag.name with
    | '/' :: name => state.close tag (trimChars blank name) position
    | name => do
      let opened := ⟨state.text.length, ← normalize name, tag.parameters⟩ :: state.opened
      return { state with opened }

/-- What is still open at the end is closed there, but no handler comes of it. -/
def finishAll (state : Rendering) : Rendering :=
  state.opened.foldl (fun state tag => state.add tag (some tag.style)) state

/-- Spans in the order in which they begin, those that were closed last first. -/
def styled (state : Rendering) : Styled :=
  ⟨state.text, state.spans.mergeSort fun a b => a.start ≤ b.start⟩

end Rendering

/-- The text that markup shows. -/
def renderMarkup (markup : String) : Except MarkupError Styled := do
  let rendering ← (pieces markup.toList).foldlM Rendering.feed {}
  return rendering.finishAll.styled

end EventFilter.Text
