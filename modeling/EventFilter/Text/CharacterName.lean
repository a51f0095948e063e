import EventFilter.Text.Blank
import EventFilter.Text.CharSet
import EventFilter.Text.CharacterOutline
import EventFilter.Text.Digit
import EventFilter.Text.Terminal

/-! Which names characters have. Most names stand in an outline, but many ideographs are named by
their code points and Hangul syllables by their sounds. -/
namespace EventFilter.Text

/-- The rest of a name behind a stem of the outline. -/
def behindStem? : List Char → List Char → Option (List Char)
  | [], cs => some cs
  | s :: stem, c :: cs =>
    if (if s = '_' then ' ' else s) = c then behindStem? stem cs else none
  | _ :: _, [] => none

def numberOf (digits : List Char) : Nat := ofDigits (digits.map asciiDigitValue)

/-- The rest of a name behind a word, which may end in any number from one to another. -/
def behindWord? (word name : List Char) : Option (List Char) := do
  let (first, last) := match word.span (· != ':') with
    | (first, _ :: last) => (first, last)
    | (first, []) => (first, [])
  let stem := first.take (first.length - last.length)
  let rest ← behindStem? stem name
  let number := rest.take last.length
  let least := numberOf (first.drop stem.length)
  if number.length = last.length && number.all isAsciiDigit && least ≤ numberOf number
      && numberOf number ≤ numberOf last then some (rest.drop last.length)
  else none

/-- The rest of a name behind a blank and one of these words. -/
def behindAny? (words : List (List Char)) : List Char → Option (List Char)
  | ' ' :: name => words.findSome? fun word =>
    (behindWord? word name).filter fun rest => rest.isEmpty || rest.head? = some ' '
  | _ => none

/-- Whether entries of the outline give a name. For each open heading the rest of the name behind it
is kept, if the heading fits. -/
def isOutlined : List (Option (List Char)) → List (List Char) → Bool
  | _ :: outer, [')'] :: entries => isOutlined outer entries
  | name :: outer, entry :: entries =>
    let opens := entry.getLast? = some '('
    let words := entry.filter fun c => c != '(' && c != '='
    let rest := name.bind (behindAny? (splitAt (· = '/') words))
    if rest = some [] && (!opens || entry.contains '=') then true
    else isOutlined (if opens then rest :: name :: outer else name :: outer) entries
  | _, _ => false

def entries (outline : String) : List (List Char) :=
  (splitAt blank.contains outline.toList).filter (!·.isEmpty)

/-- What follows the head of a name, if it is one. -/
def behindHead? (head : String) (name : List Char) : Option (List Char) :=
  if head.toList.isPrefixOf name then some (name.drop head.length) else none

def hexNumber? (digits : List Char) : Option Nat :=
  digits.foldlM (fun n c => (hexValue? c).map (16 * n + ·)) 0

/-- Characters named by their code points, which have four digits or, beyond those, five. -/
def codeNames : List (String × CharSet) := [
  ("CJK COMPATIBILITY IDEOGRAPH-", ⟨[(0xf900, 0xfa6d), (0xfa70, 0xfad9), (0x2f800, 0x2fa1d)]⟩),
  ("KHITAN SMALL SCRIPT CHARACTER-", ⟨[(0x18b00, 0x18cd5)]⟩),
  ("NUSHU CHARACTER-", ⟨[(0x1b170, 0x1b2fb)]⟩)]

def isCodeName (name : List Char) : Bool :=
  codeNames.any fun (head, set) => (behindHead? head name).any fun digits =>
    (hexNumber? digits).any fun code =>
      set.contains (Char.ofNat code) && digits.length = if code < 0x10000 then 4 else 5

/-- Ideographs that several scripts share. -/
def unifiedIdeographs : CharSet := ⟨[
    (0x3400, 0x4dbf), (0x4e00, 0x9fff), (0x20000, 0x2a6df), (0x2a700, 0x2b738), (0x2b740, 0x2b81d),
    (0x2b820, 0x2cea1), (0x2ceb0, 0x2ebe0), (0x30000, 0x3134a)]⟩

/-- They are named in capitals, with four or five digits. -/
def isUnifiedName (name : List Char) : Bool :=
  (behindHead? "CJK UNIFIED IDEOGRAPH-" name).any fun digits =>
    (digits.length = 4 || digits.length = 5) && digits.all (!·.isLower)
      && (hexNumber? digits).any fun code => unifiedIdeographs.contains (Char.ofNat code)

def leadingSounds : List String :=
  ["G", "GG", "N", "D", "DD", "R", "M", "B", "BB", "S", "SS", "", "J", "JJ", "C", "K", "T", "P",
    "H"]

def vowelSounds : List String :=
  ["A", "AE", "YA", "YAE", "EO", "E", "YEO", "YE", "O", "WA", "WAE", "OE", "YO", "U", "WEO", "WE",
    "WI", "YU", "EU", "YI", "I"]

def trailingSounds : List String :=
  ["", "G", "GG", "GS", "N", "NJ", "NH", "D", "L", "LG", "LM", "LB", "LS", "LT", "LP", "LH", "M",
    "B", "BS", "S", "SS", "NG", "J", "C", "K", "T", "P", "H"]

/-- What follows the longest of the sounds that begin a text. -/
def behindSound? (sounds : List String) (cs : List Char) : Option (List Char) :=
  let fitting := (sounds.map String.toList).filter (·.isPrefixOf cs)
  if fitting.isEmpty then none else some (cs.drop ((fitting.map List.length).foldl max 0))

def isSyllableName (name : List Char) : Bool :=
  let rest := do
    let sounds ← behindHead? "HANGUL SYLLABLE " name
    behindSound? trailingSounds
      (← behindSound? vowelSounds (← behindSound? leadingSounds sounds))
  rest = some []

/-- Capitals or not makes no difference, except for shared ideographs and syllables. -/
def isCharacterName (name : List Char) : Bool :=
  let capitals := name.map Char.toUpper
  isUnifiedName name || isSyllableName name || isCodeName capitals
    || (capitals.head?.bind (characterOutline.lookup ·)).any fun outline =>
      isOutlined [some (' ' :: capitals)] (entries outline)

end EventFilter.Text
