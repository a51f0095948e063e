import EventFilter.Text.Cluster

/-! Text on a terminal. Control characters that move the cursor or ring the bell are left out, text
is divided into lines, and tabs go to stops, which stand every eight columns. -/
namespace EventFilter.Text

def isCursorControl (c : Char) : Bool :=
  c.toNat = 0x7 || c.toNat = 0x8 || c.toNat = 0xb || c.toNat = 0xc || c.toNat = 0xd

def withoutControls (cs : List Char) : List Char := cs.filter (!isCursorControl ·)

/-- The parts between separators; there is always one more part than separators. -/
def splitAt (separates : Char → Bool) : List Char → List (List Char)
  | [] => [[]]
  | c :: cs =>
    if separates c then [] :: splitAt separates cs
    else
      match splitAt separates cs with
      | [] => [[c]]
      | part :: parts => (c :: part) :: parts

def lines (cs : List Char) : List (List Char) := splitAt (· = '\n') cs

/-- Line feeds and all other characters that separate lines or paragraphs. -/
def endsLine (c : Char) : Bool :=
  (0xa ≤ c.toNat && c.toNat ≤ 0xd) || (0x1c ≤ c.toNat && c.toNat ≤ 0x1e) || c.toNat = 0x85
    || c.toNat = 0x2028 || c.toNat = 0x2029

/-- The lines between any such characters, of which a carriage return and a line feed count as one;
at the end of a text they open no further line. -/
def splitLines : List Char → List (List Char)
  | [] => []
  | '\r' :: '\n' :: cs => [] :: splitLines cs
  | c :: cs =>
    if endsLine c then [] :: splitLines cs
    else
      match splitLines cs with
      | [] => [[c]]
      | line :: lines => (c :: line) :: lines

def tabStop : Nat := 8

/-- What is missing from a column to the next stop; nothing if it is one. -/
def toTabStop (column : Nat) : Nat := (tabStop - column % tabStop) % tabStop

def joinLines : List (List Char) → String
  | [] => ""
  | line :: rest => String.ofList line ++ "\n" ++ joinLines rest

theorem splitAt_ne_nil (separates : Char → Bool) (cs : List Char) : splitAt separates cs ≠ [] := by
  cases cs with
  | nil => simp [splitAt]
  | cons c cs =>
    simp only [splitAt]
    split
    · simp
    · split <;> simp

theorem splitAt_of_none {separates : Char → Bool} {cs : List Char}
    (h : ∀ c ∈ cs, separates c = false) : splitAt separates cs = [cs] := by
  induction cs with
  | nil => rfl
  | cons c cs ih =>
    simp only [List.mem_cons, forall_eq_or_imp] at h
    simp [splitAt, h.1, ih h.2]

end EventFilter.Text
