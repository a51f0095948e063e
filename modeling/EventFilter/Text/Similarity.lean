/-! Words that look alike. Two texts share the longest run of characters that both contain, and
whatever is shared on either side of it; the share of both texts that is matched in this way says
how alike they are. A mistyped word is compared with the known ones to find what was meant. -/
namespace EventFilter.Text

/-- A run of `length` characters, `first` into one text and `second` into the other. -/
structure SharedRun where
  first : Nat
  second : Nat
  length : Nat
  deriving DecidableEq, Repr

/-- How far two texts agree from their beginnings on. -/
def agreement : List Char → List Char → Nat
  | a :: as, b :: bs => if a = b then agreement as bs + 1 else 0
  | _, _ => 0

/-- Of runs of one length the one found first stays. -/
def SharedRun.orLonger (best run : SharedRun) : SharedRun :=
  if best.length < run.length then run else best

/-- The longest run, and of those the earliest in the first text, then in the second. -/
def longestRun (as bs : List Char) : SharedRun :=
  (List.range as.length).foldl (fun best i =>
    (List.range bs.length).foldl (fun best j =>
      best.orLonger ⟨i, j, agreement (as.drop i) (bs.drop j)⟩) best) ⟨0, 0, 0⟩

/-- Each run found leaves less of the first text, so its length is fuel enough. -/
def matchedWithin : Nat → List Char → List Char → Nat
  | 0, _, _ => 0
  | fuel + 1, as, bs =>
    let run := longestRun as bs
    if run.length = 0 then 0
    else
      matchedWithin fuel (as.take run.first) (bs.take run.second) + run.length
        + matchedWithin fuel (as.drop (run.first + run.length))
            (bs.drop (run.second + run.length))

/-- How many characters of either text have a partner in the other. -/
def matched (as bs : List Char) : Nat := matchedWithin as.length as bs

/-- A known word, with its matched share of a typed one as a fraction. -/
structure Likeness where
  word : String
  shared : Nat
  total : Nat
  deriving DecidableEq, Repr

def Likeness.of (typed word : String) : Likeness :=
  ⟨word, 2 * matched word.toList typed.toList, word.length + typed.length⟩

/-- At least three fifths are matched. -/
def Likeness.isClose (a : Likeness) : Bool := 3 * a.total ≤ 5 * a.shared

/-- Words of too different lengths cannot be close, and are not compared. -/
def comparable (typed word : String) : Bool :=
  3 * (word.length + typed.length) ≤ 10 * min word.length typed.length

/-- More alike, or just as much and later in the alphabet. -/
def Likeness.precedes (a b : Likeness) : Bool :=
  b.shared * a.total < a.shared * b.total
    || a.shared * b.total == b.shared * a.total && b.word < a.word

def placed (before : α → α → Bool) (a : α) : List α → List α
  | [] => [a]
  | b :: bs => if before a b then a :: b :: bs else b :: placed before a bs

def sorted (before : α → α → Bool) (items : List α) : List α := items.foldr (placed before) []

def maxSuggestions : Nat := 3

/-- The known words most like the typed one, in alphabetical order. -/
def closest (known : List String) (typed : String) : List String :=
  let close := ((known.filter (comparable typed)).map (Likeness.of typed)).filter Likeness.isClose
  sorted (fun a b => a < b) (((sorted Likeness.precedes close).take maxSuggestions).map (·.word))

theorem mem_placed {before : α → α → Bool} {a b : α} {items : List α} :
    b ∈ placed before a items ↔ b = a ∨ b ∈ items := by
  induction items with
  | nil => simp [placed]
  | cons c items ih =>
    simp only [placed]
    split <;> simp [ih, or_left_comm]

theorem mem_sorted {before : α → α → Bool} {b : α} {items : List α} :
    b ∈ sorted before items ↔ b ∈ items := by
  induction items with
  | nil => simp [sorted]
  | cons c items ih => simp only [sorted] at ih; simp [sorted, mem_placed, ih]

/-- Only known words are suggested. -/
theorem mem_of_mem_closest {known : List String} {typed word : String}
    (h : word ∈ closest known typed) : word ∈ known := by
  simp only [closest, mem_sorted, List.mem_map] at h
  obtain ⟨likeness, h, rfl⟩ := h
  have h := mem_sorted.1 (List.mem_of_mem_take h)
  obtain ⟨other, isKnown, rfl⟩ := List.mem_map.1 (List.mem_filter.1 h).1
  exact (List.mem_filter.1 isKnown).1

end EventFilter.Text
