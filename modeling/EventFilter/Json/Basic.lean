/-! JSON values. Members of an object keep their order, and an integer stays apart from a double
of the same size. -/
namespace EventFilter

inductive Json where
  | null
  | bool (b : Bool)
  | int (n : Int)
  | float (x : Float)
  | str (text : String)
  | arr (items : List Json)
  | obj (members : List (String × Json))

namespace Json

/-- A repeated name keeps its first place and takes the last value. -/
def insert (members : List (String × Json)) (name : String) (value : Json) :
    List (String × Json) :=
  match members with
  | [] => [(name, value)]
  | (other, old) :: rest =>
    if other = name then (name, value) :: rest else (other, old) :: insert rest name value

/-- Nothing, zero and what is empty count as false. -/
def isTruthy : Json → Bool
  | null => false
  | bool b => b
  | int n => n != 0
  | float x => !(x == 0)
  | str text => !text.isEmpty
  | arr items => !items.isEmpty
  | obj members => !members.isEmpty

mutual

/-- How many values enclose one another at the deepest place, the value itself counted. -/
def depth : Json → Nat
  | arr items => depthOfItems items + 1
  | obj members => depthOfMembers members + 1
  | _ => 1

def depthOfItems : List Json → Nat
  | [] => 0
  | item :: items => max item.depth (depthOfItems items)

def depthOfMembers : List (String × Json) → Nat
  | [] => 0
  | (_, value) :: members => max value.depth (depthOfMembers members)

end

end Json

theorem Json.lookup_insert (members : List (String × Json)) (name : String) (value : Json)
    (other : String) : (Json.insert members name value).lookup other =
      if other = name then some value else members.lookup other := by
  induction members with
  | nil =>
    by_cases h : other = name <;>
      simp [Json.insert, List.lookup_cons, List.lookup_nil, beq_eq_false_iff_ne.2, h]
  | cons head rest ih =>
    obtain ⟨k, v⟩ := head
    by_cases hk : k = name <;> by_cases h : other = k
    · simp [Json.insert, hk, h ▸ hk]
    · simp [Json.insert, ← hk, h, List.lookup_cons, beq_eq_false_iff_ne.2 h]
    · simp [Json.insert, hk, h]
    · simp [Json.insert, hk, List.lookup_cons, beq_eq_false_iff_ne.2 h, ih]

end EventFilter
