import EventFilter.Json.Parser
import EventFilter.Json.Printer
import EventFilter.Proofs.PrintedLine
import Mathlib.Data.List.TakeDrop

/-! Values written as text and read back. Whatever characters stand in a text, its escapes give
exactly them back, and no control character is left in what is written, so a value takes one line.
A double may be rounded, and an object keeps the last of two members of one name; without either
the value that is read is the one that was written. -/
namespace EventFilter.Json

open Text

/-- The escape of a control character that has no short one. -/
theorem hexDigits_control : ∀ n < 32, hexDigits 4 n =
    ['0', '0', Nat.digitChar (n / 16), Nat.digitChar (n % 16)] := by decide

theorem codeUnit?_control : ∀ n < 32,
    codeUnit? '0' '0' (Nat.digitChar (n / 16)) (Nat.digitChar (n % 16)) = some n := by decide

theorem pushUnit_control {n : Nat} (control : n < 32) (text : String) :
    pushUnit text none n = (text.push (Char.ofNat n), none) := by
  have low : (decide (0xd800 ≤ n) && decide (n < 0xdc00)) = false := by simp; omega
  have high : (decide (0xdc00 ≤ n) && decide (n < 0xe000)) = false := by simp; omega
  rw [pushUnit, low, high]
  rfl

theorem textBody_self {c : Char} (shown : 0x20 ≤ c.toNat) (quote : c ≠ '"') (escape : c ≠ '\\')
    (text : String) (cs : List Char) :
    textBody text none (c :: cs) = textBody (text.push c) none cs := by
  have kept : (decide (c.toNat < 0x20) || decide (c = '\\')) = false := by simp [shown, escape]
  rw [textBody, kept]
  · rfl
  · exact quote
  · rintro _ _ _ _ _ rfl
    exact absurd rfl escape
  · rintro _ _ rfl
    exact absurd rfl escape

/-- Each character is read back from what it was escaped to. -/
theorem textBody_escapeChar (text : String) (c : Char) (cs : List Char) :
    textBody text none (escapeChar c ++ cs) = textBody (text.push c) none cs := by
  fun_cases escapeChar c
  case case6 code =>
    obtain rfl : c = '\x08' := Char.toNat_inj.1 code
    rfl
  case case7 code =>
    obtain rfl : c = '\x0c' := Char.toNat_inj.1 code
    rfl
  case case8 control =>
    rw [hexDigits_control _ control]
    simp only [List.cons_append, List.nil_append, textBody, codeUnit?_control _ control,
      pushUnit_control control, Char.ofNat_toNat]
  case case9 quote escape _ _ _ _ _ shown =>
    exact textBody_self (Nat.not_lt.1 shown) quote escape text cs
  all_goals
    subst c
    rfl

theorem textBody_written (text : String) (cs rest : List Char) :
    textBody text none (cs.flatMap escapeChar ++ '"' :: rest) =
      some (text ++ String.ofList cs, rest) := by
  induction cs generalizing text with
  | nil => simp [textBody, settle]
  | cons c cs ih =>
    rw [List.flatMap_cons, List.append_assoc, textBody_escapeChar, ih, ← String.append_singleton,
      String.append_assoc, String.ofList_cons]

theorem textBody_renderText (text : String) (rest : List Char) :
    ∃ body, (renderText text).toList ++ rest = '"' :: body ∧
      textBody "" none body = some (text, rest) := by
  refine ⟨text.toList.flatMap escapeChar ++ '"' :: rest, by simp [renderText], ?_⟩
  rw [textBody_written, String.empty_append, String.ofList_toList]

/-- What may follow a number: nothing that would go on with it. -/
def EndsNumber (cs : List Char) : Prop :=
  ∀ c ∈ cs.head?, isAsciiDigit c = false ∧ c ≠ '.' ∧ c ≠ 'e' ∧ c ≠ 'E'

theorem endsNumber_nil : EndsNumber [] := nofun

theorem endsNumber_cons {c : Char}
    (other : isAsciiDigit c = false ∧ c ≠ '.' ∧ c ≠ 'e' ∧ c ≠ 'E') (cs : List Char) :
    EndsNumber (c :: cs) := by
  rintro d ⟨⟩
  exact other

theorem spanDigits_append {digits rest : List Char} (all : ∀ c ∈ digits, isAsciiDigit c = true)
    (ends : EndsNumber rest) : spanDigits (digits ++ rest) = (digits, rest) := by
  have stops : rest.takeWhile isAsciiDigit = [] ∧ rest.dropWhile isAsciiDigit = rest := by
    cases rest with
    | nil => exact ⟨rfl, rfl⟩
    | cons c rest => simp [(ends c rfl).1]
  rw [spanDigits, List.span_eq_takeWhile_dropWhile, List.takeWhile_append_of_pos all,
    List.dropWhile_append_of_pos all, stops.1, stops.2, List.append_nil]

theorem exponentPart_none {rest : List Char} (ends : EndsNumber rest) :
    exponentPart rest = some (none, rest) := by
  unfold exponentPart
  split
  · exact absurd rfl (ends _ rfl).2.2.1
  · exact absurd rfl (ends _ rfl).2.2.2
  · rfl

/-- A zero in front of other digits would not be read. -/
def IsCanonical (digits : List Char) : Prop :=
  digits ≠ [] ∧ (digits.head? = some '0' → digits.length ≤ 1)

theorem number_digits (negative : Bool) {digits rest : List Char}
    (all : ∀ c ∈ digits, isAsciiDigit c = true) (canonical : IsCanonical digits)
    (ends : EndsNumber rest) : number negative (digits ++ rest) =
      some (int (if negative then -natOf digits else natOf digits), rest) := by
  have lead : (digits.isEmpty || (digits.head? = some '0' && digits.length > 1)) = false := by
    have nonempty := canonical.1
    have zero := canonical.2
    simp_all
  simp only [number, spanDigits_append all ends, lead]
  cases rest with
  | nil => simp [exponentPart_none ends]
  | cons c rest => simp [exponentPart_none ends, (ends c rfl).2.1]

theorem head?_toDigits {n : Nat} (positive : 0 < n) : (Nat.toDigits 10 n).head? ≠ some '0' := by
  induction n using Nat.strongRecOn with
  | ind n ih =>
    by_cases small : n < 10
    · have single : ∀ n < 10, 0 < n → some n.digitChar ≠ some '0' := by decide
      rw [Nat.toDigits_of_lt_base small]
      exact single n small positive
    · have split : 10 * (n / 10) + n % 10 = n := Nat.div_add_mod n 10
      have front := ih (n / 10) (by omega) (by omega)
      rw [← split, ← Nat.toDigits_append_toDigits (by decide) (by omega) (by omega),
        List.head?_append]
      cases first : (Nat.toDigits 10 (n / 10)).head? with
      | none => simp at first
      | some c => simpa [first] using front

theorem isCanonical_toString (n : Nat) : IsCanonical (toString n).toList := by
  refine ⟨by simp, fun zero => ?_⟩
  rcases Nat.eq_zero_or_pos n with rfl | positive
  · decide
  · rw [Nat.toString_eq_repr, Nat.toList_repr] at zero
    exact absurd zero (head?_toDigits positive)

theorem natOf_toString (n : Nat) : natOf (toString n).toList = n := by
  rw [natOf, ofDigits_asciiDigitValue]
  exact value_toString n

theorem number_written (negative : Bool) (n : Nat) {rest : List Char} (ends : EndsNumber rest) :
    number negative ((toString n).toList ++ rest) =
      some (int (if negative then -n else n), rest) := by
  rw [number_digits negative (isNumeral_toString n).2 (isCanonical_toString n) ends,
    natOf_toString]

theorem toString_cons (n : Nat) :
    ∃ c cs, (toString n).toList = c :: cs ∧ isAsciiDigit c = true := by
  obtain ⟨nonempty, all⟩ := isNumeral_toString n
  cases chars : (toString n).toList with
  | nil => exact absurd (String.toList_eq_nil_iff.1 chars) nonempty
  | cons c cs =>
    have digit := all c (chars ▸ List.mem_cons_self)
    exact ⟨c, cs, rfl, digit⟩

section

variable {c : Char} (cs : List Char)

theorem skipSpace_cons (shown : isSpace c = false) : skipSpace (c :: cs) = c :: cs := by
  rw [skipSpace, List.dropWhile_cons_of_neg (by simp [shown])]

theorem skipSpace_space : skipSpace (' ' :: cs) = skipSpace cs := rfl

theorem isSpace_digit (digit : isAsciiDigit c = true) : isSpace c = false := by
  simp [isSpace, isAsciiDigit_ne digit (d := ' ') rfl, isAsciiDigit_ne digit (d := '\t') rfl,
    isAsciiDigit_ne digit (d := '\n') rfl, isAsciiDigit_ne digit (d := '\r') rfl]

variable (fuel : Nat)

theorem value_digit (digit : isAsciiDigit c = true) :
    value (fuel + 1) (c :: cs) = number false (c :: cs) := by
  rw [value, skipSpace_cons cs (isSpace_digit digit)]
  split
  all_goals first
    | rfl
    | next same =>
      obtain ⟨rfl, -⟩ := List.cons.inj same
      contradiction

theorem value_minus (digit : isAsciiDigit c = true) :
    value (fuel + 1) ('-' :: c :: cs) = number true (c :: cs) := by
  rw [value, skipSpace_cons (c :: cs) (by decide)]
  have finite : c ≠ 'I' := isAsciiDigit_ne digit rfl
  split
  all_goals simp_all

theorem value_array (shown : isSpace c = false) (other : c ≠ ']') :
    value (fuel + 1) ('[' :: c :: cs) =
      (items fuel (c :: cs)).map fun (items, cs) => (arr items, cs) := by
  rw [value, skipSpace_cons (c :: cs) (by decide)]
  simp only [skipSpace_cons cs shown]
  split
  · next same => exact absurd (List.cons.inj same).1 other
  · rfl

theorem value_object (shown : isSpace c = false) (other : c ≠ '\x7d') :
    value (fuel + 1) ('\x7b' :: c :: cs) =
      (members fuel [] (c :: cs)).map fun (members, cs) => (obj members, cs) := by
  rw [value, skipSpace_cons (c :: cs) (by decide)]
  simp only [skipSpace_cons cs shown]
  split
  · next same => exact absurd (List.cons.inj same).1 other
  · rfl

theorem value_space : value fuel (' ' :: cs) = value fuel cs := by
  cases fuel with
  | zero => rw [value_zero, value_zero]
  | succ fuel => rw [value, skipSpace_space, value]

theorem items_space : items fuel (' ' :: cs) = items fuel cs := by
  cases fuel with
  | zero => rw [items_zero, items_zero]
  | succ fuel => rw [items, value_space, items]

theorem members_space (sofar : List (String × Json)) :
    members fuel sofar (' ' :: cs) = members fuel sofar cs := by
  cases fuel with
  | zero => rw [members_zero, members_zero]
  | succ fuel => rw [members, skipSpace_space, members]

end

theorem value_text (fuel : Nat) (text : String) (rest : List Char) :
    value (fuel + 1) ((renderText text).toList ++ rest) = some (str text, rest) := by
  obtain ⟨body, shown, read⟩ := textBody_renderText text rest
  rw [shown, value, skipSpace_cons body (by decide)]
  show (textBody "" none body).map _ = _
  rw [read]
  rfl

theorem value_int (fuel : Nat) (n : Int) {rest : List Char} (ends : EndsNumber rest) :
    value (fuel + 1) ((toString n).toList ++ rest) = some (int n, rest) := by
  cases n with
  | ofNat k =>
    have number := number_written false k ends
    obtain ⟨c, cs, chars, digit⟩ := toString_cons k
    have unsigned : toString (Int.ofNat k) = toString k := rfl
    rw [chars, List.cons_append] at number
    rw [unsigned, chars, List.cons_append, value_digit _ fuel digit, number]
    rfl
  | negSucc k =>
    have number := number_written true (k + 1) ends
    obtain ⟨c, cs, chars, digit⟩ := toString_cons (k + 1)
    have signed : (toString (Int.negSucc k)).toList = '-' :: (toString (k + 1)).toList :=
      String.toList_append
    rw [chars, List.cons_append] at number
    rw [signed, chars, List.cons_append, List.cons_append, value_minus _ fuel digit, number]
    rfl

mutual

/-- No double in it, and no name twice in one object. -/
def Exact : Json → Prop
  | float _ => False
  | arr items => ExactItems items
  | obj members => (members.map (·.1)).Nodup ∧ ExactMembers members
  | null | bool _ | int _ | str _ => True

def ExactItems : List Json → Prop
  | [] => True
  | item :: items => item.Exact ∧ ExactItems items

def ExactMembers : List (String × Json) → Prop
  | [] => True
  | (_, value) :: members => value.Exact ∧ ExactMembers members

end

theorem insert_absent {members : List (String × Json)} {name : String}
    (absent : name ∉ members.map (·.1)) (value : Json) :
    insert members name value = members ++ [(name, value)] := by
  induction members with
  | nil => rfl
  | cons head members ih =>
    obtain ⟨other, old⟩ := head
    simp only [List.map_cons, List.mem_cons, not_or] at absent
    rw [insert, if_neg (Ne.symm absent.1), ih absent.2, List.cons_append]

section

variable (rest : List Char) (name : String) (v : Json) (others : List Json)
  (members : List (String × Json))

theorem toList_array : (arr (v :: others)).render.toList ++ rest =
    '[' :: (v.render.toList ++ ((renderItems others).toList ++ ']' :: rest)) := by
  simp [render]

theorem toList_items : (renderItems (v :: others)).toList ++ rest =
    ',' :: ' ' :: (v.render.toList ++ ((renderItems others).toList ++ rest)) := by
  simp [renderItems]

theorem toList_object : (obj ((name, v) :: members)).render.toList ++ rest =
    '\x7b' :: ((renderText name).toList ++ ':' :: ' ' ::
      (v.render.toList ++ ((renderMembers members).toList ++ '\x7d' :: rest))) := by
  simp [render]

theorem toList_members : (renderMembers ((name, v) :: members)).toList ++ rest =
    ',' :: ' ' :: ((renderText name).toList ++ ':' :: ' ' ::
      (v.render.toList ++ ((renderMembers members).toList ++ rest))) := by
  simp [renderMembers]

end

theorem render_head {v : Json} (exact : v.Exact) :
    ∃ c cs, v.render.toList = c :: cs ∧ isSpace c = false ∧ c ≠ ']' := by
  cases v with
  | null => exact ⟨_, _, rfl, by decide⟩
  | bool b => cases b <;> exact ⟨_, _, rfl, by decide⟩
  | int n =>
    cases n with
    | ofNat k =>
      obtain ⟨c, cs, chars, digit⟩ := toString_cons k
      exact ⟨c, cs, chars, isSpace_digit digit, isAsciiDigit_ne digit rfl⟩
    | negSucc k => exact ⟨'-', _, String.toList_append, by decide⟩
  | float x => exact absurd exact id
  | str text => exact ⟨'"', _, String.toList_ofList, by decide⟩
  | arr items =>
    cases items with
    | nil => exact ⟨_, _, rfl, by decide⟩
    | cons item items =>
      have shown := toList_array [] item items
      rw [List.append_nil] at shown
      exact ⟨'[', _, shown, by decide⟩
  | obj members =>
    cases members with
    | nil => exact ⟨_, _, rfl, by decide⟩
    | cons member members =>
      have shown := toList_object [] member.1 member.2 members
      rw [List.append_nil] at shown
      exact ⟨'\x7b', _, shown, by decide⟩

/-- With so much fuel a value is read back, whatever text follows it. -/
def Reads (fuel : Nat) : Prop :=
  ∀ {v : Json} {rest : List Char}, v.Exact → v.render.toList.length < fuel → EndsNumber rest →
    value fuel (v.render.toList ++ rest) = some (v, rest)

def ReadsItems (fuel : Nat) : Prop :=
  ∀ (rest : List Char) {v : Json} {others : List Json}, v.Exact → ExactItems others →
    v.render.toList.length + (renderItems others).toList.length + 1 < fuel →
    items fuel (v.render.toList ++ ((renderItems others).toList ++ ']' :: rest)) =
      some (v :: others, rest)

def ReadsMembers (fuel : Nat) : Prop :=
  ∀ (rest : List Char) (sofar : List (String × Json)) {others : List (String × Json)}
    {name : String} {v : Json}, v.Exact → ExactMembers others →
    ((sofar ++ (name, v) :: others).map (·.1)).Nodup →
    (renderText name).toList.length + v.render.toList.length +
      (renderMembers others).toList.length + 1 < fuel →
    members fuel sofar ((renderText name).toList ++ ':' :: ' ' :: (v.render.toList ++
        ((renderMembers others).toList ++ '\x7d' :: rest))) =
      some (sofar ++ (name, v) :: others, rest)

variable {fuel : Nat}

theorem reads_succ (inItems : ReadsItems fuel) (inMembers : ReadsMembers fuel) :
    Reads (fuel + 1) := by
  intro v rest exact enough ends
  cases v with
  | null => rfl
  | bool b => cases b <;> rfl
  | int n => exact value_int fuel n ends
  | float x => exact absurd exact id
  | str text => exact value_text fuel text rest
  | arr items =>
    cases items with
    | nil => rfl
    | cons item items =>
      have length := congrArg List.length (toList_array rest item items)
      simp only [List.length_append, List.length_cons] at length
      have read := inItems rest exact.1 exact.2 (by omega)
      obtain ⟨c, cs, chars, shown, other⟩ := render_head exact.1
      rw [chars, List.cons_append] at read
      rw [toList_array, chars, List.cons_append, value_array _ fuel shown other, read]
      rfl
  | obj members =>
    cases members with
    | nil => rfl
    | cons member members =>
      obtain ⟨name, v⟩ := member
      have length := congrArg List.length (toList_object rest name v members)
      simp only [List.length_append, List.length_cons] at length
      have read := inMembers rest [] exact.2.1 exact.2.2 exact.1 (by omega)
      obtain ⟨body, shown, -⟩ := textBody_renderText name (':' :: ' ' ::
        (v.render.toList ++ ((renderMembers members).toList ++ '\x7d' :: rest)))
      rw [shown] at read
      rw [toList_object, shown, value_object _ fuel (by decide) (by decide), read]
      rfl

theorem readsItems_succ (inValue : Reads fuel) (inItems : ReadsItems fuel) :
    ReadsItems (fuel + 1) := by
  intro rest v others exact exacts enough
  cases others with
  | nil =>
    have after : (renderItems []).toList ++ ']' :: rest = ']' :: rest := rfl
    have read := inValue exact (by omega) (endsNumber_cons (c := ']') (by decide) rest)
    simp only [after, items, read, skipSpace_cons (c := ']') rest rfl]
  | cons next others =>
    have after := toList_items (']' :: rest) next others
    have length := congrArg List.length after
    simp only [List.length_append, List.length_cons] at length
    have read := inValue exact (by omega) (endsNumber_cons (c := ',') (by decide)
      (' ' :: (next.render.toList ++ ((renderItems others).toList ++ ']' :: rest))))
    have later := inItems rest exacts.1 exacts.2 (by omega)
    simp only [after, items, read, skipSpace_cons (c := ',') _ rfl, items_space, later,
      Option.map_some]

theorem readsMembers_succ (inValue : Reads fuel) (inMembers : ReadsMembers fuel) :
    ReadsMembers (fuel + 1) := by
  intro rest sofar others name v exact exacts distinct enough
  have absent : name ∉ sofar.map (·.1) := by
    rw [List.map_append, List.nodup_append] at distinct
    exact fun mem => distinct.2.2 name mem name List.mem_cons_self rfl
  obtain ⟨body, shown, named⟩ := textBody_renderText name (':' :: ' ' ::
    (v.render.toList ++ ((renderMembers others).toList ++ '\x7d' :: rest)))
  rw [shown]
  cases others with
  | nil =>
    have after : (renderMembers []).toList ++ '\x7d' :: rest = '\x7d' :: rest := rfl
    rw [after] at named
    have read := inValue exact (by omega) (endsNumber_cons (c := '\x7d') (by decide) rest)
    simp only [members, skipSpace_cons (c := '"') _ rfl, named, skipSpace_cons (c := ':') _ rfl,
      value_space, read, skipSpace_cons (c := '\x7d') _ rfl, insert_absent absent]
  | cons next others =>
    obtain ⟨nextName, nextValue⟩ := next
    have after := toList_members ('\x7d' :: rest) nextName nextValue others
    have length := congrArg List.length after
    simp only [List.length_append, List.length_cons] at length
    rw [after] at named
    have read := inValue exact (by omega) (endsNumber_cons (c := ',') (by decide)
      (' ' :: ((renderText nextName).toList ++ ':' :: ' ' :: (nextValue.render.toList ++
        ((renderMembers others).toList ++ '\x7d' :: rest)))))
    have joined : sofar ++ (name, v) :: (nextName, nextValue) :: others =
        (sofar ++ [(name, v)]) ++ (nextName, nextValue) :: others := by simp
    rw [joined] at distinct ⊢
    have later := inMembers rest _ exacts.1 exacts.2 distinct (by omega)
    simp only [members, skipSpace_cons (c := '"') _ rfl, named, skipSpace_cons (c := ':') _ rfl,
      value_space, read, skipSpace_cons (c := ',') _ rfl, insert_absent absent, members_space,
      later]

/-- Each function spends one unit of fuel and calls the others with what is left. -/
theorem reads (fuel : Nat) : Reads fuel ∧ ReadsItems fuel ∧ ReadsMembers fuel := by
  induction fuel with
  | zero =>
    exact ⟨fun _ enough => absurd enough (Nat.not_lt_zero _),
      fun _ _ _ _ _ enough => absurd enough (Nat.not_lt_zero _),
      fun _ _ _ _ _ _ _ _ enough => absurd enough (Nat.not_lt_zero _)⟩
  | succ fuel ih =>
    obtain ⟨value, items, members⟩ := ih
    exact ⟨reads_succ items members, readsItems_succ value items,
      readsMembers_succ value members⟩

/-- What was written is read back. -/
theorem parse_render {v : Json} (exact : v.Exact) : parse v.render = some v := by
  have read := (reads (v.render.toList.length + 1)).1 exact (Nat.lt_succ_self _) endsNumber_nil
  rw [List.append_nil] at read
  rw [parse, read]
  rfl

/-- What is escaped is written without control characters. -/
theorem escapeChar_shown (c : Char) : (escapeChar c).all (0x20 ≤ ·.toNat) = true := by
  have code : ∀ n < 32, ('\\' :: 'u' :: hexDigits 4 n).all (0x20 ≤ ·.toNat) = true := by decide
  fun_cases escapeChar c
  case case8 control => exact code _ control
  case case9 shown => simpa using shown
  all_goals decide

theorem isLine_renderText (text : String) : IsLine (renderText text) := by
  rw [renderText, isLine_ofList]
  intro d mem
  rcases List.mem_cons.1 mem with rfl | mem
  · decide
  rcases List.mem_append.1 mem with mem | mem
  · obtain ⟨c, -, escaped⟩ := List.mem_flatMap.1 mem
    exact of_decide_eq_true (List.all_eq_true.1 (escapeChar_shown c) d escaped)
  · rw [List.mem_singleton.1 mem]
    decide

theorem isLine_renderFloat (x : Float) : IsLine (renderFloat x) := by
  unfold renderFloat
  split
  · exact Decimal.isLine_write (by decide) (by decide) x
  · decide
  · decide

mutual

theorem isLine_render : ∀ v : Json, IsLine v.render
  | null => by decide
  | bool true => by decide
  | bool false => by decide
  | int n => isLine_int n
  | float x => isLine_renderFloat x
  | str text => isLine_renderText text
  | arr [] => by decide
  | arr (item :: items) => by
    simp only [render, isLine_append]
    exact ⟨⟨⟨by decide, isLine_render item⟩, isLine_renderItems items⟩, by decide⟩
  | obj [] => by decide
  | obj ((name, value) :: members) => by
    simp only [render, isLine_append]
    exact ⟨⟨⟨⟨⟨by decide, isLine_renderText name⟩, by decide⟩, isLine_render value⟩,
      isLine_renderMembers members⟩, by decide⟩

theorem isLine_renderItems : ∀ items : List Json, IsLine (renderItems items)
  | [] => nofun
  | item :: items => by
    simp only [renderItems, isLine_append]
    exact ⟨⟨by decide, isLine_render item⟩, isLine_renderItems items⟩

theorem isLine_renderMembers : ∀ members : List (String × Json), IsLine (renderMembers members)
  | [] => nofun
  | (name, value) :: members => by
    simp only [renderMembers, isLine_append]
    exact ⟨⟨⟨⟨by decide, isLine_renderText name⟩, by decide⟩, isLine_render value⟩,
      isLine_renderMembers members⟩

end

end EventFilter.Json
