import EventFilter.Proofs.Compiled
import EventFilter.Proofs.Parts
import EventFilter.Proofs.UniqueReading

/-! The text of a query keeps its whole filter. From left to right its comparisons hold every number
that was typed and the limit, and the field and the relation of a comparison tell where its number
is from, whatever shape the predicate has. -/
namespace EventFilter

open Predicate

namespace Selection

def idComparison (relation : Relation) (digits : String) : Comparison :=
  ⟨idField, relation, .text digits⟩

/-- Both ends of a span, the first by one relation and the last by another. -/
def spanComparisons (toFirst toLast : Relation) (span : Span) : List Comparison :=
  [idComparison toFirst span.first, idComparison toLast span.last]

def severityComparisons (limit : Int) : List Comparison :=
  if limit = -1 then []
  else [⟨severityField, .gt, .int 0⟩, ⟨severityField, .le, .int limit⟩]

def comparisons (s : Selection) (limit : Int) : List Comparison :=
  severityComparisons limit ++ (s.includedIds.map (idComparison .eq) ++
    s.includedSpans.flatMap (spanComparisons .ge .le) ++
    (s.excludedIds.map (idComparison .ne) ++ s.excludedSpans.flatMap (spanComparisons .lt .gt)))

theorem mem_spanComparisons {toFirst toLast : Relation} {spans : List Span} {c : Comparison}
    (mem : c ∈ spans.flatMap (spanComparisons toFirst toLast)) :
    ∃ span ∈ spans, c = idComparison toFirst span.first ∨ c = idComparison toLast span.last := by
  obtain ⟨span, inSpans, mem⟩ := List.mem_flatMap.1 mem
  simp only [spanComparisons, List.mem_cons, List.not_mem_nil, or_false] at mem
  exact ⟨span, inSpans, mem⟩

theorem comparisonsOf_map {α : Type} (make : α → Predicate) (items : List α) :
    comparisonsOf (items.map make) = items.flatMap fun item => (make item).comparisons := by
  rw [comparisonsOf_eq, List.flatMap_map]

theorem comparisonsOf_ids (relation : Relation) (ids : List String) :
    comparisonsOf (ids.map (compareId relation)) = ids.map (idComparison relation) :=
  (comparisonsOf_map _ ids).trans List.map_eq_flatMap.symm

theorem comparisonsOf_events (s : Selection) : comparisonsOf s.events.toList =
    s.includedIds.map (idComparison .eq) ++ s.includedSpans.flatMap (spanComparisons .ge .le) ++
      (s.excludedIds.map (idComparison .ne) ++
        s.excludedSpans.flatMap (spanComparisons .lt .gt)) := by
  rw [events_eq, comparisonsOf_gather, comparisonsOf_append, includedHalf_eq, excludedHalf_eq,
    comparisonsOf_half, comparisonsOf_half, comparisonsOf_ids, comparisonsOf_ids,
    comparisonsOf_map, comparisonsOf_map]
  rfl

/-- No comparison is lost or moved on the way from the four lists to the predicate. -/
theorem comparisons_predicate (s : Selection) (limit : Int) :
    (s.predicate limit).comparisons = s.comparisons limit := by
  rw [comparisons, ← comparisonsOf_events, predicate, severityComparisons]
  split
  · cases s.events with
    | none => rfl
    | some p => exact (comparisonsOf_single p).symm
  · rfl

end Selection

/-- What a field is compared with by a relation, as it is shown. -/
def shown (field : String) (relation : Relation) (cs : List Comparison) : List String :=
  (cs.filter fun c => c.field = field && c.relation = relation).map fun c => c.operand.display

theorem shown_append (field : String) (relation : Relation) (cs ds : List Comparison) :
    shown field relation (cs ++ ds) = shown field relation cs ++ shown field relation ds := by
  simp [shown]

theorem shown_canonical (field : String) (relation : Relation) (cs : List Comparison) :
    shown field relation (cs.map Comparison.canonical) = shown field relation cs := by
  rw [shown, List.filter_map, List.map_map]
  exact List.map_congr_left fun c _ => Operand.display_canonical c.operand

theorem shown_of_ne {field : String} {relation : Relation} {cs : List Comparison}
    (other : ∀ c ∈ cs, c.field ≠ field) : shown field relation cs = [] := by
  rw [shown, List.map_eq_nil_iff, List.filter_eq_nil_iff]
  intro c mem
  simp [other c mem]

theorem idField_isName : IsName idField := by decide

theorem severityField_isName : IsName severityField := by decide

theorem severityField_ne_idField : severityField ≠ idField := by decide

namespace Selection

theorem shown_ids (relation other : Relation) (ids : List String) :
    shown idField relation (ids.map (idComparison other)) =
      if other = relation then ids else [] := by
  by_cases same : other = relation <;>
    simp [shown, List.filter_map, Function.comp_def, idComparison, same, Operand.display]

theorem shown_spans {toFirst toLast : Relation} (relation : Relation) (apart : toFirst ≠ toLast)
    (spans : List Span) :
    shown idField relation (spans.flatMap (spanComparisons toFirst toLast)) =
      if toFirst = relation then spans.map Span.first
      else if toLast = relation then spans.map Span.last else [] := by
  induction spans with
  | nil => simp [shown]
  | cons span spans ih =>
    rw [List.flatMap_cons, shown_append, ih]
    by_cases first : toFirst = relation
    · subst first
      simp [shown, spanComparisons, idComparison, apart.symm, Operand.display]
    · by_cases last : toLast = relation <;>
        simp [shown, spanComparisons, idComparison, first, last, Operand.display]

theorem shown_severity (relation : Relation) (limit : Int) :
    shown idField relation (severityComparisons limit) = [] := by
  apply shown_of_ne
  unfold severityComparisons
  split <;> simp [severityField_ne_idField]

/-- Each list of numbers is what one field is compared with by one relation. -/
theorem shown_comparisons (s : Selection) (limit : Int) (relation : Relation) :
    shown idField relation (s.comparisons limit) =
      match relation with
      | .eq => s.includedIds
      | .ne => s.excludedIds
      | .ge => s.includedSpans.map Span.first
      | .le => s.includedSpans.map Span.last
      | .lt => s.excludedSpans.map Span.first
      | .gt => s.excludedSpans.map Span.last := by
  simp only [comparisons, shown_append, shown_ids, shown_severity, List.nil_append]
  rw [shown_spans relation (by decide), shown_spans relation (by decide)]
  cases relation <;> simp

/-- Only the limit is compared with the severity from above. -/
theorem shown_limit (s : Selection) (limit : Int) :
    shown severityField .le (s.comparisons limit) =
      if limit = -1 then [] else [toString limit] := by
  have ids (relation : Relation) (ids : List String) :
      shown severityField .le (ids.map (idComparison relation)) = [] := by
    apply shown_of_ne
    rw [List.forall_mem_map]
    exact fun _ _ => severityField_ne_idField.symm
  have spans (toFirst toLast : Relation) (spans : List Span) :
      shown severityField .le (spans.flatMap (spanComparisons toFirst toLast)) = [] := by
    apply shown_of_ne
    intro c mem
    obtain ⟨span, -, rfl | rfl⟩ := mem_spanComparisons mem <;>
      exact severityField_ne_idField.symm
  simp only [comparisons, shown_append, ids, spans, List.append_nil, severityComparisons]
  split
  · rfl
  · rfl

theorem eq_of_bounds {a b : List Span} (firsts : a.map Span.first = b.map Span.first)
    (lasts : a.map Span.last = b.map Span.last) : a = b := by
  induction a generalizing b with
  | nil => exact (List.map_eq_nil_iff.1 firsts.symm).symm
  | cons span a ih =>
    cases b with
    | nil => contradiction
    | cons other b =>
      obtain ⟨first, restFirsts⟩ := List.cons.inj firsts
      obtain ⟨last, restLasts⟩ := List.cons.inj lasts
      obtain rfl : span = other := by
        cases span
        cases other
        congr
      rw [ih restFirsts restLasts]

theorem eq_of_shown {s s' : Selection} {limit limit' : Int}
    (same : ∀ relation, shown idField relation (s.comparisons limit) =
      shown idField relation (s'.comparisons limit')) : s = s' := by
  simp only [shown_comparisons] at same
  cases s
  cases s'
  congr 1
  · exact same .eq
  · exact same .ne
  · exact eq_of_bounds (same .ge) (same .le)
  · exact eq_of_bounds (same .lt) (same .gt)

theorem idComparison_plain {digits : String} (numeral : Text.IsNumeral digits)
    (relation : Relation) : (idComparison relation digits).Plain :=
  ⟨idField_isName, numeral⟩

theorem comparisons_plain {s : Selection} (valid : s.Valid) (limit : Int) :
    (s.predicate limit).Plain := by
  have spans {toFirst toLast : Relation} {spans : List Span} (all : ∀ span ∈ spans, span.Valid) :
      ∀ c ∈ spans.flatMap (spanComparisons toFirst toLast), c.Plain := by
    intro c mem
    obtain ⟨span, inSpans, rfl | rfl⟩ := mem_spanComparisons mem
    · exact idComparison_plain (all span inSpans).first _
    · exact idComparison_plain (all span inSpans).last _
  have severity : ∀ c ∈ severityComparisons limit, c.Plain := by
    unfold severityComparisons
    split
    · simp
    · intro c mem
      simp only [List.mem_cons, List.not_mem_nil, or_false] at mem
      rcases mem with rfl | rfl <;> exact ⟨severityField_isName, trivial⟩
  rw [Predicate.Plain, comparisons_predicate, comparisons]
  simp only [List.forall_mem_append, List.forall_mem_map]
  exact ⟨severity, ⟨fun id mem => idComparison_plain (valid.includedIds id mem) _,
    spans valid.includedSpans⟩, fun id mem => idComparison_plain (valid.excludedIds id mem) _,
    spans valid.excludedSpans⟩

end Selection

theorem Severity.code_eq_of_shown {limit limit' : Option Severity}
    (same : (if code limit = -1 then [] else [toString (code limit)]) =
      if code limit' = -1 then [] else [toString (code limit')]) : code limit = code limit' := by
  split at same <;> split at same
  · rename_i unlimited unlimited'
    rw [unlimited, unlimited']
  · contradiction
  · contradiction
  · have texts : toString (code limit) = toString (code limit') := (List.cons.inj same).1
    have read := Numeral.read_toString (short_code limit)
    rw [texts, Numeral.read_toString (short_code limit')] at read
    exact (Except.ok.inj read).symm

namespace Query

theorem system_inj {p q : Predicate} : p.system = q.system ↔ p.render = q.render := by
  simp [system]

/-- Two queries have the same text only if they are the same filter under the same limit. -/
theorem text_eq_iff {source source' : String} {level level' : Json} {label label' : Option String}
    {q q' : Query} (compiled : ofLevel source level label = .ok q)
    (compiled' : ofLevel source' level' label' = .ok q') :
    q.text = q'.text ↔ q.selection = q'.selection ∧ level = level' := by
  have plain := Selection.comparisons_plain (selection_valid compiled) (Severity.code q.limit)
  have plain' := Selection.comparisons_plain (selection_valid compiled') (Severity.code q'.limit)
  obtain ⟨rfl, -⟩ := ofLevel_eq_ok.1 compiled
  obtain ⟨rfl, -⟩ := ofLevel_eq_ok.1 compiled'
  rw [text, text, system_inj, predicate, predicate, Json.int.injEq]
  constructor
  · intro same
    have canonicals := (render_eq_iff plain plain').1 same
    have comparisons := congrArg Predicate.comparisons canonicals
    rw [comparisons_canonical, comparisons_canonical, Selection.comparisons_predicate,
      Selection.comparisons_predicate] at comparisons
    have seen (field : String) (relation : Relation) := congrArg (shown field relation) comparisons
    simp only [shown_canonical] at seen
    have limits := seen severityField .le
    rw [Selection.shown_limit, Selection.shown_limit] at limits
    exact ⟨Selection.eq_of_shown (seen idField), Severity.code_eq_of_shown limits⟩
  · rintro ⟨selections, limits⟩
    rw [selections, limits]

/-- Two spellings of a filter have one text; a leading zero makes another filter. -/
theorem text_eq_iff_spellings :
    (⟨"BIP1, 5-9", some .error, ⟨["1"], [], [⟨"5", "9"⟩], []⟩⟩ : Query).text =
        (⟨"5-9,1,", some .error, ⟨["1"], [], [⟨"5", "9"⟩], []⟩⟩ : Query).text ∧
      (⟨"BIP1, 5-9", some .error, ⟨["1"], [], [⟨"5", "9"⟩], []⟩⟩ : Query).text ≠
        (⟨"01,5-9", some .error, ⟨["01"], [], [⟨"5", "9"⟩], []⟩⟩ : Query).text := by
  have labelled : ofLevel "BIP1, 5-9" (.int 2) (some "BIP") =
      .ok ⟨"BIP1, 5-9", some .error, ⟨["1"], [], [⟨"5", "9"⟩], []⟩⟩ := rfl
  have swapped : ofLevel "5-9,1," (.int 2) none =
      .ok ⟨"5-9,1,", some .error, ⟨["1"], [], [⟨"5", "9"⟩], []⟩⟩ := rfl
  have padded : ofLevel "01,5-9" (.int 2) none =
      .ok ⟨"01,5-9", some .error, ⟨["01"], [], [⟨"5", "9"⟩], []⟩⟩ := rfl
  refine ⟨(text_eq_iff labelled swapped).2 ⟨rfl, rfl⟩, fun same => ?_⟩
  have selections := ((text_eq_iff labelled padded).1 same).1
  exact absurd selections (by decide)

end Query
end EventFilter
