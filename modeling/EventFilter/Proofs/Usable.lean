import EventFilter.Proofs.Lossless
import EventFilter.Proofs.Segment

/-! Use of a compiled query. Whether a predicate holds can only fail to be settled at one of its
comparisons, and those of a compiled query are with numbers; so an event whose fields denote
integers is judged, unless an ID that was never measured turns out too long to be read. -/
namespace EventFilter

open Outcome

def Comparison.holds (event : Event) (c : Comparison) : Except IntegerError Bool :=
  Predicate.compareField event c.field c.relation c.operand

namespace Predicate

variable {event : Event} {e : IntegerError}

/-- Some comparison makes the error. -/
def FailsIn (event : Event) (e : IntegerError) (cs : List Comparison) : Prop :=
  ∃ c ∈ cs, c.holds event = .error e

theorem FailsIn.left {cs : List Comparison} (fails : FailsIn event e cs) (ds : List Comparison) :
    FailsIn event e (cs ++ ds) := by
  obtain ⟨c, mem, fault⟩ := fails
  exact ⟨c, List.mem_append_left ds mem, fault⟩

theorem FailsIn.right {ds : List Comparison} (fails : FailsIn event e ds) (cs : List Comparison) :
    FailsIn event e (cs ++ ds) := by
  obtain ⟨c, mem, fault⟩ := fails
  exact ⟨c, List.mem_append_right cs mem, fault⟩

mutual

/-- An error of a predicate is one that a comparison of it makes. -/
theorem holds_error : ∀ p : Predicate, p.holds event = .error e →
    FailsIn event e p.comparisons
  | everything, failed => by
    rw [holds] at failed
    contradiction
  | compare field relation operand, failed => by
    rw [holds] at failed
    exact ⟨⟨field, relation, operand⟩, List.mem_singleton_self _, failed⟩
  | all first rest, failed => by
    rw [holds] at failed
    rcases choice_error failed with failed | failed | settled
    · exact (holds_error first failed).left _
    · exact (allHold_error rest failed).right _
    · contradiction
  | any first rest, failed => by
    rw [holds] at failed
    rcases choice_error failed with failed | settled | failed
    · exact (holds_error first failed).left _
    · contradiction
    · exact (anyHolds_error rest failed).right _

theorem allHold_error : ∀ ps : List Predicate, allHold event ps = .error e →
    FailsIn event e (comparisonsOf ps)
  | [], failed => by
    rw [allHold] at failed
    contradiction
  | p :: ps, failed => by
    rw [allHold] at failed
    rcases choice_error failed with failed | failed | settled
    · exact (holds_error p failed).left _
    · exact (allHold_error ps failed).right _
    · contradiction

theorem anyHolds_error : ∀ ps : List Predicate, anyHolds event ps = .error e →
    FailsIn event e (comparisonsOf ps)
  | [], failed => by
    rw [anyHolds] at failed
    contradiction
  | p :: ps, failed => by
    rw [anyHolds] at failed
    rcases choice_error failed with failed | settled | failed
    · exact (holds_error p failed).left _
    · contradiction
    · exact (anyHolds_error ps failed).right _

end

end Predicate

/-- The field is absent or null, or it denotes an integer, be it as one or in another form. -/
def Event.Integral (event : Event) (field : String) : Prop :=
  ∀ value, event.present field = some value → ∃ n, value.toInt = .ok n

/-- What denotes an integer is compared, unless what it is compared with cannot be read. -/
theorem Comparison.holds_error {event : Event} {c : Comparison} {e : IntegerError}
    (integral : event.Integral c.field) (failed : c.holds event = .error e) :
    c.operand.toInt = .error e := by
  rw [Comparison.holds, Predicate.compareField] at failed
  cases present : event.present c.field with
  | none =>
    rw [present] at failed
    contradiction
  | some value =>
    obtain ⟨n, denoted⟩ := integral value present
    rw [present] at failed
    rcases bind_eq_error.1 failed with unread | ⟨left, -, failed⟩
    · rw [denoted] at unread
      contradiction
    · rcases bind_eq_error.1 failed with unread | ⟨right, -, failed⟩
      · exact unread
      · contradiction

namespace Selection

theorem severityComparisons_cases {limit : Int} {c : Comparison}
    (mem : c ∈ severityComparisons limit) :
    c.field = severityField ∧ ∃ n, c.operand = .int n := by
  unfold severityComparisons at mem
  split at mem
  · contradiction
  · simp only [List.mem_cons, List.not_mem_nil, or_false] at mem
    rcases mem with rfl | rfl
    · exact ⟨rfl, 0, rfl⟩
    · exact ⟨rfl, limit, rfl⟩

/-- Bounds were measured when they were put in order; single IDs are as they were typed. -/
theorem comparisons_cases {s : Selection} (valid : s.Valid) {limit : Int} {c : Comparison}
    (mem : c ∈ s.comparisons limit) : (c.field = severityField ∧ ∃ n, c.operand = .int n) ∨
      c.field = idField ∧ ∃ digits, c.operand = .text digits ∧ Text.IsNumeral digits ∧
        (digits ∈ s.includedIds ++ s.excludedIds ∨ digits.length ≤ Text.maxDigits) := by
  have ofBound {toFirst toLast : Relation} {spans : List Span}
      (all : ∀ span ∈ spans, span.Valid) (mem : c ∈ spans.flatMap (spanComparisons toFirst toLast)) :
      c.field = idField ∧ ∃ digits, c.operand = .text digits ∧ Text.IsNumeral digits ∧
        (digits ∈ s.includedIds ++ s.excludedIds ∨ digits.length ≤ Text.maxDigits) := by
    obtain ⟨span, inSpans, rfl | rfl⟩ := mem_spanComparisons mem
    · exact ⟨rfl, span.first, rfl, (all span inSpans).first, .inr (all span inSpans).firstShort⟩
    · exact ⟨rfl, span.last, rfl, (all span inSpans).last, .inr (all span inSpans).lastShort⟩
  simp only [comparisons, List.mem_append, List.mem_map] at mem ofBound ⊢
  rcases mem with severity | (⟨id, inIds, rfl⟩ | inSpans) | ⟨id, inIds, rfl⟩ | inSpans
  · exact .inl (severityComparisons_cases severity)
  · exact .inr ⟨rfl, id, rfl, valid.includedIds id inIds, .inl (.inl inIds)⟩
  · exact .inr (ofBound valid.includedSpans inSpans)
  · exact .inr ⟨rfl, id, rfl, valid.excludedIds id inIds, .inl (.inr inIds)⟩
  · exact .inr (ofBound valid.excludedSpans inSpans)

/-- A comparison of a compiled query fails only on a single ID that is too long. -/
theorem unsettled {s : Selection} (valid : s.Valid) {limit : Int} {c : Comparison}
    (mem : c ∈ s.comparisons limit) {event : Event} (id : event.Integral idField)
    (severity : event.Integral severityField) {e : IntegerError}
    (failed : c.holds event = .error e) : ∃ digits ∈ s.includedIds ++ s.excludedIds,
      Text.maxDigits < digits.length ∧ e = .oversized digits.length := by
  rcases comparisons_cases valid mem with ⟨field, n, operand⟩ | ⟨field, digits, operand, rest⟩
  · have unread := Comparison.holds_error (field ▸ severity) failed
    rw [operand] at unread
    contradiction
  · obtain ⟨numeral, single⟩ := rest
    have unread := Comparison.holds_error (field ▸ id) failed
    rw [operand, Operand.toInt, Numeral.read_eq_of_isNumeral numeral] at unread
    split at unread
    next long =>
      cases unread
      exact ⟨digits, single.resolve_right (Nat.not_le.2 long), long, rfl⟩
    next => contradiction

end Selection

namespace Query

/-- An event whose ID and severity denote integers, or are not there, is judged, unless one of the
single IDs is too long to be read; that is then the only error. -/
theorem holds_integral {source : String} {level : Json} {label : Option String} {q : Query}
    (compiled : ofLevel source level label = .ok q) {event : Event}
    (id : event.Integral idField) (severity : event.Integral severityField) :
    (∃ b, q.holds event = .ok b) ∨
      ∃ digits ∈ q.selection.includedIds ++ q.selection.excludedIds,
        Text.maxDigits < digits.length ∧ q.holds event = .error (.oversized digits.length) := by
  cases judged : q.holds event with
  | ok b => exact .inl ⟨b, rfl⟩
  | error e =>
    obtain ⟨c, mem, failed⟩ := Predicate.holds_error q.predicate judged
    rw [predicate, Selection.comparisons_predicate] at mem
    obtain ⟨digits, single, long, rfl⟩ :=
      Selection.unsettled (selection_valid compiled) mem id severity failed
    exact .inr ⟨digits, single, long, rfl⟩

/-- A severity that is null is as good as none. -/
theorem holds_integral_null :
    Event.Integral [("EventID", .int 7), ("Level", .null)] idField ∧
      Event.Integral [("EventID", .int 7), ("Level", .null)] severityField ∧
      ∃ q b, ofLevel "5-9, -7" (.int 3) (some "BIP") = .ok q ∧
        q.holds [("EventID", .int 7), ("Level", .null)] = .ok b := by
  have compiled : ofLevel "5-9, -7" (.int 3) (some "BIP") =
      .ok ⟨"5-9, -7", some .warning, ⟨[], ["7"], [⟨"5", "9"⟩], []⟩⟩ := rfl
  have id : Event.Integral [("EventID", .int 7), ("Level", .null)] idField := by
    rintro value ⟨⟩
    exact ⟨7, rfl⟩
  have severity : Event.Integral [("EventID", .int 7), ("Level", .null)] severityField := by
    rintro value ⟨⟩
  refine ⟨id, severity, ⟨"5-9, -7", some .warning, ⟨[], ["7"], [⟨"5", "9"⟩], []⟩⟩, ?_⟩
  rcases holds_integral compiled id severity with ⟨b, judged⟩ | ⟨digits, mem, long, -⟩
  · exact ⟨b, compiled, judged⟩
  · obtain rfl := List.mem_singleton.1 mem
    exact absurd long (by decide)

theorem ofLevel_id {id : String} (numeral : Text.IsNumeral id) :
    ofLevel id (.int (-1)) none = .ok ⟨id, none, ⟨[id], [], [], []⟩⟩ := by
  have valid : (Pending.number .included id).Valid := numeral
  have text : (Pending.number .included id).text = id := String.empty_append
  have parsed : Selection.parse id = .ok ⟨[id], [], [], []⟩ := by
    rw [Selection.parse, ← text, tokens_text valid (by simp), Pending.close_number,
      if_neg numeral.1, text]
    rfl
  exact ofLevel_eq_ok.2 ⟨rfl, compile_eq_ok.2 ⟨parsed, rfl, rfl, rfl⟩⟩

theorem holds_id (source id : String) (event : Event) :
    (⟨source, none, ⟨[id], [], [], []⟩⟩ : Query).holds event =
      Predicate.compareField event idField .eq (.text id) :=
  (Predicate.holds_single event .all _).trans (Predicate.holds_single event .any _)

/-- An ID of one digit too many is compiled, and then an event with an ID cannot be judged. -/
theorem not_holds_long_id :
    ∃ q, ofLevel (Text.ones 4301) (.int (-1)) none = .ok q ∧
      Event.Integral [("EventID", .int 1)] idField ∧
      Event.Integral [("EventID", .int 1)] severityField ∧
      q.holds [("EventID", .int 1)] = .error (.oversized 4301) := by
  have numeral := Text.isNumeral_ones 4300
  have unread : Operand.toInt (.text (Text.ones 4301)) = .error (.oversized 4301) := by
    rw [Operand.toInt, Numeral.read_eq_of_isNumeral numeral, if_pos Text.maxDigits_lt_ones,
      Text.length_ones]
  have present : Event.present [("EventID", .int 1)] idField = some (.int 1) := rfl
  refine ⟨_, ofLevel_id numeral, ?_, ?_, ?_⟩
  · rintro value ⟨⟩
    exact ⟨1, rfl⟩
  · rintro value ⟨⟩
  · rw [holds_id, Predicate.compareField, present]
    simp only [unread, Json.toInt, ok_bind, error_bind]

end Query
end EventFilter
