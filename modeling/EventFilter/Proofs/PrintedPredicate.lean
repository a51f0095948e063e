import EventFilter.Proofs.Canonical

/-! The characters of a predicate's text. Those of its fields and of its operands are there, and
around them the few that every predicate is written with. -/
namespace EventFilter

/-- Decided along the list, not by a look at every character there is. -/
instance Text.decidableMem (P : Char → Prop) [DecidablePred P] (cs : List Char) :
    Decidable (∀ c ∈ cs, P c) :=
  List.decidableBAll P cs

/-- Blanks, brackets, the star, and the letters and signs of the words in between. -/
def frameChars : List Char := "* ()!<=>andor".toList

theorem Connective.frame_joint (kind : Connective) : ∀ c ∈ kind.joint.toList, c ∈ frameChars := by
  cases kind <;> decide

theorem Relation.frame_symbol (relation : Relation) :
    ∀ c ∈ relation.symbol.toList, c ∈ frameChars := by
  cases relation <;> decide

/-- Both words of the comparison that are not the same in every predicate. -/
def Comparison.Written (P : Char → Prop) (c : Comparison) : Prop :=
  (∀ d ∈ c.field.toList, P d) ∧ ∀ d ∈ c.operand.display.toList, P d

theorem Comparison.Written.imp {P Q : Char → Prop} {c : Comparison} (written : c.Written P)
    (weaker : ∀ d, P d → Q d) : c.Written Q :=
  ⟨fun d mem => weaker d (written.1 d mem), fun d mem => weaker d (written.2 d mem)⟩

namespace Predicate

variable {P : Char → Prop} (frame : ∀ c ∈ frameChars, P c)

include frame

theorem written_compare {field : String} {relation : Relation} {operand : Operand}
    (written : Comparison.Written P ⟨field, relation, operand⟩) :
    ∀ c ∈ (compare field relation operand).render.toList, P c := by
  have blank : ∀ c ∈ " ".toList, P c := fun c mem => frame c (by revert c; decide)
  have symbol : ∀ c ∈ relation.symbol.toList, P c :=
    fun c mem => frame c (relation.frame_symbol c mem)
  simp only [render, String.toList_append, List.forall_mem_append]
  exact ⟨⟨⟨⟨written.1, blank⟩, symbol⟩, blank⟩, written.2⟩

theorem written_group (kind : Connective) {first : Predicate} {rest : List Predicate}
    (inFirst : ∀ c ∈ first.render.toList, P c)
    (inRest : ∀ c ∈ (renderRest kind.joint rest).toList, P c) :
    ∀ c ∈ (group kind first rest).render.toList, P c := by
  have opening : ∀ c ∈ "(".toList, P c := fun c mem => frame c (by revert c; decide)
  have closing : ∀ c ∈ ")".toList, P c := fun c mem => frame c (by revert c; decide)
  simp only [render_group, String.toList_append, List.forall_mem_append]
  exact ⟨⟨⟨opening, inFirst⟩, inRest⟩, closing⟩

mutual

/-- What holds of those few, and of every field and operand, holds of the whole text. -/
theorem written_render : ∀ p : Predicate, (∀ c ∈ p.comparisons, c.Written P) →
    ∀ c ∈ p.render.toList, P c
  | everything, _ => fun c mem => frame c (by revert c; decide)
  | compare _ _ _, written => written_compare frame (written _ List.mem_cons_self)
  | all first rest, written => by
    obtain ⟨inFirst, inRest⟩ := List.forall_mem_append.1 written
    exact written_group frame .all (written_render first inFirst)
      (written_renderRest .all rest inRest)
  | any first rest, written => by
    obtain ⟨inFirst, inRest⟩ := List.forall_mem_append.1 written
    exact written_group frame .any (written_render first inFirst)
      (written_renderRest .any rest inRest)

theorem written_renderRest (kind : Connective) : ∀ ps : List Predicate,
    (∀ c ∈ comparisonsOf ps, c.Written P) → ∀ c ∈ (renderRest kind.joint ps).toList, P c
  | [], _ => nofun
  | p :: ps, written => by
    obtain ⟨inFirst, inRest⟩ := List.forall_mem_append.1 written
    simp only [renderRest, String.toList_append, List.forall_mem_append]
    exact ⟨⟨fun c mem => frame c (kind.frame_joint c mem), written_render p inFirst⟩,
      written_renderRest kind ps inRest⟩

end

end Predicate
end EventFilter
