import EventFilter.Composition.Recipe
import EventFilter.Proofs.Parts

/-! Assembly. The predicate of a selection can be put together one step after another, and each step
may fail: no group may be empty, and an operator must be one that there is. No step does, whatever
is in the four lists. -/
namespace EventFilter

open Outcome

namespace Recipe

/-- A group of the parts, if there are any. -/
def gather (kind : Connective) (parts : List Recipe) : List Recipe :=
  if parts.isEmpty then [] else [group kind parts]

/-- A group of the parts, unless there is one alone. -/
def join (kind : Connective) : List Recipe → List Recipe
  | [part] => [part]
  | parts => gather kind parts

def half (kind : Connective) (ids spans : List Recipe) : List Recipe :=
  join kind (gather kind ids ++ join kind spans)

def testId (symbol id : String) : Recipe := comparison idField symbol (.text id)

/-- Both bounds of a span, each with an operator of its own. -/
def testBounds (kind : Connective) (toFirst toLast : String) (span : Span) : Recipe :=
  group kind [testId toFirst span.first, testId toLast span.last]

section

variable {recipes others : List Recipe} {ps qs : List Predicate}

theorem buildList_cons {recipe : Recipe} {p : Predicate} (first : recipe.build = .ok p)
    (rest : buildList recipes = .ok ps) : buildList (recipe :: recipes) = .ok (p :: ps) := by
  rw [buildList, first, ok_bind, rest]
  rfl

theorem buildList_append (front : buildList recipes = .ok ps) (back : buildList others = .ok qs) :
    buildList (recipes ++ others) = .ok (ps ++ qs) := by
  induction recipes generalizing ps with
  | nil =>
    cases front
    exact back
  | cons recipe recipes ih =>
    obtain ⟨p, first, front⟩ := bind_eq_ok.1 front
    obtain ⟨ps', rest, ⟨⟩⟩ := bind_eq_ok.1 front
    exact buildList_cons first (ih rest)

theorem buildList_map {α : Type} {recipe : α → Recipe} {p : α → Predicate}
    (made : ∀ item, (recipe item).build = .ok (p item)) (items : List α) :
    buildList (items.map recipe) = .ok (items.map p) := by
  induction items with
  | nil => rfl
  | cons item items ih => exact buildList_cons (made item) ih

variable (kind : Connective) (made : buildList recipes = .ok ps)

include made

/-- A group is built if its parts are and there is one. -/
theorem build_group {p : Predicate} (first : ps = p :: qs) :
    (group kind recipes).build = .ok (Predicate.group kind p qs) := by
  subst first
  rw [build, made, ok_bind]
  cases kind <;> rfl

theorem buildList_gather : buildList (gather kind recipes) = .ok (kind.gather ps).toList := by
  cases recipes with
  | nil =>
    cases made
    rfl
  | cons recipe recipes =>
    obtain ⟨p, first, made'⟩ := bind_eq_ok.1 made
    obtain ⟨ps', rest, ⟨⟩⟩ := bind_eq_ok.1 made'
    exact buildList_cons (build_group kind made rfl) rfl

theorem buildList_join : buildList (join kind recipes) = .ok (kind.join ps).toList := by
  have several := buildList_gather kind made
  match recipes with
  | [] =>
    cases made
    rfl
  | [recipe] =>
    obtain ⟨p, first, alone⟩ := bind_eq_ok.1 made
    cases alone
    exact made
  | _ :: _ :: _ =>
    obtain ⟨p, -, later⟩ := bind_eq_ok.1 made
    obtain ⟨ps', more, ⟨⟩⟩ := bind_eq_ok.1 later
    obtain ⟨q, -, later⟩ := bind_eq_ok.1 more
    obtain ⟨ps'', -, ⟨⟩⟩ := bind_eq_ok.1 later
    exact several

theorem buildList_half (made' : buildList others = .ok qs) :
    buildList (half kind recipes others) = .ok (kind.half ps qs).toList :=
  buildList_join kind (buildList_append (buildList_gather kind made) (buildList_join kind made'))

end

/-- What is built alone is what there is, or else the other recipe's. -/
theorem build_headD {recipes : List Recipe} {other : Recipe} {made : Option Predicate}
    {p : Predicate} (parts : buildList recipes = .ok made.toList)
    (otherwise : other.build = .ok p) :
    (recipes.headD other).build = .ok (made.getD p) := by
  cases recipes with
  | nil =>
    cases made with
    | none => exact otherwise
    | some q => exact nomatch Except.ok.inj parts
  | cons recipe recipes =>
    obtain ⟨q, first, parts⟩ := bind_eq_ok.1 parts
    obtain ⟨qs, -, whole⟩ := bind_eq_ok.1 parts
    cases made with
    | none => exact nomatch Except.ok.inj whole
    | some q' =>
      obtain rfl : q = q' := (List.cons.inj (Except.ok.inj whole)).1
      exact first

theorem build_comparison (field : String) (relation : Relation) (operand : Operand) :
    (comparison field relation.symbol operand).build =
      .ok (.compare field relation operand) := by
  rw [build, Predicate.comparison, Relation.ofSymbol?_symbol]

end Recipe

namespace Selection

open Recipe

/-- The two halves in a group of their own, if the selection speaks of any event. -/
def eventRecipes (s : Selection) : List Recipe :=
  gather .all
    (half .any (s.includedIds.map (testId "="))
        (s.includedSpans.map (testBounds .all ">=" "<=")) ++
      half .all (s.excludedIds.map (testId "!="))
        (s.excludedSpans.map (testBounds .any "<" ">")))

def severityRecipe (limit : Int) : Recipe :=
  group .all [comparison severityField ">" (.int 0), comparison severityField "<=" (.int limit)]

/-- The steps to the predicate of the selection under the limit. -/
def recipe (s : Selection) (limit : Int) : Recipe :=
  if limit = -1 then s.eventRecipes.headD (group .all [everything])
  else group .all (severityRecipe limit :: s.eventRecipes)

theorem buildList_ids (relation : Relation) (ids : List String) :
    buildList (ids.map (testId relation.symbol)) = .ok (ids.map (compareId relation)) :=
  buildList_map (fun _ => build_comparison idField relation _) ids

theorem build_bounds (kind : Connective) (toFirst toLast : Relation) (span : Span) :
    (testBounds kind toFirst.symbol toLast.symbol span).build =
      .ok (Predicate.group kind (compareId toFirst span.first) [compareId toLast span.last]) :=
  build_group kind (buildList_cons (build_comparison idField toFirst _)
    (buildList_cons (build_comparison idField toLast _) rfl)) rfl

theorem buildList_eventRecipes (s : Selection) :
    buildList s.eventRecipes = .ok s.events.toList := by
  have included := buildList_half .any (buildList_ids .eq s.includedIds)
    (buildList_map (build_bounds .all .ge .le) s.includedSpans)
  have excluded := buildList_half .all (buildList_ids .ne s.excludedIds)
    (buildList_map (build_bounds .any .lt .gt) s.excludedSpans)
  rw [events_eq, includedHalf_eq, excludedHalf_eq]
  exact buildList_gather .all (buildList_append included excluded)

/-- No step fails: there is always something to put into a group. -/
theorem build_recipe (s : Selection) (limit : Int) :
    (s.recipe limit).build = .ok (s.predicate limit) := by
  have events := s.buildList_eventRecipes
  unfold recipe predicate
  split
  · exact build_headD events (build_group .all (buildList_cons rfl rfl) rfl)
  · have severity : (severityRecipe limit).build = .ok (severityPart limit) :=
      build_group .all (buildList_cons (build_comparison severityField .gt _)
        (buildList_cons (build_comparison severityField .le _) rfl)) rfl
    exact build_group .all (buildList_cons severity events) rfl

end Selection
end EventFilter
