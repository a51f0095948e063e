import EventFilter.Cli.Report
import EventFilter.Proofs.Outcome
import Mathlib.Data.List.TakeDrop

/-! Tables without markup. A name without an opening bracket holds no tag, so it is in no style, and
no line that it is wrapped into is. Only a style can be wrong, so such a table is always shown. -/
namespace EventFilter

open Outcome

namespace Text

namespace Styled

def IsPlain (styled : Styled) : Prop := styled.spans = []

theorem IsPlain.fault {styled : Styled} (plain : styled.IsPlain) : styled.fault? = none := by
  rw [fault?, plain]
  rfl

theorem isPlain_overPieces (gap offset : Nat) (pieces : List (List Char)) :
    ∀ piece ∈ overPieces [] gap offset pieces, piece.IsPlain := by
  induction pieces generalizing offset with
  | nil => nofun
  | cons piece pieces ih => exact List.forall_mem_cons.2 ⟨rfl, ih _⟩

theorem IsPlain.divideInto {styled : Styled} (plain : styled.IsPlain) (gap : Nat)
    (pieces : List (List Char)) : ∀ piece ∈ styled.divideInto gap pieces, piece.IsPlain := by
  unfold Styled.divideInto
  split
  · exact List.forall_mem_cons.2 ⟨plain, nofun⟩
  · rw [show styled.spans = [] from plain]
    exact isPlain_overPieces gap 0 pieces

theorem isPlain_concat {parts : List Styled} (plain : ∀ part ∈ parts, part.IsPlain) :
    (concat parts).IsPlain := by
  induction parts with
  | nil => rfl
  | cons part parts ih =>
    obtain ⟨first, rest⟩ := List.forall_mem_cons.1 plain
    have behind := ih rest
    simp only [IsPlain] at first behind
    simp only [IsPlain, concat, first, behind, List.map_nil, List.append_nil]

theorem isPlain_fillParts (column : Nat) {parts : List Styled}
    (plain : ∀ part ∈ parts, part.IsPlain) : ∀ part ∈ fillParts column parts, part.IsPlain := by
  induction parts generalizing column with
  | nil => nofun
  | cons part parts ih =>
    obtain ⟨first, rest⟩ := List.forall_mem_cons.1 plain
    cases parts with
    | nil => exact plain
    | cons next parts =>
      have extended (added : Nat) : (part.extend added).IsPlain := by
        simp only [IsPlain] at first
        simp only [IsPlain, extend, first, List.map_nil]
      exact List.forall_mem_cons.2 ⟨extended _, ih _ rest⟩

theorem IsPlain.expandTabs {line : Styled} (plain : line.IsPlain) : line.expandTabs.IsPlain :=
  isPlain_concat (isPlain_fillParts 0 (plain.divideInto 0 _))

theorem IsPlain.cropTo {styled : Styled} (plain : styled.IsPlain) (text : List Char) :
    (styled.cropTo text).IsPlain := by
  rw [IsPlain, Styled.cropTo, plain]
  rfl

theorem IsPlain.trimTo {line : Styled} (plain : line.IsPlain) (limit : Nat) :
    (line.trimTo limit).IsPlain := by
  simp only [Styled.trimTo]
  split
  · exact plain
  · exact plain.cropTo _

theorem IsPlain.truncate {line : Styled} (plain : line.IsPlain) (limit : Nat)
    (overflow : Overflow) : (line.truncate limit overflow).IsPlain := by
  simp only [Styled.truncate]
  split
  · exact plain
  · split
    · exact plain.cropTo _
    · exact plain

end Styled

open Styled

variable {cell : Styled} (limit : Nat) (overflow : Overflow)

theorem isPlain_wrap (plain : cell.IsPlain) :
    ∀ line ∈ wrap limit overflow cell, line.IsPlain := by
  intro line mem
  obtain ⟨long, inLines, mem⟩ := List.mem_flatMap.1 mem
  have plain := plain.divideInto 1 _ long inLines
  obtain ⟨part, inParts, rfl⟩ := List.mem_map.1 mem
  exact ((plain.expandTabs.divideInto 0 _ part inParts).trimTo limit).truncate limit overflow

theorem cellLines_plain (plain : cell.IsPlain) :
    ∃ lines, cellLines limit overflow cell = .ok lines := by
  have sound : (wrap limit overflow cell).findSome? Styled.fault? = none := by
    rw [List.findSome?_eq_none_iff]
    exact fun line mem => (isPlain_wrap limit overflow plain line mem).fault
  rw [cellLines]
  split
  · exact ⟨[], rfl⟩
  · simp only [sound]
    exact ⟨_, rfl⟩

theorem row_plain (left right : Nat) {name value : Styled} (plain : name.IsPlain)
    (plain' : value.IsPlain) : ∃ lines, row left right name value = .ok lines := by
  obtain ⟨names, first⟩ := cellLines_plain (left - margin) .ellipsis plain
  obtain ⟨values, second⟩ := cellLines_plain (right - margin) .fold plain'
  rw [row, first, second, ok_bind, ok_bind]
  split <;> exact ⟨_, rfl⟩

theorem table_plain {rows : List (Styled × String)} (plain : ∀ row ∈ rows, row.1.IsPlain) :
    ∃ text, table rows = .ok text := by
  rw [table]
  generalize layout _ = widths
  obtain ⟨left, right⟩ := widths
  refine bind_total (P := fun lines => ∀ line ∈ lines, True) (mapM_total fun cells mem => ?_)
    fun lines _ => ⟨_, rfl⟩
  obtain ⟨⟨name, value⟩, inRows, rfl⟩ := List.mem_map.1 mem
  have unstyled : (Styled.plain (withoutControls value.toList)).IsPlain := rfl
  obtain ⟨lines, shown⟩ := row_plain left right (plain _ inRows) unstyled
  exact ⟨lines, shown, trivial⟩

theorem tagBody?_none {cs : List Char} (none : '[' ∉ cs) : tagBody? cs = .none := by
  unfold tagBody?
  split
  · exact absurd List.mem_cons_self none
  · rfl

theorem plainPiece_plain (before : List Char) :
    ∀ piece ∈ plainPiece before, ∃ text, piece = .plain text := by
  unfold plainPiece
  split
  · nofun
  · exact List.forall_mem_cons.2 ⟨⟨_, rfl⟩, nofun⟩

theorem piecesWithin_plain {fuel position : Nat} {before cs : List Char} (none : '[' ∉ cs) :
    ∀ piece ∈ piecesWithin fuel position before cs, ∃ text, piece = .plain text := by
  induction fuel generalizing position before cs with
  | zero => exact plainPiece_plain _
  | succ fuel ih =>
    cases cs with
    | nil => exact plainPiece_plain _
    | cons c cs =>
      have behind : '[' ∉ (c :: cs).dropWhile (· = '\\') :=
        fun mem => none ((List.dropWhile_sublist _).subset mem)
      simp only [piecesWithin, List.span_eq_takeWhile_dropWhile, tagBody?_none behind]
      split
      · exact ih fun mem => none (List.mem_cons_of_mem c mem)
      · exact ih behind

theorem foldlM_plain {pieces : List Piece} (plain : ∀ piece ∈ pieces, ∃ text, piece = .plain text)
    (state : Rendering) : ∃ text, pieces.foldlM Rendering.feed state = .ok { state with text } := by
  induction pieces generalizing state with
  | nil => exact ⟨state.text, rfl⟩
  | cons piece pieces ih =>
    obtain ⟨⟨text, rfl⟩, rest⟩ := List.forall_mem_cons.1 plain
    rw [List.foldlM_cons, Rendering.feed, ok_bind]
    exact ih rest _

theorem renderMarkup_plain {name : String} (none : '[' ∉ name.toList) :
    ∃ styled, renderMarkup name = .ok styled ∧ styled.IsPlain := by
  obtain ⟨text, fed⟩ := foldlM_plain (piecesWithin_plain none) {}
  refine ⟨⟨text, []⟩, ?_, rfl⟩
  rw [renderMarkup, pieces, fed, ok_bind]
  show Except.ok (Rendering.styled { text := text }) = _
  simp [Rendering.styled]

end Text

namespace Cli.Report

theorem written_of_writable {value : Json} (writable : value.isWritable = true) :
    written value = .ok value.display := by
  rw [written, if_pos writable]

theorem cell_of_writable {value : Json} (writable : value.isWritable = true) :
    ∃ text, cell value = .ok text := by
  unfold cell
  split
  · exact ⟨"", rfl⟩
  · exact ⟨_, written_of_writable writable⟩

/-- Members whose names hold no markup and whose numbers are not too long can always be shown. -/
theorem members_plain {rows : List (String × Json)} (none : ∀ row ∈ rows, '[' ∉ row.1.toList)
    (writable : ∀ row ∈ rows, row.2.isWritable = true) : ∃ text, members rows = .ok text := by
  refine bind_total (P := fun cells => ∀ cell ∈ cells, '[' ∉ cell.1.toList)
    (mapM_total fun row mem => ?_) fun cells plain => ?_
  · obtain ⟨text, shown⟩ := cell_of_writable (writable row mem)
    exact ⟨_, bind_eq_ok.2 ⟨text, shown, rfl⟩, none row mem⟩
  · refine bind_total (P := fun cells => ∀ cell ∈ cells, cell.1.IsPlain)
      (mapM_total fun row mem => ?_) fun cells plain => ?_
    · obtain ⟨styled, read, unstyled⟩ := Text.renderMarkup_plain (plain row mem)
      exact ⟨_, bind_eq_ok.2 ⟨styled, mapError_eq_ok.2 read, rfl⟩, unstyled⟩
    · obtain ⟨text, shown⟩ := Text.table_plain plain
      exact ⟨text, mapError_eq_ok.2 shown⟩

end Cli.Report
end EventFilter
