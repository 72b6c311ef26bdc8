import Fieldwise.CommandLine.ErrorStream
import Fieldwise.Proofs.Text.Splitting
import Mathlib.Algebra.Order.BigOperators.Group.List
import Mathlib.Algebra.Order.Group.Nat

set_option autoImplicit false

/-! # The lines on the error stream

A problem is written as it is, with a newline after it, and counted whether it could be written or
not (`ErrorStream.reportAll_eq`). So the stream holds the lines of the problems that could be
written, one after the other, and one problem makes one line only if it holds no newline. By
`ErrorStream.reportAll_lines` that is the exact condition; `twoLineProblem_split` is a problem that
makes two lines. -/

namespace Fieldwise

/-- A problem fits on one line: there is no newline in its message, nor in the name of the file that
it points at. -/
def Diagnostic.FitsOneLine (d : Diagnostic) : Prop :=
  '\n' ∉ d.message.toList ∧ ∀ anchor, d.anchor = some anchor → '\n' ∉ anchor.file.toList

/-- The number of a line is written in digits, so a newline in a problem that is shown comes from
its message or from the name of a file. -/
theorem Diagnostic.newline_not_mem_text_iff (d : Diagnostic) :
    '\n' ∉ d.text.toList ↔ d.FitsOneLine := by
  have hdigits (n : Nat) : '\n' ∉ Nat.toDigits 10 n := by
    intro hmem
    have hdigit := Nat.isDigit_of_mem_toDigits (by decide) (by decide) hmem
    cases hdigit
  unfold text FitsOneLine
  cases d.anchor with
  | none => simp
  | some anchor => simp [Anchor.text, hdigits, and_comm]

namespace CommandLine.ErrorStream

/-! ## One problem after another -/

/-- The problems that could be written. -/
def delivered (problems : List (Diagnostic × Option String)) : List Diagnostic :=
  (problems.filter fun p => p.2.isNone).map Prod.fst

/-- The reasons for which the others could not. -/
def lost (problems : List (Diagnostic × Option String)) : List String :=
  problems.filterMap Prod.snd

variable (s : ErrorStream) (d : Diagnostic) (problems : List (Diagnostic × Option String))

/-- **What a run of reports comes to.** Each is counted; those that could be written are, in order,
and of the others the log says why. -/
theorem reportAll_eq : s.reportAll problems =
    { written := s.written ++ String.join ((delivered problems).map errorLine)
      reported := s.reported + problems.length
      events := s.events ++ (lost problems).map .messageLost } := by
  induction problems generalizing s with
  | nil => simp [reportAll, delivered, lost]
  | cons problem rest ih =>
      obtain ⟨d, failure⟩ := problem
      have hstep : s.reportAll ((d, failure) :: rest) = (s.report failure d).reportAll rest := rfl
      rw [hstep, ih]
      cases failure with
      | none =>
          have hdelivered : delivered ((d, none) :: rest) = d :: delivered rest := rfl
          have hlost : lost ((d, none) :: rest) = lost rest := rfl
          rw [hdelivered, hlost, report]
          simp [String.append_assoc]
          omega
      | some reason =>
          have hdelivered : delivered ((d, some reason) :: rest) = delivered rest := rfl
          have hlost : lost ((d, some reason) :: rest) = reason :: lost rest := rfl
          rw [hdelivered, hlost, report]
          simp
          omega

/-! ## Lines -/

/-- A problem as it is shown, without the newline after it. -/
def shown (d : Diagnostic) : String := "error: " ++ d.text

theorem newline_not_mem_shown_iff (d : Diagnostic) :
    '\n' ∉ (shown d).toList ↔ d.FitsOneLine := by
  rw [← d.newline_not_mem_text_iff, shown, String.toList_append, List.mem_append, not_or]
  exact and_iff_right (by decide)

/-- The lines on a fresh stream are those of the problems that could be written. -/
theorem splitText_written :
    Text.splitText '\n' (reportAll {} problems).written
      = ((delivered problems).map shown).flatMap (Text.splitText '\n') ++ [""] := by
  rw [reportAll_eq]
  dsimp only
  rw [String.empty_append, ← Text.splitText_join_ended, List.map_map]
  rfl

/-- Texts have as many pieces as there are texts just if no text holds the separator. -/
theorem length_pieces_eq_iff (separator : Char) (texts : List String) :
    (texts.flatMap (Text.splitText separator)).length = texts.length
      ↔ ∀ text ∈ texts, separator ∉ text.toList := by
  have hlength : (texts.flatMap (Text.splitText separator)).length
      = texts.length + (texts.map fun text => text.toList.count separator).sum := by
    induction texts with
    | nil => rfl
    | cons text rest ih =>
        rw [List.flatMap_cons, List.length_append, ih, Text.length_splitText, List.map_cons,
          List.sum_cons, List.length_cons]
        omega
  rw [hlength, Nat.add_eq_left, List.sum_eq_zero_iff, List.forall_mem_map]
  exact forall₂_congr fun text _ => List.count_eq_zero

/-- **A problem takes one line just if it fits on one.** Whatever the problems are, and whichever of
them could not be written: all of them are counted; the lines are those of the problems that could
be written, in order, each problem beginning with `error: `; and there is one line for each of these
problems, the whole of it, just if none of them holds a newline, which is also the only way to come
to their number. -/
theorem reportAll_lines :
    (reportAll {} problems).reported = problems.length
      ∧ Text.splitText '\n' (reportAll {} problems).written
        = ((delivered problems).map shown).flatMap (Text.splitText '\n') ++ [""]
      ∧ (Text.splitText '\n' (reportAll {} problems).written
          = (delivered problems).map shown ++ [""] ↔ ∀ d ∈ delivered problems, d.FitsOneLine)
      ∧ ((Text.splitText '\n' (reportAll {} problems).written).length
          = (delivered problems).length + 1 ↔ ∀ d ∈ delivered problems, d.FitsOneLine) := by
  have hfits : (∀ line ∈ (delivered problems).map shown, '\n' ∉ line.toList)
      ↔ ∀ d ∈ delivered problems, d.FitsOneLine := by
    rw [List.forall_mem_map]
    exact forall₂_congr fun d _ => newline_not_mem_shown_iff d
  have hlength : (Text.splitText '\n' (reportAll {} problems).written).length
      = (delivered problems).length + 1 ↔ ∀ d ∈ delivered problems, d.FitsOneLine := by
    have hiff := length_pieces_eq_iff '\n' ((delivered problems).map shown)
    rw [List.length_map] at hiff
    rw [splitText_written, List.length_append, List.length_singleton, Nat.add_right_cancel_iff,
      hiff, hfits]
  refine ⟨?_, splitText_written problems, ⟨fun h => ?_, fun h => ?_⟩, hlength⟩
  · rw [reportAll_eq]
    exact Nat.zero_add _
  · refine hlength.mp ?_
    rw [h, List.length_append, List.length_map, List.length_singleton]
  · have hlines := Text.splitText_join_lines (hfits.mpr h)
    rw [Text.splitText_join_ended] at hlines
    rw [splitText_written, hlines]

/-- A reason with two lines makes two lines of one problem, of which the second says nothing of an
error. -/
theorem twoLineProblem_split :
    (reportAll {} [(Diagnostic.generationFailed "disk\nfull", none)]).reported = 1
      ∧ Text.splitText '\n'
          (reportAll {} [(Diagnostic.generationFailed "disk\nfull", none)]).written
        = ["error: Couldn't generate class: disk", "full", ""] := by
  decide +kernel

end CommandLine.ErrorStream

end Fieldwise
