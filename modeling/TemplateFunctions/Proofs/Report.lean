import Mathlib.Data.List.Basic
import TemplateFunctions.Declaration.Report
import TemplateFunctions.Proofs.Grammar

/-!
The report on a declaration, read back.

The report writes a name and a parameter list on two labelled lines. No line break can be in either
of them, however many there are in the text, so the lines can be told apart again.

* `ofLines?`: the declaration that two labelled lines give.
* `lines_lines`, `ofLines?_lines`: the two lines of a report, and **what is read back from them.**
* `lines_eq_lines_iff`: declarations on single lines are written differently.
* `report_read_back`: what follows for the reports on texts.
-/

namespace TemplateFunctions

namespace Declaration

/-! ### Single lines -/

/-- A declaration whose name and parameters stand on one line each. -/
structure SingleLined (d : Declaration) : Prop where
  name : '\n' ∉ d.name
  params : '\n' ∉ d.params

/-- **What is read from a text stands on single lines**, wherever the text has its line breaks. -/
lemma singleLined_of_read {t : Text} {d : Declaration} (h : read t = .ok d) : d.SingleLined := by
  refine ⟨Identifier.notMem_of_isPart (isIdentifier_of_read h) (by decide), ?_⟩
  rw [read] at h
  split at h
  · cases h
    exact newline_notMem_paramsOf t
  · cases h

/-! ### Reading the lines -/

/-- The declaration that two lines give, each behind its label. -/
def ofLines? (t : Text) : Option Declaration :=
  match t.lines with
  | [first, second] =>
    (first.dropPrefix? nameLabel).bind fun name =>
      (second.dropPrefix? paramsLabel).map fun params => ⟨name, params⟩
  | _ => none

/-- There are exactly two lines. -/
lemma lines_lines {d : Declaration} (h : d.SingleLined) :
    Text.lines d.lines = [nameLabel ++ d.name, paramsLabel ++ d.params] := by
  have hname : '\n' ∉ nameLabel ++ d.name := by
    rw [List.mem_append, not_or]
    exact ⟨by decide, h.name⟩
  have hparams : '\n' ∉ paramsLabel ++ d.params := by
    rw [List.mem_append, not_or]
    exact ⟨by decide, h.params⟩
  rw [lines, Text.lines_append hname, Text.lines_of_notMem hparams]

/-- **The two lines give the declaration back.** -/
lemma ofLines?_lines {d : Declaration} (h : d.SingleLined) : ofLines? d.lines = some d := by
  have hname : (nameLabel ++ d.name).dropPrefix? nameLabel = some d.name :=
    List.dropPrefix?_append_of_beq _ BEq.rfl
  have hparams : (paramsLabel ++ d.params).dropPrefix? paramsLabel = some d.params :=
    List.dropPrefix?_append_of_beq _ BEq.rfl
  simp only [ofLines?, lines_lines h, hname, hparams, Option.bind_some, Option.map_some]

/-- Declarations on single lines are written differently. -/
lemma lines_eq_lines_iff {d d' : Declaration} (h : d.SingleLined) (h' : d'.SingleLined) :
    d.lines = d'.lines ↔ d = d' := by
  constructor
  · intro heq
    have hback := ofLines?_lines h
    rw [heq, ofLines?_lines h', Option.some.injEq] at hback
    exact hback.symm
  · exact congrArg lines

/-! ### Reports on texts -/

/-- The plain report on a text is the two lines of what is read from it. -/
lemma report_false (t : Text) : report t false = (read t).map lines := rfl

/-- **A report can be read back.** A text that declares something declares an identifier, and
parameters without a line break; its report has exactly two lines, and these give the name and the
parameters back when the labels are taken off. So two texts have the same report exactly if the same
is read from them. -/
theorem report_read_back :
    (∀ t d, read t = .ok d →
      d.name ≠ [] ∧ isIdentifier d.name = true ∧ '\n' ∉ d.params ∧
      report t false = .ok d.lines ∧
      Text.lines d.lines = [nameLabel ++ d.name, paramsLabel ++ d.params] ∧
      ofLines? d.lines = some d) ∧
    ∀ t t', report t false = report t' false ↔ read t = read t' := by
  constructor
  · intro t d h
    have hsingle := singleLined_of_read h
    have hname := isIdentifier_of_read h
    refine ⟨?_, hname, hsingle.params, ?_, lines_lines hsingle, ofLines?_lines hsingle⟩
    · intro hnil
      rw [hnil] at hname
      cases hname
    · rw [report_false, h]
      rfl
  · intro t t'
    rw [report_false, report_false]
    cases h : read t with
    | error u => cases read t' <;> simp [Except.map]
    | ok d =>
        cases h' : read t' with
        | error u => simp [Except.map]
        | ok d' =>
            simp only [Except.map, Except.ok.injEq]
            exact lines_eq_lines_iff (singleLined_of_read h) (singleLined_of_read h')

/-- A text with line breaks everywhere, and with the label of the parameters among them. -/
theorem report_read_back_of_labels :
    let t := "\n card\nparams: x\n(a) ((b)\n(c)".toList
    read t = .ok ⟨"card".toList, "a) ((b".toList⟩ ∧
      report t false = .ok "name:   card\nparams: a) ((b".toList ∧
      ofLines? "name:   card\nparams: a) ((b".toList = some ⟨"card".toList, "a) ((b".toList⟩ := by
  intro t
  have hread : read t = .ok ⟨"card".toList, "a) ((b".toList⟩ := by decide
  obtain ⟨-, -, -, hreport, -, hback⟩ := report_read_back.1 t _ hread
  exact ⟨hread, hreport, hback⟩

end Declaration

end TemplateFunctions
