import TemplateFunctions.Proofs.Locality

/-!
Templates in parts: a template that ends with a line may be compiled on its own, and what follows
it in the session that it leaves.

The split may not fall into a group: a directive whose group is still open at the end of the first
part would wait for more text.

* `GroupsClosed`: no directive of the first part waits for the end of its group.
* `Runs.extend`: a run in the first part stays a run when the second part follows.
* `Fails.extend`: so does a failing site.
* `compile_append`: **compiling the whole is compiling the parts one after the other.**
-/

namespace TemplateFunctions

namespace Template

/-- **No open groups**: whenever the compilation of `p` meets a site with blanks and an opening
parenthesis behind its name, the group is balanced in `p`. -/
def GroupsClosed (s : Session) (p : Text) : Prop :=
  ∀ mid before site rest, Meets s p mid before site rest →
    OpensGroup (site.tail ++ rest) → site.argument ≠ none

variable {s mid after : Session} {p before u w rest : Text}

/-- A run in a text that ends with a line stays one when more text follows. -/
lemma Runs.extend {w₀ : Text} (v : Text) (h : Runs mid before u w after rest)
    (hline : p.getLast? = some '\n') (hclosed : GroupsClosed s p) (hp : p = before ++ (u ++ rest))
    (hbefore : Runs s [] before w₀ mid (u ++ rest)) : Runs mid before u w after (rest ++ v) := by
  induction h generalizing w₀ with
  | nil => exact .nil
  | @cons mid mid' after before u u' r w rest htakes _ ih =>
      rw [List.append_assoc] at hp hbefore
      have hend : (u ++ (u' ++ rest)).getLast? = some '\n' := by
        have hne : u ++ (u' ++ rest) ≠ [] := by simp [htakes.ne_nil]
        rw [← hline, hp, List.getLast?_append_of_ne_nil before hne]
      have hnext : Takes mid before u r mid' (u' ++ (rest ++ v)) := by
        rw [← List.append_assoc]
        refine htakes.extend v hend ?_
        rintro site rfl hstands
        exact hclosed mid before site _ ⟨hp, ⟨w₀, hbefore⟩, hstands⟩
      refine .cons hnext (ih ?_ (hbefore.append (.single htakes)))
      rw [hp, List.append_assoc]

/-- A failing site in a text that ends with a line fails when more text follows. -/
lemma Fails.extend {site : Site} {cause : Declaration.Unnamed} (v : Text)
    (hline : (site.source ++ rest).getLast? = some '\n')
    (hclosed : OpensGroup (site.tail ++ rest) → site.argument ≠ none)
    (h : Fails mid before site rest cause) : Fails mid before site (rest ++ v) cause :=
  ⟨h.stands.extend v (getLast?_of_append hline h.stands.getLast?_source_ne) hclosed, h.refused⟩

/-- A text that ends with a line in front does not change whether a word character ends a text. -/
lemma endsInWord_behind_line (hline : p.getLast? = some '\n') :
    endsInWord u = endsInWord (p ++ u) := by
  cases u with
  | nil =>
      rw [List.append_nil, endsInWord, endsInWord, hline]
      rfl
  | cons c u => rw [endsInWord_append p (List.cons_ne_nil c u)]

/-- The second part is run behind the first one as it is on its own. -/
lemma Runs.behind_line (hline : p.getLast? = some '\n') (h : Runs mid [] u w after rest) :
    Runs mid p u w after rest := by
  refine h.congr_before ?_
  rw [endsInWord_behind_line hline, List.append_nil]

/-- The second part fails behind the first one where it fails on its own. -/
lemma Fails.behind_line {site : Site} {cause : Declaration.Unnamed}
    (hline : p.getLast? = some '\n') (h : Fails mid u site rest cause) :
    Fails mid (p ++ u) site rest cause :=
  ⟨h.stands.congr_before (endsInWord_behind_line hline), h.refused⟩

/-- A first part that compiles is run through in the whole. -/
lemma runs_of_compile_eq_ok {out : Text} (v : Text) (hline : p.getLast? = some '\n')
    (hclosed : GroupsClosed s p) (h : s.compile p = (.ok out, mid)) : Runs s [] p out mid v := by
  have hrun := compile_eq_ok_iff.1 h
  exact hrun.extend v hline hclosed (List.append_nil p).symm .nil

/-- A first part that fails makes the whole fail in the same way. -/
lemma compile_append_of_error {fault : Fault} (r : Text) (hline : p.getLast? = some '\n')
    (hclosed : GroupsClosed s p) (h : s.compile p = (.error fault, mid)) :
    s.compile (p ++ r) = (.error fault, mid) := by
  obtain ⟨u, w, site, rest, cause, hp, hrun, hfails, rfl⟩ := compile_eq_error_iff.1 h
  have hmeets : Meets s p mid u site rest := ⟨hp, ⟨w, hrun⟩, hfails.stands⟩
  have hend : (site.source ++ rest).getLast? = some '\n' := by
    have hne : site.source ++ rest ≠ [] := by simp [Site.source_eq]
    rw [← hline, hp, List.getLast?_append_of_ne_nil u hne]
  have hrun' := hrun.extend r hline hclosed hp .nil
  have hfails' := hfails.extend r hend (hclosed mid u site rest hmeets)
  rw [List.append_assoc] at hrun'
  rw [hp, List.append_assoc, List.append_assoc]
  exact compile_of_fails hrun' hfails'

/-- A first part that compiles and a second one that compiles behind it. -/
lemma compile_append_of_ok {out out' r : Text} (hline : p.getLast? = some '\n')
    (hclosed : GroupsClosed s p) (h : s.compile p = (.ok out, mid))
    (h' : mid.compile r = (.ok out', after)) :
    s.compile (p ++ r) = (.ok (out ++ out'), after) := by
  have hfirst := runs_of_compile_eq_ok (r ++ []) hline hclosed h
  have hsecond := (compile_eq_ok_iff.1 h').behind_line hline
  exact compile_of_runs (hfirst.append hsecond)

/-- A first part that compiles and a second one that fails behind it: the lines of the first part
count. -/
lemma compile_append_of_ok_error {out r : Text} {fault : Fault} (hline : p.getLast? = some '\n')
    (hclosed : GroupsClosed s p) (h : s.compile p = (.ok out, mid))
    (h' : mid.compile r = (.error fault, after)) :
    s.compile (p ++ r) = (.error { fault with line := fault.line + p.count '\n' }, after) := by
  obtain ⟨u, w, site, rest, cause, rfl, hrun, hfails, rfl⟩ := compile_eq_error_iff.1 h'
  have hfirst := runs_of_compile_eq_ok (u ++ (site.source ++ rest)) hline hclosed h
  have hwhole := hfirst.append (hrun.behind_line hline)
  rw [← List.append_assoc, compile_of_fails hwhole (hfails.behind_line hline),
    Text.lineAfter_append, Nat.add_comm (p.count '\n')]

/-- **Compiling in parts**: if the first part ends with a line and leaves no group open, the whole
compiles as the first part and then, in the session that it leaves, the second part. A fault of the
first part is the fault of the whole; a fault of the second part stands as many lines further down
as the first part has. -/
theorem compile_append (s : Session) (p r : Text) (hline : p.getLast? = some '\n')
    (hclosed : GroupsClosed s p) :
    s.compile (p ++ r) =
      match s.compile p with
      | (.error fault, mid) => (.error fault, mid)
      | (.ok out, mid) =>
        match mid.compile r with
        | (.ok out', after) => (.ok (out ++ out'), after)
        | (.error fault, after) =>
          (.error { fault with line := fault.line + p.count '\n' }, after) := by
  rcases h : s.compile p with ⟨fault | out, mid⟩
  · exact compile_append_of_error r hline hclosed h
  · rcases h' : mid.compile r with ⟨fault | out', after⟩
    · simpa only [h'] using compile_append_of_ok_error hline hclosed h h'
    · simpa only [h'] using compile_append_of_ok hline hclosed h h'

/-- No group is open behind a single `@` that has a name and a balanced group behind it. -/
lemma groupsClosed_of_single {s : Session} {q name rest u : Text} {a : Argument} (hq : '@' ∉ q)
    (hsplit : Identifier.split? q = some (name, rest)) (hargument : argument? rest = some (a, u)) :
    GroupsClosed s ('@' :: q) := by
  intro mid before site r hmeets _ hnone
  have htext := hmeets.text
  -- the site begins at an `@`, and the only one is the first character
  have hbefore : before = [] := by
    cases before with
    | nil => rfl
    | cons c b =>
        rw [Site.source_eq, List.cons_append, List.cons.injEq] at htext
        exact absurd (htext.2 ▸ by simp) hq
  rw [hbefore, List.nil_append, Site.source_eq, List.cons_append, List.cons.injEq,
    List.append_assoc] at htext
  have hsame := hsplit.symm.trans
    (Identifier.split?_eq_some_iff.2 ⟨hmeets.stands.leads, htext.2⟩)
  have hargued := hmeets.stands.argued
  obtain ⟨hwell, hrest⟩ := argument?_eq_some_iff.1 hargument
  rw [Option.some.injEq, Prod.mk.injEq] at hsame
  simp only [Site.Argued, hnone] at hargued
  refine hargued a u hwell ?_
  rw [← hrest, hsame.2, Site.tail, hnone]
  rfl

/-- A line that declares a function, and two lines that call it and declare badly: the fault stands
on the third line. -/
theorem compile_append_declaration :
    "@function(f($a))\n".toList.getLast? = some '\n' ∧
      GroupsClosed (.start (.ofTarget .php none) .standard) "@function(f($a))\n".toList ∧
      ((Session.start (.ofTarget .php none) .standard).compile
          ("@function(f($a))\n".toList ++ "@f(1)\n@function(9)\n".toList)).1
        = .error ⟨"function".toList, 3, ⟨"9".toList⟩⟩ := by
  have hline : "@function(f($a))\n".toList.getLast? = some '\n' := by decide
  have hsplit : Identifier.split? "function(f($a))\n".toList
      = some ("function".toList, "(f($a))\n".toList) := by decide
  have hargument : argument? "(f($a))\n".toList = some (⟨[], "f($a)".toList⟩, "\n".toList) := by
    decide
  have hclosed : GroupsClosed (.start (.ofTarget .php none) .standard)
      "@function(f($a))\n".toList := by
    have htext : "@function(f($a))\n".toList = '@' :: "function(f($a))\n".toList := by decide
    rw [htext]
    exact groupsClosed_of_single (by decide) hsplit hargument
  refine ⟨hline, hclosed, ?_⟩
  rw [compile_append _ _ _ hline hclosed]
  decide +kernel

end Template

end TemplateFunctions
