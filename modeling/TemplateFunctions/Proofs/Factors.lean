import TemplateFunctions.Proofs.Run

/-!
The reference reading of a template.

A template that compiles is cut into factors `t₀ s₁ t₁ … sₙ tₙ`. The gaps `tᵢ` hold nothing that
comes alive and are copied; each `sᵢ` is the first live site behind the one before it, in the
session that the sites before it have made; what is written for `sᵢ` takes its place.

* `Quiet`: a gap, passed over from left to right in one session.
* `Factors`: the cut, with the session after it.
* `Factors.unique`: **there is one cut only.**
* `compile_eq_ok_iff_factors`: **a template compiles exactly when it is cut into factors, and the
  cut gives the compiled text and the session.**
-/

namespace TemplateFunctions

namespace Template

/-- A live site with the gap in front of it and the fragment that takes its place. -/
structure Factor where
  gap : Text
  site : Text
  fragment : Text

/-- The text that a factor covers. -/
def Factor.source (f : Factor) : Text := f.gap ++ f.site

/-- The text that is written for a factor. -/
def Factor.output (f : Factor) : Text := f.gap ++ f.fragment

lemma flatMap_source_cons (gap site fragment last : Text) (fs : List Factor) :
    (⟨gap, site, fragment⟩ :: fs).flatMap Factor.source ++ last
      = gap ++ (site ++ (fs.flatMap Factor.source ++ last)) := by
  simp [Factor.source]

/-- **A gap** behind `before` and in front of `rest`: nothing in it comes alive in the session. -/
inductive Quiet (s : Session) : Text → Text → Text → Prop
  | nil {before rest : Text} : Quiet s before [] rest
  | cons {before u v rest : Text} : Passes s before u (v ++ rest) → Quiet s (before ++ u) v rest →
      Quiet s before (u ++ v) rest

/-- **The factors of a template** behind `before`, up to the last gap: every gap runs up to a live
site, and the session goes on as that site leaves it. -/
inductive Factors : Session → Text → List Factor → Text → Session → Prop
  | last {s : Session} {before gap : Text} : Quiet s before gap [] → Factors s before [] gap s
  | site {s mid after : Session} {before gap u r last : Text} {fs : List Factor} :
      Quiet s before gap (u ++ (fs.flatMap Factor.source ++ last)) →
      Replaces s (before ++ gap) u r mid (fs.flatMap Factor.source ++ last) →
      Factors mid (before ++ gap ++ u) fs last after →
      Factors s before (⟨gap, u, r⟩ :: fs) last after

/-! ### From a run to factors -/

/-- Text that is passed over joins the gap behind it. -/
lemma Factors.pass {s after : Session} {before u last : Text} {fs : List Factor}
    (hu : Passes s before u (fs.flatMap Factor.source ++ last))
    (h : Factors s (before ++ u) fs last after) :
    ∃ fs' last', fs'.flatMap Factor.source ++ last' = u ++ (fs.flatMap Factor.source ++ last) ∧
      fs'.flatMap Factor.output ++ last' = u ++ (fs.flatMap Factor.output ++ last) ∧
      Factors s before fs' last' after := by
  cases h with
  | last hq =>
      refine ⟨[], u ++ last, rfl, rfl, .last (.cons ?_ hq)⟩
      simpa using hu
  | @site _ mid _ _ gap v r _ fs hq hr hfs =>
      have hgap : Quiet s before (u ++ gap) (v ++ (fs.flatMap Factor.source ++ last)) := by
        refine .cons ?_ hq
        simpa [Factor.source] using hu
      have hlive : Replaces s (before ++ (u ++ gap)) v r mid
          (fs.flatMap Factor.source ++ last) := by
        rwa [← List.append_assoc]
      have hrest : Factors mid (before ++ (u ++ gap) ++ v) fs last after := by
        rwa [← List.append_assoc before u gap]
      refine ⟨⟨u ++ gap, v, r⟩ :: fs, last, ?_, ?_, .site hgap hlive hrest⟩
      · simp [Factor.source]
      · simp [Factor.output]

/-- A run through to the end cuts the text into factors. -/
lemma factors_of_runs {s after : Session} {before t w : Text} (h : Runs s before t w after []) :
    ∃ fs last, t = fs.flatMap Factor.source ++ last ∧ w = fs.flatMap Factor.output ++ last ∧
      Factors s before fs last after := by
  generalize hr : ([] : Text) = rest at h
  induction h with
  | nil => exact ⟨[], [], rfl, rfl, .last .nil⟩
  | @cons s mid after before u v r w rest htakes _ ih =>
      subst hr
      obtain ⟨fs, last, rfl, rfl, hfs⟩ := ih rfl
      rw [List.append_nil] at htakes
      cases htakes with
      | pass h =>
          obtain ⟨fs', last', hsource, houtput, h'⟩ := hfs.pass h
          exact ⟨fs', last', hsource.symm, houtput.symm, h'⟩
      | replace h =>
          rw [← List.append_nil before] at h hfs
          refine ⟨⟨[], u, r⟩ :: fs, last, ?_, ?_, .site .nil h hfs⟩
          · simp [Factor.source]
          · simp [Factor.output]

/-! ### From factors to a run -/

/-- A gap is run through and copied. -/
lemma Quiet.runs {s : Session} {before gap rest : Text} (h : Quiet s before gap rest) :
    Runs s before gap gap s rest := by
  induction h with
  | nil => exact .nil
  | cons hu _ ih => exact .cons (.pass hu) ih

/-- A text that is cut into factors is run through to its end. -/
lemma Factors.runs {s after : Session} {before last : Text} {fs : List Factor}
    (h : Factors s before fs last after) :
    Runs s before (fs.flatMap Factor.source ++ last) (fs.flatMap Factor.output ++ last) after []
    := by
  induction h with
  | last hq => exact hq.runs
  | @site s mid after before gap u r last fs hq hr _ ih =>
      have hsite : Runs mid (before ++ gap ++ u) (fs.flatMap Factor.source ++ last)
          (fs.flatMap Factor.output ++ last) after [] := ih
      have hlive := Runs.single (.replace hr)
      have hgap := hq.runs
      rw [← List.append_nil (fs.flatMap Factor.source ++ last)] at hlive hgap
      rw [← List.append_assoc u] at hgap
      have := hgap.append (hlive.append hsite)
      simpa [Factor.source, Factor.output] using this

/-! ### One cut -/

/-- What ends a gap: the end of the text, or a text that is replaced. -/
def Ends (s : Session) (before rest : Text) : Prop :=
  rest = [] ∨ ∃ v r after rest', rest = v ++ rest' ∧ Replaces s before v r after rest'

/-- Nothing is passed over where a gap ends. -/
lemma Ends.not_passes {s : Session} {before rest u v : Text} (h : Ends s before rest)
    (hu : Passes s before u v) : rest ≠ u ++ v := by
  rintro rfl
  rcases h with h | ⟨v', r, after, rest', hsame, hr⟩
  · exact hu.ne_nil (List.append_eq_nil_iff.1 h).1
  · exact hu.not_replaces hr hsame

/-- A gap ends at one place only. -/
lemma Quiet.unique {s : Session} {before gap rest gap' rest' : Text} (h : Quiet s before gap rest)
    (h' : Quiet s before gap' rest') (hend : Ends s (before ++ gap) rest)
    (hend' : Ends s (before ++ gap') rest') (hsame : gap ++ rest = gap' ++ rest') : gap = gap' := by
  induction h generalizing gap' with
  | nil =>
      rw [List.append_nil] at hend
      cases h' with
      | nil => rfl
      | cons hu _ =>
          rw [List.nil_append, List.append_assoc] at hsame
          exact absurd hsame (hend.not_passes hu)
  | @cons before u gap rest hu _ ih =>
      rw [List.append_assoc] at hsame
      cases h' with
      | nil =>
          rw [List.append_nil] at hend'
          exact absurd hsame.symm (hend'.not_passes hu)
      | @cons _ u' gap' _ hu' hq' =>
          rw [List.append_assoc] at hsame
          cases hu.unique hu' hsame
          rw [← List.append_assoc] at hend hend'
          rw [ih hq' hend hend' (List.append_cancel_left hsame)]

/-- **Each site is the first live one behind the one before it**: a text is cut into factors in one
way only. -/
theorem Factors.unique {s after after' : Session} {before last last' : Text} {fs fs' : List Factor}
    (h : Factors s before fs last after) (h' : Factors s before fs' last' after')
    (hsame : fs.flatMap Factor.source ++ last = fs'.flatMap Factor.source ++ last') :
    fs = fs' ∧ last = last' := by
  induction h generalizing fs' with
  | @last _ _ gap hq =>
      cases h' with
      | last hq' => exact ⟨rfl, by simpa using hsame⟩
      | site hq' hr' _ =>
          rw [flatMap_source_cons, List.flatMap_nil, List.nil_append,
            ← List.append_nil gap] at hsame
          -- the gaps are the same, so that the live site of the other cut would cover nothing
          cases hq.unique hq' (.inl rfl) (.inr ⟨_, _, _, _, rfl, hr'⟩) hsame
          exact absurd (List.append_cancel_left hsame).symm (by simp [hr'.ne_nil])
  | site hq hr _ ih =>
      rw [flatMap_source_cons] at hsame
      cases h' with
      | last hq' =>
          rw [List.flatMap_nil, List.nil_append, ← List.append_nil last'] at hsame
          cases hq.unique hq' (.inr ⟨_, _, _, _, rfl, hr⟩) (.inl rfl) hsame
          exact absurd (List.append_cancel_left hsame) (by simp [hr.ne_nil])
      | site hq' hr' hfs' =>
          rw [flatMap_source_cons] at hsame
          have hgap := hq.unique hq' (.inr ⟨_, _, _, _, rfl, hr⟩)
            (.inr ⟨_, _, _, _, rfl, hr'⟩) hsame
          subst hgap
          have hsite := List.append_cancel_left hsame
          obtain ⟨rfl, rfl, rfl⟩ := hr.unique hr' hsite
          obtain ⟨rfl, rfl⟩ := ih hfs' (List.append_cancel_left hsite)
          exact ⟨rfl, rfl⟩

/-! ### The reference reading -/

/-- **Compiling is the reference reading**: a template compiles exactly when it is cut into factors,
the compiled text is what the cut writes, and the session is the one behind the last factor. -/
theorem compile_eq_ok_iff_factors (s after : Session) (t out : Text) :
    s.compile t = (.ok out, after) ↔
      ∃ fs last, t = fs.flatMap Factor.source ++ last ∧ out = fs.flatMap Factor.output ++ last ∧
        Factors s [] fs last after := by
  rw [compile_eq_ok_iff]
  constructor
  · exact factors_of_runs
  · rintro ⟨fs, last, rfl, rfl, h⟩
    exact h.runs

end Template

end TemplateFunctions
