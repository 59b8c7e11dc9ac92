import TemplateFunctions.Proofs.Locality

/-!
Faults: where a compilation stops, what it reports and what it leaves behind.

* `Misdeclares`: a compilation meets a declaration that names no function.
* `Misdeclares.fails`: the fault says which site it is, and the session is the one in front of it.
* `Misdeclares.compile_before`: **the template that ends in front of the site compiles, and leaves
  the same session.**
* `compile_fails_iff_misdeclares`: a template fails exactly at such a declaration.
-/

namespace TemplateFunctions

namespace Template

/-- **A bad declaration**: the compilation of `t` meets a site that stands for a declaration and is
given a text that names no function. -/
structure Misdeclares (s : Session) (t : Text) (mid : Session) (before : Text) (site : Site)
    (rest : Text) : Prop where
  meets : Meets s t mid before site rest
  declares : mid.table.get? site.name = some .declare
  unnamed : ∃ cause, Declaration.read site.expression = .error cause

namespace Misdeclares

variable {s mid : Session} {t before rest : Text} {site : Site}

/-- A bad declaration fails, and the cause is the text that it was given. -/
lemma fails (h : Misdeclares s t mid before site rest) :
    Fails mid before site rest ⟨site.expression⟩ := by
  obtain ⟨cause, hread⟩ := h.unnamed
  have hcause : cause = ⟨site.expression⟩ := by
    rw [← Declaration.text_of_read hread]
  rw [hcause] at hread
  exact ⟨h.meets.stands, Session.dispatch_eq_error_iff.2 ⟨h.declares, hread, rfl⟩⟩

/-- The template with a bad declaration fails there. -/
lemma compile_eq (h : Misdeclares s t mid before site rest) :
    s.compile t
      = (.error ⟨site.name, 1 + before.count '\n', ⟨site.expression⟩⟩, mid) := by
  obtain ⟨w, hrun⟩ := h.meets.run
  rw [h.meets.text, compile_of_fails hrun h.fails, Text.lineAfter, Nat.add_comm]

/-- The template that ends in front of a bad declaration compiles. The run up to there does not see
what is cut off. -/
lemma compile_before (h : Misdeclares s t mid before site rest) :
    ∃ out, s.compile before = (.ok out, mid) := by
  obtain ⟨w, hrun⟩ := h.meets.run
  rw [← List.nil_append (site.source ++ rest)] at hrun
  exact ⟨w, compile_of_runs hrun.truncate⟩

end Misdeclares

/-- A template that fails has a bad declaration. -/
lemma exists_misdeclares {s after : Session} {t : Text} {fault : Fault}
    (h : s.compile t = (.error fault, after)) :
    ∃ mid before site rest, Misdeclares s t mid before site rest := by
  obtain ⟨before, w, site, rest, cause, ht, hrun, hfails, -⟩ := compile_eq_error_iff.1 h
  obtain ⟨hd, hread, -⟩ := Session.dispatch_eq_error_iff.1 hfails.refused
  exact ⟨after, before, site, rest, ⟨ht, ⟨w, hrun⟩, hfails.stands⟩, hd, cause, hread⟩

/-- **A failed compilation stops at the first bad declaration and keeps what preceded it**: a
template fails exactly when its compilation meets a bad declaration. The fault then has the name,
the line and the text of that declaration; the template that ends in front of it compiles; and both
leave the same session. -/
theorem compile_fails_iff_misdeclares (s : Session) (t : Text) :
    ((∃ fault after, s.compile t = (.error fault, after)) ↔
      ∃ mid before site rest, Misdeclares s t mid before site rest) ∧
    ∀ mid before site rest, Misdeclares s t mid before site rest →
      s.compile t = (.error ⟨site.name, 1 + before.count '\n', ⟨site.expression⟩⟩, mid) ∧
        ∃ out, s.compile before = (.ok out, mid) := by
  refine ⟨⟨?_, ?_⟩, ?_⟩
  · rintro ⟨fault, after, h⟩
    exact exists_misdeclares h
  · rintro ⟨mid, before, site, rest, h⟩
    exact ⟨_, mid, h.compile_eq⟩
  · intro mid before site rest h
    exact ⟨h.compile_eq, h.compile_before⟩

end Template

end TemplateFunctions
