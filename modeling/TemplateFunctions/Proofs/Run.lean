import TemplateFunctions.Proofs.Rules

/-!
Runs: what a reading makes of a stretch of a template.

A run strings steps of the rules together. Every compilation is one: a template that compiles is run
through to its end, and a template that fails is run through up to the site that failed.

* `Runs`: a stretch of text between the text in front of it and the text behind it, with what is
  written for it and the session after it.
* `Runs.resume`: of two runs over one text the longer one goes on where the shorter one ends.
* `reading_induction`: **what comes back over every step holds at every place.**
* `runs_or_fails`: a text is run through, or up to a site that fails.
* `compile_eq_ok_iff`, `compile_eq_error_iff`: **compiling is running.**
* `Meets`: a site that a compilation comes to, such as every known name behind an `@` that it
  comes to (`exists_meets_of_known`).
-/

namespace TemplateFunctions

namespace Template

/-- **A run** of `u` behind `before` and in front of `rest`: step by step `w` is written for it, and
the session becomes `after`. -/
inductive Runs : Session → Text → Text → Text → Session → Text → Prop
  | nil {s : Session} {before rest : Text} : Runs s before [] [] s rest
  | cons {s mid after : Session} {before u v r w rest : Text} :
      Takes s before u r mid (v ++ rest) → Runs mid (before ++ u) v w after rest →
      Runs s before (u ++ v) (r ++ w) after rest

namespace Runs

lemma single {s after : Session} {before u r rest : Text} (h : Takes s before u r after rest) :
    Runs s before u r after rest := by
  have := Runs.cons (v := []) h .nil
  simpa using this

/-- A run goes on with another one. -/
lemma append {s mid after : Session} {before u v w x rest : Text}
    (hu : Runs s before u w mid (v ++ rest)) (hv : Runs mid (before ++ u) v x after rest) :
    Runs s before (u ++ v) (w ++ x) after rest := by
  generalize hrest : v ++ rest = r at hu
  induction hu with
  | nil => simpa using hv
  | @cons s mid after before u t r w rest' htakes _ ih =>
      subst hrest
      rw [List.append_assoc, List.append_assoc]
      refine .cons (by rwa [List.append_assoc]) (ih ?_ rfl)
      rwa [List.append_assoc]

/-- Text without an `@` is copied. -/
lemma copy {s : Session} {before u rest : Text} (hu : '@' ∉ u) : Runs s before u u s rest := by
  induction u generalizing before with
  | nil => exact .nil
  | cons c u ih =>
      have hc : c ≠ '@' := fun h => hu (h ▸ List.mem_cons_self)
      have htail : '@' ∉ u := fun h => hu (List.mem_cons_of_mem c h)
      exact .cons (u := [c]) (.pass (.char hc)) (ih htail)

/-- **Of two runs over one text the longer one goes on where the shorter one ends.** -/
lemma resume {s mid mid' : Session} {before u w rest u' w' rest' : Text}
    (h : Runs s before u w mid rest) (h' : Runs s before u' w' mid' rest')
    (hsame : u ++ rest = u' ++ rest') (hle : u.length ≤ u'.length) :
    ∃ v x, u' = u ++ v ∧ w' = w ++ x ∧ Runs mid (before ++ u) v x mid' rest' := by
  induction h generalizing u' w' with
  | @nil _ before _ =>
      refine ⟨u', w', rfl, rfl, ?_⟩
      rwa [List.append_nil]
  | @cons s mid after before u v r w rest htakes _ ih =>
      cases h' with
      | nil =>
          have := List.length_pos_iff.2 htakes.ne_nil
          rw [List.length_append, List.length_nil] at hle
          omega
      | @cons _ _ _ _ u' v' r' w' _ htakes' hrun' =>
          rw [List.append_assoc, List.append_assoc] at hsame
          -- both runs begin with the same step, since a place allows only one
          obtain ⟨rfl, rfl, rfl⟩ := htakes.unique htakes' hsame
          rw [List.length_append, List.length_append] at hle
          obtain ⟨y, x, rfl, rfl, hrest⟩ :=
            ih hrun' (List.append_cancel_left hsame) (by omega)
          refine ⟨y, x, ?_, ?_, ?_⟩
          · rw [List.append_assoc]
          · rw [List.append_assoc]
          · rwa [← List.append_assoc]

end Runs

/-! ### The reader runs -/

/-- After a run the reader goes on behind it: its pieces cover the run, they stand for what the run
writes, and all else is what it finds from there. -/
lemma readFrom_of_runs {s after : Session} {before u w rest : Text}
    (h : Runs s before u w after rest) :
    ∃ ps : List Piece, ps.flatMap Piece.source = u ∧ ps.flatMap Piece.output = w ∧
      s.readFrom (endsInWord before) (u ++ rest) =
        ps.foldr Reading.cons (after.readFrom (endsInWord (before ++ u)) rest) := by
  induction h with
  | nil => exact ⟨[], rfl, rfl, by simp⟩
  | @cons s mid after before u v r w rest htakes _ ih =>
      obtain ⟨p, hsource, houtput, hp⟩ := readFrom_of_takes htakes
      obtain ⟨ps, rfl, rfl, hps⟩ := ih
      refine ⟨p :: ps, by rw [List.flatMap_cons, hsource], by rw [List.flatMap_cons, houtput], ?_⟩
      rw [List.append_assoc, hp, hps, List.foldr_cons, List.append_assoc]

lemma foldr_cons_reading (ps : List Piece) (r : Reading) :
    ps.foldr Reading.cons r = { r with pieces := ps ++ r.pieces } := by
  induction ps with
  | nil => rfl
  | cons p ps ih => rw [List.foldr_cons, ih]; rfl

/-! ### Reading on -/

/-- **Induction over a reading.** What holds at the end of a text and at a site that fails, and in
front of a step if it holds behind the step, holds at every place of every text. -/
@[elab_as_elim]
theorem reading_induction {motive : Session → Text → Text → Prop}
    (done : ∀ s before, motive s before [])
    (fails : ∀ s before (site : Site) rest cause, Fails s before site rest cause →
      motive s before (site.source ++ rest))
    (takes : ∀ s before u r mid rest, Takes s before u r mid rest →
      motive mid (before ++ u) rest → motive s before (u ++ rest))
    (s : Session) (before t : Text) : motive s before t := by
  induction hn : t.length using Nat.strongRecOn generalizing s before t with
  | _ n ih =>
    by_cases ht : t = []
    · subst ht
      exact done s before
    · rcases takes_or_fails s before ht with
        ⟨u, r, mid, rest, rfl, htakes⟩ | ⟨site, rest, cause, rfl, hfails⟩
      · have hlt : rest.length < n := hn ▸ Text.length_lt_append htakes.ne_nil rest
        exact takes s before u r mid rest htakes (ih rest.length hlt mid (before ++ u) rest rfl)
      · exact fails s before site rest cause hfails

/-- **A text is run through, or up to a site that fails.** -/
theorem runs_or_fails (s : Session) (before t : Text) :
    (∃ w after, Runs s before t w after []) ∨
      ∃ u w after site rest cause, t = u ++ (site.source ++ rest) ∧
        Runs s before u w after (site.source ++ rest) ∧
        Fails after (before ++ u) site rest cause := by
  induction s, before, t using reading_induction with
  | done s before => exact Or.inl ⟨[], s, .nil⟩
  | fails s before site rest cause hfails =>
      refine Or.inr ⟨[], [], s, site, rest, cause, rfl, .nil, ?_⟩
      rwa [List.append_nil]
  | takes s before u r mid v htakes ih =>
      rcases ih with ⟨w, after, hrun⟩ | ⟨u', w, after, site, rest, cause, rfl, hrun, hfails⟩
      · refine Or.inl ⟨r ++ w, after, .cons ?_ hrun⟩
        rwa [List.append_nil]
      · refine Or.inr ⟨u ++ u', r ++ w, after, site, rest, cause, ?_, .cons htakes hrun, ?_⟩
        · rw [List.append_assoc]
        · rwa [← List.append_assoc]

/-! ### Compiling is running -/

/-- A run through the whole text is what compiles it. -/
lemma compile_of_runs {s after : Session} {t w : Text} (h : Runs s [] t w after []) :
    s.compile t = (.ok w, after) := by
  obtain ⟨ps, -, rfl, hread⟩ := readFrom_of_runs h
  rw [List.append_nil, Session.readFrom_nil, foldr_cons_reading] at hread
  have hr : s.read t = ⟨ps ++ [], after, none⟩ := hread
  simp [Session.compile, hr, Reading.result, Reading.fault?, Reading.output]

/-- A run up to a site that fails is what makes the text fail. -/
lemma compile_of_fails {s after : Session} {u w rest : Text} {site : Site}
    {cause : Declaration.Unnamed} (h : Runs s [] u w after (site.source ++ rest))
    (hf : Fails after u site rest cause) :
    s.compile (u ++ (site.source ++ rest))
      = (.error ⟨site.name, Text.lineAfter u, cause⟩, after) := by
  obtain ⟨ps, rfl, -, hread⟩ := readFrom_of_runs h
  rw [List.nil_append, readFrom_of_fails hf, foldr_cons_reading] at hread
  have hr : s.read (ps.flatMap Piece.source ++ (site.source ++ rest))
      = ⟨ps ++ [], after, some ⟨site, cause⟩⟩ := hread
  simp [Session.compile, hr, Reading.result, Reading.fault?, Reading.source]

/-- **A text compiles exactly when it is run through to its end.** -/
theorem compile_eq_ok_iff {s after : Session} {t out : Text} :
    s.compile t = (.ok out, after) ↔ Runs s [] t out after [] := by
  constructor
  · intro h
    rcases runs_or_fails s [] t with ⟨w, mid, hrun⟩ | ⟨u, w, mid, site, rest, cause, rfl, hrun, hf⟩
    · have := compile_of_runs hrun
      rw [h, Prod.mk.injEq, Except.ok.injEq] at this
      obtain ⟨rfl, rfl⟩ := this
      exact hrun
    · have := compile_of_fails hrun hf
      rw [h] at this
      cases this
  · exact compile_of_runs

/-- **A text fails exactly when it is run through up to a site that fails.** -/
theorem compile_eq_error_iff {s after : Session} {t : Text} {fault : Fault} :
    s.compile t = (.error fault, after) ↔
      ∃ u w site rest cause, t = u ++ (site.source ++ rest) ∧
        Runs s [] u w after (site.source ++ rest) ∧ Fails after u site rest cause ∧
        fault = ⟨site.name, Text.lineAfter u, cause⟩ := by
  constructor
  · intro h
    rcases runs_or_fails s [] t with ⟨w, mid, hrun⟩ | ⟨u, w, mid, site, rest, cause, rfl, hrun, hf⟩
    · have := compile_of_runs hrun
      rw [h] at this
      cases this
    · have := compile_of_fails hrun hf
      rw [h, Prod.mk.injEq, Except.error.injEq] at this
      obtain ⟨rfl, rfl⟩ := this
      exact ⟨u, w, site, rest, cause, rfl, hrun, hf, rfl⟩
  · rintro ⟨u, w, site, rest, cause, rfl, hrun, hf, rfl⟩
    exact compile_of_fails hrun hf

/-- **A site that the compilation of `t` meets**: the template is run through up to the site, with
`before` in front of it and `rest` behind it, and the session there is `mid`. Its directive is then
at work, whether it gives a fragment or fails. -/
structure Meets (s : Session) (t : Text) (mid : Session) (before : Text) (site : Site)
    (rest : Text) : Prop where
  text : t = before ++ (site.source ++ rest)
  run : ∃ w, Runs s [] before w mid (site.source ++ rest)
  stands : site.Stands mid before rest

/-- A known name is a site that the compilation meets when it comes to the `@` in front of it. -/
lemma exists_meets_of_known {s mid : Session} {before name rest w : Text}
    (hrun : Runs s [] before w mid ('@' :: (name ++ rest))) (hb : endsInWord before = false)
    (hname : Identifier.Leads name rest) (hknown : mid.table.contains name = true) :
    ∃ site rest', site.name = name ∧
      Meets s (before ++ '@' :: (name ++ rest)) mid before site rest' := by
  obtain ⟨site, rest', hsite⟩ : ∃ site rest', siteOf name rest = (site, rest') := ⟨_, _, rfl⟩
  have hstands := stands_of_siteOf hb hname hknown hsite
  obtain ⟨rfl, rfl, -⟩ := siteOf_eq_iff.1 hsite
  have hsource : '@' :: (site.name ++ (site.tail ++ rest')) = site.source ++ rest' := by
    rw [Site.source_eq, List.cons_append, List.append_assoc]
  rw [hsource] at hrun ⊢
  exact ⟨site, rest', rfl, rfl, ⟨w, hrun⟩, hstands⟩

end Template

end TemplateFunctions
