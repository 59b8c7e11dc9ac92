import TemplateFunctions.Proofs.Run

/-!
The fragments that a reading puts in.

A reading is a list of pieces, and the pieces of its sites carry the fragments. Here they are traced
back to the directives that make them.

* `Splices`: a site that a compilation meets, the directive at work there and its fragment.
* `mem_pieces_iff_splices`: **the fragments among the pieces are just these.**
-/

namespace TemplateFunctions

namespace Template

/-- **A fragment that the compilation of `t` puts in**: the compilation meets the site, `d` is the
directive that the name of the site stands for there, and the fragment is what `d` makes of the
argument. -/
structure Splices (s : Session) (t : Text) (mid : Session) (site : Site) (d : Directive)
    (fragment : Text) : Prop where
  meets : ∃ before rest, Meets s t mid before site rest
  directive : mid.table.get? site.name = some d
  makes : (mid.perform d site.expression).1 = .ok fragment

/-! ### From the pieces to the sites -/

/-- A step puts a piece in front of the reading. If it is the piece of a site, the site stands there
and its directive makes the fragment. -/
lemma readFrom_of_takes_site {s after : Session} {before u r rest : Text}
    (h : Takes s before u r after rest) :
    ∃ p : Piece, p.source = u ∧ s.readFrom (endsInWord before) (u ++ rest)
        = (after.readFrom (endsInWord (before ++ u)) rest).cons p ∧
      ∀ site fragment, p = .site site fragment → u = site.source ∧ site.Stands s before rest ∧
        s.dispatch site.name site.expression = (.ok (some fragment), after) := by
  cases h with
  | pass h =>
      obtain ⟨c, t, p, ht, hsource, -, hcopied, hstep⟩ := step_of_passes h
      refine ⟨p, hsource, by rw [ht, readFrom_of_step hstep, hsource], ?_⟩
      rintro site fragment rfl
      cases hcopied
  | replace h =>
      cases h with
      | @escape name _ hb hname =>
          refine ⟨.escape name, rfl, readFrom_of_step (step_of_escape hb hname), ?_⟩
          intro site fragment h
          cases h
      | @site site _ _ _ hstands hdispatch =>
          obtain ⟨d, hd, hperform⟩ := Session.dispatch_eq_some_iff.1 hdispatch
          have hstep := step_of_stands hstands hd
          rw [hperform] at hstep
          refine ⟨.site site r, rfl, ?_, ?_⟩
          · rw [Site.source_eq, List.cons_append, List.append_assoc, readFrom_of_step hstep]
            rfl
          · rintro site' fragment h
            cases h
            exact ⟨rfl, hstands, hdispatch⟩

/-- Every fragment among the pieces belongs to a site that the reading runs up to. -/
lemma exists_runs_of_mem_pieces {s : Session} {before t : Text} {site : Site} {fragment : Text}
    (h : .site site fragment ∈ (s.readFrom (endsInWord before) t).pieces) :
    ∃ u w mid rest after, t = u ++ (site.source ++ rest) ∧
      Runs s before u w mid (site.source ++ rest) ∧ site.Stands mid (before ++ u) rest ∧
      mid.dispatch site.name site.expression = (.ok (some fragment), after) := by
  induction s, before, t using reading_induction with
  | done s before =>
      rw [Session.readFrom_nil] at h
      cases h
  | fails s before failing rest cause hfails =>
      rw [readFrom_of_fails hfails] at h
      cases h
  | takes s before u r mid v htakes ih =>
      obtain ⟨p, -, hread, hp⟩ := readFrom_of_takes_site htakes
      rw [hread] at h
      rcases List.mem_cons.1 h with heq | hmem
      · -- the piece is the first one
        obtain ⟨rfl, hstands, hdispatch⟩ := hp site fragment heq.symm
        exact ⟨[], [], s, v, mid, rfl, .nil, by rwa [List.append_nil], hdispatch⟩
      · -- the piece is a later one
        obtain ⟨u', w, mid', rest, after, rfl, hrun, hstands, hdispatch⟩ := ih hmem
        refine ⟨u ++ u', r ++ w, mid', rest, after, ?_, .cons htakes hrun, ?_, hdispatch⟩
        · rw [List.append_assoc]
        · rwa [← List.append_assoc]

/-! ### From the sites to the pieces -/

/-- A site that a compilation meets is one of the pieces, with the fragment of its directive. -/
lemma Splices.mem_pieces {s mid : Session} {t : Text} {site : Site} {d : Directive}
    {fragment : Text} (h : Splices s t mid site d fragment) :
    .site site fragment ∈ (s.read t).pieces := by
  obtain ⟨before, rest, htext, ⟨w, hrun⟩, hstands⟩ := h.meets
  have hperform : mid.perform d site.expression
      = (.ok fragment, (mid.perform d site.expression).2) := by rw [← h.makes]
  have hstep := step_of_stands hstands h.directive
  rw [hperform] at hstep
  obtain ⟨ps, -, -, hread⟩ := readFrom_of_runs hrun
  rw [List.nil_append, Site.source_eq, List.cons_append, List.append_assoc,
    readFrom_of_step hstep, foldr_cons_reading] at hread
  have hread' : s.read t = s.readFrom (endsInWord [])
      (before ++ '@' :: (site.name ++ (site.tail ++ rest))) := by
    rw [htext, Site.source_eq, List.cons_append, List.append_assoc]
    rfl
  rw [hread', hread]
  exact List.mem_append_right ps List.mem_cons_self

/-- **The fragments among the pieces of a reading are those that the compilation puts in.** -/
theorem mem_pieces_iff_splices {s : Session} {t : Text} {site : Site} {fragment : Text} :
    .site site fragment ∈ (s.read t).pieces ↔ ∃ mid d, Splices s t mid site d fragment := by
  constructor
  · intro h
    have hread : .site site fragment ∈ (s.readFrom (endsInWord []) t).pieces := h
    obtain ⟨u, w, mid, rest, after, ht, hrun, hstands, hdispatch⟩ := exists_runs_of_mem_pieces hread
    obtain ⟨d, hd, hperform⟩ := Session.dispatch_eq_some_iff.1 hdispatch
    exact ⟨mid, d, ⟨u, rest, ht, ⟨w, hrun⟩, hstands⟩, hd, by rw [hperform]⟩
  · rintro ⟨mid, d, h⟩
    exact h.mem_pieces

end Template

end TemplateFunctions
