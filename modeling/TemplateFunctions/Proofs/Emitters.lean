import TemplateFunctions.Proofs.Agreement

/-!
Two emitters over one table.

The target and the context parameter change what is written for a function directive and nothing
else: no step of a reading looks at what has been written.

* `places_eq_of_agreeOn`: compilations side by side come to the same places.
* `compile_emitters_alike`: **the same sites, the same fault, the same table, and outputs that
  differ in the fragments of function directives alone.**
-/

namespace TemplateFunctions

namespace Template

/-- Compilations side by side come to the same places in the same order. -/
lemma places_eq_of_agreeOn {N : Text → Prop} {s s' : Session} {t : Text} (hagree : s.AgreeOn N s')
    (hnames : ∀ name ∈ names t, N name) : (s.read t).places = (s'.read t).places := by
  refine places_eq_of_meets_iff fun place => ⟨?_, ?_⟩
  · rintro ⟨mid, rest, h⟩
    obtain ⟨mid', h', -⟩ := h.alike hagree hnames
    exact ⟨mid', rest, h'⟩
  · rintro ⟨mid, rest, h⟩
    obtain ⟨mid', h', -⟩ := h.alike hagree.symm hnames
    exact ⟨mid', rest, h'⟩

/-- A fragment among the parts of a whole template belongs to a site that its compilation meets. -/
lemma Placed.exists_meets {s : Session} {ps : List Part} (h : Placed s [] ps []) {site : Site}
    {qs rs : List Part} {f : Fragment} (hsplit : ps = qs ++ .fragment site f :: rs) :
    ∃ mid d, Meets s (ps.flatMap Part.source) mid (qs.flatMap Part.source) site
        (rs.flatMap Part.source) ∧
      mid.table.get? site.name = some d ∧ d.fragment? site.expression = some f := by
  obtain ⟨mid, w, hrun, hstands, d, hd, hf⟩ := h qs site f rs hsplit
  rw [List.append_nil] at hrun hstands
  refine ⟨mid, d, ⟨?_, ⟨w, hrun⟩, hstands⟩, hd, hf⟩
  rw [hsplit, List.flatMap_append, List.flatMap_cons]
  rfl

/-- **The emitter changes the text of fragments and nothing else.** Under two emitters over one
table the reading of a template comes to the same places, with the same names and expressions and in
the same order; the compilation fails under the one just where it fails under the other, with the
same fault; and the tables afterwards give the same for every name. If the compilation succeeds,
both outputs are written from one row of parts. They differ only in the fragments, and each of these
stands in the place of a site that is met and comes from the directive of its name, which is a
declaration, a close, a return or a call. -/
theorem compile_emitters_alike (table : Table) (e e' : Emitter) (t : Text) :
    let s : Session := ⟨e, table⟩
    let s' : Session := ⟨e', table⟩
    (s.read t).places = (s'.read t).places ∧
      (∀ fault, (s.compile t).1 = .error fault ↔ (s'.compile t).1 = .error fault) ∧
      (∀ key, (s.compile t).2.table.get? key = (s'.compile t).2.table.get? key) ∧
      ∀ out, (s.compile t).1 = .ok out → ∃ ps : List Part,
        ps.flatMap Part.source = t ∧ out = ps.flatMap (Part.output e) ∧
        (s'.compile t).1 = .ok (ps.flatMap (Part.output e')) ∧
        ∀ qs site f rs, ps = qs ++ .fragment site f :: rs →
          ∃ mid d, Meets s t mid (qs.flatMap Part.source) site (rs.flatMap Part.source) ∧
            mid.table.get? site.name = some d ∧ d.fragment? site.expression = some f := by
  intro s s'
  have hagree : s.AgreeOn (fun _ => True) s' := fun _ _ => rfl
  refine ⟨places_eq_of_agreeOn hagree fun _ _ => trivial, ?_⟩
  rcases compile_alike hagree (t := t) fun _ _ => trivial with
    ⟨ps, after, after', h, h', hafter, rfl, hplaced⟩ | ⟨fault, after, after', h, h', hafter⟩
  · rw [h, h']
    refine ⟨fun fault => ⟨nofun, nofun⟩, fun key => hafter key trivial, ?_⟩
    rintro out ⟨⟩
    exact ⟨ps, rfl, rfl, rfl, fun qs site f rs hsplit => hplaced.exists_meets hsplit⟩
  · rw [h, h']
    exact ⟨fun fault => Iff.rfl, fun key => hafter key trivial, nofun⟩

end Template

end TemplateFunctions
