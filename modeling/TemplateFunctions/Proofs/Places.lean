import TemplateFunctions.Proofs.Splices

/-!
The places that a reading comes to.

Every directive that a reading runs has its place: the text in front of the site, and the site. A
directive that fails has the last place of its reading.

* `Site.Stands.unique`, `Meets.unique`: **at a place there is one site and one session.**
* `Meets.before_or_at`: no site begins inside a step.
* `Fails.runs_nil`, `Fails.length_le_of_meets`: nothing is read from a site that fails on.
* `Reading.places`: the places of a reading, from left to right (`pairwise_places`).
* `mem_places_iff_meets`: **they are those of the sites that the compilation meets.**
* `places_eq_of_meets_iff`: readings that meet the same sites meet them in the same order.
-/

namespace TemplateFunctions

namespace Template

/-! ### One site and one session at a place -/

/-- At a place there is one site, whatever is known there. -/
lemma Site.Stands.unique {site site' : Site} {s s' : Session} {before before' rest rest' : Text}
    (h : site.Stands s before rest) (h' : site'.Stands s' before' rest')
    (hsame : site.source ++ rest = site'.source ++ rest') : site = site' ∧ rest = rest' := by
  rw [Site.source_eq, Site.source_eq, List.cons_append, List.cons_append, List.cons.injEq,
    List.append_assoc, List.append_assoc] at hsame
  have hsplit := Identifier.split?_eq_some_iff.2 ⟨h.leads, rfl⟩
  rw [hsame.2, Identifier.split?_eq_some_iff.2 ⟨h'.leads, rfl⟩, Option.some.injEq,
    Prod.mk.injEq] at hsplit
  have hsite : siteOf site.name (site.tail ++ rest) = (site, rest) :=
    siteOf_eq_iff.2 ⟨rfl, rfl, h.argued⟩
  have hsite' : siteOf site'.name (site'.tail ++ rest') = (site', rest') :=
    siteOf_eq_iff.2 ⟨rfl, rfl, h'.argued⟩
  rw [← hsplit.1, ← hsplit.2, hsite', Prod.mk.injEq] at hsite
  exact ⟨hsite.1.symm, hsite.2.symm⟩

lemma Runs.eq_of_nil {s after : Session} {before w rest : Text}
    (h : Runs s before [] w after rest) : s = after ∧ w = [] := by
  generalize hu : ([] : Text) = u at h
  cases h with
  | nil => exact ⟨rfl, rfl⟩
  | cons htakes _ => exact absurd (List.append_eq_nil_iff.1 hu.symm).1 htakes.ne_nil

/-- Two runs to one place write the same and leave the same session. -/
lemma Runs.same_place {s mid mid' : Session} {before u w w' rest : Text}
    (h : Runs s before u w mid rest) (h' : Runs s before u w' mid' rest) : mid = mid' ∧ w = w' := by
  obtain ⟨v, x, hv, rfl, hrun⟩ := h.resume h' rfl (Nat.le_refl _)
  rw [List.self_eq_append_right.1 hv] at hrun
  obtain ⟨hmid, rfl⟩ := hrun.eq_of_nil
  exact ⟨hmid, (List.append_nil w).symm⟩

/-- **At a place a compilation meets one site, in one session.** -/
theorem Meets.unique {s mid mid' : Session} {t before rest rest' : Text} {site site' : Site}
    (h : Meets s t mid before site rest) (h' : Meets s t mid' before site' rest') :
    mid = mid' ∧ site = site' ∧ rest = rest' := by
  have hsame := List.append_cancel_left (h.text.symm.trans h'.text)
  obtain ⟨rfl, rfl⟩ := h.stands.unique h'.stands hsame
  obtain ⟨w, hrun⟩ := h.run
  obtain ⟨w', hrun'⟩ := h'.run
  exact ⟨(hrun.same_place hrun').1, rfl, rfl⟩

/-- No site begins inside a step: one that begins in front of its end begins in front of the step,
or with it. -/
lemma Meets.before_or_at {s mid mid' after : Session} {a u r w rest b rest' : Text} {site : Site}
    (h : Meets s (a ++ (u ++ rest)) mid' b site rest') (hrun : Runs s [] a w mid (u ++ rest))
    (htakes : Takes mid a u r after rest) (hlt : b.length < (a ++ u).length) :
    b.length < a.length ∨ b = a := by
  by_cases hle : a.length ≤ b.length
  · obtain ⟨w', hrun'⟩ := h.run
    obtain ⟨v, x, rfl, -, hv⟩ := hrun.resume hrun' h.text hle
    have hsame : u ++ rest = v ++ (site.source ++ rest') := by
      have := h.text
      rw [List.append_assoc] at this
      exact List.append_cancel_left this
    cases hv with
    | nil => exact Or.inr (List.append_nil a)
    | cons htakes' _ =>
        rw [List.append_assoc] at hsame
        obtain ⟨rfl, -, -⟩ := htakes.unique htakes' hsame
        simp only [List.length_append] at hlt
        omega
  · exact Or.inl (by omega)

/-- **A site that fails ends every run**: none goes on from it. -/
lemma Fails.runs_nil {s after : Session} {before v w rest rest' : Text} {site : Site}
    {cause : Declaration.Unnamed} (h : Fails s before site rest cause)
    (hrun : Runs s before v w after rest') (hsame : site.source ++ rest = v ++ rest') : v = [] := by
  cases hrun with
  | nil => rfl
  | cons htakes _ =>
      obtain ⟨p, -, -, hread⟩ := readFrom_of_takes htakes
      have hstop := readFrom_of_fails h
      rw [hsame, List.append_assoc, hread] at hstop
      cases congrArg Reading.pieces hstop

/-- A compilation that fails meets no site behind the one that fails. -/
lemma Fails.length_le_of_meets {s mid mid' : Session} {u w rest before rest' : Text}
    {site site' : Site} {cause : Declaration.Unnamed} (h : Fails mid u site rest cause)
    (hrun : Runs s [] u w mid (site.source ++ rest))
    (hmeets : Meets s (u ++ (site.source ++ rest)) mid' before site' rest') :
    before.length ≤ u.length := by
  by_contra hlt
  obtain ⟨w', hrun'⟩ := hmeets.run
  obtain ⟨v, x, rfl, -, hv⟩ := hrun.resume hrun' hmeets.text (by omega)
  have hsame := hmeets.text
  rw [List.append_assoc] at hsame
  rw [h.runs_nil hv (List.append_cancel_left hsame), List.append_nil] at hlt
  exact hlt (Nat.le_refl _)

/-! ### The places of a reading -/

/-- **A place**: the text in front of a site, and the site. -/
structure Place where
  before : Text
  site : Site
  deriving DecidableEq, Repr

/-- The site of a piece, if it is the piece of one. -/
def Piece.site? : Piece → Option Site
  | site s _ => some s
  | _ => none

/-- The places of pieces that stand behind `before`, and the place where the reading stopped. -/
def placesFrom (stop : Option Stop) (before : Text) : List Piece → List Place
  | [] => stop.toList.map fun stop => ⟨before, stop.site⟩
  | p :: ps => p.site?.toList.map (Place.mk before) ++ placesFrom stop (before ++ p.source) ps

/-- The places of a reading that begins behind `before`. -/
def Reading.placesFrom (r : Reading) (before : Text) : List Place :=
  Template.placesFrom r.stop before r.pieces

/-- **The places of a reading**, from left to right. -/
def Reading.places (r : Reading) : List Place := r.placesFrom []

lemma Reading.placesFrom_cons (p : Piece) (r : Reading) (before : Text) :
    (r.cons p).placesFrom before
      = p.site?.toList.map (Place.mk before) ++ r.placesFrom (before ++ p.source) := rfl

/-- The places of a reading are places of the reading with pieces in front of it. -/
lemma Reading.mem_placesFrom_foldr {ps : List Piece} {r : Reading} {before : Text} {place : Place}
    (h : place ∈ r.placesFrom (before ++ ps.flatMap Piece.source)) :
    place ∈ (ps.foldr Reading.cons r).placesFrom before := by
  induction ps generalizing before with
  | nil => simpa using h
  | cons p ps ih =>
      rw [List.foldr_cons, Reading.placesFrom_cons]
      refine List.mem_append_right _ (ih ?_)
      rwa [List.flatMap_cons, ← List.append_assoc] at h

/-! ### From left to right -/

/-- The places of pieces lie behind the text in front of the pieces. -/
lemma length_le_of_mem_placesFrom {stop : Option Stop} {before : Text} {ps : List Piece}
    {place : Place} (h : place ∈ placesFrom stop before ps) :
    before.length ≤ place.before.length := by
  induction ps generalizing before with
  | nil =>
      obtain ⟨_, -, rfl⟩ := List.mem_map.1 h
      exact Nat.le_refl _
  | cons p ps ih =>
      rcases List.mem_append.1 h with h | h
      · obtain ⟨_, -, rfl⟩ := List.mem_map.1 h
        exact Nat.le_refl _
      · have := ih h
        rw [List.length_append] at this
        omega

/-- Each place lies behind the ones before it. -/
lemma pairwise_placesFrom (stop : Option Stop) (before : Text) (ps : List Piece) :
    (placesFrom stop before ps).Pairwise fun x y => x.before.length < y.before.length := by
  induction ps generalizing before with
  | nil => cases stop <;> simp [placesFrom]
  | cons p ps ih =>
      have hlater : ∀ y ∈ placesFrom stop (before ++ p.source) ps,
          before.length < y.before.length := by
        intro y hy
        have hle := length_le_of_mem_placesFrom hy
        have hpos := List.length_pos_iff.2 p.source_ne_nil
        rw [List.length_append] at hle
        omega
      rw [placesFrom, List.pairwise_append]
      refine ⟨by cases p.site? <;> simp, ih _, ?_⟩
      intro x hx y hy
      obtain ⟨_, -, rfl⟩ := List.mem_map.1 hx
      exact hlater y hy

/-- **The places of a reading go from left to right.** -/
lemma pairwise_places (r : Reading) :
    r.places.Pairwise fun x y => x.before.length < y.before.length :=
  pairwise_placesFrom r.stop [] r.pieces

/-! ### Places and met sites -/

/-- The reading runs up to each of its places. -/
lemma exists_runs_of_mem_placesFrom {s : Session} {before t : Text} {place : Place}
    (h : place ∈ (s.readFrom (endsInWord before) t).placesFrom before) :
    ∃ u w mid rest, place.before = before ++ u ∧ t = u ++ (place.site.source ++ rest) ∧
      Runs s before u w mid (place.site.source ++ rest) ∧
      place.site.Stands mid place.before rest := by
  induction s, before, t using reading_induction with
  | done s before =>
      rw [Session.readFrom_nil] at h
      cases h
  | fails s before site rest cause hfails =>
      rw [readFrom_of_fails hfails] at h
      cases List.mem_singleton.1 h
      exact ⟨[], [], s, rest, (List.append_nil before).symm, rfl, .nil, hfails.stands⟩
  | takes s before u r mid v htakes ih =>
      obtain ⟨p, rfl, hread, hp⟩ := readFrom_of_takes_site htakes
      rw [hread, Reading.placesFrom_cons] at h
      rcases List.mem_append.1 h with hfirst | hlater
      · -- the place of the first piece
        obtain ⟨site, hsite, rfl⟩ := List.mem_map.1 hfirst
        cases p with
        | site site' fragment =>
            cases List.mem_singleton.1 hsite
            obtain ⟨-, hstands, -⟩ := hp site fragment rfl
            exact ⟨[], [], s, v, (List.append_nil before).symm, rfl, .nil, hstands⟩
        | _ => cases hsite
      · -- the place of a later one
        obtain ⟨u, w, mid', rest, hbefore, rfl, hrun, hstands⟩ := ih hlater
        refine ⟨p.source ++ u, r ++ w, mid', rest, ?_, ?_, .cons htakes hrun, hstands⟩
        · rw [hbefore, List.append_assoc]
        · rw [List.append_assoc]

/-- The site where a reading begins has a place in it. -/
lemma Site.Stands.mem_placesFrom {s : Session} {before rest : Text} {site : Site}
    (h : site.Stands s before rest) :
    ⟨before, site⟩ ∈ (s.readFrom (endsInWord before) (site.source ++ rest)).placesFrom before := by
  obtain ⟨d, hd⟩ := Option.isSome_iff_exists.1 h.known
  have hstep := step_of_stands h hd
  rw [Site.source_eq, List.cons_append, List.append_assoc]
  rcases hp : s.perform d site.expression with ⟨cause | fragment, after⟩
  · rw [hp] at hstep
    rw [Session.readFrom_of_stop hstep]
    exact List.mem_singleton_self _
  · rw [hp] at hstep
    rw [readFrom_of_step hstep, Reading.placesFrom_cons]
    exact List.mem_append_left _ (List.mem_singleton_self _)

/-- A site that a compilation meets has a place in the reading. -/
lemma Meets.mem_places {s mid : Session} {t before rest : Text} {site : Site}
    (h : Meets s t mid before site rest) : ⟨before, site⟩ ∈ (s.read t).places := by
  obtain ⟨w, hrun⟩ := h.run
  obtain ⟨ps, hsource, -, hread⟩ := readFrom_of_runs hrun
  have hread' : s.read t
      = ps.foldr Reading.cons (mid.readFrom (endsInWord before) (site.source ++ rest)) := by
    rw [h.text]
    exact hread
  rw [hread']
  refine Reading.mem_placesFrom_foldr ?_
  rw [hsource]
  exact h.stands.mem_placesFrom

/-- **The places of a reading are those of the sites that the compilation meets.** -/
theorem mem_places_iff_meets {s : Session} {t : Text} {place : Place} :
    place ∈ (s.read t).places ↔ ∃ mid rest, Meets s t mid place.before place.site rest := by
  constructor
  · intro h
    have hread : place ∈ (s.readFrom (endsInWord []) t).placesFrom [] := h
    obtain ⟨u, w, mid, rest, hbefore, ht, hrun, hstands⟩ := exists_runs_of_mem_placesFrom hread
    rw [List.nil_append] at hbefore
    rw [hbefore] at hstands ⊢
    exact ⟨mid, rest, ht, ⟨w, hrun⟩, hstands⟩
  · rintro ⟨mid, rest, h⟩
    exact h.mem_places

/-- **Readings that meet the same sites come to the same places in the same order.** -/
theorem places_eq_of_meets_iff {s s' : Session} {t : Text}
    (h : ∀ place : Place, (∃ mid rest, Meets s t mid place.before place.site rest) ↔
      ∃ mid rest, Meets s' t mid place.before place.site rest) :
    (s.read t).places = (s'.read t).places := by
  have hordered (r : Reading) : r.places.Nodup :=
    (pairwise_places r).imp fun hlt heq => absurd (heq ▸ hlt) (Nat.lt_irrefl _)
  have hperm : (s.read t).places.Perm (s'.read t).places :=
    (List.perm_ext_iff_of_nodup (hordered _) (hordered _)).2 fun place => by
      rw [mem_places_iff_meets, mem_places_iff_meets, h place]
  refine hperm.eq_of_pairwise ?_ (pairwise_places _) (pairwise_places _)
  intro x y _ _ hxy hyx
  exact absurd hxy (Nat.lt_asymm hyx)

end Template

end TemplateFunctions
