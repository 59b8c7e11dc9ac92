import TemplateFunctions.Proofs.Definition
import TemplateFunctions.Proofs.Places

/-!
The names that templates can use.

A table takes any text for a name, but a template can name identifiers only. The grammar of
identifiers is asked for in three ways: of a whole text, at the start of a text, and at the start of
a declaration; all three agree.

* `isIdentifier_iff_leading`, `isIdentifier_iff_read`: the three questions have one answer.
* `Reachable`: a name that the compilation of some template dispatches.
* `exists_first_place`: **a known identifier behind a text without `@` is the first that is
  dispatched.**
* `reachable_iff`: **a known name can be used exactly if it is an identifier.**
* `usable_iff_isIdentifier`: so everything that can be declared or configured can be used.
-/

namespace TemplateFunctions

/-! ### Three questions for an identifier -/

namespace Identifier

lemma leads_nil {name : Text} (h : TemplateFunctions.isIdentifier name = true) : Leads name [] :=
  ⟨h, nofun⟩

/-- A text is an identifier exactly if the split takes all of it. -/
lemma isIdentifier_iff_split? {t : Text} :
    TemplateFunctions.isIdentifier t = true ↔ split? t = some (t, []) := by
  cases t with
  | nil => simp [TemplateFunctions.isIdentifier, split?]
  | cons c t =>
      by_cases hc : isStart c = true
      · simp only [TemplateFunctions.isIdentifier, split?, hc, if_true, Bool.true_and,
          List.all_eq_true, Option.some.injEq, Prod.mk.injEq, List.cons.injEq, true_and,
          List.takeWhile_eq_self_iff, List.dropWhile_eq_nil_iff, and_self]
      · simp [TemplateFunctions.isIdentifier, split?, hc]

/-- **A text is an identifier exactly if the longest identifier at its start is all of it.** -/
lemma isIdentifier_iff_leading {t : Text} :
    TemplateFunctions.isIdentifier t = true ↔ (split? t).map Prod.fst = some t := by
  constructor
  · intro h
    rw [isIdentifier_iff_split?.1 h]
    rfl
  · intro h
    obtain ⟨⟨name, rest⟩, hsplit, rfl⟩ := Option.map_eq_some_iff.1 h
    exact isIdentifier_of_split? hsplit

end Identifier

/-- **A text is an identifier exactly if it declares itself**, without parameters. -/
lemma Declaration.isIdentifier_iff_read {t : Text} :
    isIdentifier t = true ↔ read t = .ok ⟨t, []⟩ := by
  constructor
  · intro h
    have hleads := Identifier.leads_nil h
    have hblank := hleads.dropWhile_isBlank
    have hparams : paramsOf t = [] := by
      have := paramsOf_append (hleads.notMem (by decide)) []
      rwa [List.append_nil] at this
    rw [List.append_nil] at hblank
    rw [read, hblank, Identifier.isIdentifier_iff_split?.1 h, hparams]
  · intro h
    exact isIdentifier_of_read h

namespace Template

/-! ### The first place -/

/-- The place that no other one lies in front of is the first one. -/
lemma Reading.head?_places {r : Reading} {place : Place} (hmem : place ∈ r.places)
    (hfirst : ∀ other ∈ r.places, place.before.length ≤ other.before.length) :
    r.places.head? = some place := by
  have hordered := pairwise_places r
  cases hplaces : r.places with
  | nil => rw [hplaces] at hmem; cases hmem
  | cons first later =>
      rw [hplaces] at hmem hordered hfirst
      rcases List.mem_cons.1 hmem with rfl | hlater
      · rfl
      · have hlt := (List.pairwise_cons.1 hordered).1 place hlater
        have hle := hfirst first List.mem_cons_self
        omega

/-- No site begins in a text without an `@`. -/
lemma Meets.length_le_of_notMem {s mid : Session} {u v before rest : Text} {site : Site}
    (h : Meets s (u ++ v) mid before site rest) (hu : '@' ∉ u) : u.length ≤ before.length := by
  by_contra hlt
  have htext := h.text
  rw [Site.source_eq, List.cons_append] at htext
  rcases List.append_eq_append_iff.1 htext with ⟨w, rfl, -⟩ | ⟨w, rfl, hw⟩
  · rw [List.length_append] at hlt
    omega
  · cases w with
    | nil =>
        rw [List.append_nil] at hlt
        exact hlt (Nat.le_refl _)
    | cons c w =>
        rw [List.cons_append, List.cons.injEq] at hw
        exact hu (hw.1 ▸ List.mem_append_right before List.mem_cons_self)

/-- **A known identifier behind a text without `@` has the first place**, if the text does not end
in a word character and what follows does not go on with the identifier. -/
lemma exists_first_place {s : Session} {u name v : Text} (hu : '@' ∉ u)
    (hword : endsInWord u = false) (hname : Identifier.Leads name v)
    (hknown : s.table.contains name = true) :
    ∃ site : Site, site.name = name ∧
      (s.read (u ++ '@' :: (name ++ v))).places.head? = some ⟨u, site⟩ := by
  obtain ⟨site, rest, hsite, hmeets⟩ := exists_meets_of_known (.copy hu) hword hname hknown
  refine ⟨site, hsite, Reading.head?_places hmeets.mem_places ?_⟩
  intro other hother
  obtain ⟨mid, rest', hother⟩ := mem_places_iff_meets.1 hother
  exact hother.length_le_of_notMem hu

/-! ### Names that can be used -/

/-- **A name that can be used**: the compilation of some template dispatches it. -/
def Reachable (s : Session) (name : Text) : Prop :=
  ∃ t, ∃ place ∈ (s.read t).places, place.site.name = name

/-- Only identifiers can be used. -/
lemma Reachable.isIdentifier {s : Session} {name : Text} (h : Reachable s name) :
    isIdentifier name = true := by
  obtain ⟨t, place, hplace, rfl⟩ := h
  obtain ⟨mid, rest, hmeets⟩ := mem_places_iff_meets.1 hplace
  exact hmeets.stands.leads.isIdentifier

/-- A known identifier can be used: it is a template by itself, behind an `@`. -/
lemma reachable_of_known {s : Session} {name : Text} (hname : isIdentifier name = true)
    (hknown : s.table.contains name = true) : Reachable s name := by
  obtain ⟨site, hsite, hfirst⟩ :=
    exists_first_place (u := []) List.not_mem_nil rfl (Identifier.leads_nil hname) hknown
  exact ⟨_, ⟨[], site⟩, List.mem_of_mem_head? hfirst, hsite⟩

/-- **A known name can be used exactly if it is an identifier.** -/
lemma reachable_iff {s : Session} {name : Text} (hknown : s.table.contains name = true) :
    Reachable s name ↔ isIdentifier name = true :=
  ⟨Reachable.isIdentifier, fun hname => reachable_of_known hname hknown⟩

/-- **A registered name can be used exactly if it is an identifier, and what can be declared or
configured can be used.** A text is an identifier if the longest identifier at its start is all of
it, or else if it declares itself without parameters. A known name is dispatched by some template
exactly if it is an identifier; a known identifier is then the first that is dispatched in every
template that has it behind an `@`, with no other `@` and no word character right in front, and
where it ends. Every name that a declaration declares, and every name that passes the check, is
known from then on and can be used. -/
theorem usable_iff_isIdentifier (s : Session) (name : Text) :
    (isIdentifier name = true ↔ (Identifier.split? name).map Prod.fst = some name) ∧
      (isIdentifier name = true ↔ Declaration.read name = .ok ⟨name, []⟩) ∧
      (s.table.contains name = true → (Reachable s name ↔ isIdentifier name = true)) ∧
      (s.table.contains name = true → isIdentifier name = true → ∀ u v : Text, '@' ∉ u →
        endsInWord u = false → (∀ c ∈ v.head?, Identifier.isPart c = false) →
        ∃ site : Site, site.name = name ∧
          (s.read (u ++ '@' :: (name ++ v))).places.head? = some ⟨u, site⟩) ∧
      (∀ text params, Declaration.read text = .ok ⟨name, params⟩ →
        (s.perform .declare text).2.table.get? name = some (.call name) ∧
          Reachable (s.perform .declare text).2 name) ∧
      ∀ (e : Emitter) (names : DirectiveNames) (role : DirectiveNames.Role),
        names.check = none → (role, name) ∈ names.enabled →
        (Session.start e names).table.get? name = some role.directive ∧
          Reachable (Session.start e names) name := by
  refine ⟨Identifier.isIdentifier_iff_leading, Declaration.isIdentifier_iff_read, reachable_iff,
    ?_, ?_, ?_⟩
  · intro hknown hname u v hu hword hmaximal
    exact exists_first_place hu hword ⟨hname, hmaximal⟩ hknown
  · intro text params hread
    have hentered : (s.perform .declare text).2.table.get? name = some (.call name) := by
      simp only [Session.perform, hread]
      exact Table.get?_insert_self _ _ _
    exact ⟨hentered, reachable_of_known (Declaration.isIdentifier_of_read hread)
      (Table.contains_of_get?_eq_some hentered)⟩
  · intro e names role hcheck hmem
    have hinstalled : (Session.start e names).table.get? name = some role.directive :=
      DirectiveNames.get?_install_of_mem hcheck hmem .empty
    exact ⟨hinstalled, reachable_of_known ((DirectiveNames.check_eq_none_iff.1 hcheck).1 _ hmem)
      (Table.contains_of_get?_eq_some hinstalled)⟩

end Template

end TemplateFunctions
