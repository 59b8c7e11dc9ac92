import TemplateFunctions.Proofs.Site
import TemplateFunctions.Template.Reading

/-!
The rules of reading a template.

What the reader does at a place of a template is stated here without the reader: which text is
passed over, which text is replaced and by what, and where the reading fails. The rules look at the
text in front of the place only to see whether a word character ends it.

* `Passes`, `Replaces`, `Fails`: the rules.
* `takes_or_fails`: **at every place some rule applies.**
* `readFrom_of_takes`, `readFrom_of_fails`: **the reader does what the rule says.**
* `Passes.not_replaces`, `Passes.unique`, `Replaces.unique`, `Takes.unique`: at most one rule
  applies.
-/

namespace TemplateFunctions

lemma Text.length_lt_append {u : Text} (hu : u ≠ []) (v : Text) : v.length < (u ++ v).length := by
  have hpos : 0 < u.length := List.length_pos_iff.2 hu
  rw [List.length_append]
  omega

namespace Template

/-! ### The rules -/

/-- **The text passed over** behind `before` and in front of `rest`: nothing in it comes alive. -/
inductive Passes (s : Session) (before : Text) : Text → Text → Prop
  /-- A character other than `@`. -/
  | char {c : Char} {rest : Text} : c ≠ '@' → Passes s before [c] rest
  /-- An `@` right behind a word character. -/
  | glued {rest : Text} : endsInWord before = true → Passes s before ['@'] rest
  /-- Two `@` that no name follows. -/
  | pair {rest : Text} : endsInWord before = false → Identifier.Absent rest →
      Passes s before ['@', '@'] rest
  /-- An `@` that neither a name nor another `@` follows. -/
  | lone {rest : Text} : endsInWord before = false → Identifier.Absent rest →
      rest.head? ≠ some '@' → Passes s before ['@'] rest
  /-- An `@` with a name that stands for no directive. -/
  | unknown {name rest : Text} : endsInWord before = false → Identifier.Leads name rest →
      s.table.contains name = false → Passes s before ('@' :: name) rest

/-- **The text replaced** behind `before` and in front of `rest`, with what takes its place and the
session after it. -/
inductive Replaces (s : Session) (before : Text) : Text → Text → Session → Text → Prop
  /-- A name behind two `@` is written behind one. -/
  | escape {name rest : Text} : endsInWord before = false → Identifier.Leads name rest →
      Replaces s before ('@' :: '@' :: name) ('@' :: name) s rest
  /-- A directive site gives the fragment that the directive makes of its argument. -/
  | site {site : Site} {fragment rest : Text} {after : Session} : site.Stands s before rest →
      s.dispatch site.name site.expression = (.ok (some fragment), after) →
      Replaces s before site.source fragment after rest

/-- **A site that fails** behind `before` and in front of `rest`. -/
structure Fails (s : Session) (before : Text) (site : Site) (rest : Text)
    (cause : Declaration.Unnamed) : Prop where
  stands : site.Stands s before rest
  refused : s.dispatch site.name site.expression = (.error cause, s)

/-- One step of a reading that goes on: text is passed over as it is, or replaced. -/
inductive Takes (s : Session) (before : Text) : Text → Text → Session → Text → Prop
  | pass {u rest : Text} : Passes s before u rest → Takes s before u u s rest
  | replace {u r rest : Text} {after : Session} : Replaces s before u r after rest →
      Takes s before u r after rest

lemma Passes.ne_nil {s : Session} {before u rest : Text} (h : Passes s before u rest) : u ≠ [] := by
  cases h <;> exact List.cons_ne_nil _ _

lemma Replaces.ne_nil {s after : Session} {before u r rest : Text}
    (h : Replaces s before u r after rest) : u ≠ [] := by
  cases h <;> exact List.cons_ne_nil _ _

lemma Takes.ne_nil {s after : Session} {before u r rest : Text}
    (h : Takes s before u r after rest) : u ≠ [] := by
  cases h with
  | pass h => exact h.ne_nil
  | replace h => exact h.ne_nil

/-! ### Some rule applies -/

/-- A known name behind an `@` is a site, which gives a fragment or fails. -/
lemma takes_or_fails_of_known {s : Session} {before name t : Text} {d : Directive}
    (hb : endsInWord before = false) (hname : Identifier.Leads name t)
    (hd : s.table.get? name = some d) :
    (∃ u r after rest, '@' :: (name ++ t) = u ++ rest ∧ Takes s before u r after rest) ∨
      ∃ site rest cause, '@' :: (name ++ t) = site.source ++ rest ∧
        Fails s before site rest cause := by
  obtain ⟨site, rest, hsite⟩ : ∃ site rest, siteOf name t = (site, rest) := ⟨_, _, rfl⟩
  have hknown : s.table.contains name = true := Table.contains_of_get?_eq_some hd
  have hstands := stands_of_siteOf hb hname hknown hsite
  obtain ⟨rfl, rfl, -⟩ := siteOf_eq_iff.1 hsite
  rw [← List.append_assoc, ← List.cons_append, ← Site.source_eq]
  obtain ⟨result, after, hp⟩ : ∃ result after, s.perform d site.expression = (result, after) :=
    ⟨_, _, rfl⟩
  cases result with
  | ok fragment =>
      have hdispatch := Session.dispatch_eq_some_iff.2 ⟨d, hd, hp⟩
      exact Or.inl ⟨_, fragment, after, rest, rfl, .replace (.site hstands hdispatch)⟩
  | error cause =>
      obtain ⟨rfl, hread, rfl⟩ := Session.perform_error hp
      have hdispatch := Session.dispatch_eq_error_iff.2 ⟨hd, hread, rfl⟩
      exact Or.inr ⟨site, rest, cause, rfl, hstands, hdispatch⟩

/-- An `@` without a name right behind it is passed over, or it is the first of two `@`. -/
lemma takes_of_absent {s : Session} {before t : Text} (hb : endsInWord before = false)
    (ht : Identifier.Absent t) :
    ∃ u r after rest, '@' :: t = u ++ rest ∧ Takes s before u r after rest := by
  by_cases hat : t.head? = some '@'
  · obtain ⟨t, rfl⟩ := List.head?_eq_some_iff.1 hat
    cases hs : Identifier.split? t with
    | none =>
        have habsent := Identifier.split?_eq_none_iff.1 hs
        exact ⟨['@', '@'], _, _, t, rfl, .pass (.pair hb habsent)⟩
    | some found =>
        obtain ⟨name, rest⟩ := found
        obtain ⟨hname, rfl⟩ := Identifier.split?_eq_some_iff.1 hs
        exact ⟨'@' :: '@' :: name, _, _, rest, rfl, .replace (.escape hb hname)⟩
  · exact ⟨['@'], _, _, t, rfl, .pass (.lone hb ht hat)⟩

/-- **At every place some rule applies.** -/
theorem takes_or_fails (s : Session) (before : Text) {t : Text} (ht : t ≠ []) :
    (∃ u r after rest, t = u ++ rest ∧ Takes s before u r after rest) ∨
      ∃ site rest cause, t = site.source ++ rest ∧ Fails s before site rest cause := by
  obtain ⟨c, t, rfl⟩ := List.exists_cons_of_ne_nil ht
  by_cases hc : c = '@'
  · subst hc
    cases hb : endsInWord before with
    | true => exact Or.inl ⟨['@'], _, _, t, rfl, .pass (.glued hb)⟩
    | false =>
        cases hs : Identifier.split? t with
        | none => exact Or.inl (takes_of_absent hb (Identifier.split?_eq_none_iff.1 hs))
        | some found =>
            obtain ⟨name, v⟩ := found
            obtain ⟨hname, rfl⟩ := Identifier.split?_eq_some_iff.1 hs
            cases hd : s.table.get? name with
            | none =>
                have hunknown : s.table.contains name = false := by simp [Table.contains, hd]
                exact Or.inl ⟨'@' :: name, _, _, v, rfl, .pass (.unknown hb hname hunknown)⟩
            | some d => exact takes_or_fails_of_known hb hname hd
  · exact Or.inl ⟨[c], _, _, t, rfl, .pass (.char hc)⟩

/-! ### The reader does what the rule says -/

/-- Whether a piece is copied as it is, because nothing in it comes alive. -/
def Piece.isCopied : Piece → Bool
  | .char _ | .mark _ | .pair => true
  | .escape _ | .site _ _ => false

/-- A step that takes a piece, seen with the text in front of it. -/
lemma readFrom_of_step {s after : Session} {before t rest : Text} {c : Char} {p : Piece}
    (h : s.step (endsInWord before) c t = .piece p after rest) :
    s.readFrom (endsInWord before) (c :: t)
      = (after.readFrom (endsInWord (before ++ p.source)) rest).cons p := by
  rw [Session.readFrom_of_piece h, endsInWord_append before p.source_ne_nil]
  rfl

lemma stepAt_of_head?_ne {s : Session} {t : Text} (h : t.head? ≠ some '@') :
    s.stepAt t = s.stepName t := by
  cases t with
  | nil => rfl
  | cons c t => rw [Session.stepAt, if_neg fun hc => h (by rw [hc]; rfl)]

lemma step_at (s : Session) (t : Text) : s.step false '@' t = s.stepAt t := by
  rw [Session.step, if_neg (by simp), if_neg Bool.false_ne_true]

/-- The reader runs the directive of a site that stands there. -/
lemma step_of_stands {s : Session} {before rest : Text} {site : Site} {d : Directive}
    (h : site.Stands s before rest) (hd : s.table.get? site.name = some d) :
    s.step (endsInWord before) '@' (site.name ++ (site.tail ++ rest)) =
      match s.perform d site.expression with
      | (.ok fragment, after) => .piece (.site site fragment) after rest
      | (.error cause, after) => .stop ⟨site, cause⟩ after rest := by
  have hsplit := Identifier.split?_eq_some_iff.2 ⟨h.leads, rfl⟩
  have hsite : siteOf site.name (site.tail ++ rest) = (site, rest) :=
    siteOf_eq_iff.2 ⟨rfl, rfl, h.argued⟩
  rw [h.apart, step_at, stepAt_of_head?_ne h.leads.ne_at, Session.stepName, hsplit]
  rcases hp : s.perform d site.expression with ⟨cause | fragment, after⟩
  · simp only [hd, hsite, hp]
  · simp only [hd, hsite, hp]

/-- **The reader passes over what the rules pass over.** -/
lemma step_of_passes {s : Session} {before u rest : Text} (h : Passes s before u rest) :
    ∃ c t, ∃ p : Piece, u ++ rest = c :: t ∧ p.source = u ∧ p.output = u ∧ p.isCopied = true ∧
      s.step (endsInWord before) c t = .piece p s rest := by
  cases h with
  | @char c _ hc => exact ⟨c, rest, .char c, rfl, rfl, rfl, rfl, if_pos hc⟩
  | glued hb =>
      refine ⟨'@', rest, .mark [], rfl, rfl, rfl, rfl, ?_⟩
      rw [hb, Session.step, if_neg (by simp), if_pos rfl]
  | pair hb habsent =>
      refine ⟨'@', '@' :: rest, .pair, rfl, rfl, rfl, rfl, ?_⟩
      rw [hb, step_at, Session.stepAt, if_pos rfl, Session.stepPair,
        Identifier.split?_eq_none_iff.2 habsent]
  | lone hb habsent hat =>
      refine ⟨'@', rest, .mark [], rfl, rfl, rfl, rfl, ?_⟩
      rw [hb, step_at, stepAt_of_head?_ne hat, Session.stepName,
        Identifier.split?_eq_none_iff.2 habsent]
  | @unknown name _ hb hname hunknown =>
      have hd : s.table.get? name = none := by simpa [Table.contains] using hunknown
      refine ⟨'@', name ++ rest, .mark name, rfl, rfl, rfl, rfl, ?_⟩
      rw [hb, step_at, stepAt_of_head?_ne hname.ne_at, Session.stepName,
        Identifier.split?_eq_some_iff.2 ⟨hname, rfl⟩]
      simp only [hd]

/-- The reader writes a name that stands behind two `@` behind one. -/
lemma step_of_escape {s : Session} {before name rest : Text} (hb : endsInWord before = false)
    (hname : Identifier.Leads name rest) :
    s.step (endsInWord before) '@' ('@' :: (name ++ rest)) = .piece (.escape name) s rest := by
  rw [hb, step_at, Session.stepAt, if_pos rfl, Session.stepPair,
    Identifier.split?_eq_some_iff.2 ⟨hname, rfl⟩]

/-- **The reader replaces what the rules replace.** -/
lemma step_of_replaces {s after : Session} {before u r rest : Text}
    (h : Replaces s before u r after rest) :
    ∃ c t, ∃ p : Piece, u ++ rest = c :: t ∧ p.source = u ∧ p.output = r ∧ p.isCopied = false ∧
      s.step (endsInWord before) c t = .piece p after rest := by
  cases h with
  | @escape name _ hb hname =>
      exact ⟨'@', '@' :: (name ++ rest), .escape name, rfl, rfl, rfl, rfl, step_of_escape hb hname⟩
  | @site site _ _ _ hstands hdispatch =>
      obtain ⟨d, hd, hp⟩ := Session.dispatch_eq_some_iff.1 hdispatch
      have hstep := step_of_stands hstands hd
      rw [hp] at hstep
      refine ⟨'@', site.name ++ (site.tail ++ rest), .site site r, ?_, rfl, rfl, rfl, hstep⟩
      rw [Site.source_eq, List.cons_append, List.append_assoc]

/-- **One step of the rules is one step of the reader.** -/
theorem readFrom_of_takes {s after : Session} {before u r rest : Text}
    (h : Takes s before u r after rest) :
    ∃ p : Piece, p.source = u ∧ p.output = r ∧ s.readFrom (endsInWord before) (u ++ rest)
      = (after.readFrom (endsInWord (before ++ u)) rest).cons p := by
  cases h with
  | pass h =>
      obtain ⟨c, t, p, ht, hsource, houtput, -, hstep⟩ := step_of_passes h
      refine ⟨p, hsource, houtput, ?_⟩
      rw [ht, readFrom_of_step hstep, hsource]
  | replace h =>
      obtain ⟨c, t, p, ht, hsource, houtput, -, hstep⟩ := step_of_replaces h
      refine ⟨p, hsource, houtput, ?_⟩
      rw [ht, readFrom_of_step hstep, hsource]

/-- **The reader stops where the rules fail.** -/
theorem readFrom_of_fails {s : Session} {before rest : Text} {site : Site}
    {cause : Declaration.Unnamed} (h : Fails s before site rest cause) :
    s.readFrom (endsInWord before) (site.source ++ rest) = ⟨[], s, some ⟨site, cause⟩⟩ := by
  obtain ⟨hd, hread, -⟩ := Session.dispatch_eq_error_iff.1 h.refused
  have hstep := step_of_stands h.stands hd
  simp only [Session.perform, hread] at hstep
  rw [Site.source_eq, List.cons_append, List.append_assoc]
  exact Session.readFrom_of_stop hstep

/-! ### At most one rule applies -/

/-- No text is both passed over and replaced. -/
lemma Passes.not_replaces {s after : Session} {before u rest v r rest' : Text}
    (hu : Passes s before u rest) (hv : Replaces s before v r after rest') :
    u ++ rest ≠ v ++ rest' := by
  intro hsame
  obtain ⟨c, t, p, ht, -, -, hcopied, hstep⟩ := step_of_passes hu
  obtain ⟨c', t', p', ht', -, -, hcopied', hstep'⟩ := step_of_replaces hv
  cases ht.symm.trans (hsame.trans ht')
  cases hstep.symm.trans hstep'
  exact absurd (hcopied.symm.trans hcopied') (by decide)

/-- Only one text is passed over at a place. -/
lemma Passes.unique {s : Session} {before u rest u' rest' : Text} (h : Passes s before u rest)
    (h' : Passes s before u' rest') (hsame : u ++ rest = u' ++ rest') : u = u' := by
  obtain ⟨c, t, p, ht, rfl, -, -, hstep⟩ := step_of_passes h
  obtain ⟨c', t', p', ht', rfl, -, -, hstep'⟩ := step_of_passes h'
  cases ht.symm.trans (hsame.trans ht')
  cases hstep.symm.trans hstep'
  rfl

/-- Only one text is replaced at a place, by one text, and one session comes of it. -/
lemma Replaces.unique {s after after' : Session} {before u r rest u' r' rest' : Text}
    (h : Replaces s before u r after rest) (h' : Replaces s before u' r' after' rest')
    (hsame : u ++ rest = u' ++ rest') : u = u' ∧ r = r' ∧ after = after' := by
  obtain ⟨c, t, p, ht, rfl, rfl, -, hstep⟩ := step_of_replaces h
  obtain ⟨c', t', p', ht', rfl, rfl, -, hstep'⟩ := step_of_replaces h'
  cases ht.symm.trans (hsame.trans ht')
  cases hstep.symm.trans hstep'
  exact ⟨rfl, rfl, rfl⟩

/-- **At a place there is one step.** -/
lemma Takes.unique {s after after' : Session} {before u r rest u' r' rest' : Text}
    (h : Takes s before u r after rest) (h' : Takes s before u' r' after' rest')
    (hsame : u ++ rest = u' ++ rest') : u = u' ∧ r = r' ∧ after = after' := by
  cases h with
  | pass h =>
      cases h' with
      | pass h' =>
          cases h.unique h' hsame
          exact ⟨rfl, rfl, rfl⟩
      | replace h' => exact absurd hsame (h.not_replaces h')
  | replace h =>
      cases h' with
      | pass h' => exact absurd hsame.symm (h'.not_replaces h)
      | replace h' => exact h.unique h' hsame

end Template

end TemplateFunctions
