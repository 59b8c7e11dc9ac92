import Mathlib.Data.List.Basic
import TemplateFunctions.Proofs.Run

/-!
Locality: how little of the text around it a run depends on.

* `Runs.congr_before`: of the text in front of it, whether a word character ends it.
* `Runs.truncate`: of the text behind it, nothing that can be cut off: a run stays a run when the
  text behind it ends earlier.
* `Site.Stands.extend`, `Takes.extend`: a step before the end of a line stays a step when more text
  follows the line, **if it does not wait for the end of a group**.
-/

namespace TemplateFunctions

/-! ### Cutting text off -/

lemma Text.mem_head?_append {t v : Text} {c : Char} (h : c ∈ t.head?) : c ∈ (t ++ v).head? := by
  obtain ⟨u, rfl⟩ := List.head?_eq_some_iff.1 h
  rfl

namespace Identifier

/-- A longest name stays one when the text behind it is cut off. -/
lemma Leads.truncate {name rest v : Text} (h : Leads name (rest ++ v)) : Leads name rest :=
  ⟨h.isIdentifier, fun c hc => h.maximal c (Text.mem_head?_append hc)⟩

/-- No name starts in what is left of a text that starts with none. -/
lemma Absent.truncate {t v : Text} (h : Absent (t ++ v)) : Absent t :=
  fun c hc => h c (Text.mem_head?_append hc)

end Identifier

namespace Template

/-- The argument of a site stays the one there when the text behind the site is cut off. -/
lemma Site.Argued.truncate {site : Site} {rest v : Text} (h : site.Argued (rest ++ v)) :
    site.Argued rest := by
  obtain ⟨name, argument⟩ := site
  cases argument with
  | some a => exact h
  | none =>
      intro a u ha hrest
      refine h a (u ++ v) ha ?_
      rw [hrest, List.append_assoc]

/-- A site stands when the text behind it is cut off. -/
lemma Site.Stands.truncate {site : Site} {s : Session} {before rest v : Text}
    (h : site.Stands s before (rest ++ v)) : site.Stands s before rest := by
  have hleads : Identifier.Leads site.name (site.tail ++ rest ++ v) := by
    rw [List.append_assoc]
    exact h.leads
  exact ⟨h.apart, hleads.truncate, h.known, h.argued.truncate⟩

/-- A step stays one when the text behind it is cut off. -/
lemma Takes.truncate {s after : Session} {before u r rest v : Text}
    (h : Takes s before u r after (rest ++ v)) : Takes s before u r after rest := by
  cases h with
  | pass h =>
      refine .pass ?_
      cases h with
      | char hc => exact .char hc
      | glued hb => exact .glued hb
      | pair hb habsent => exact .pair hb habsent.truncate
      | lone hb habsent hat =>
          exact .lone hb habsent.truncate fun h => hat (Text.mem_head?_append h)
      | unknown hb hname hunknown => exact .unknown hb hname.truncate hunknown
  | replace h =>
      refine .replace ?_
      cases h with
      | escape hb hname => exact .escape hb hname.truncate
      | site hstands hdispatch => exact .site hstands.truncate hdispatch

/-- **A run stays one when the text behind it is cut off.** -/
theorem Runs.truncate {s after : Session} {before u w rest v : Text}
    (h : Runs s before u w after (rest ++ v)) : Runs s before u w after rest := by
  generalize hr : rest ++ v = r at h
  induction h with
  | nil => exact .nil
  | cons htakes _ ih =>
      subst hr
      rw [← List.append_assoc] at htakes
      exact .cons htakes.truncate (ih rfl)

/-! ### The text in front -/

/-- A site does not depend on the text in front of it, the end of a word apart. -/
lemma Site.Stands.congr_before {site : Site} {s : Session} {before before' rest : Text}
    (hb : endsInWord before = endsInWord before') (h : site.Stands s before rest) :
    site.Stands s before' rest :=
  ⟨hb ▸ h.apart, h.leads, h.known, h.argued⟩

/-- A step does not depend on the text in front of it, the end of a word apart. -/
lemma Takes.congr_before {s after : Session} {before before' u r rest : Text}
    (hb : endsInWord before = endsInWord before') (h : Takes s before u r after rest) :
    Takes s before' u r after rest := by
  cases h with
  | pass h =>
      refine .pass ?_
      cases h with
      | char hc => exact .char hc
      | glued h => exact .glued (hb ▸ h)
      | pair h habsent => exact .pair (hb ▸ h) habsent
      | lone h habsent hat => exact .lone (hb ▸ h) habsent hat
      | unknown h hname hunknown => exact .unknown (hb ▸ h) hname hunknown
  | replace h =>
      refine .replace ?_
      cases h with
      | escape h hname => exact .escape (hb ▸ h) hname
      | site hstands hdispatch => exact .site (hstands.congr_before hb) hdispatch

/-- **A run does not depend on the text in front of it, the end of a word apart.** -/
theorem Runs.congr_before {s after : Session} {before before' u w rest : Text}
    (hb : endsInWord before = endsInWord before') (h : Runs s before u w after rest) :
    Runs s before' u w after rest := by
  induction h generalizing before' with
  | nil => exact .nil
  | cons htakes _ ih =>
      refine .cons (htakes.congr_before hb) (ih ?_)
      rw [endsInWord_append _ htakes.ne_nil, endsInWord_append _ htakes.ne_nil]

end Template

/-! ### More text behind a line -/

namespace Identifier

/-- A longest name stays one when text follows the text behind it. -/
lemma Leads.extend {name rest : Text} (v : Text) (h : Leads name rest) (hrest : rest ≠ []) :
    Leads name (rest ++ v) := by
  refine ⟨h.isIdentifier, ?_⟩
  rw [List.head?_append_of_ne_nil _ hrest]
  exact h.maximal

/-- No name starts a text that starts with none, whatever follows. -/
lemma Absent.extend {t : Text} (v : Text) (h : Absent t) (ht : t ≠ []) : Absent (t ++ v) := by
  rw [Absent, List.head?_append_of_ne_nil _ ht]
  exact h

lemma Leads.newline_notMem {name rest : Text} (h : Leads name rest) : '\n' ∉ name :=
  h.notMem (by decide)

end Identifier

namespace Template

/-- A group opens: blanks and an opening parenthesis stand at the start of the text. -/
def OpensGroup (t : Text) : Prop :=
  ∃ blanks v, (∀ c ∈ blanks, isGap c = true) ∧ t = blanks ++ '(' :: v

/-- Where something other than a blank stands and no group opens, none opens when text follows. -/
lemma not_argument_of_not_opensGroup {rest v u : Text} {a : Argument}
    (hrest : ∃ c ∈ rest, isGap c = false) (hopen : ¬ OpensGroup rest) (ha : a.WellFormed) :
    rest ++ v ≠ a.source ++ u := by
  intro h
  have hsource : a.source ++ u = a.blanks ++ '(' :: (a.interior ++ ')' :: u) := by
    simp [Argument.source]
  obtain ⟨c, hc, hgap⟩ := hrest
  rw [hsource, List.append_eq_append_iff] at h
  rcases h with ⟨w, hblanks, -⟩ | ⟨w, hr, hw⟩
  -- if the blanks of the group reach beyond the text, all of it is blank
  · have := ha.blanks c (hblanks ▸ List.mem_append_left w hc)
    rw [hgap] at this
    cases this
  · cases w with
    | nil =>
        have := ha.blanks c (by rwa [hr, List.append_nil] at hc)
        rw [hgap] at this
        cases this
    | cons d w =>
        rw [List.cons_append, List.cons.injEq] at hw
        exact hopen ⟨a.blanks, w, ha.blanks, by rw [hr, ← hw.1]⟩

/-- A site in a line stands when text follows the line, if it does not wait for the end of a
group. -/
lemma Site.Stands.extend {site : Site} {s : Session} {before rest : Text} (v : Text)
    (h : site.Stands s before rest) (hline : rest.getLast? = some '\n')
    (hclosed : OpensGroup (site.tail ++ rest) → site.argument ≠ none) :
    site.Stands s before (rest ++ v) := by
  have hmem : '\n' ∈ rest := List.mem_of_getLast? hline
  refine ⟨h.apart, ?_, h.known, ?_⟩
  · rw [← List.append_assoc]
    refine h.leads.extend v fun hnil => ?_
    rw [(List.append_eq_nil_iff.1 hnil).2] at hmem
    cases hmem
  · have hargued := h.argued
    obtain ⟨name, argument⟩ := site
    cases argument with
    | some a => exact hargued
    | none =>
        intro a u ha
        exact not_argument_of_not_opensGroup ⟨'\n', hmem, rfl⟩ (fun ho => hclosed ho rfl) ha

/-- What a text ends in, it ends in behind a part that ends otherwise. -/
lemma getLast?_of_append {u rest : Text} {c : Char} (h : (u ++ rest).getLast? = some c)
    (hu : u.getLast? ≠ some c) : rest.getLast? = some c := by
  cases rest with
  | nil =>
      rw [List.append_nil] at h
      exact absurd h hu
  | cons d t => rwa [List.getLast?_append_of_ne_nil _ (List.cons_ne_nil d t)] at h

/-- No site ends in a line break. -/
lemma Site.Stands.getLast?_source_ne {site : Site} {s : Session} {before rest : Text}
    (h : site.Stands s before rest) : site.source.getLast? ≠ some '\n' := by
  have hname := h.leads.newline_notMem
  obtain ⟨name, argument⟩ := site
  cases argument with
  | none =>
      intro hlast
      have hmem := List.mem_of_getLast? hlast
      simp only [Site.source_eq, Site.tail, Option.map_none, Option.getD_none, List.append_nil,
        List.mem_cons] at hmem
      exact hmem.elim (by decide) hname
  | some a => simp [Site.source, Argument.source, List.getLast?_cons]

/-- **A step in a line stays one when text follows the line**, if it does not wait for the end of a
group. -/
lemma Takes.extend {s after : Session} {before u r rest : Text} (v : Text)
    (h : Takes s before u r after rest) (hline : (u ++ rest).getLast? = some '\n')
    (hclosed : ∀ site : Site, u = site.source → site.Stands s before rest →
      OpensGroup (site.tail ++ rest) → site.argument ≠ none) :
    Takes s before u r after (rest ++ v) := by
  -- a step that ends before the last line break leaves text behind it
  have hleft (hu : '\n' ∉ u) : rest ≠ [] := by
    rintro rfl
    rw [List.append_nil] at hline
    exact hu (List.mem_of_getLast? hline)
  cases h with
  | pass h =>
      refine .pass ?_
      cases h with
      | char hc => exact .char hc
      | glued hb => exact .glued hb
      | pair hb habsent => exact .pair hb (habsent.extend v (hleft (by decide)))
      | lone hb habsent hat =>
          have hne := hleft (by decide)
          refine .lone hb (habsent.extend v hne) ?_
          rwa [List.head?_append_of_ne_nil _ hne]
      | unknown hb hname hunknown =>
          have hne := hleft (by simp [hname.newline_notMem])
          exact .unknown hb (hname.extend v hne) hunknown
  | replace h =>
      refine .replace ?_
      cases h with
      | escape hb hname =>
          have hne := hleft (by simp [hname.newline_notMem])
          exact .escape hb (hname.extend v hne)
      | site hstands hdispatch =>
          have hrest := getLast?_of_append hline hstands.getLast?_source_ne
          exact .site (hstands.extend v hrest (hclosed _ rfl hstands)) hdispatch

end Template

end TemplateFunctions
