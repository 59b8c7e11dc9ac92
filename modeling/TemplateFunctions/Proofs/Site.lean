import Mathlib.Tactic.Common
import TemplateFunctions.Proofs.Balance
import TemplateFunctions.Template.Piece

/-!
The sites of a template: what stands as a name, as an argument and as a directive site.

The reader splits a name off and looks for a group; here the same things are said by what the text
is.

* `Identifier.Leads`, `Identifier.Absent`: the longest name at the start of a text, and none.
* `Argument.WellFormed`: blanks and a balanced group.
* `Site.Stands`: **a directive site** between the text in front of it and the text behind it.
* `split?_eq_some_iff`, `argument?_eq_some_iff`, `siteOf_eq_iff`: the reader's functions find just
  these.
-/

namespace TemplateFunctions

/-! ### Names -/

namespace Identifier

/-- A name at the start of a text is the longest identifier there: `rest` does not go on with it. -/
structure Leads (name rest : Text) : Prop where
  isIdentifier : isIdentifier name = true
  maximal : ∀ c ∈ rest.head?, isPart c = false

/-- No identifier stands at the start of the text. -/
def Absent (t : Text) : Prop := ∀ c ∈ t.head?, isStart c = false

/-- **The split takes the longest identifier.** -/
lemma split?_eq_some_iff {t name rest : Text} :
    split? t = some (name, rest) ↔ Leads name rest ∧ t = name ++ rest := by
  constructor
  · intro h
    refine ⟨⟨isIdentifier_of_split? h, ?_⟩, (split?_append h).symm⟩
    cases t with
    | nil => cases h
    | cons c t =>
        rw [split?] at h
        split at h
        · cases h
          exact fun d hd => Text.of_mem_head?_dropWhile hd
        · cases h
  · rintro ⟨⟨hid, hmax⟩, rfl⟩
    cases name with
    | nil => cases hid
    | cons c t =>
        rw [TemplateFunctions.isIdentifier, Bool.and_eq_true, List.all_eq_true] at hid
        have hrun : rest.takeWhile isPart = [] ∧ rest.dropWhile isPart = rest := by
          cases rest with
          | nil => exact ⟨rfl, rfl⟩
          | cons d u => simp [hmax d (by simp)]
        rw [List.cons_append, split?, if_pos hid.1, List.takeWhile_append_of_pos hid.2,
          List.dropWhile_append_of_pos hid.2, hrun.1, hrun.2, List.append_nil]

lemma split?_eq_none_iff {t : Text} : split? t = none ↔ Absent t := by
  cases t with
  | nil => simp [split?, Absent]
  | cons c t => simp [split?, Absent]

/-- Every character of an identifier may continue one. -/
lemma isPart_of_mem {name : Text} (h : isIdentifier name = true) {c : Char} (hc : c ∈ name) :
    isPart c = true := by
  cases name with
  | nil => cases hc
  | cons d t =>
      rw [TemplateFunctions.isIdentifier, Bool.and_eq_true, List.all_eq_true] at h
      rcases List.mem_cons.1 hc with rfl | ht
      · exact isPart_of_isStart h.1
      · exact h.2 c ht

lemma notMem_of_isPart {name : Text} (h : TemplateFunctions.isIdentifier name = true) {c : Char}
    (hc : isPart c = false) : c ∉ name := by
  intro hmem
  rw [isPart_of_mem h hmem] at hc
  cases hc

/-- A character that no name goes on with ends every name in front of it. -/
lemma leads_cons {name : Text} (hname : TemplateFunctions.isIdentifier name = true) {c : Char}
    (hc : isPart c = false) (t : Text) : Leads name (c :: t) := by
  refine ⟨hname, fun d hd => ?_⟩
  cases hd
  exact hc

lemma Leads.ne_nil {name rest : Text} (h : Leads name rest) : name ≠ [] := by
  rintro rfl
  cases h.isIdentifier

lemma Leads.notMem {name rest : Text} (h : Leads name rest) {c : Char} (hc : isPart c = false) :
    c ∉ name :=
  notMem_of_isPart h.isIdentifier hc

lemma Leads.ne_at {name rest : Text} (h : Leads name rest) : (name ++ rest).head? ≠ some '@' := by
  obtain ⟨c, t, rfl⟩ := List.exists_cons_of_ne_nil h.ne_nil
  have hat : '@' ∉ c :: t := h.notMem (by decide)
  rintro hhead
  cases hhead
  exact hat List.mem_cons_self

end Identifier

namespace Template

/-! ### Arguments and sites -/

/-- An argument as it is written: blanks and the interior of a balanced group. -/
structure Argument.WellFormed (a : Argument) : Prop where
  blanks : ∀ c ∈ a.blanks, isGap c = true
  balanced : Group.Balanced a.interior

/-- An argument is found exactly when the text starts with a well-formed one. -/
lemma argument?_eq_some_iff {t rest : Text} {a : Argument} :
    argument? t = some (a, rest) ↔ a.WellFormed ∧ t = a.source ++ rest := by
  constructor
  · intro h
    refine ⟨?_, (argument?_append h).symm⟩
    simp only [argument?, Option.map_eq_some_iff, Prod.exists, Prod.mk.injEq] at h
    obtain ⟨interior, r, hi, rfl, rfl⟩ := h
    exact ⟨fun c hc => List.all_eq_true.1 List.all_takeWhile c hc,
      (Group.interior?_eq_some_iff.1 hi).1⟩
  · rintro ⟨⟨hblanks, hbal⟩, rfl⟩
    have hi : Group.interior? ('(' :: (a.interior ++ ')' :: rest)) = some (a.interior, rest) :=
      Group.interior?_eq_some_iff.2 ⟨hbal, rfl⟩
    have hrest : a.source ++ rest = a.blanks ++ '(' :: (a.interior ++ ')' :: rest) := by
      simp [Argument.source]
    have hgap : ¬ isGap '(' = true := by decide
    rw [argument?, hrest, List.dropWhile_append_of_pos hblanks,
      List.takeWhile_append_of_pos hblanks, List.dropWhile_cons_of_neg hgap,
      List.takeWhile_cons_of_neg hgap, hi, List.append_nil]
    rfl

/-- No argument is found exactly when the text starts with no well-formed one. -/
lemma argument?_eq_none_iff {t : Text} :
    argument? t = none ↔ ∀ (a : Argument) (u : Text), a.WellFormed → t ≠ a.source ++ u := by
  rw [Option.eq_none_iff_forall_ne_some]
  constructor
  · intro h a u ha ht
    exact h (a, u) (argument?_eq_some_iff.2 ⟨ha, ht⟩)
  · rintro h ⟨a, u⟩ hi
    obtain ⟨ha, ht⟩ := argument?_eq_some_iff.1 hi
    exact h a u ha ht

/-- The text of a site behind its name: the argument, if there is one. -/
def Site.tail (site : Site) : Text := (site.argument.map Argument.source).getD []

/-- The argument of a site is the one that the text behind its name starts with. A site has none
only where no well-formed argument begins. -/
def Site.Argued (site : Site) (rest : Text) : Prop :=
  match site.argument with
  | some a => a.WellFormed
  | none => ∀ (a : Argument) (u : Text), a.WellFormed → rest ≠ a.source ++ u

lemma Site.source_eq (site : Site) : site.source = '@' :: (site.name ++ site.tail) := rfl

/-- The site that is read for a name has the argument that the text behind the name starts with. -/
lemma siteOf_eq_iff {name t rest : Text} {site : Site} :
    siteOf name t = (site, rest) ↔ site.name = name ∧ t = site.tail ++ rest ∧ site.Argued rest := by
  obtain ⟨n, argument⟩ := site
  rw [siteOf]
  cases ha : argument? t with
  | some found =>
      obtain ⟨a, r⟩ := found
      have hw := argument?_eq_some_iff.1 ha
      constructor
      · rintro ⟨rfl, rfl⟩
        exact ⟨rfl, hw.2, hw.1⟩
      · rintro ⟨rfl, ht, hargued⟩
        cases argument with
        | some a' => cases ha.symm.trans (argument?_eq_some_iff.2 ⟨hargued, ht⟩); rfl
        | none => exact absurd (ht.symm.trans hw.2) (hargued a r hw.1)
  | none =>
      have hw := argument?_eq_none_iff.1 ha
      constructor
      · rintro ⟨rfl, rfl⟩
        exact ⟨rfl, rfl, hw⟩
      · rintro ⟨rfl, ht, hargued⟩
        cases argument with
        | some a' => exact absurd ht (hw a' rest hargued)
        | none => rw [ht]; rfl

/-! ### Directive sites -/

/-- Whether a word character ends the text. -/
def endsInWord (t : Text) : Bool := (t.getLast?.map Identifier.isWord).getD false

lemma endsInWord_append (t : Text) {u : Text} (hu : u ≠ []) :
    endsInWord (t ++ u) = endsInWord u := by
  rw [endsInWord, List.getLast?_append, List.getLast?_eq_some_getLast hu, Option.some_or,
    endsInWord, List.getLast?_eq_some_getLast hu]

/-- **A directive site** behind `before` and in front of `rest`: no word character stands before it,
its name is as long as it can be and stands for a directive, and its argument is the one there. -/
structure Site.Stands (site : Site) (s : Session) (before rest : Text) : Prop where
  apart : endsInWord before = false
  leads : Identifier.Leads site.name (site.tail ++ rest)
  known : s.table.contains site.name = true
  argued : site.Argued rest

/-- The site that is read for a name stands there if its name is known. -/
lemma stands_of_siteOf {s : Session} {before name t rest : Text} {site : Site}
    (hb : endsInWord before = false) (hname : Identifier.Leads name t)
    (hknown : s.table.contains name = true) (hsite : siteOf name t = (site, rest)) :
    site.Stands s before rest := by
  obtain ⟨rfl, rfl, hargued⟩ := siteOf_eq_iff.1 hsite
  exact ⟨hb, hname, hknown, hargued⟩

end Template

end TemplateFunctions
