import Mathlib.Data.List.TakeWhile
import Mathlib.Tactic.Common
import TemplateFunctions.Emitter

/-!
Trimming: what is left of a text without the characters of a class at its two ends, and what leads
from a parameter or argument list to the context parameter.

* `Text.IsTrimmed`: the core of a text, said by how the text is made up.
* `isTrimmed_trim`, `IsTrimmed.eq_trim`: **the trimmed text is the core**, and no other text is.
* `SameCore`: two texts that differ in their margins only.
* `exists_isTrimmed_leadIn`: **a list is trimmed and joined by ` , `, unless nothing is left of
  it.**
-/

namespace TemplateFunctions

namespace Text

/-- **The core of a text**: characters of the class stand around it, and it neither starts nor ends
with one. -/
structure IsTrimmed (p : Char → Bool) (t core : Text) : Prop where
  around : ∃ a b, t = a ++ core ++ b ∧ (∀ c ∈ a, p c = true) ∧ ∀ c ∈ b, p c = true
  first : ∀ c ∈ core.head?, p c = false
  last : ∀ c ∈ core.getLast?, p c = false

/-- **The trimmed text is the core.** -/
lemma isTrimmed_trim (p : Char → Bool) (t : Text) : IsTrimmed p t (trim p t) := by
  have htail : t.dropWhile p = trim p t ++ ((t.dropWhile p).reverse.takeWhile p).reverse := by
    rw [trim, ← List.reverse_append, List.takeWhile_append_dropWhile, List.reverse_reverse]
  refine ⟨⟨t.takeWhile p, ((t.dropWhile p).reverse.takeWhile p).reverse, ?_, ?_, ?_⟩, ?_, ?_⟩
  · rw [List.append_assoc, ← htail, List.takeWhile_append_dropWhile]
  · exact fun c hc => List.all_eq_true.1 List.all_takeWhile c hc
  · exact fun c hc => List.all_eq_true.1 List.all_takeWhile c (List.mem_reverse.1 hc)
  · intro c hc
    obtain ⟨u, hu⟩ := List.head?_eq_some_iff.1 hc
    refine of_mem_head?_dropWhile (t := t) ?_
    rw [htail, hu]
    rfl
  · intro c hc
    rw [trim, List.getLast?_reverse] at hc
    exact of_mem_head?_dropWhile hc

lemma dropWhile_eq_self {p : Char → Bool} {t : Text} (h : ∀ c ∈ t.head?, p c = false) :
    t.dropWhile p = t := by
  cases t with
  | nil => rfl
  | cons c t => rw [List.dropWhile_cons_of_neg (by simp [h c rfl])]

/-- **A text has one core.** -/
lemma IsTrimmed.eq_trim {p : Char → Bool} {t core : Text} (h : IsTrimmed p t core) :
    core = trim p t := by
  obtain ⟨⟨a, b, rfl, ha, hb⟩, hfirst, hlast⟩ := h
  rw [trim, List.append_assoc, List.dropWhile_append_of_pos ha]
  by_cases hnil : core = []
  · rw [hnil, List.nil_append, List.dropWhile_eq_nil_iff.2 hb]
    rfl
  · have hhead : ∀ c ∈ (core ++ b).head?, p c = false := by
      obtain ⟨c, u, rfl⟩ := List.exists_cons_of_ne_nil hnil
      exact hfirst
    have hback : ∀ c ∈ core.reverse.head?, p c = false := by
      rw [List.head?_reverse]
      exact hlast
    have hmargin : ∀ c ∈ b.reverse, p c = true := fun c hc => hb c (List.mem_reverse.1 hc)
    rw [dropWhile_eq_self hhead, List.reverse_append, List.dropWhile_append_of_pos hmargin,
      dropWhile_eq_self hback, List.reverse_reverse]

/-- **Two texts with the same core** are the same but for characters of the class around them. -/
def SameCore (p : Char → Bool) (s t : Text) : Prop :=
  ∃ core, IsTrimmed p s core ∧ IsTrimmed p t core

/-- Texts have the same core exactly if they are the same when they are trimmed. -/
lemma sameCore_iff {p : Char → Bool} {s t : Text} : SameCore p s t ↔ trim p s = trim p t := by
  constructor
  · rintro ⟨core, hs, ht⟩
    rw [← hs.eq_trim, ← ht.eq_trim]
  · intro h
    exact ⟨trim p s, isTrimmed_trim p s, h ▸ isTrimmed_trim p t⟩

/-- Margins around a text leave its core alone. -/
lemma sameCore_margins {p : Char → Bool} {l r : Text} (hl : ∀ c ∈ l, p c = true)
    (hr : ∀ c ∈ r, p c = true) (t : Text) : SameCore p (l ++ t ++ r) t := by
  have hcore := isTrimmed_trim p t
  obtain ⟨a, b, ht, ha, hb⟩ := hcore.around
  have haround : l ++ t ++ r = (l ++ a) ++ trim p t ++ (b ++ r) := by
    calc l ++ t ++ r = l ++ (a ++ trim p t ++ b) ++ r := by rw [← ht]
      _ = (l ++ a) ++ trim p t ++ (b ++ r) := by simp only [List.append_assoc]
  exact ⟨trim p t, ⟨⟨l ++ a, b ++ r, haround, List.forall_mem_append.2 ⟨hl, ha⟩,
    List.forall_mem_append.2 ⟨hb, hr⟩⟩, hcore.first, hcore.last⟩, hcore⟩

end Text

namespace Emitter

/-- **What leads from a list to the context**: the list without its margins and ` , ` behind it, or
nothing if nothing is left of the list. -/
lemma exists_isTrimmed_leadIn (list : Text) :
    ∃ core, Text.IsTrimmed isMargin list core ∧
      leadIn list = if core = [] then [] else core ++ " , ".toList :=
  ⟨Text.trim isMargin list, Text.isTrimmed_trim isMargin list, rfl⟩

/-- **Lists lead to the context alike** exactly if they differ in their margins only. -/
lemma leadIn_eq_leadIn_iff {list list' : Text} :
    leadIn list = leadIn list' ↔ Text.SameCore isMargin list list' := by
  have hseparator : separator ≠ [] := by decide
  rw [Text.sameCore_iff]
  simp only [leadIn]
  constructor
  · intro h
    split at h
    · next hnil =>
      split at h
      · next hnil' => rw [hnil, hnil']
      · exact absurd (List.append_eq_nil_iff.1 h.symm).2 hseparator
    · split at h
      · exact absurd (List.append_eq_nil_iff.1 h).2 hseparator
      · exact (List.append_left_inj separator).1 h
  · intro h
    rw [h]

end Emitter

end TemplateFunctions
