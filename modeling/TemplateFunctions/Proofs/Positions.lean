import Mathlib.Tactic.Common
import TemplateFunctions.Text.Basic

/-!
Byte positions in a text.

A position counts the bytes in front of it. Not every number is one: a text can only be cut between
two characters.

* `utf8Size_le_of_prefix`, `utf8Size_lt_of_prefix`: a longer beginning of a text has more bytes.
* `cut?`, `cut?_eq_some_iff`: **the two parts of a text at a position**; there is one cut at most
  (`append_inj_of_utf8Size`).
-/

namespace TemplateFunctions

namespace Text

lemma utf8Size_le_of_prefix {u t : Text} (h : u <+: t) : utf8Size u ≤ utf8Size t := by
  obtain ⟨v, rfl⟩ := h
  rw [utf8Size_append]
  omega

lemma utf8Size_lt_of_prefix {u t : Text} {c : Char} (h : u ++ [c] <+: t) :
    utf8Size u < utf8Size t := by
  have hle := utf8Size_le_of_prefix h
  have hpos := c.utf8Size_pos
  rw [utf8Size_append, utf8Size_cons] at hle
  omega

/-- The text in front of a position and the text behind it, if no character lies across it. -/
def cut? : Text → ℕ → Option (Text × Text)
  | t, 0 => some ([], t)
  | [], _ + 1 => none
  | c :: t, i + 1 =>
    if c.utf8Size ≤ i + 1 then
      (cut? t (i + 1 - c.utf8Size)).map fun (u, v) => (c :: u, v)
    else none

/-- A cut is found between the two parts. -/
lemma cut?_append (u v : Text) : cut? (u ++ v) (utf8Size u) = some (u, v) := by
  induction u with
  | nil => rw [utf8Size_nil, cut?, List.nil_append]
  | cons c u ih =>
      have hpos := c.utf8Size_pos
      obtain ⟨i, hi⟩ : ∃ i, utf8Size (c :: u) = i + 1 :=
        Nat.exists_eq_succ_of_ne_zero (by rw [utf8Size_cons]; omega)
      have hrest : i + 1 - c.utf8Size = utf8Size u := by
        rw [← hi, utf8Size_cons]
        omega
      have hle : c.utf8Size ≤ i + 1 := by
        rw [← hi, utf8Size_cons]
        omega
      rw [hi, List.cons_append, cut?, if_pos hle, hrest, ih, Option.map_some]

/-- The two parts of a cut make up the text. -/
lemma append_of_cut? {t u v : Text} {i : ℕ} (h : cut? t i = some (u, v)) :
    t = u ++ v ∧ utf8Size u = i := by
  induction t generalizing i u with
  | nil =>
      cases i with
      | zero => cases h; exact ⟨rfl, rfl⟩
      | succ i => cases h
  | cons c t ih =>
      cases i with
      | zero => cases h; exact ⟨rfl, rfl⟩
      | succ i =>
          rw [cut?] at h
          split at h
          · next hle =>
            simp only [Option.map_eq_some_iff, Prod.exists, Prod.mk.injEq] at h
            obtain ⟨w, x, hw, rfl, rfl⟩ := h
            obtain ⟨rfl, hsize⟩ := ih hw
            refine ⟨rfl, ?_⟩
            rw [utf8Size_cons]
            omega
          · cases h

/-- **A cut gives the two parts of the text at the position.** -/
theorem cut?_eq_some_iff {t u v : Text} {i : ℕ} :
    cut? t i = some (u, v) ↔ t = u ++ v ∧ utf8Size u = i := by
  constructor
  · exact append_of_cut?
  · rintro ⟨rfl, rfl⟩
    exact cut?_append u v

/-- A text is cut in one way at a position. -/
lemma append_inj_of_utf8Size {u v u' v' : Text} (h : u ++ v = u' ++ v')
    (hsize : utf8Size u = utf8Size u') : u = u' ∧ v = v' := by
  have hcut := cut?_append u v
  rw [h, hsize, cut?_append] at hcut
  cases hcut
  exact ⟨rfl, rfl⟩

end Text

end TemplateFunctions
