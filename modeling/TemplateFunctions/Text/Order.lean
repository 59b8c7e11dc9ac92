import TemplateFunctions.Text.Basic

/-!
The order of texts by code point: the first character that differs decides, and a text comes before
every longer one that starts with it. The bytes of UTF-8 have the same order.

* `Text.le`: whether a text comes before another one or is the same.
* `le_total`, `le_trans`, `le_antisymm`: it is a linear order.
-/

namespace TemplateFunctions

namespace Text

/-- Whether a text comes before another one or is the same. -/
def le : Text → Text → Bool
  | [], _ => true
  | _ :: _, [] => false
  | c :: s, d :: t => c.toNat < d.toNat || (c == d && le s t)

/-- Of two texts one comes first. -/
theorem le_total (s t : Text) : (le s t || le t s) = true := by
  induction s generalizing t with
  | nil => simp [le]
  | cons c s ih =>
    cases t with
    | nil => simp [le]
    | cons d t =>
      rcases Nat.lt_trichotomy c.toNat d.toNat with h | h | h
      · simp [le, h]
      · obtain rfl := Char.toNat_inj.1 h
        simpa [le] using ih t
      · simp [le, h]

/-- Two texts that come before each other are the same. -/
theorem le_antisymm {s t : Text} (hs : le s t = true) (ht : le t s = true) : s = t := by
  induction s generalizing t with
  | nil =>
    cases t with
    | nil => rfl
    | cons d t => simp [le] at ht
  | cons c s ih =>
    cases t with
    | nil => simp [le] at hs
    | cons d t =>
      simp only [le, Bool.or_eq_true, decide_eq_true_eq, Bool.and_eq_true, beq_iff_eq] at hs ht
      rcases hs with hs | ⟨rfl, hs⟩
      · rcases ht with ht | ⟨rfl, -⟩
        · exact absurd hs (Nat.lt_asymm ht)
        · exact absurd hs (Nat.lt_irrefl _)
      · rcases ht with ht | ⟨-, ht⟩
        · exact absurd ht (Nat.lt_irrefl _)
        · rw [ih hs ht]

/-- What comes before a text comes before everything behind that text. -/
theorem le_trans {s t u : Text} (hs : le s t = true) (ht : le t u = true) : le s u = true := by
  induction s generalizing t u with
  | nil => simp [le]
  | cons c s ih =>
    cases t with
    | nil => simp [le] at hs
    | cons d t =>
      cases u with
      | nil => simp [le] at ht
      | cons e u =>
        simp only [le, Bool.or_eq_true, decide_eq_true_eq, Bool.and_eq_true, beq_iff_eq] at hs ht ⊢
        rcases hs with hs | ⟨rfl, hs⟩
        · rcases ht with ht | ⟨rfl, -⟩
          · exact Or.inl (Nat.lt_trans hs ht)
          · exact Or.inl hs
        · rcases ht with ht | ⟨rfl, ht⟩
          · exact Or.inl ht
          · exact Or.inr ⟨rfl, ih hs ht⟩

end Text

end TemplateFunctions
