/-!
Text as a list of Unicode characters, and the few operations on it that every part of the library
shares.

* `Text.trim`: the text without the characters of a class at its two ends.
* `Text.beforeLast?`: what stands before the last occurrence of a character;
  `beforeLast?_eq_some_iff` says which split that is.
* `Text.lineAfter`: the number of the line that follows a text.
-/

namespace TemplateFunctions

/-- Text is a list of characters, so that every function on it is a recursion on a list. -/
abbrev Text := List Char

namespace Text

/-! ### Runs of a class -/

/-- What follows a run does not start with a character of its class. -/
theorem of_mem_head?_dropWhile {p : Char → Bool} {t : Text} {c : Char}
    (h : c ∈ (t.dropWhile p).head?) : p c = false := by
  have := List.head?_dropWhile_not p t
  rwa [Option.mem_def.1 h] at this

/-! ### Trimming -/

/-- Drops the characters of the class `p` from both ends. -/
def trim (p : Char → Bool) (t : Text) : Text :=
  ((t.dropWhile p).reverse.dropWhile p).reverse

/-! ### The last occurrence of a character -/

/-- What stands before the last `x` of the text, if there is an `x`. -/
def beforeLast? (x : Char) : Text → Option Text
  | [] => none
  | c :: t =>
    match beforeLast? x t with
    | some u => some (c :: u)
    | none => if c = x then some [] else none

/-- There is no last `x` exactly in a text without `x`. -/
theorem beforeLast?_eq_none_iff {x : Char} {t : Text} : beforeLast? x t = none ↔ x ∉ t := by
  induction t with
  | nil => simp [beforeLast?]
  | cons c t ih =>
    simp only [beforeLast?, List.mem_cons, not_or]
    split
    · next u hu => simp_all
    · next hn =>
      have := ih.1 hn
      by_cases hc : c = x
      · simp [hc]
      · simp [hc, this, Ne.symm hc]

/-- The split at the last `x`: no `x` stands in what follows it. -/
theorem beforeLast?_eq_some_iff {x : Char} {t u : Text} :
    beforeLast? x t = some u ↔ ∃ v, t = u ++ x :: v ∧ x ∉ v := by
  induction t generalizing u with
  | nil => simp [beforeLast?]
  | cons c t ih =>
    rw [beforeLast?]
    split
    · next w hw =>
      obtain ⟨v, rfl, hv⟩ := ih.1 hw
      constructor
      · rintro ⟨rfl⟩
        exact ⟨v, rfl, hv⟩
      · rintro ⟨v', h, hv'⟩
        cases u with
        | nil =>
          -- the split is not at this character, since an `x` follows it
          simp only [List.nil_append, List.cons.injEq] at h
          exact absurd (h.2 ▸ List.mem_append_right w List.mem_cons_self) hv'
        | cons d u =>
          simp only [List.cons_append, List.cons.injEq] at h
          have := ih.2 ⟨v', h.2, hv'⟩
          rw [hw] at this
          simp_all
    · next hn =>
      have hx := beforeLast?_eq_none_iff.1 hn
      constructor
      · intro h
        by_cases hc : c = x
        · simp only [hc, if_true, Option.some.injEq] at h
          exact ⟨t, by simp [← h, hc], hx⟩
        · simp [hc] at h
      · rintro ⟨v, h, -⟩
        cases u with
        | nil => simp only [List.nil_append, List.cons.injEq] at h; simp [h.1]
        | cons d u =>
          simp only [List.cons_append, List.cons.injEq] at h
          exact absurd (h.2 ▸ List.mem_append_right u List.mem_cons_self) hx

/-! ### Lines and sizes -/

/-- The number, from 1, of the line that a text ends on. -/
def lineAfter (before : Text) : Nat :=
  before.count '\n' + 1

theorem lineAfter_append (s t : Text) : lineAfter (s ++ t) = s.count '\n' + lineAfter t := by
  simp [lineAfter, List.count_append, Nat.add_assoc]

/-- The number of bytes of the text in UTF-8. -/
def utf8Size : Text → Nat
  | [] => 0
  | c :: t => c.utf8Size + utf8Size t

@[simp] theorem utf8Size_nil : utf8Size [] = 0 := rfl

@[simp] theorem utf8Size_cons (c : Char) (t : Text) :
    utf8Size (c :: t) = c.utf8Size + utf8Size t := rfl

@[simp] theorem utf8Size_append (s t : Text) : utf8Size (s ++ t) = utf8Size s + utf8Size t := by
  induction s with
  | nil => simp
  | cons c s ih => simp [ih, Nat.add_assoc]

end Text

end TemplateFunctions
