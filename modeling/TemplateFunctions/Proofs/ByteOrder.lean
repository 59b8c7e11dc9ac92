import Mathlib.Tactic.Common
import TemplateFunctions.Text.Order

/-!
The order of texts by code point is the order by bytes.

In UTF-8 a character is a first byte and up to three bytes that go on with it. The first byte tells
how many there are, with a mark that grows with their number, and all bytes together are the digits
of the code point to the base 64.

* `utf8EncodeChar_eq`: the bytes of a character, said so.
* `cons_digits_append_lt`: **digits in equal number are in the order of their numbers.**
* `utf8EncodeChar_append_lt`: so the bytes of two characters are in the order of their code points.
* `bytes_lt_bytes_iff`: **two texts are in the order of their bytes.**
-/

namespace TemplateFunctions

namespace Text

/-- The bytes of a text in UTF-8. -/
def bytes (t : Text) : List UInt8 :=
  t.flatMap String.utf8EncodeChar

@[simp] lemma bytes_nil : bytes [] = [] := rfl

@[simp] lemma bytes_cons (c : Char) (t : Text) :
    bytes (c :: t) = String.utf8EncodeChar c ++ bytes t := rfl

/-! ### The bytes of a character -/

namespace Utf8

/-- The last `k` digits of a number to the base 64, as bytes that go on with a character. -/
def digits : Nat → Nat → List UInt8
  | 0, _ => []
  | k + 1, n => digits k (n / 64) ++ [UInt8.ofNat (n % 64 + 128)]

/-- What is left of a number in front of its last `k` digits. -/
def above : Nat → Nat → Nat
  | 0, n => n
  | k + 1, n => above k (n / 64)

/-- The number of bytes that go on with the character of a code point. -/
def further (n : Nat) : Nat :=
  if n ≤ 127 then 0 else if n ≤ 2047 then 1 else if n ≤ 65535 then 2 else 3

/-- The mark in the first byte of a character, by the number of bytes that follow. -/
def mark : Nat → Nat
  | 0 => 0
  | 1 => 192
  | 2 => 224
  | _ => 240

/-- The first byte of the character of a code point, as a number. -/
def first (n : Nat) : Nat :=
  above (further n) n + mark (further n)

/-- No code point is greater than the last one of Unicode. -/
lemma toNat_lt (c : Char) : c.toNat < 1114112 := by
  have hvalid : c.toNat.isValidChar := c.valid
  omega

/-- **The bytes of a character**: the first one and the digits behind it. -/
lemma utf8EncodeChar_eq (c : Char) :
    String.utf8EncodeChar c = UInt8.ofNat (first c.toNat) :: digits (further c.toNat) c.toNat := by
  have hc := toNat_lt c
  have hval : c.val.toNat = c.toNat := rfl
  simp only [String.utf8EncodeChar, hval, first, further]
  generalize c.toNat = n at hc
  have hsquare : n / 64 / 64 = n / 4096 := by omega
  have hcube : n / 4096 / 64 = n / 262144 := by omega
  split_ifs with h1 h2 h3
  · simp [digits, above, mark]
  · have hlead : n / 64 % 32 = n / 64 := by omega
    simp [digits, above, mark, hlead]
  · have hlead : n / 4096 % 16 = n / 4096 := by omega
    simp [digits, above, mark, hlead, hsquare]
  · have hlead : n / 262144 % 8 = n / 262144 := by omega
    simp [digits, above, mark, hlead, hsquare, hcube]

/-- A greater code point that takes another number of bytes has a greater first byte. -/
lemma first_lt_first {m n : Nat} (h : m < n) (hn : n < 1114112) (hne : further m ≠ further n) :
    first m < first n := by
  simp only [first, further] at hne ⊢
  split_ifs at hne ⊢ <;> simp only [mark, above] <;> omega

lemma first_lt {n : Nat} (hn : n < 1114112) : first n < 256 := by
  simp only [first, further]
  split_ifs <;> simp only [mark, above] <;> omega

end Utf8

/-! ### The order of bytes -/

open Utf8

/-- Bytes that are given by numbers are in the order of the first number that differs. -/
lemma ofNat_cons_lt_iff {m n : Nat} (hm : m < 256) (hn : n < 256) {u v : List UInt8} :
    UInt8.ofNat m :: u < UInt8.ofNat n :: v ↔ m < n ∨ m = n ∧ u < v := by
  rw [List.cons_lt_cons_iff, UInt8.lt_iff_toNat_lt, ← UInt8.toNat_inj, UInt8.toNat_ofNat',
    UInt8.toNat_ofNat', Nat.mod_eq_of_lt hm, Nat.mod_eq_of_lt hn]

/-- **Digits in equal number are in the order of their numbers**, whatever follows them. The first
byte holds what is left of the numbers in front of the digits. -/
lemma cons_digits_append_lt {b k m n : Nat} (h : m < n) (hn : above k n + b < 256)
    (u v : List UInt8) :
    UInt8.ofNat (above k m + b) :: (digits k m ++ u) <
      UInt8.ofNat (above k n + b) :: (digits k n ++ v) := by
  induction k generalizing m n u v with
  | zero =>
      rw [above] at hn
      rw [above, above]
      exact (ofNat_cons_lt_iff (by omega) hn).2 (Or.inl (by omega))
  | succ k ih =>
      rw [above] at hn
      rw [above, above, digits, digits, List.append_assoc, List.append_assoc]
      rcases Nat.lt_or_ge (m / 64) (n / 64) with hlt | hge
      · exact ih hlt hn _ _
      · -- all digits but the last one agree, and the last one decides
        have heq : m / 64 = n / 64 := by omega
        rw [heq]
        refine (ofNat_cons_lt_iff hn hn).2 (Or.inr ⟨rfl, List.append_left_lt ?_⟩)
        exact (ofNat_cons_lt_iff (by omega) (by omega)).2 (Or.inl (by omega))

/-- **The bytes of two characters** are in the order of their code points, whatever follows them. -/
lemma utf8EncodeChar_append_lt {c d : Char} (h : c.toNat < d.toNat) (u v : List UInt8) :
    String.utf8EncodeChar c ++ u < String.utf8EncodeChar d ++ v := by
  have hc := first_lt (toNat_lt c)
  have hd := first_lt (toNat_lt d)
  rw [utf8EncodeChar_eq, utf8EncodeChar_eq, List.cons_append, List.cons_append]
  by_cases hsame : further c.toNat = further d.toNat
  · rw [first] at hd
    rw [first, first, hsame]
    exact cons_digits_append_lt h hd u v
  · exact (ofNat_cons_lt_iff hc hd).2 (Or.inl (first_lt_first h (toNat_lt d) hsame))

/-- A text that comes before another one comes before it by bytes. -/
lemma bytes_lt_bytes {s t : Text} (hle : le s t = true) (hne : s ≠ t) : bytes s < bytes t := by
  induction s generalizing t with
  | nil =>
      cases t with
      | nil => exact absurd rfl hne
      | cons d t =>
          rw [bytes_nil, bytes_cons, utf8EncodeChar_eq, List.cons_append]
          exact List.nil_lt_cons _ _
  | cons c s ih =>
      cases t with
      | nil => cases hle
      | cons d t =>
          rw [le, Bool.or_eq_true, decide_eq_true_eq, Bool.and_eq_true, beq_iff_eq] at hle
          rw [bytes_cons, bytes_cons]
          rcases hle with hlt | ⟨rfl, hle⟩
          · exact utf8EncodeChar_append_lt hlt _ _
          · exact List.append_left_lt (ih hle fun heq => hne (by rw [heq]))

/-- **Two texts are in the order of their bytes.** -/
lemma bytes_lt_bytes_iff {s t : Text} : bytes s < bytes t ↔ le s t = true ∧ s ≠ t := by
  constructor
  · intro hlt
    have hne : s ≠ t := by
      rintro rfl
      exact List.lt_irrefl _ hlt
    refine ⟨?_, hne⟩
    by_contra hle
    have hge : le t s = true := by
      have := le_total s t
      simpa [hle] using this
    exact List.lt_asymm hlt (bytes_lt_bytes hge (Ne.symm hne))
  · rintro ⟨hle, hne⟩
    exact bytes_lt_bytes hle hne

end Text

end TemplateFunctions
