import Mathlib.Tactic.Common
import TemplateFunctions.Group

/-!
Balanced groups by their grammar.

The scan of a group keeps a mode and a depth. What it accepts has a plain grammar: a text is
balanced if it is made of ordinary characters, whole strings and whole groups.

* `Group.Quoted`, `Group.Balanced`: the grammar of the rest of a string and of the interior of a
  group.
* `Group.Closes`: what stands before the end of the outermost of several open groups; the invariant
  of the scan, `spans_of_scan`, is stated with it.
* `interior?_eq_some_iff`: **the scan finds a group exactly when the text starts with a balanced
  one**, so the group depends on nothing behind it.
-/

namespace TemplateFunctions

namespace Group

/-! ### The grammar -/

/-- The rest of a string that the quote `q` has opened, the closing quote included. A backslash
hides the character behind it. -/
inductive Quoted (q : Char) : Text → Prop
  | close : Quoted q [q]
  | hidden {c : Char} {t : Text} : Quoted q t → Quoted q ('\\' :: c :: t)
  | char {c : Char} {t : Text} : c ≠ '\\' → c ≠ q → Quoted q t → Quoted q (c :: t)

/-- A quote opens a string. -/
def IsQuote (c : Char) : Prop := c = '\'' ∨ c = '"'

instance : DecidablePred IsQuote := fun c => inferInstanceAs (Decidable (c = '\'' ∨ c = '"'))

lemma IsQuote.ne_open {c : Char} (h : IsQuote c) : c ≠ '(' := by
  rintro rfl
  exact absurd h (by simp [IsQuote])

lemma IsQuote.ne_close {c : Char} (h : IsQuote c) : c ≠ ')' := by
  rintro rfl
  exact absurd h (by simp [IsQuote])

/-- An ordinary character is neither a quote nor a parenthesis. -/
def IsOrdinary (c : Char) : Prop := ¬ IsQuote c ∧ c ≠ '(' ∧ c ≠ ')'

instance : DecidablePred IsOrdinary := fun c =>
  inferInstanceAs (Decidable (¬ IsQuote c ∧ c ≠ '(' ∧ c ≠ ')'))

/-- **A balanced text**: ordinary characters, whole strings and whole groups in any order. -/
inductive Balanced : Text → Prop
  | nil : Balanced []
  | char {c : Char} {t : Text} : IsOrdinary c → Balanced t → Balanced (c :: t)
  | string {q : Char} {u t : Text} : IsQuote q → Quoted q u → Balanced t → Balanced (q :: (u ++ t))
  | group {u t : Text} : Balanced u → Balanced t → Balanced ('(' :: (u ++ ')' :: t))

/-- Two balanced texts one after the other are balanced. -/
lemma Balanced.append {u t : Text} (hu : Balanced u) (ht : Balanced t) : Balanced (u ++ t) := by
  induction hu with
  | nil => exact ht
  | char hc _ ih => exact .char hc ih
  | string hq hw _ ih =>
      rw [List.cons_append, List.append_assoc]
      exact .string hq hw ih
  | group hv _ _ ih =>
      rw [List.cons_append, List.append_assoc, List.cons_append]
      exact .group hv ih

/-- A text of ordinary characters is balanced. -/
lemma balanced_of_ordinary {t : Text} (h : ∀ c ∈ t, IsOrdinary c) : Balanced t := by
  induction t with
  | nil => exact .nil
  | cons c t ih =>
      exact .char (h c List.mem_cons_self) (ih fun d hd => h d (List.mem_cons_of_mem c hd))

/-- The rest of a string may begin with any characters but backslashes and its quote. -/
lemma Quoted.prepend {q : Char} {u t : Text} (hu : ∀ c ∈ u, c ≠ '\\' ∧ c ≠ q)
    (ht : Quoted q t) : Quoted q (u ++ t) := by
  induction u with
  | nil => exact ht
  | cons c u ih =>
      have hc := hu c List.mem_cons_self
      exact .char hc.1 hc.2 (ih fun d hd => hu d (List.mem_cons_of_mem c hd))

/-! ### Several open groups -/

/-- A text that closes `d` open groups one after another, balanced before, between and behind the
closing parentheses. -/
inductive Closes : ℕ → Text → Prop
  | done {u : Text} : Balanced u → Closes 0 u
  | shut {d : ℕ} {u t : Text} : Balanced u → Closes d t → Closes (d + 1) (u ++ ')' :: t)

namespace Closes

variable {d : ℕ} {t : Text}

/-- A balanced text in front changes nothing. -/
lemma append_left {u : Text} (hu : Balanced u) (h : Closes d t) : Closes d (u ++ t) := by
  cases h with
  | done hv => exact .done (hu.append hv)
  | shut hv ht =>
      rw [← List.append_assoc]
      exact .shut (hu.append hv) ht

/-- An opening parenthesis in front takes the first of the closing ones. -/
lemma opening (h : Closes (d + 1) t) : Closes d ('(' :: t) := by
  cases h with
  | @shut _ u t hu ht =>
      have hgroup : Balanced ('(' :: (u ++ [')'])) := .group hu .nil
      have := ht.append_left hgroup
      simpa using this

end Closes

/-! ### The scan -/

/-- What a scan that is in a mode and at a depth goes over before the end of the group. -/
def Mode.Spans : Mode → ℕ → Text → Prop
  | .plain, d, u => Closes d u
  | .quoted q, d, u => ∃ w v, u = w ++ v ∧ Quoted q w ∧ Closes d v
  | .escaped q, d, u => ∃ c w v, u = c :: (w ++ v) ∧ Quoted q w ∧ Closes d v

/-- Only parentheses change the depth. -/
lemma depthAfter_of_ne {c : Char} {d : ℕ} (hopen : c ≠ '(') (hclose : c ≠ ')') :
    Mode.depthAfter .plain c d = d := by
  rw [Mode.depthAfter.eq_def]
  split <;> simp_all

/-- One more character in front of a span, outside strings. -/
lemma spans_plain_cons {c : Char} {d : ℕ} {u : Text} (hc : ¬ (c = ')' ∧ d = 0))
    (h : (Mode.next .plain c).Spans (Mode.depthAfter .plain c d) u) : Closes d (c :: u) := by
  by_cases hq : c = '\'' ∨ c = '"'
  · have hquote : IsQuote c := hq
    rw [Mode.next, if_pos hq, depthAfter_of_ne hquote.ne_open hquote.ne_close] at h
    obtain ⟨w, v, rfl, hw, hv⟩ := h
    simpa using hv.append_left (.string hq hw .nil)
  · rw [Mode.next, if_neg hq] at h
    by_cases hopen : c = '('
    · subst hopen
      exact Closes.opening h
    · by_cases hclose : c = ')'
      · subst hclose
        obtain ⟨d, rfl⟩ := Nat.exists_eq_succ_of_ne_zero fun h0 => hc ⟨rfl, h0⟩
        exact .shut .nil h
      · rw [depthAfter_of_ne hopen hclose] at h
        exact h.append_left (.char ⟨hq, hopen, hclose⟩ .nil)

/-- One more character in front of a span, inside a string. -/
lemma spans_quoted_cons {q c : Char} {d : ℕ} {u : Text}
    (h : (Mode.next (.quoted q) c).Spans d u) : (Mode.quoted q).Spans d (c :: u) := by
  rw [Mode.next] at h
  split at h
  · next hc =>
    obtain ⟨e, w, v, rfl, hw, hv⟩ := h
    exact ⟨'\\' :: e :: w, v, by rw [hc]; rfl, .hidden hw, hv⟩
  · next hc =>
    split at h
    · next hq => exact ⟨[q], u, by rw [hq]; rfl, .close, h⟩
    · next hq =>
      obtain ⟨w, v, rfl, hw, hv⟩ := h
      exact ⟨c :: w, v, rfl, .char hc hq hw, hv⟩

/-- **The invariant of the scan**: what it goes over closes the open groups, once the string that it
may stand in has ended. -/
lemma spans_of_scan {m : Mode} {d : ℕ} {t u rest : Text} (h : scan m d t = some (u, rest)) :
    m.Spans d u := by
  induction t generalizing m d u with
  | nil => cases h
  | cons c t ih =>
      rw [scan] at h
      split at h
      · next hend =>
        obtain ⟨rfl, rfl, rfl⟩ := hend
        cases h
        exact .done .nil
      · next hend =>
        simp only [Option.map_eq_some_iff, Prod.exists, Prod.mk.injEq] at h
        obtain ⟨v, r, hs, rfl, rfl⟩ := h
        have hv := ih hs
        cases m with
        | plain => exact spans_plain_cons (fun hc => hend ⟨rfl, hc⟩) hv
        | quoted q => exact spans_quoted_cons hv
        | escaped q =>
            obtain ⟨w, x, rfl, hw, hx⟩ := hv
            exact ⟨c, w, x, rfl, hw, hx⟩

/-- Puts a text in front of what a scan has gone over. -/
def prepend (u : Text) (found : Text × Text) : Text × Text :=
  (u ++ found.1, found.2)

lemma prepend_comp (u v : Text) : prepend u ∘ prepend v = prepend (u ++ v) := by
  funext found
  simp [prepend]

/-- A scan goes over every character that does not end the group. -/
lemma scan_cons {m : Mode} {c : Char} {d : ℕ} (hend : ¬ (m = .plain ∧ c = ')' ∧ d = 0)) (t : Text) :
    scan m d (c :: t) = (scan (m.next c) (m.depthAfter c d) t).map (prepend [c]) := by
  rw [scan, if_neg hend]
  rfl

/-- A scan inside a string goes over the rest of the string. -/
lemma scan_of_quoted {q : Char} {w : Text} (hq : IsQuote q) (hw : Quoted q w) (d : ℕ) (t : Text) :
    scan (.quoted q) d (w ++ t) = (scan .plain d t).map (prepend w) := by
  induction hw with
  | close =>
      have hne : q ≠ '\\' := by rintro rfl; simp [IsQuote] at hq
      have hmode : Mode.next (.quoted q) q = .plain := by rw [Mode.next, if_neg hne, if_pos rfl]
      rw [List.cons_append, List.nil_append, scan_cons (by simp), hmode]
      rfl
  | @hidden c w _ ih =>
      have hmode : Mode.next (.quoted q) '\\' = .escaped q := rfl
      rw [List.cons_append, List.cons_append, scan_cons (by simp), hmode, scan_cons (by simp)]
      simp only [Mode.next, Mode.depthAfter, ih, Option.map_map, prepend_comp]
      rfl
  | @char c w hc hcq _ ih =>
      have hmode : Mode.next (.quoted q) c = .quoted q := by
        rw [Mode.next, if_neg hc, if_neg hcq]
      rw [List.cons_append, scan_cons (by simp), hmode]
      simp only [Mode.depthAfter, ih, Option.map_map, prepend_comp]
      rfl

/-- A scan goes over an ordinary character and stays at its depth. -/
lemma scan_of_ordinary {c : Char} (hc : IsOrdinary c) (d : ℕ) (t : Text) :
    scan .plain d (c :: t) = (scan .plain d t).map (prepend [c]) := by
  obtain ⟨hquote, hopen, hclose⟩ := hc
  have hmode : Mode.next .plain c = .plain := if_neg hquote
  rw [scan_cons fun h => hclose h.2.1, hmode, depthAfter_of_ne hopen hclose]

/-- A scan goes over a quote into the string that it opens. -/
lemma scan_of_quote {q : Char} (hq : IsQuote q) (d : ℕ) (t : Text) :
    scan .plain d (q :: t) = (scan (.quoted q) d t).map (prepend [q]) := by
  have hmode : Mode.next .plain q = .quoted q := if_pos hq
  rw [scan_cons fun h => hq.ne_close h.2.1, hmode, depthAfter_of_ne hq.ne_open hq.ne_close]

/-- A scan goes over a balanced text and comes out at the depth at which it went in. -/
lemma scan_of_balanced {u : Text} (hu : Balanced u) (d : ℕ) (t : Text) :
    scan .plain d (u ++ t) = (scan .plain d t).map (prepend u) := by
  induction hu generalizing d t with
  | nil => exact Option.map_id'.symm
  | char hc _ ih =>
      rw [List.cons_append, scan_of_ordinary hc, ih, Option.map_map, prepend_comp]
      rfl
  | string hq hw _ ih =>
      rw [List.cons_append, scan_of_quote hq, List.append_assoc, scan_of_quoted hq hw, ih]
      simp only [Option.map_map, prepend_comp]
      rfl
  | @group v w _ _ ihv ihw =>
      -- the interior is scanned one level deeper, and its `)` leads back
      have hopen (x : Text) :
          scan .plain d ('(' :: x) = (scan .plain (d + 1) x).map (prepend ['(']) :=
        scan_cons (by simp) x
      have hshut (x : Text) :
          scan .plain (d + 1) (')' :: x) = (scan .plain d x).map (prepend [')']) :=
        scan_cons (by simp) x
      rw [List.cons_append, hopen, List.append_assoc, ihv, List.cons_append, hshut, ihw]
      simp only [Option.map_map, prepend_comp]
      rfl

/-! ### The group at the start of a text -/

/-- **A group is found exactly when the text starts with a balanced one.** -/
theorem interior?_eq_some_iff {t u rest : Text} :
    interior? t = some (u, rest) ↔ Balanced u ∧ t = '(' :: (u ++ ')' :: rest) := by
  constructor
  · intro h
    refine ⟨?_, (interior?_append h).symm⟩
    rw [interior?.eq_def] at h
    split at h
    · next t =>
      have hspan : Closes 0 u := spans_of_scan h
      cases hspan with
      | done hu => exact hu
    · cases h
  · rintro ⟨hu, rfl⟩
    rw [interior?, scan_of_balanced hu, scan, if_pos ⟨rfl, rfl, rfl⟩, Option.map_some, prepend,
      List.append_nil]

/-- A text is balanced if it is read back from the parentheses around it. -/
lemma balanced_of_interior? {u : Text} (h : interior? ('(' :: (u ++ [')'])) = some (u, [])) :
    Balanced u :=
  (interior?_eq_some_iff.1 h).1

end Group

end TemplateFunctions
