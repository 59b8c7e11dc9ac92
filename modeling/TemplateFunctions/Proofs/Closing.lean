import Mathlib.Order.Bounds.Basic
import TemplateFunctions.Proofs.Balance
import TemplateFunctions.Proofs.Positions

/-!
Where a group closes, said by counting.

A group closes at the first place where, outside strings, as many parentheses have been closed as
opened. The scan keeps a mode and a depth instead; here its answer is said by the counts alone, with
the position in bytes at which the group opens and the one at which it closes.

* `outside`, `Level`: what stands outside the strings of a text, and a text whose counts agree.
* `Mode.Ends`, `ends_cons_iff`: where the group of a running scan can end, and what one more
  character does to that; `scan_eq_some_iff_endsFirst`: **the scan stops at the first such place.**
* `closing?`, `LevelAt`: the position of the closing parenthesis, and the positions where the counts
  agree.
* `seek`, `seek_eq`: a count that may not go below zero **never does.**
* `closing?_first_balanced`: **the scan finds the first balanced group.**
-/

namespace TemplateFunctions

namespace Group

/-! ### Outside strings -/

/-- The characters of a text that stand outside strings. With a quote given, the text starts in a
string that this quote has opened: a backslash hides the character behind it, and only the same
quote ends the string. -/
def outside : Option Char → Text → Text
  | _, [] => []
  | none, c :: t => if IsQuote c then outside (some c) t else c :: outside none t
  | some q, '\\' :: _ :: t => outside (some q) t
  | some q, c :: t => if c = q then outside none t else outside (some q) t

/-- What a scan that is in a mode has outside strings still in front of it. -/
def Mode.outside : Mode → Text → Text
  | .plain, t => Group.outside none t
  | .quoted q, t => Group.outside (some q) t
  | .escaped q, t => Group.outside (some q) t.tail

@[simp] lemma Mode.outside_nil (m : Mode) : m.outside [] = [] := by
  cases m <;> simp [Mode.outside, Group.outside]

/-- A scan outside strings sees every character but quotes. -/
lemma outside_plain_cons (c : Char) (t : Text) :
    Mode.plain.outside (c :: t) =
      if IsQuote c then (Mode.next .plain c).outside t
      else c :: (Mode.next .plain c).outside t := by
  rw [Mode.outside, Group.outside, Mode.next]
  by_cases hc : IsQuote c
  · have hquote : c = '\'' ∨ c = '"' := hc
    rw [if_pos hc, if_pos hc, if_pos hquote]
    rfl
  · have hquote : ¬ (c = '\'' ∨ c = '"') := hc
    rw [if_neg hc, if_neg hc, if_neg hquote]
    rfl

/-- A scan inside a string sees nothing. -/
lemma outside_cons_of_ne_plain {m : Mode} (hm : m ≠ .plain) (c : Char) (t : Text) :
    m.outside (c :: t) = (m.next c).outside t := by
  cases m with
  | plain => exact absurd rfl hm
  | quoted q =>
      rw [Mode.outside, Mode.next]
      by_cases hc : c = '\\'
      · subst hc
        rw [if_pos rfl]
        cases t with
        | nil => simp [Mode.outside, Group.outside]
        | cons d t => rfl
      · rw [if_neg hc, Group.outside]
        · split <;> rfl
        · exact fun _ _ h _ => hc h
  | escaped q => rfl

/-! ### The count of parentheses -/

/-- **A level text**: outside strings it has as many `)` as `(`. -/
def Level (u : Text) : Prop := (outside none u).count ')' = (outside none u).count '('

/-- What a scan at a depth goes over up to the end of its group: outside strings it has one `)` more
than it needs to close the groups that it opens itself and those that are open inside. -/
def Mode.Ends (m : Mode) (d : ℕ) (u : Text) : Prop :=
  (m.outside u).count ')' = (m.outside u).count '(' + d + 1

lemma not_ends_nil (m : Mode) (d : ℕ) : ¬ m.Ends d [] := by
  rw [Mode.Ends, Mode.outside_nil, List.count_nil, List.count_nil]
  omega

/-- **One character of a scan**: what comes after it has to end the groups that are open then. -/
lemma ends_cons_iff {m : Mode} {c : Char} {d : ℕ} (hend : ¬ (m = .plain ∧ c = ')' ∧ d = 0))
    (u : Text) : m.Ends d (c :: u) ↔ (m.next c).Ends (m.depthAfter c d) u := by
  by_cases hm : m = .plain
  · subst hm
    rw [Mode.Ends, Mode.Ends, outside_plain_cons]
    by_cases hquote : IsQuote c
    · rw [if_pos hquote, depthAfter_of_ne hquote.ne_open hquote.ne_close]
    · rw [if_neg hquote]
      by_cases hopen : c = '('
      · subst hopen
        have hd : Mode.depthAfter .plain '(' d = d + 1 := rfl
        rw [hd, List.count_cons_of_ne (by decide), List.count_cons_self]
        omega
      · by_cases hclose : c = ')'
        · subst hclose
          have hd : Mode.depthAfter .plain ')' d = d - 1 := rfl
          have hpos : d ≠ 0 := fun h0 => hend ⟨rfl, rfl, h0⟩
          rw [hd, List.count_cons_self, List.count_cons_of_ne (by decide)]
          omega
        · rw [depthAfter_of_ne hopen hclose, List.count_cons_of_ne hopen,
            List.count_cons_of_ne hclose]
  · have hd : m.depthAfter c d = d := by
      cases m with
      | plain => exact absurd rfl hm
      | quoted q => rfl
      | escaped q => rfl
    rw [Mode.Ends, Mode.Ends, outside_cons_of_ne_plain hm, hd]

/-- A single character ends a group if it is a `)` outside strings and no group is open inside. -/
lemma ends_singleton_iff {m : Mode} {c : Char} {d : ℕ} :
    m.Ends d [c] ↔ m = .plain ∧ c = ')' ∧ d = 0 := by
  constructor
  · intro h
    by_contra hend
    exact not_ends_nil _ _ ((ends_cons_iff hend []).1 h)
  · rintro ⟨rfl, rfl, rfl⟩
    rfl

/-- **The first place where the group of a scan can end**: `u` stands in front of the character
there, `rest` behind it. -/
def Mode.EndsFirst (m : Mode) (d : ℕ) (t u rest : Text) : Prop :=
  ∃ c, t = u ++ c :: rest ∧ m.Ends d (u ++ [c]) ∧ ∀ v, v <+: u → ¬ m.Ends d v

/-- A character that ends the group does so at once. -/
lemma endsFirst_of_end {m : Mode} {c : Char} {d : ℕ} (hend : m = .plain ∧ c = ')' ∧ d = 0)
    {t u rest : Text} : m.EndsFirst d (c :: t) u rest ↔ [] = u ∧ t = rest := by
  constructor
  · rintro ⟨e, ht, -, hfirst⟩
    cases u with
    | nil => exact ⟨rfl, (List.cons.inj ht).2⟩
    | cons c' u =>
        obtain ⟨rfl, -⟩ := List.cons.inj ht
        have hprefix : [c] <+: c :: u := ⟨u, rfl⟩
        exact absurd (ends_singleton_iff.2 hend) (hfirst _ hprefix)
  · rintro ⟨rfl, rfl⟩
    refine ⟨c, rfl, ends_singleton_iff.2 hend, fun v hv => ?_⟩
    rw [List.prefix_nil.1 hv]
    exact not_ends_nil m d

/-- Behind any other character the group ends where that of the scan after it does. -/
lemma endsFirst_cons_iff {m : Mode} {c : Char} {d : ℕ} (hend : ¬ (m = .plain ∧ c = ')' ∧ d = 0))
    {t u rest : Text} : m.EndsFirst d (c :: t) u rest ↔
      ∃ w, (m.next c).EndsFirst (m.depthAfter c d) t w rest ∧ c :: w = u := by
  constructor
  · rintro ⟨e, ht, hends, hfirst⟩
    cases u with
    | nil =>
        cases ht
        exact absurd (ends_singleton_iff.1 hends) hend
    | cons c' u =>
        obtain ⟨rfl, htail⟩ := List.cons.inj ht
        refine ⟨u, ⟨e, htail, (ends_cons_iff hend _).1 hends, fun v hv => ?_⟩, rfl⟩
        rw [← ends_cons_iff hend]
        exact hfirst (c :: v) (List.cons_prefix_cons.2 ⟨rfl, hv⟩)
  · rintro ⟨w, ⟨e, rfl, hends, hfirst⟩, rfl⟩
    refine ⟨e, rfl, (ends_cons_iff hend _).2 hends, fun v hv => ?_⟩
    rcases List.prefix_cons_iff.1 hv with rfl | ⟨w', rfl, hw'⟩
    · exact not_ends_nil m d
    · rw [ends_cons_iff hend]
      exact hfirst w' hw'

/-- **The scan stops at the first place where the group can end.** -/
lemma scan_eq_some_iff_endsFirst {m : Mode} {d : ℕ} {t u rest : Text} :
    scan m d t = some (u, rest) ↔ m.EndsFirst d t u rest := by
  induction t generalizing m d u with
  | nil => simp [scan, Mode.EndsFirst]
  | cons c t ih =>
      by_cases hend : m = .plain ∧ c = ')' ∧ d = 0
      · rw [endsFirst_of_end hend, scan, if_pos hend, Option.some.injEq, Prod.mk.injEq]
      · rw [endsFirst_cons_iff hend, scan_cons hend]
        simp only [← ih, Option.map_eq_some_iff, Prod.exists, prepend, List.singleton_append,
          Prod.mk.injEq]
        constructor
        · rintro ⟨w, r, hscan, rfl, rfl⟩
          exact ⟨w, hscan, rfl⟩
        · rintro ⟨w, hscan, rfl⟩
          exact ⟨w, rest, hscan, rfl, rfl⟩

/-- Behind the `(` that opens a group, the group ends where the text gets level. -/
lemma level_open_iff {u : Text} : Level ('(' :: u) ↔ Mode.plain.Ends 0 u := by
  have hopen : outside none ('(' :: u) = '(' :: outside none u := rfl
  rw [Level, Mode.Ends, Mode.outside, hopen, List.count_cons_of_ne (by decide),
    List.count_cons_self]

/-- **A group is found exactly up to the first character that levels the text.** -/
lemma interior?_eq_some_iff_level {t u rest : Text} :
    interior? t = some (u, rest) ↔
      ∃ c, t = '(' :: (u ++ c :: rest) ∧ Level ('(' :: (u ++ [c])) ∧
        ∀ v, v <+: u → ¬ Level ('(' :: v) := by
  simp only [level_open_iff]
  constructor
  · intro h
    rw [interior?.eq_def] at h
    split at h
    · obtain ⟨c, rfl, hends, hfirst⟩ := scan_eq_some_iff_endsFirst.1 h
      exact ⟨c, rfl, hends, hfirst⟩
    · cases h
  · rintro ⟨c, rfl, hends, hfirst⟩
    rw [interior?]
    exact scan_eq_some_iff_endsFirst.2 ⟨c, rfl, hends, hfirst⟩

/-! ### The position of the end -/

/-- The position of the `)` that closes the group which opens at a position. -/
def closing? (s : Text) (i : ℕ) : Option ℕ :=
  (s.cut? i).bind fun (_, t) => (interior? t).map fun (u, _) => i + Text.utf8Size ('(' :: u)

/-- **Reading from position `i` on, the text is level with the character at position `j`**: outside
strings, as many groups have been closed as opened. -/
def LevelAt (s : Text) (i j : ℕ) : Prop :=
  ∃ before u c rest, s = before ++ (u ++ c :: rest) ∧ Text.utf8Size before = i ∧
    i + Text.utf8Size u = j ∧ Level (u ++ [c])

/-- At a cut, the group is the one that the text behind the cut starts with. -/
lemma closing?_append (before t : Text) :
    closing? (before ++ t) (Text.utf8Size before) = (interior? t).map fun found =>
      Text.utf8Size before + Text.utf8Size ('(' :: found.1) := by
  rw [closing?, Text.cut?_append]
  rfl

/-- A group closes at a position exactly if a balanced group stands up to there. -/
lemma closing?_eq_some_iff {s : Text} {i j : ℕ} :
    closing? s i = some j ↔ ∃ before u rest, s = before ++ '(' :: (u ++ ')' :: rest) ∧
      Text.utf8Size before = i ∧ Balanced u ∧ i + Text.utf8Size ('(' :: u) = j := by
  simp only [closing?, Option.bind_eq_some_iff, Option.map_eq_some_iff, Prod.exists,
    Text.cut?_eq_some_iff, interior?_eq_some_iff]
  constructor
  · rintro ⟨before, _, ⟨rfl, hi⟩, u, rest, ⟨hu, rfl⟩, hj⟩
    exact ⟨before, u, rest, rfl, hi, hu, hj⟩
  · rintro ⟨before, u, rest, rfl, hi, hu, hj⟩
    exact ⟨before, _, ⟨rfl, hi⟩, u, rest, ⟨hu, rfl⟩, hj⟩

/-! ### Counting without going below zero -/

/-- The number of open groups after one more character, if the character does not close a group
where none is open. -/
def Mode.depthAfter? : Mode → Char → ℕ → Option ℕ
  | .plain, '(', d => some (d + 1)
  | .plain, ')', d => if d = 0 then none else some (d - 1)
  | _, _, d => some d

/-- Looks for the position of the `)` that closes the last open group, and counts the open groups,
the outermost one included. Nothing comes of it if the count would go below zero. -/
def seek (m : Mode) (d i : ℕ) : Text → Option (Option ℕ)
  | [] => some none
  | c :: t =>
    (m.depthAfter? c d).bind fun d' =>
      if m = .plain ∧ c = ')' ∧ d' = 0 then some (some i)
      else seek (m.next c) d' (i + c.utf8Size) t

/-- With a group open, one more character is counted as the scan counts it. -/
lemma depthAfter?_succ {m : Mode} {c : Char} {d : ℕ} (hend : ¬ (m = .plain ∧ c = ')' ∧ d = 0)) :
    m.depthAfter? c (d + 1) = some (m.depthAfter c d + 1) := by
  cases m with
  | plain =>
      by_cases hopen : c = '('
      · rw [hopen]
        rfl
      · by_cases hclose : c = ')'
        · have hpos : d ≠ 0 := fun h0 => hend ⟨rfl, hclose, h0⟩
          have hd : Mode.depthAfter .plain ')' d = d - 1 := rfl
          rw [hclose, Mode.depthAfter?, if_neg (by omega), hd]
          congr 1
          omega
        · rw [depthAfter_of_ne hopen hclose, Mode.depthAfter?.eq_def]
          split <;> simp_all
  | quoted q => rfl
  | escaped q => rfl

/-- **The count never goes below zero**, and the position is that of the scan. -/
lemma seek_eq (m : Mode) (d i : ℕ) (t : Text) :
    seek m (d + 1) i t = some ((scan m d t).map fun found => i + Text.utf8Size found.1) := by
  induction t generalizing m d i with
  | nil => rfl
  | cons c t ih =>
      by_cases hend : m = .plain ∧ c = ')' ∧ d = 0
      · obtain ⟨rfl, rfl, rfl⟩ := hend
        rfl
      · have hgoes : ¬ (m = .plain ∧ c = ')' ∧ m.depthAfter c d + 1 = 0) := by simp
        rw [seek, depthAfter?_succ hend, Option.bind_some, if_neg hgoes, ih, scan_cons hend,
          Option.map_map]
        congr 2
        funext found
        rw [Function.comp_apply, prepend, List.singleton_append, Text.utf8Size_cons, Nat.add_assoc]

/-- The count starts in front of the `(` that opens the group. -/
lemma seek_open (before t : Text) :
    seek .plain 0 (Text.utf8Size before) ('(' :: t) =
      some (closing? (before ++ '(' :: t) (Text.utf8Size before)) := by
  have hone : '('.utf8Size = 1 := rfl
  calc seek .plain 0 (Text.utf8Size before) ('(' :: t)
      = seek .plain 1 (Text.utf8Size before + 1) t := rfl
    _ = some ((scan .plain 0 t).map fun found =>
          Text.utf8Size before + 1 + Text.utf8Size found.1) := seek_eq _ _ _ _
    _ = some (closing? (before ++ '(' :: t) (Text.utf8Size before)) := by
      simp only [closing?_append, interior?, Text.utf8Size_cons, hone, Nat.add_assoc]

/-! ### The first balanced group -/

/-- Where the text is level, a `(` at its start has been closed. -/
lemma not_level_singleton : ¬ Level ['('] := fun h => not_ends_nil _ _ (level_open_iff.1 h)

/-- Where the scan ends, the text is level for the first time. -/
lemma isLeast_of_interior? {before t u rest : Text} (h : interior? t = some (u, rest)) :
    IsLeast {k | LevelAt (before ++ t) (Text.utf8Size before) k}
      (Text.utf8Size before + Text.utf8Size ('(' :: u)) := by
  obtain ⟨c, rfl, hlevel, hfirst⟩ := interior?_eq_some_iff_level.1 h
  refine ⟨⟨before, '(' :: u, c, rest, rfl, rfl, rfl, hlevel⟩, ?_⟩
  rintro k ⟨b, w, e, r, hs, hb, rfl, hlevel'⟩
  obtain ⟨rfl, ht⟩ := Text.append_inj_of_utf8Size hs hb.symm
  -- the level text goes beyond what the scan has gone over, since that has no level beginning
  have hbeyond : ¬ w ++ [e] <+: '(' :: u := by
    intro hprefix
    rcases List.prefix_cons_iff.1 hprefix with hnil | ⟨v, hv, hvu⟩
    · simp at hnil
    · rw [hv] at hlevel'
      exact hfirst v hvu hlevel'
  have hu : '(' :: u <+: '(' :: (u ++ c :: rest) := ⟨c :: rest, rfl⟩
  have hw : w ++ [e] <+: '(' :: (u ++ c :: rest) := ⟨r, by rw [ht]; simp⟩
  have hle : '(' :: u <+: w := by
    rcases List.prefix_or_prefix_of_prefix hu hw with hprefix | hprefix
    · rcases List.prefix_concat_iff.1 hprefix with heq | hprefix
      · exact absurd (heq ▸ List.prefix_rfl) hbeyond
      · exact hprefix
    · exact absurd hprefix hbeyond
  have := Text.utf8Size_le_of_prefix hle
  omega

/-- Where the text is level for the first time, the scan ends. -/
lemma interior?_of_isLeast {before t : Text} {j : ℕ} (hopen : t.head? = some '(')
    (h : IsLeast {k | LevelAt (before ++ t) (Text.utf8Size before) k} j) :
    ∃ u rest, interior? t = some (u, rest) ∧
      Text.utf8Size before + Text.utf8Size ('(' :: u) = j := by
  obtain ⟨⟨b, w, c, rest, hs, hb, rfl, hlevel⟩, hleast⟩ := h
  obtain ⟨rfl, rfl⟩ := Text.append_inj_of_utf8Size hs hb.symm
  cases w with
  | nil =>
      cases hopen
      exact absurd hlevel not_level_singleton
  | cons e u =>
      cases hopen
      refine ⟨u, rest, interior?_eq_some_iff_level.2 ⟨c, rfl, hlevel, ?_⟩, rfl⟩
      -- a level beginning of the interior would end at a position smaller than the least one
      rintro v ⟨y, rfl⟩ hlevel'
      rcases List.eq_nil_or_concat v with rfl | ⟨v, e, rfl⟩
      · exact not_level_singleton hlevel'
      · have hat : LevelAt (before ++ ('(' :: (v.concat e ++ y) ++ c :: rest))
            (Text.utf8Size before) (Text.utf8Size before + Text.utf8Size ('(' :: v)) := by
          refine ⟨before, '(' :: v, e, y ++ c :: rest, ?_, rfl, rfl, ?_⟩
          · simp
          · simpa using hlevel'
        have hle := hleast hat
        have hlt : Text.utf8Size v < Text.utf8Size (v.concat e ++ y) :=
          Text.utf8Size_lt_of_prefix ⟨y, by rw [List.concat_eq_append]⟩
        rw [Text.utf8Size_cons, Text.utf8Size_cons] at hle
        omega

/-- At a `(`, a group closes at the first position where the text is level. -/
lemma closing?_eq_some_iff_isLeast {before t : Text} {j : ℕ} :
    closing? (before ++ t) (Text.utf8Size before) = some j ↔
      t.head? = some '(' ∧ IsLeast {k | LevelAt (before ++ t) (Text.utf8Size before) k} j := by
  rw [closing?_append]
  constructor
  · intro h
    obtain ⟨⟨u, rest⟩, hfound, rfl⟩ := Option.map_eq_some_iff.1 h
    refine ⟨?_, isLeast_of_interior? hfound⟩
    rw [← interior?_append hfound, List.head?_cons]
  · rintro ⟨hopen, hleast⟩
    obtain ⟨u, rest, hfound, rfl⟩ := interior?_of_isLeast hopen hleast
    rw [hfound]
    rfl

/-- **The scan finds the first balanced group.** A group that opens at a position closes at the
first position where, outside strings, as many groups have been closed as opened. There is the `)`
of the `(` at the start, and unwrapping the group leaves what stands between the two. The answer
depends on nothing behind that `)`; where there is no group, there is none in any beginning of the
text. And the count of open groups never goes below zero. -/
theorem closing?_first_balanced (before t : Text) :
    let s := before ++ t
    let i := Text.utf8Size before
    (∀ j, closing? s i = some j ↔ t.head? = some '(' ∧ IsLeast {k | LevelAt s i k} j) ∧
    (∀ j, closing? s i = some j → i < j ∧ ∃ u rest, t = '(' :: (u ++ ')' :: rest) ∧
      j = Text.utf8Size (before ++ '(' :: u) ∧ unwrap ('(' :: (u ++ [')'])) = u ∧
      ∀ t', closing? (before ++ '(' :: (u ++ ')' :: t')) i = some j) ∧
    (closing? s i = none → ∀ p, p <+: s → closing? p i = none) ∧
    (t.head? = some '(' → seek .plain 0 i t = some (closing? s i)) := by
  intro s i
  refine ⟨fun j => closing?_eq_some_iff_isLeast, ?_, ?_, ?_⟩
  · intro j h
    obtain ⟨b, u, rest, hs, hb, hu, rfl⟩ := closing?_eq_some_iff.1 h
    obtain ⟨rfl, rfl⟩ := Text.append_inj_of_utf8Size hs hb.symm
    have hone : '('.utf8Size = 1 := rfl
    refine ⟨?_, u, rest, rfl, ?_, unwrap_wrap u, fun t' => ?_⟩
    · rw [Text.utf8Size_cons]
      omega
    · rw [Text.utf8Size_append]
    · exact closing?_eq_some_iff.2 ⟨before, u, t', rfl, rfl, hu, rfl⟩
  · rintro hnone p ⟨w, hw⟩
    by_contra h
    obtain ⟨j, hj⟩ := Option.ne_none_iff_exists'.1 h
    obtain ⟨b, u, rest, rfl, hb, hu, -⟩ := closing?_eq_some_iff.1 hj
    have hs : s = b ++ '(' :: (u ++ ')' :: (rest ++ w)) := by rw [← hw]; simp
    rw [closing?_eq_some_iff.2 ⟨b, u, rest ++ w, hs, hb, hu, rfl⟩] at hnone
    cases hnone
  · intro hopen
    obtain ⟨x, rfl⟩ := List.head?_eq_some_iff.1 hopen
    exact seek_open before x

/-- Behind a backslash a quote does not end its string, and a `)` in a string does not count. -/
theorem closing?_behind_quoted_parenthesis :
    closing? "f('\\')') )".toList 1 = some 7 ∧
      IsLeast {k | LevelAt "f('\\')') )".toList 1 k} 7 := by
  have hclosing : closing? "f('\\')') )".toList 1 = some 7 := by decide
  have hfirst := (closing?_first_balanced "f".toList "('\\')') )".toList).1 7
  exact ⟨hclosing, (hfirst.1 hclosing).2⟩

end Group

end TemplateFunctions
