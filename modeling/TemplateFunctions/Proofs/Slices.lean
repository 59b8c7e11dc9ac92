import TemplateFunctions.Proofs.Positions

/-!
Slices of a text by byte positions.

A text can be sliced between two of its cuts, the first one in front of the second. There is no
slice at a position beyond the end or inside a character, and none backwards.

* `IsCut`: **the cuts of a text.**
* `upTo?`, `from?`, `slice?`: the slices; `upTo?_isSome_iff`, `from?_isSome_iff` and
  `slice?_isSome_iff` say when there is one.
* `offset?`: the position of the first occurrence of a character.
-/

namespace TemplateFunctions

namespace Text

/-! ### Slices -/

/-- **A cut of a text**: a position in it, or at its end, that no character lies across. -/
def IsCut (t : Text) (i : ℕ) : Prop := ∃ u v, t = u ++ v ∧ utf8Size u = i

/-- The text in front of a position. -/
def upTo? (t : Text) (i : ℕ) : Option Text := (cut? t i).map Prod.fst

/-- The text behind a position. -/
def from? (t : Text) (i : ℕ) : Option Text := (cut? t i).map Prod.snd

/-- The text between two positions. -/
def slice? (t : Text) (i j : ℕ) : Option Text := (upTo? t j).bind (from? · i)

lemma IsCut.le {t : Text} {i : ℕ} (h : t.IsCut i) : i ≤ utf8Size t := by
  obtain ⟨u, v, rfl, rfl⟩ := h
  exact utf8Size_le_of_prefix (List.prefix_append u v)

lemma upTo?_eq_some_iff {t u : Text} {i : ℕ} :
    upTo? t i = some u ↔ ∃ v, t = u ++ v ∧ utf8Size u = i := by
  simp [upTo?, cut?_eq_some_iff]

lemma from?_eq_some_iff {t v : Text} {i : ℕ} :
    from? t i = some v ↔ ∃ u, t = u ++ v ∧ utf8Size u = i := by
  simp [from?, cut?_eq_some_iff]

/-- The text between two positions starts at the one and ends at the other. -/
lemma slice?_eq_some_iff {t v : Text} {i j : ℕ} :
    slice? t i j = some v ↔
      ∃ u w, t = u ++ (v ++ w) ∧ utf8Size u = i ∧ utf8Size (u ++ v) = j := by
  simp only [slice?, Option.bind_eq_some_iff, upTo?_eq_some_iff, from?_eq_some_iff]
  constructor
  · rintro ⟨_, ⟨w, rfl, rfl⟩, u, rfl, rfl⟩
    exact ⟨u, w, List.append_assoc u v w, rfl, rfl⟩
  · rintro ⟨u, w, rfl, rfl, rfl⟩
    exact ⟨u ++ v, ⟨w, (List.append_assoc u v w).symm, rfl⟩, u, rfl, rfl⟩

@[simp] lemma upTo?_append (u v : Text) : upTo? (u ++ v) (utf8Size u) = some u :=
  upTo?_eq_some_iff.2 ⟨v, rfl, rfl⟩

@[simp] lemma from?_append (u v : Text) : from? (u ++ v) (utf8Size u) = some v :=
  from?_eq_some_iff.2 ⟨u, rfl, rfl⟩

/-- The text in front of a position is there exactly if the position is a cut. -/
theorem upTo?_isSome_iff {t : Text} {i : ℕ} : (upTo? t i).isSome = true ↔ t.IsCut i := by
  simp only [Option.isSome_iff_exists, upTo?_eq_some_iff, IsCut]

/-- So is the text behind it. -/
theorem from?_isSome_iff {t : Text} {i : ℕ} : (from? t i).isSome = true ↔ t.IsCut i := by
  simp only [Option.isSome_iff_exists, from?_eq_some_iff, IsCut]
  exact exists_comm

/-- Of two cuts, the first one cuts the text in front of the second. -/
lemma IsCut.exists_between {t : Text} {i j : ℕ} (hi : t.IsCut i) (hj : t.IsCut j) (hij : i ≤ j) :
    ∃ u v w, t = u ++ (v ++ w) ∧ utf8Size u = i ∧ utf8Size (u ++ v) = j := by
  obtain ⟨u, v, ht, rfl⟩ := hi
  obtain ⟨u', v', ht', rfl⟩ := hj
  rcases List.prefix_or_prefix_of_prefix ⟨v, ht.symm⟩ ⟨v', ht'.symm⟩ with hle | ⟨x, hx⟩
  · obtain ⟨x, rfl⟩ := hle
    exact ⟨u, x, v', by rw [ht', List.append_assoc], rfl, rfl⟩
  · -- the second cut is no greater, so that the two are one
    have hzero : utf8Size x = 0 := by
      rw [← hx, utf8Size_append] at hij
      omega
    refine ⟨u, [], v, ht, rfl, ?_⟩
    rw [List.append_nil, ← hx, utf8Size_append, hzero, Nat.add_zero]

/-- **A text is sliced between two cuts, the first one in front of the second**, not elsewhere. -/
theorem slice?_isSome_iff {t : Text} {i j : ℕ} :
    (slice? t i j).isSome = true ↔ i ≤ j ∧ t.IsCut i ∧ t.IsCut j := by
  simp only [Option.isSome_iff_exists, slice?_eq_some_iff]
  constructor
  · rintro ⟨v, u, w, rfl, rfl, rfl⟩
    refine ⟨?_, ⟨u, v ++ w, rfl, rfl⟩, ⟨u ++ v, w, (List.append_assoc u v w).symm, rfl⟩⟩
    exact utf8Size_le_of_prefix (List.prefix_append u v)
  · rintro ⟨hij, hi, hj⟩
    obtain ⟨u, v, w, ht, hu, hv⟩ := hi.exists_between hj hij
    exact ⟨v, u, w, ht, hu, hv⟩

/-! ### Finding a character -/

/-- The position of the first occurrence of a character. -/
def offset? (x : Char) : Text → Option ℕ
  | [] => none
  | c :: t => if c = x then some 0 else (offset? x t).map (c.utf8Size + ·)

/-- A character is found behind a text without it. -/
lemma offset?_append {x : Char} {u : Text} (hu : x ∉ u) (v : Text) :
    offset? x (u ++ x :: v) = some (utf8Size u) := by
  induction u with
  | nil => simp [offset?]
  | cons c u ih =>
      have hc : c ≠ x := fun h => hu (h ▸ List.mem_cons_self)
      have htail : x ∉ u := fun h => hu (List.mem_cons_of_mem c h)
      rw [List.cons_append, offset?, if_neg hc, ih htail, Option.map_some, utf8Size_cons]

/-- A character that does not occur is not found. -/
lemma offset?_eq_none {x : Char} {t : Text} (ht : x ∉ t) : offset? x t = none := by
  induction t with
  | nil => rfl
  | cons c t ih =>
      have hc : c ≠ x := fun h => ht (h ▸ List.mem_cons_self)
      have htail : x ∉ t := fun h => ht (List.mem_cons_of_mem c h)
      rw [offset?, if_neg hc, ih htail, Option.map_none]

end Text

end TemplateFunctions
