import TemplateFunctions.Proofs.Turns

/-!
The loop of compiling, turn by turn.

* `Reaches`, `Finishes`: where the loop stands after so many turns, and with what it ends.
* `Tracks`: **the invariant of the loop**: what stands in front of the cursor is run through.
* `Tracks.turn`, `tracks_of_reaches`: **every turn keeps the invariant and moves on**, or gives the
  fault of the template.
* `Tracks.exists_finishes`: the loop ends.
* `loop_safe`: **every slice is there at every turn, and the loop ends with what the template
  compiles to.**
-/

namespace TemplateFunctions

namespace Template

/-! ### The loop -/

/-- **The loop, turn by turn**: where it stands after `n` turns. -/
inductive Reaches (s : Session) (t : Text) : ℕ → Progress → Prop
  | start : Reaches s t 0 ⟨s, [], 0, 0⟩
  | turn {n i : ℕ} {st next : Progress} : Reaches s t n st → st.search t = some (some i) →
      st.turn t i = some (.ok next) → Reaches s t (n + 1) next

/-- **The end of the loop**: there is no further `@` and the rest is copied, or the turn for the
next `@` gives a fault. -/
inductive Finishes (t : Text) (st : Progress) : Except Fault Text × Session → Prop
  | done {kept : Text} : st.search t = some none → t.from? st.copied = some kept →
      Finishes t st (.ok (st.output ++ kept), st.session)
  | fault {i : ℕ} {fault : Fault} {after : Session} : st.search t = some (some i) →
      st.turn t i = some (.error (fault, after)) → Finishes t st (.error fault, after)

/-! ### The invariant -/

/-- **The invariant of the loop.** The template is copied up to the end of `a` and looked through up
to the end of `b`; a run over both has written what is written and `b`, and every turn has gone over
an `@`. -/
structure Tracks (s : Session) (t : Text) (n : ℕ) (st : Progress) (a b rest : Text) : Prop where
  text : t = a ++ b ++ rest
  copied : Text.utf8Size a = st.copied
  cursor : Text.utf8Size (a ++ b) = st.cursor
  run : Runs s [] (a ++ b) (st.output ++ b) st.session rest
  turns : n ≤ (a ++ b).count '@'

/-- The invariant holds at the start. -/
lemma tracks_start (s : Session) (t : Text) : Tracks s t 0 ⟨s, [], 0, 0⟩ [] [] t :=
  ⟨rfl, rfl, rfl, .nil, Nat.zero_le _⟩

namespace Tracks

variable {s : Session} {t a b c u rest : Text} {n : ℕ} {st : Progress}

/-- The search goes on where the template is not looked through yet. -/
lemma search_eq (h : Tracks s t n st a b rest) :
    st.search t = some ((rest.offset? '@').map (st.cursor + ·)) := by
  rw [Progress.search, h.text, ← h.cursor, Text.from?_append]
  rfl

lemma search_eq_none (h : Tracks s t n st a b rest) (hrest : '@' ∉ rest) :
    st.search t = some none := by
  rw [h.search_eq, Text.offset?_eq_none hrest, Option.map_none]

/-- The search finds the next `@`. -/
lemma search_eq_some (h : Tracks s t n st a b (c ++ '@' :: u)) (hc : '@' ∉ c) :
    st.search t = some (some (Text.utf8Size (a ++ (b ++ c)))) := by
  rw [h.search_eq, Text.offset?_append hc, Option.map_some, ← h.cursor, ← List.append_assoc,
    Text.utf8Size_append (a ++ b)]

/-- Where the search finds an `@`, the text up to there has none. -/
lemma exists_of_search_eq {i : ℕ} (h : Tracks s t n st a b rest)
    (hi : st.search t = some (some i)) :
    ∃ c u, rest = c ++ '@' :: u ∧ '@' ∉ c ∧ i = Text.utf8Size (a ++ (b ++ c)) := by
  by_cases hrest : '@' ∈ rest
  · obtain ⟨c, u, rfl, hc⟩ := List.eq_append_cons_of_mem hrest
    rw [h.search_eq_some hc] at hi
    cases hi
    exact ⟨c, u, rfl, hc, rfl⟩
  · rw [h.search_eq_none hrest] at hi
    cases hi

/-- The template up to a further place. -/
lemma text_at (h : Tracks s t n st a b (c ++ rest)) : t = a ++ (b ++ c) ++ rest := by
  rw [h.text]
  simp only [List.append_assoc]

lemma cursor_cut (h : Tracks s t n st a b rest) : t.IsCut st.cursor :=
  ⟨a ++ b, rest, h.text, h.cursor⟩

/-- The run goes on over text without an `@`. -/
lemma run_copy (h : Tracks s t n st a b (c ++ rest)) (hc : '@' ∉ c) :
    Runs s [] (a ++ (b ++ c)) (st.output ++ (b ++ c)) st.session rest := by
  rw [← List.append_assoc, ← List.append_assoc]
  exact h.run.append (.copy hc)

/-- The `@` of a turn has not been gone over before. -/
lemma succ_turns_le (h : Tracks s t n st a b rest) (c u : Text) :
    n + 1 ≤ (a ++ (b ++ c) ++ '@' :: u).count '@' := by
  have hturns := h.turns
  simp only [List.count_append, List.count_cons_self] at hturns ⊢
  omega

/-- The place behind the `@` of a turn has not been looked at before. -/
lemma cursor_lt (h : Tracks s t n st a b rest) (c u : Text) :
    st.cursor < Text.utf8Size (a ++ (b ++ c) ++ '@' :: u) := by
  rw [← h.cursor, utf8Size_append_mark, ← List.append_assoc, Text.utf8Size_append (a ++ b)]
  omega

/-- What is passed over is looked through. -/
lemma pass (h : Tracks s t n st a b (c ++ ('@' :: u ++ rest))) (hc : '@' ∉ c)
    (hp : Passes st.session (a ++ (b ++ c)) ('@' :: u) rest) :
    Tracks s t (n + 1) { st with cursor := Text.utf8Size (a ++ (b ++ c) ++ '@' :: u) } a
      (b ++ c ++ '@' :: u) rest where
  text := by rw [h.text]; simp only [List.append_assoc]
  copied := h.copied
  cursor := by simp only [List.append_assoc]
  run := by
    have hrun := (h.run_copy hc).append (.single (.pass hp))
    simpa only [List.append_assoc] using hrun
  turns := by
    have hlt := h.succ_turns_le c u
    simpa only [List.append_assoc] using hlt

/-- What is replaced is copied, as far as nothing takes its place. -/
lemma replace {r : Text} {after : Session} (h : Tracks s t n st a b (c ++ ('@' :: u ++ rest)))
    (hc : '@' ∉ c) (hr : Replaces st.session (a ++ (b ++ c)) ('@' :: u) r after rest) :
    Tracks s t (n + 1) ⟨after, st.output ++ (b ++ c ++ r),
      Text.utf8Size (a ++ (b ++ c) ++ '@' :: u), Text.utf8Size (a ++ (b ++ c) ++ '@' :: u)⟩
      (a ++ (b ++ c) ++ '@' :: u) [] rest where
  text := by rw [h.text]; simp only [List.append_assoc, List.nil_append]
  copied := rfl
  cursor := by rw [List.append_nil]
  run := by
    have hrun := (h.run_copy hc).append (.single (.replace hr))
    simpa only [List.append_assoc, List.append_nil] using hrun
  turns := by
    have hlt := h.succ_turns_le c u
    rwa [List.append_nil]

/-- **A turn keeps the invariant and moves on, or ends the loop with the fault of the template.** -/
lemma turn {i : ℕ} (h : Tracks s t n st a b rest) (hi : st.search t = some (some i)) :
    (∃ next a' b' rest', st.turn t i = some (.ok next) ∧
        Tracks s t (n + 1) next a' b' rest' ∧ st.cursor < next.cursor) ∨
      ∃ fault after, st.turn t i = some (.error (fault, after)) ∧
        s.compile t = (.error fault, after) := by
  obtain ⟨c, u, rfl, hc, rfl⟩ := h.exists_of_search_eq hi
  have htext := h.text_at
  rcases takes_or_fails st.session (a ++ (b ++ c)) (List.cons_ne_nil '@' u) with
    ⟨v, r, mid, rest', hv, htakes⟩ | ⟨site, rest', cause, hsite, hfails⟩
  · left
    -- what the step takes begins with the `@` that the search has found
    obtain ⟨x, rfl⟩ : ∃ x, v = '@' :: x := by
      obtain ⟨d, x, rfl⟩ := List.exists_cons_of_ne_nil htakes.ne_nil
      cases hv
      exact ⟨x, rfl⟩
    rw [hv] at h htext
    cases htakes with
    | pass hp =>
        refine ⟨_, _, _, _, ?_, h.pass hc hp, h.cursor_lt c x⟩
        rw [htext, Progress.turn_of_passes hp]
    | replace hr =>
        refine ⟨_, _, _, _, ?_, h.replace hc hr, h.cursor_lt c x⟩
        rw [htext, Progress.turn_of_replaces h.copied hr]
  · right
    rw [hsite] at h htext
    refine ⟨⟨site.name, Text.lineAfter (a ++ (b ++ c)), cause⟩, st.session, ?_, ?_⟩
    · rw [htext, Progress.turn_of_fails hfails]
    · rw [htext]
      exact compile_of_fails (h.run_copy hc) hfails

/-- Without a further `@`, the template compiles to what is written and what is not copied yet. -/
lemma compile_eq (h : Tracks s t n st a b rest) (hrest : '@' ∉ rest) :
    s.compile t = (.ok (st.output ++ (b ++ rest)), st.session) := by
  rw [← List.append_nil rest] at h
  have hrun := h.run_copy hrest
  rw [h.text, List.append_nil, List.append_assoc]
  exact compile_of_runs hrun

end Tracks

/-- **Every turn keeps the invariant.** -/
lemma tracks_of_reaches {s : Session} {t : Text} {n : ℕ} {st : Progress} (h : Reaches s t n st) :
    ∃ a b rest, Tracks s t n st a b rest := by
  induction h with
  | start => exact ⟨[], [], t, tracks_start s t⟩
  | turn _ hi hnext ih =>
      obtain ⟨a, b, rest, htracks⟩ := ih
      rcases htracks.turn hi with ⟨next, a', b', rest', hturn, hkept, -⟩ | ⟨fault, after, hturn, -⟩
      · cases hnext.symm.trans hturn
        exact ⟨a', b', rest', hkept⟩
      · cases hnext.symm.trans hturn

/-! ### Safety -/

/-- **The loop is safe where it stands**: its positions are in order and are cuts of the template,
and the search and the turn for the `@` that is found come to something, which they would not if one
of their slices ended elsewhere than at cuts, or began behind its end. A turn moves on. -/
structure Progress.Safe (t : Text) (st : Progress) : Prop where
  copied_le_cursor : st.copied ≤ st.cursor
  cursor_le_size : st.cursor ≤ Text.utf8Size t
  copied_cut : t.IsCut st.copied
  cursor_cut : t.IsCut st.cursor
  searches : (st.search t).isSome = true
  copied_le_found : ∀ i, st.search t = some (some i) → st.copied ≤ i
  found_cuts : ∀ i, st.search t = some (some i) → t.IsCut i ∧ t.IsCut (i + 1)
  turns : ∀ i, st.search t = some (some i) → (st.turn t i).isSome = true
  advances : ∀ i next, st.search t = some (some i) → st.turn t i = some (.ok next) →
    st.cursor < next.cursor

/-- The invariant makes a place of the loop safe. -/
lemma Tracks.safe {s : Session} {t a b rest : Text} {n : ℕ} {st : Progress}
    (h : Tracks s t n st a b rest) : st.Safe t where
  copied_le_cursor := by
    rw [← h.copied, ← h.cursor]
    exact Text.utf8Size_le_of_prefix (List.prefix_append a b)
  cursor_le_size := h.cursor_cut.le
  copied_cut := ⟨a, b ++ rest, by rw [h.text, List.append_assoc], h.copied⟩
  cursor_cut := h.cursor_cut
  searches := by rw [h.search_eq, Option.isSome_some]
  copied_le_found := by
    intro i hi
    obtain ⟨c, u, rfl, -, rfl⟩ := h.exists_of_search_eq hi
    rw [← h.copied]
    exact Text.utf8Size_le_of_prefix (List.prefix_append a _)
  found_cuts := by
    intro i hi
    obtain ⟨c, u, rfl, -, rfl⟩ := h.exists_of_search_eq hi
    refine ⟨⟨a ++ (b ++ c), '@' :: u, h.text_at, rfl⟩, ⟨a ++ (b ++ c) ++ ['@'], u, ?_, ?_⟩⟩
    · rw [h.text_at, List.append_cons]
    · exact utf8Size_append_mark (a ++ (b ++ c)) []
  turns := by
    intro i hi
    rcases h.turn hi with ⟨next, _, _, _, hturn, -⟩ | ⟨fault, after, hturn, -⟩
    · rw [hturn, Option.isSome_some]
    · rw [hturn, Option.isSome_some]
  advances := by
    intro i next hi hnext
    rcases h.turn hi with ⟨next', _, _, _, hturn, -, hlt⟩ | ⟨fault, after, hturn, -⟩
    · cases hnext.symm.trans hturn
      exact hlt
    · cases hnext.symm.trans hturn

/-- The loop makes no more turns than there are `@`, and it makes a turn only where one is left. -/
lemma Tracks.turns_le {s : Session} {t a b rest : Text} {n : ℕ} {st : Progress}
    (h : Tracks s t n st a b rest) :
    n ≤ t.count '@' ∧ ∀ i, st.search t = some (some i) → n < t.count '@' := by
  have hturns := h.turns
  constructor
  · rw [h.text, List.count_append]
    omega
  · intro i hi
    obtain ⟨c, u, rfl, -, -⟩ := h.exists_of_search_eq hi
    rw [h.text]
    simp only [List.count_append, List.count_cons_self] at hturns ⊢
    omega

/-! ### The end -/

/-- Where the loop ends, it ends with what the template compiles to. -/
lemma Tracks.compile_of_finishes {s : Session} {t a b rest : Text} {n : ℕ} {st : Progress}
    {answer : Except Fault Text × Session} (h : Tracks s t n st a b rest)
    (hend : Finishes t st answer) : s.compile t = answer := by
  cases hend with
  | done hnone hkept =>
      have hrest : '@' ∉ rest := by
        intro hrest
        obtain ⟨c, u, rfl, hc⟩ := List.eq_append_cons_of_mem hrest
        cases hnone.symm.trans (h.search_eq_some hc)
      rw [h.text, List.append_assoc, ← h.copied, Text.from?_append] at hkept
      cases hkept
      exact h.compile_eq hrest
  | fault hi hfault =>
      rcases h.turn hi with ⟨next, _, _, _, hturn, -⟩ | ⟨fault, after, hturn, hcompile⟩
      · cases hfault.symm.trans hturn
      · cases hfault.symm.trans hturn
        exact hcompile

/-- **The loop ends**, since every turn moves on and none moves beyond the template. -/
lemma Tracks.exists_finishes {s : Session} {t a b rest : Text} {n : ℕ} {st : Progress}
    (h : Tracks s t n st a b rest) (hreaches : Reaches s t n st) :
    ∃ m last answer, Reaches s t m last ∧ Finishes t last answer := by
  induction hleft : Text.utf8Size t - st.cursor using Nat.strongRecOn
    generalizing n st a b rest with
  | _ left ih =>
    by_cases hrest : '@' ∈ rest
    · obtain ⟨c, u, rfl, hc⟩ := List.eq_append_cons_of_mem hrest
      have hi := h.search_eq_some hc
      rcases h.turn hi with ⟨next, a', b', rest', hturn, hkept, hlt⟩ | ⟨fault, after, hturn, -⟩
      · have hle := hkept.cursor_cut.le
        exact ih _ (by omega) hkept (.turn hreaches hi hturn) rfl
      · exact ⟨n, st, _, hreaches, .fault hi hturn⟩
    · have hkept : t.from? st.copied = some (b ++ rest) := by
        rw [h.text, List.append_assoc, ← h.copied, Text.from?_append]
      exact ⟨n, st, _, hreaches, .done (h.search_eq_none hrest) hkept⟩

/-- **The loop is safe and it ends.** Wherever it comes to, the positions are in order and are cuts
of the template, and the search and the turn find every slice that they take. Every turn moves on,
and there are no more turns than there are `@`. The loop comes to an end, and only with what the
template compiles to, for every session and every template. -/
theorem loop_safe (s : Session) (t : Text) :
    (∀ n st, Reaches s t n st → st.Safe t ∧ n ≤ t.count '@' ∧
      ∀ i, st.search t = some (some i) → n < t.count '@') ∧
    ∀ answer, (∃ n st, Reaches s t n st ∧ Finishes t st answer) ↔ s.compile t = answer := by
  refine ⟨?_, ?_⟩
  · intro n st hreaches
    obtain ⟨a, b, rest, h⟩ := tracks_of_reaches hreaches
    exact ⟨h.safe, h.turns_le⟩
  · intro answer
    constructor
    · rintro ⟨n, st, hreaches, hend⟩
      obtain ⟨a, b, rest, h⟩ := tracks_of_reaches hreaches
      exact h.compile_of_finishes hend
    · rintro rfl
      obtain ⟨n, st, answer, hreaches, hend⟩ := (tracks_start s t).exists_finishes .start
      obtain ⟨a, b, rest, h⟩ := tracks_of_reaches hreaches
      rw [h.compile_of_finishes hend]
      exact ⟨n, st, hreaches, hend⟩

/-- The bytes of a name and of its group are counted, not their characters: the site ends at byte 10
of a text of nine characters. -/
example :
    let session := (Session.bare (.ofTarget .pseudo none)).register "é".toList .close
    let turn := Progress.turn "é@é (é)éé".toList ⟨session, [], 0, 0⟩ 2
    turn.bind (fun result => result.toOption.map Progress.cursor) = some 10 := by
  decide +kernel

end Template

end TemplateFunctions
