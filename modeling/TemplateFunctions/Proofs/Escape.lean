import Mathlib.Data.List.Basic
import TemplateFunctions.Proofs.Run

/-!
Names behind several `@`.

Two `@` keep a name from being read as a directive, but only where the reading takes the two
together. It pairs the `@` of a row from the left, after it has left out one that stands right
behind a word character, so that the last `@` of the row is free in every other case.

* `Hidden`: a place that the reading does not come to, because it lies in the argument of a site or
  behind a site that fails; every other row of `@` is reached (`hidden_or_runs`).
* `runs_row`: the reading gets to every second place in a row of `@`.
* `Escapes`: two `@` that are read together with the name behind them.
* `escapes_iff_even`: **the name is protected exactly if the number of `@` in front of its two is
  even, or odd behind a word character; otherwise a known name is a site.**
-/

namespace TemplateFunctions

namespace Template

/-! ### Places that are not reached -/

/-- **A hidden place**, behind `before` and in front of `v`. -/
inductive Hidden (s : Session) (before v : Text) : Prop
  /-- A site begins in front of the place, and the place lies in its argument. -/
  | inside {mid : Session} {front x y rest : Text} {site : Site} :
      Meets s (before ++ v) mid front site rest → before = front ++ '@' :: (site.name ++ x) →
      site.tail = x ++ y → y ≠ [] → Hidden s before v
  /-- A site begins in front of the place and fails. -/
  | behind {mid : Session} {front x rest : Text} {site : Site} {cause : Declaration.Unnamed} :
      Meets s (before ++ v) mid front site rest → Fails mid front site rest cause →
      before = front ++ x → x ≠ [] → Hidden s before v

/-- A step goes over a site, or over some `@` and a text without any. -/
lemma Takes.row_or_site {s after : Session} {before u r rest : Text}
    (h : Takes s before u r after rest) :
    (∃ n name, u = List.replicate n '@' ++ name ∧ '@' ∉ name) ∨
      ∃ site : Site, u = site.source ∧ site.Stands s before rest := by
  cases h with
  | pass h =>
      refine Or.inl ?_
      cases h with
      | @char c _ hc => exact ⟨0, [c], rfl, by simp [Ne.symm hc]⟩
      | glued _ => exact ⟨1, [], rfl, List.not_mem_nil⟩
      | pair _ _ => exact ⟨2, [], rfl, List.not_mem_nil⟩
      | lone _ _ _ => exact ⟨1, [], rfl, List.not_mem_nil⟩
      | @unknown name _ _ hname _ => exact ⟨1, name, rfl, hname.notMem (by decide)⟩
  | replace h =>
      cases h with
      | @escape name _ _ hname => exact Or.inl ⟨2, name, rfl, hname.notMem (by decide)⟩
      | site hstands _ => exact Or.inr ⟨_, rfl, hstands⟩

/-- In a row of `@` with other text behind it, only `@` stand in front of an `@`. -/
lemma eq_at_of_row {n : ℕ} {name b y : Text} (hname : '@' ∉ name)
    (h : List.replicate n '@' ++ name = b ++ '@' :: y) : ∀ c ∈ b, c = '@' := by
  intro c hc
  rcases List.append_eq_append_iff.1 h with ⟨w, -, hw⟩ | ⟨w, hrow, -⟩
  · exact absurd (hw ▸ List.mem_append_right w List.mem_cons_self) hname
  · exact List.eq_of_mem_replicate (hrow ▸ List.mem_append_left w hc)

/-- An `@` that a site covers behind its first character stands in its argument. -/
lemma Site.Stands.tail_eq_of_source {site : Site} {s : Session} {before rest b y : Text} {d : Char}
    (h : site.Stands s before rest) (hsource : site.source = d :: b ++ '@' :: y) :
    ∃ x, d :: b = '@' :: (site.name ++ x) ∧ site.tail = x ++ '@' :: y := by
  rw [Site.source_eq, List.cons_append, List.cons.injEq] at hsource
  obtain ⟨rfl, hrest⟩ := hsource
  have hat : '@' ∉ site.name := h.leads.notMem (by decide)
  rcases List.append_eq_append_iff.1 hrest with ⟨x, rfl, htail⟩ | ⟨x, hname, htail⟩
  · exact ⟨x, rfl, htail⟩
  · cases x with
    | nil => exact ⟨[], by simp [hname], by simpa using htail.symm⟩
    | cons e x =>
        rw [List.cons_append, List.cons.injEq] at htail
        exact absurd (hname ▸ htail.1 ▸ List.mem_append_right b List.mem_cons_self) hat

/-- A step that begins in front of an `@`, with some other character right before that `@`, ends
there or earlier, unless it is a site with the `@` in its argument. -/
lemma Takes.ends_or_encloses {s after : Session} {before u r rest b v : Text}
    (h : Takes s before u r after rest) (hsame : u ++ rest = b ++ '@' :: v) (hne : b ≠ [])
    (hb : b.getLast? ≠ some '@') :
    (∃ b', b = u ++ b' ∧ rest = b' ++ '@' :: v) ∨
      ∃ (site : Site) (x y : Text), u = site.source ∧ site.Stands s before rest ∧
        b = '@' :: (site.name ++ x) ∧ site.tail = x ++ '@' :: y := by
  rcases List.append_eq_append_iff.1 hsame with h' | ⟨y, hu, hv⟩
  · exact Or.inl h'
  cases y with
  | nil => exact Or.inl ⟨[], by simpa using hu.symm, by simpa using hv.symm⟩
  | cons e y =>
      -- the step goes over the `@`, which only a site does
      rw [List.cons_append, List.cons.injEq] at hv
      obtain ⟨rfl, -⟩ := hv
      obtain ⟨d, b, rfl⟩ := List.exists_cons_of_ne_nil hne
      rcases h.row_or_site with ⟨n, name, rfl, hname⟩ | ⟨site, rfl, hstands⟩
      · have hlast : (d :: b).getLast? = some '@' := by
          rw [List.getLast?_eq_some_getLast hne]
          exact congrArg some (eq_at_of_row hname hu _ (List.getLast_mem hne))
        exact absurd hlast hb
      · obtain ⟨x, hx, htail⟩ := hstands.tail_eq_of_source hu
        exact Or.inr ⟨site, x, y, rfl, hstands, hx, htail⟩

/-- Where the reading comes to a place, it comes to the next `@` that begins a row, or that place is
hidden. -/
lemma hidden_or_runs_of_runs {s mid : Session} {a b v w : Text} (hb : b.getLast? ≠ some '@')
    (hrun : Runs s [] a w mid (b ++ '@' :: v)) :
    Hidden s (a ++ b) ('@' :: v) ∨ ∃ w' mid', Runs s [] (a ++ b) w' mid' ('@' :: v) := by
  induction hn : b.length using Nat.strongRecOn generalizing a b w mid with
  | _ n ih =>
    by_cases hne : b = []
    · subst hne
      rw [List.append_nil]
      exact Or.inr ⟨w, mid, hrun⟩
    · have hpos : b ++ '@' :: v ≠ [] := by simp
      rcases takes_or_fails mid a hpos with
        ⟨u, r, after, rest, hsame, htakes⟩ | ⟨site, rest, cause, hsame, hfails⟩
      · rw [hsame] at hrun
        rcases htakes.ends_or_encloses hsame.symm hne hb with
          ⟨b', rfl, rfl⟩ | ⟨site, x, y, rfl, hstands, hbefore, htail⟩
        · -- the step ends in front of the place
          have hlt : b'.length < n := hn ▸ Text.length_lt_append htakes.ne_nil b'
          have hb' : b'.getLast? ≠ some '@' := by
            intro hlast
            obtain ⟨z, rfl⟩ := List.getLast?_eq_some_iff.1 hlast
            simp at hb
          rw [← List.append_assoc]
          exact ih b'.length hlt hb' (hrun.append (.single htakes)) rfl
        · -- the step is a site with the place in its argument
          have htext : a ++ b ++ '@' :: v = a ++ (site.source ++ rest) := by
            rw [List.append_assoc, hsame]
          exact Or.inl (.inside ⟨htext, ⟨w, hrun⟩, hstands⟩ (by rw [hbefore]) htail (by simp))
      · have htext : a ++ b ++ '@' :: v = a ++ (site.source ++ rest) := by
          rw [List.append_assoc, hsame]
        rw [hsame] at hrun
        exact Or.inl (.behind ⟨htext, ⟨w, hrun⟩, hfails.stands⟩ hfails rfl hne)

/-- **A row of `@` is hidden, or the reading comes to it.** -/
lemma hidden_or_runs (s : Session) {b : Text} (v : Text) (hb : b.getLast? ≠ some '@') :
    Hidden s b ('@' :: v) ∨ ∃ w mid, Runs s [] b w mid ('@' :: v) := by
  have hstart : Runs s [] [] [] s (b ++ '@' :: v) := .nil
  exact hidden_or_runs_of_runs hb hstart

/-! ### Rows of `@` -/

lemma absent_at (v : Text) : Identifier.Absent ('@' :: v) := by
  intro c hc
  cases hc
  decide

/-- Pairs of `@` in front of another `@` are passed over. -/
lemma runs_pairs {s : Session} {before : Text} (i : ℕ) (v : Text)
    (hb : endsInWord before = false) :
    Runs s before (List.replicate (2 * i) '@') (List.replicate (2 * i) '@') s ('@' :: v) := by
  induction i generalizing before with
  | zero => exact .nil
  | succ i ih =>
      have hrow : List.replicate (2 * (i + 1)) '@' = ['@', '@'] ++ List.replicate (2 * i) '@' := rfl
      have hat : Identifier.Absent (List.replicate (2 * i) '@' ++ '@' :: v) := by
        cases i with
        | zero => exact absent_at v
        | succ i => exact absent_at _
      have hnext : endsInWord (before ++ ['@', '@']) = false :=
        endsInWord_append _ (List.cons_ne_nil _ _)
      rw [hrow]
      exact .cons (.pass (.pair hb hat)) (ih hnext)

lemma endsInWord_row (b : Text) (n : ℕ) : endsInWord (b ++ List.replicate (n + 1) '@') = false := by
  rw [List.replicate_succ', ← List.append_assoc, endsInWord_append _ (List.cons_ne_nil _ _)]
  rfl

/-- **The reading gets to every second place in a row of `@`**, counted without an `@` that is glued
to a word, and no word ends there. -/
lemma runs_row {s : Session} {b : Text} {n : ℕ} (v : Text)
    (heven : (n + (endsInWord b).toNat) % 2 = 0) :
    Runs s b (List.replicate n '@') (List.replicate n '@') s ('@' :: v) ∧
      endsInWord (b ++ List.replicate n '@') = false := by
  cases hword : endsInWord b with
  | false =>
      rw [hword, Bool.toNat_false] at heven
      obtain ⟨i, rfl⟩ : ∃ i, n = 2 * i := ⟨n / 2, by omega⟩
      refine ⟨runs_pairs i v hword, ?_⟩
      cases i with
      | zero => simpa using hword
      | succ i => exact endsInWord_row b (2 * i + 1)
  | true =>
      rw [hword, Bool.toNat_true] at heven
      obtain ⟨i, rfl⟩ : ∃ i, n = 2 * i + 1 := ⟨n / 2, by omega⟩
      have hglued : Takes s b ['@'] ['@'] s (List.replicate (2 * i) '@' ++ '@' :: v) :=
        .pass (.glued hword)
      have hnext : endsInWord (b ++ ['@']) = false := endsInWord_append _ (List.cons_ne_nil _ _)
      exact ⟨.cons hglued (runs_pairs i v hnext), endsInWord_row b (2 * i)⟩

/-! ### Protected names -/

/-- **An escape**: the reading comes to the place behind `before` and takes the two `@` there and
the name together. The name is written behind one `@`, nothing is dispatched, and `rest` is read
next. -/
def Escapes (s : Session) (before name rest : Text) : Prop :=
  ∃ w mid, Runs s [] before w mid ('@' :: '@' :: (name ++ rest)) ∧
    Replaces mid before ('@' :: '@' :: name) ('@' :: name) mid rest

/-- Where the reading comes to the second of two `@`, it does not take the two together. -/
lemma Escapes.not_runs {s mid : Session} {before name rest w : Text}
    (h : Escapes s before name rest) :
    ¬ Runs s [] (before ++ ['@']) w mid ('@' :: (name ++ rest)) := by
  intro hrun
  obtain ⟨w', mid', hplace, hreplaces⟩ := h
  obtain ⟨v, x, hv, -, hstep⟩ := hplace.resume hrun (by simp) (by simp)
  rw [← List.append_cancel_left hv] at hstep
  generalize hu : ['@'] = u at hstep
  cases hstep with
  | nil => cases hu
  | @cons _ _ _ _ u v r x _ htakes _ =>
      obtain ⟨c, u, rfl⟩ := List.exists_cons_of_ne_nil htakes.ne_nil
      rw [List.cons_append, List.cons.injEq] at hu
      obtain ⟨rfl, hnil⟩ := hu
      obtain ⟨rfl, rfl⟩ := List.append_eq_nil_iff.1 hnil.symm
      obtain ⟨hsame, -, -⟩ := htakes.unique (.replace hreplaces) (by simp)
      cases hsame

/-- **A name behind two `@`**, with `j` more in front of them and no `@` in front of those. Unless
the place is hidden, the reading comes to it. There the name is protected exactly if `j` is even, or
odd behind a word character; otherwise the second of the two `@` is free, and a name that is known
there is the name of a site. -/
theorem escapes_iff_even (s : Session) (b name rest : Text) (j : ℕ) (hb : b.getLast? ≠ some '@')
    (hname : Identifier.Leads name rest) :
    (Hidden s b (List.replicate j '@' ++ '@' :: '@' :: (name ++ rest)) ∨
      ∃ w mid, Runs s [] b w mid (List.replicate j '@' ++ '@' :: '@' :: (name ++ rest))) ∧
    ∀ w mid, Runs s [] b w mid (List.replicate j '@' ++ '@' :: '@' :: (name ++ rest)) →
      (Escapes s (b ++ List.replicate j '@') name rest ↔ (j + (endsInWord b).toNat) % 2 = 0) ∧
      ((j + (endsInWord b).toNat) % 2 = 1 → mid.table.contains name = true →
        ∃ site rest', site.name = name ∧
          Meets s (b ++ (List.replicate j '@' ++ '@' :: '@' :: (name ++ rest))) mid
            (b ++ List.replicate (j + 1) '@') site rest') := by
  have hrow : List.replicate j '@' ++ '@' :: '@' :: (name ++ rest)
      = List.replicate (j + 1) '@' ++ '@' :: (name ++ rest) := by
    rw [List.replicate_succ', List.append_assoc]
    rfl
  refine ⟨?_, ?_⟩
  · rw [hrow, List.replicate_succ, List.cons_append]
    exact hidden_or_runs s _ hb
  intro w mid hrun
  -- an odd number of `@` leaves the second of the two free
  have hfree (hodd : (j + (endsInWord b).toNat) % 2 = 1) :
      Runs s [] (b ++ List.replicate (j + 1) '@') (w ++ List.replicate (j + 1) '@') mid
          ('@' :: (name ++ rest)) ∧
        endsInWord (b ++ List.replicate (j + 1) '@') = false := by
    obtain ⟨hats, hword⟩ := runs_row (s := mid) (name ++ rest)
      (show (j + 1 + (endsInWord b).toNat) % 2 = 0 by omega)
    rw [hrow] at hrun
    exact ⟨hrun.append hats, hword⟩
  refine ⟨⟨?_, ?_⟩, ?_⟩
  · intro hescapes
    by_contra hodd
    obtain ⟨hsecond, -⟩ := hfree (by omega)
    rw [List.replicate_succ', ← List.append_assoc] at hsecond
    exact hescapes.not_runs hsecond
  · intro heven
    obtain ⟨hats, hword⟩ := runs_row (s := mid) ('@' :: (name ++ rest)) heven
    exact ⟨_, mid, hrun.append hats, .escape hword hname⟩
  · intro hodd hknown
    obtain ⟨hsecond, hword⟩ := hfree hodd
    rw [hrow, ← List.append_assoc]
    exact exists_meets_of_known hsecond hword hname hknown

/-- In a row of three `@` in front of a known name the last two are not taken together, and the name
is the name of a site. -/
theorem triple_at_meets_site :
    let s := Session.start (.ofTarget .php none) .standard
    ([] : Text).getLast? ≠ some '@' ∧ Identifier.Leads "function".toList "(x)".toList ∧
      ¬ Escapes s ['@'] "function".toList "(x)".toList ∧
      ∃ site rest, site.name = "function".toList ∧
        Meets s "@@@function(x)".toList s ['@', '@'] site rest := by
  intro s
  have hb : ([] : Text).getLast? ≠ some '@' := by decide
  have hname : Identifier.Leads "function".toList "(x)".toList :=
    Identifier.leads_cons (by decide) (by decide) "x)".toList
  have hknown : s.table.contains "function".toList = true := by decide
  obtain ⟨hescapes, hmeets⟩ :=
    (escapes_iff_even s [] "function".toList "(x)".toList 1 hb hname).2 [] s .nil
  refine ⟨hb, hname, ?_, hmeets (by decide) hknown⟩
  intro h
  exact absurd (hescapes.1 h) (by decide)

/-- Two `@` do not protect a name when the first is glued to a word, nor when an `@` stands in front
of them. -/
theorem doubled_at_dispatches :
    ((Session.start (.ofTarget .php none) .standard).compile "a@@function(x)".toList).1
        = .ok "a@<?php function x (   $__env ) \x7b ?>".toList ∧
      ((Session.start (.ofTarget .php none) .standard).compile "@@@function(x)".toList).1
        = .ok "@@<?php function x (   $__env ) \x7b ?>".toList := by
  decide +kernel

end Template

end TemplateFunctions
