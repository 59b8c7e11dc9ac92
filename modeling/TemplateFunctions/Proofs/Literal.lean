import Mathlib.Data.List.Infix
import TemplateFunctions.Proofs.Run

/-!
Literal text: how a text is written so that a template gives it back.

An `@` that would be read with the name behind it is written twice; nothing else changes. The text
may have no two `@` next to each other, since a row of `@` is paired from the left.

* `Literal.write`: the text as it is written.
* `head?_writeFrom`, `writeFrom_append`: the first character stays, and so does a stretch without
  an `@`.
* `runs_writeFrom`: the reading of what is written, step by step.
* `compile_write`: **what is written compiles to the text, and the session stays as it is.**
-/

namespace TemplateFunctions

open Template

namespace Literal

/-! ### Writing -/

/-- Whether a name begins at the start of the text. -/
def startsName (t : Text) : Bool := t.head?.any Identifier.isStart

/-- Writes a text behind a word character or not: an `@` is doubled if no word character stands
right before it and a name begins right behind it. -/
def writeFrom (behindWord : Bool) : Text → Text
  | [] => []
  | c :: t =>
    (if c = '@' ∧ behindWord = false ∧ startsName t = true then ['@', '@'] else [c])
      ++ writeFrom (Identifier.isWord c) t

/-- Writes a text so that it is given back as it is. -/
def write (t : Text) : Text := writeFrom false t

lemma startsName_eq_false_iff {t : Text} : startsName t = false ↔ Identifier.Absent t := by
  cases t with
  | nil => simp [startsName, Identifier.Absent]
  | cons c t => simp [startsName, Identifier.Absent]

/-- The name that begins at the start of the text. -/
lemma exists_leads_of_startsName {t : Text} (h : startsName t = true) :
    ∃ name v, Identifier.Leads name v ∧ t = name ++ v := by
  cases hsplit : Identifier.split? t with
  | some found => exact ⟨found.1, found.2, Identifier.split?_eq_some_iff.1 hsplit⟩
  | none =>
      have habsent := startsName_eq_false_iff.2 (Identifier.split?_eq_none_iff.1 hsplit)
      rw [h] at habsent
      cases habsent

/-- An `@` that is not doubled, and every other character. -/
lemma writeFrom_cons_of_not {behindWord : Bool} {c : Char} {t : Text}
    (h : ¬ (c = '@' ∧ behindWord = false ∧ startsName t = true)) :
    writeFrom behindWord (c :: t) = c :: writeFrom (Identifier.isWord c) t := by
  rw [writeFrom, if_neg h]
  rfl

lemma writeFrom_at_of_startsName {t : Text} (h : startsName t = true) :
    writeFrom false ('@' :: t) = '@' :: '@' :: writeFrom false t := by
  rw [writeFrom, if_pos ⟨rfl, rfl, h⟩]
  rfl

/-- The first character stays. -/
lemma head?_writeFrom (behindWord : Bool) (t : Text) :
    (writeFrom behindWord t).head? = t.head? := by
  cases t with
  | nil => rfl
  | cons c t =>
      rw [writeFrom]
      split
      · next h => rw [h.1]; rfl
      · rfl

/-- A stretch without an `@` stays. -/
lemma writeFrom_append {u : Text} (behindWord : Bool) (v : Text) (hu : '@' ∉ u) (hne : u ≠ []) :
    writeFrom behindWord (u ++ v) = u ++ writeFrom (endsInWord u) v := by
  induction u generalizing behindWord with
  | nil => exact absurd rfl hne
  | cons c u ih =>
      have hc : c ≠ '@' := fun h => hu (h ▸ List.mem_cons_self)
      rw [List.cons_append, writeFrom_cons_of_not fun h => hc h.1]
      by_cases hnil : u = []
      · subst hnil
        rfl
      · have hlast : endsInWord (c :: u) = endsInWord u := endsInWord_append [c] hnil
        rw [ih _ (fun h => hu (List.mem_cons_of_mem c h)) hnil, hlast, List.cons_append]

/-! ### Reading -/

/-- No two `@` stand next to each other in the text. -/
def Apart (t : Text) : Prop := ¬ ['@', '@'] <:+: t

instance (t : Text) : Decidable (Apart t) := inferInstanceAs (Decidable (¬ ['@', '@'] <:+: t))

lemma Apart.of_append {u v : Text} (h : Apart (u ++ v)) : Apart v :=
  fun hv => h (hv.trans (List.suffix_append u v).isInfix)

lemma Apart.head?_ne {t : Text} (h : Apart ('@' :: t)) : t.head? ≠ some '@' := by
  intro hat
  obtain ⟨t, rfl⟩ := List.head?_eq_some_iff.1 hat
  exact h (List.prefix_append ['@', '@'] t).isInfix

/-- A character that is not doubled is passed over. -/
lemma passes_kept {s : Session} {before t : Text} {c : Char} (ht : Apart (c :: t))
    (hkept : ¬ (c = '@' ∧ endsInWord before = false ∧ startsName t = true)) (behindWord : Bool) :
    Passes s before [c] (writeFrom behindWord t) := by
  by_cases hc : c = '@'
  · subst hc
    cases hb : endsInWord before with
    | true => exact .glued hb
    | false =>
        have hs : startsName t = false := by simpa [hb] using hkept
        refine .lone hb ?_ ?_
        · rw [Identifier.Absent, head?_writeFrom]
          exact startsName_eq_false_iff.1 hs
        · rw [head?_writeFrom]
          exact ht.head?_ne
  · exact .char hc

/-- A name behind a doubled `@` is replaced by the name behind one. -/
lemma replaces_doubled {s : Session} {before name v : Text} (hb : endsInWord before = false)
    (hname : Identifier.Leads name v) (behindWord : Bool) :
    Replaces s before ('@' :: '@' :: name) ('@' :: name) s (writeFrom behindWord v) := by
  refine .escape hb ⟨hname.isIdentifier, ?_⟩
  rw [head?_writeFrom]
  exact hname.maximal

/-- One step of reading what is written gives a first part of the text back. -/
lemma takes_writeFrom (s : Session) (before : Text) {t : Text} (ht : Apart t) (hne : t ≠ []) :
    ∃ u v r, t = r ++ v ∧ r ≠ [] ∧
      writeFrom (endsInWord before) t = u ++ writeFrom (endsInWord (before ++ u)) v ∧
      Takes s before u r s (writeFrom (endsInWord (before ++ u)) v) := by
  obtain ⟨c, t, rfl⟩ := List.exists_cons_of_ne_nil hne
  by_cases hdoubled : c = '@' ∧ endsInWord before = false ∧ startsName t = true
  · obtain ⟨rfl, hb, hs⟩ := hdoubled
    obtain ⟨name, v, hname, rfl⟩ := exists_leads_of_startsName hs
    have hword : endsInWord (before ++ '@' :: '@' :: name) = endsInWord name := by
      rw [show before ++ '@' :: '@' :: name = before ++ ['@', '@'] ++ name by simp,
        endsInWord_append _ hname.ne_nil]
    -- the step takes the whole name, which holds no `@` and is written as it is
    refine ⟨'@' :: '@' :: name, v, '@' :: name, rfl, List.cons_ne_nil _ _, ?_,
      .replace (replaces_doubled hb hname _)⟩
    rw [hb, writeFrom_at_of_startsName hs,
      writeFrom_append false v (hname.notMem (by decide)) hname.ne_nil, hword]
    rfl
  · have hword : endsInWord (before ++ [c]) = Identifier.isWord c :=
      endsInWord_append before (List.cons_ne_nil c [])
    refine ⟨[c], t, [c], rfl, List.cons_ne_nil _ _, ?_, .pass (passes_kept ht hdoubled _)⟩
    rw [writeFrom_cons_of_not hdoubled, hword]
    rfl

/-- **The reading of what is written** gives the text back, step by step. -/
lemma runs_writeFrom (s : Session) (before : Text) {t : Text} (ht : Apart t) :
    Runs s before (writeFrom (endsInWord before) t) t s [] := by
  induction hn : t.length using Nat.strongRecOn generalizing before t with
  | _ n ih =>
    by_cases hne : t = []
    · subst hne
      exact .nil
    · obtain ⟨u, v, r, rfl, hr, hwrite, htakes⟩ := takes_writeFrom s before ht hne
      have hlt : v.length < n := hn ▸ Text.length_lt_append hr v
      rw [hwrite]
      refine .cons ?_ (ih v.length hlt (before ++ u) ht.of_append rfl)
      rwa [List.append_nil]

/-- **Every text can be written and read back**: in every session, whatever names it knows, a text
without two `@` next to each other comes back from what is written for it, and the session stays as
it is. -/
theorem compile_write (s : Session) (t : Text) (ht : Apart t) :
    s.compile (write t) = (.ok t, s) :=
  compile_of_runs (runs_writeFrom s [] ht)

/-- A text with directives, an address, a lone `@` and an `@` behind a letter that is none of the
ASCII ones. -/
theorem compile_write_return :
    Apart "@return(1) a@b.c @ é@if".toList ∧
      (Session.start (.ofTarget .php none) .standard).compile "@@return(1) a@b.c @ é@@if".toList
        = (.ok "@return(1) a@b.c @ é@if".toList,
            Session.start (.ofTarget .php none) .standard) := by
  have hapart : Apart "@return(1) a@b.c @ é@if".toList := by decide
  have hwrite : write "@return(1) a@b.c @ é@if".toList = "@@return(1) a@b.c @ é@@if".toList := by
    decide
  have hcompile := compile_write (.start (.ofTarget .php none) .standard) _ hapart
  rw [hwrite] at hcompile
  exact ⟨hapart, hcompile⟩

end Literal

end TemplateFunctions
