import Mathlib.Data.Bool.AllAny
import Mathlib.Data.List.Basic
import TemplateFunctions.Proofs.Definition
import TemplateFunctions.Proofs.Growth
import TemplateFunctions.Proofs.Splices

/-!
Calls and returns keep to their parentheses.

The text that a template gives to a call is balanced when it is read. It is written trimmed, between
other text and in front of the context, and it has to be balanced there too: no parenthesis of it
may close the call, and no quote of it may stay open.

* `Balanced.of_append_left`, `Balanced.of_append_right`: ordinary characters at the ends do not
  matter, so a trimmed text is as balanced as it was (`Balanced.trim`).
* `Emitter.Encloses`: the group at the first parenthesis of a fragment ends at its last one.
* `encloses_call`, `encloses_returnValue`: balanced text is enclosed.
* `spliced_calls_enclosed`: **every call and every return that a compilation writes is enclosed.**
-/

namespace TemplateFunctions

/-! ### Trimmed groups -/

namespace Group

/-- The quote that opened a string ends it. -/
lemma Quoted.getLast?_eq {q : Char} {w : Text} (h : Quoted q w) : w.getLast? = some q := by
  induction h with
  | close => rfl
  | hidden _ ih => rw [List.getLast?_cons, List.getLast?_cons, ih]; rfl
  | char _ _ _ ih => rw [List.getLast?_cons, ih]; rfl

/-- Ordinary characters in front of a balanced text may be cut off. -/
lemma Balanced.of_append_left {a t : Text} (ha : ∀ c ∈ a, IsOrdinary c) (h : Balanced (a ++ t)) :
    Balanced t := by
  induction a with
  | nil => exact h
  | cons c a ih =>
      obtain ⟨hquote, hopen, -⟩ := ha c List.mem_cons_self
      have hrest : Balanced (a ++ t) := by
        rw [List.cons_append] at h
        generalize a ++ t = x at h ⊢
        cases h with
        | char _ h => exact h
        | string hq _ _ => exact absurd hq hquote
        | group _ _ => exact absurd rfl hopen
      exact ih (fun d hd => ha d (List.mem_cons_of_mem c hd)) hrest

/-- Ordinary characters behind a balanced text may be cut off: no string and no group ends in
one. -/
lemma Balanced.of_append_right {t b : Text} (hb : ∀ c ∈ b, IsOrdinary c) (h : Balanced (t ++ b)) :
    Balanced t := by
  generalize hx : t ++ b = x at h
  induction h generalizing t with
  | nil =>
      rw [(List.append_eq_nil_iff.1 hx).1]
      exact .nil
  | @char c u hc _ ih =>
      cases t with
      | nil => exact .nil
      | cons d t =>
          rw [List.cons_append, List.cons.injEq] at hx
          rw [hx.1]
          exact .char hc (ih hx.2)
  | @string q w u hq hw _ ih =>
      cases t with
      | nil => exact .nil
      | cons d t =>
          rw [List.cons_append, List.cons.injEq, List.append_eq_append_iff] at hx
          obtain ⟨hdq, ⟨y, hwy, hby⟩ | ⟨y, rfl, huy⟩⟩ := hx
          · rw [hdq]
            -- the text ends in the string: what is cut off of it would hold the closing quote
            cases y with
            | nil =>
                rw [List.append_nil] at hwy
                rw [← hwy, ← List.append_nil w]
                exact .string hq hw .nil
            | cons e y =>
                have hlast := hw.getLast?_eq
                rw [hwy, List.getLast?_append_of_ne_nil t (List.cons_ne_nil e y)] at hlast
                have hmem : q ∈ b := hby ▸ List.mem_append_left u (List.mem_of_getLast? hlast)
                exact absurd hq (hb q hmem).1
          · rw [hdq]
            exact .string hq hw (ih huy.symm)
  | @group u v hu _ _ ih =>
      cases t with
      | nil => exact .nil
      | cons d t =>
          rw [List.cons_append, List.cons.injEq, List.append_eq_append_iff] at hx
          obtain ⟨rfl, ⟨y, huy, hby⟩ | ⟨y, rfl, hvy⟩⟩ := hx
          · have hshut : ')' ∈ b := hby ▸ List.mem_append_right y List.mem_cons_self
            exact absurd rfl (hb _ hshut).2.2
          · cases y with
            | nil =>
                have hshut : ')' ∈ b := by
                  rw [List.nil_append] at hvy
                  exact hvy ▸ List.mem_cons_self
                exact absurd rfl (hb _ hshut).2.2
            | cons e y =>
                rw [List.cons_append, List.cons.injEq] at hvy
                rw [← hvy.1]
                exact .group hu (ih hvy.2.symm)

/-- **A trimmed text stays balanced**, if the characters that are trimmed off are ordinary. -/
lemma Balanced.trim {p : Char → Bool} {t : Text} (hp : ∀ c, p c = true → IsOrdinary c)
    (h : Balanced t) : Balanced (Text.trim p t) := by
  obtain ⟨a, b, ht, ha, hb⟩ := (Text.isTrimmed_trim p t).around
  rw [ht, List.append_assoc] at h
  have hcore := h.of_append_left fun c hc => hp c (ha c hc)
  exact hcore.of_append_right fun c hc => hp c (hb c hc)

end Group

/-! ### Enclosed fragments -/

/-- What a target writes behind the closing parenthesis of a call or of a return. -/
def Target.ending : Target → Text
  | .php => "; ?>".toList
  | .pseudo => []

namespace Emitter

/-- **An enclosed fragment**: the group that opens at its first parenthesis closes at the
parenthesis that the target writes last. -/
def Encloses (e : Emitter) (fragment : Text) : Prop :=
  ∃ front interior, '(' ∉ front ∧
    fragment = front ++ '(' :: (interior ++ ')' :: e.target.ending) ∧
    Group.interior? ('(' :: (interior ++ ')' :: e.target.ending))
      = some (interior, e.target.ending)

variable {e : Emitter}

/-- Balanced text between the two parentheses is enclosed by them. -/
lemma encloses_of_balanced (e : Emitter) {front interior : Text} (hfront : '(' ∉ front)
    (h : Group.Balanced interior) :
    e.Encloses (front ++ '(' :: (interior ++ ')' :: e.target.ending)) :=
  ⟨front, interior, hfront, rfl, Group.interior?_eq_some_iff.2 ⟨h, rfl⟩⟩

lemma ordinary_of_isMargin {c : Char} (h : isMargin c = true) : Group.IsOrdinary c := by
  simp only [isMargin, Bool.or_eq_true, beq_iff_eq] at h
  rcases h with ((((rfl | rfl) | rfl) | rfl) | rfl) | rfl <;> decide

lemma balanced_leadIn {list : Text} (h : Group.Balanced list) : Group.Balanced (leadIn list) := by
  have hseparator : Group.Balanced separator := Group.balanced_of_interior? (by decide)
  rw [leadIn]
  split
  · exact .nil
  · exact (h.trim fun c hc => ordinary_of_isMargin hc).append hseparator

/-- **A call encloses its arguments and the context**, if the arguments are balanced and the context
is made of ordinary characters. -/
lemma encloses_call {name args : Text} (hname : isIdentifier name = true)
    (hcontext : ∀ c ∈ e.context, Group.IsOrdinary c) (hargs : Group.Balanced args) :
    e.Encloses (e.call name args) := by
  obtain ⟨target, context⟩ := e
  have hopen : '(' ∉ name := Identifier.notMem_of_isPart hname (by decide)
  have hlist := balanced_leadIn hargs
  have hctx : Group.Balanced context := Group.balanced_of_ordinary hcontext
  cases target with
  | php =>
      have hin : Group.Balanced (leadIn args ++ ' ' :: context) :=
        hlist.append (.char (by decide) hctx)
      have hfront : '(' ∉ "<?php ".toList ++ name ++ [' '] := by simp [hopen]
      have := encloses_of_balanced ⟨.php, context⟩ hfront hin
      simpa [call, Target.ending] using this
  | pseudo =>
      have hin : Group.Balanced (' ' :: (leadIn args ++ context ++ [' '])) :=
        .char (by decide) ((hlist.append hctx).append (.char (by decide) .nil))
      have hfront : '(' ∉ "CALL ".toList ++ name ++ [' '] := by simp [hopen]
      have := encloses_of_balanced ⟨.pseudo, context⟩ hfront hin
      simpa [call, Target.ending] using this

/-- **A return encloses its expression**, if the expression is balanced. -/
lemma encloses_returnValue {expression : Text} (h : Group.Balanced expression) :
    e.Encloses (e.returnValue expression) := by
  obtain ⟨target, context⟩ := e
  cases target with
  | php =>
      have hfront : '(' ∉ "<?php return ".toList := by decide
      exact encloses_of_balanced ⟨.php, context⟩ hfront h
  | pseudo =>
      have hfront : '(' ∉ "RETURN ".toList := by decide
      exact encloses_of_balanced ⟨.pseudo, context⟩ hfront h

end Emitter

/-! ### Enclosed calls of a template -/

namespace Template

/-- What a site gives to its directive is balanced, with a group and without one. -/
lemma Site.Stands.balanced_expression {site : Site} {s : Session} {before rest : Text}
    (h : site.Stands s before rest) : Group.Balanced site.expression := by
  have hargued := h.argued
  obtain ⟨name, argument⟩ := site
  cases argument with
  | some a => exact hargued.balanced
  | none => exact .nil

/-- **Arguments cannot break out.** The table calls identifiers only, and the context has neither
quotes nor parentheses. Then every fragment that a compilation puts in for a call or for a return is
enclosed: whatever parentheses and quotes the argument has, the group at the first parenthesis of
the fragment closes at its last one. The fragments that a compilation puts in are those of the
pieces that it reads. -/
theorem spliced_calls_enclosed (s : Session) (t : Text) (hnames : s.table.CallsIdentifiers)
    (hcontext : ∀ c ∈ s.emitter.context, Group.IsOrdinary c) :
    (∀ site fragment, .site site fragment ∈ (s.read t).pieces ↔
      ∃ mid d, Splices s t mid site d fragment) ∧
    ∀ mid site d fragment, Splices s t mid site d fragment →
      (d = .returnValue ∨ ∃ name, d = .call name) → s.emitter.Encloses fragment := by
  refine ⟨fun _ _ => mem_pieces_iff_splices, ?_⟩
  intro mid site d fragment h hkind
  obtain ⟨before, rest, -, ⟨w, hrun⟩, hstands⟩ := h.meets
  have hbalanced := hstands.balanced_expression
  -- the run up to the site keeps the emitter and calls identifiers only
  have hemitter := hrun.emitter_eq
  have hmid := hrun.callsIdentifiers hnames
  have hmakes := h.makes
  rcases hkind with rfl | ⟨name, rfl⟩
  · cases hmakes
    rw [hemitter]
    exact Emitter.encloses_returnValue hbalanced
  · cases hmakes
    rw [hemitter]
    exact Emitter.encloses_call (hmid _ _ h.directive) hcontext hbalanced

/-- A call of a declared function whose argument is a closing parenthesis in quotes, with blanks
around it. -/
theorem quoted_parenthesis_enclosed :
    let s := (Session.start (.ofTarget .php none) .standard).register "f".toList
      (.call "f".toList)
    s.table.CallsIdentifiers ∧ (∀ c ∈ s.emitter.context, Group.IsOrdinary c) ∧
      Splices s "@f( ')' )".toList s ⟨"f".toList, some ⟨[], " ')' ".toList⟩⟩ (.call "f".toList)
        "<?php f (')' ,  $__env); ?>".toList ∧
      s.emitter.Encloses "<?php f (')' ,  $__env); ?>".toList := by
  intro s
  have hfresh := (Table.callless_install .standard).callsIdentifiers
  have hnames : s.table.CallsIdentifiers := hfresh.insert _ (by decide)
  have hcontext : ∀ c ∈ s.emitter.context, Group.IsOrdinary c :=
    List.all_iff_forall_prop.1 (by decide)
  have hd : s.table.get? "f".toList = some (.call "f".toList) := Table.get?_insert_self _ _ _
  have hknown : s.table.contains "f".toList = true := Table.contains_of_get?_eq_some hd
  have hargs : Group.Balanced " ')' ".toList := Group.balanced_of_interior? (by decide)
  have hstands : Site.Stands ⟨"f".toList, some ⟨[], " ')' ".toList⟩⟩ s [] [] :=
    stands_of_balanced [] rfl (by decide) hknown hargs
  have hmeets : Meets s "@f( ')' )".toList s [] ⟨"f".toList, some ⟨[], " ')' ".toList⟩⟩ [] :=
    ⟨by decide, ⟨[], .nil⟩, hstands⟩
  have hsplices : Splices s "@f( ')' )".toList s ⟨"f".toList, some ⟨[], " ')' ".toList⟩⟩
      (.call "f".toList) "<?php f (')' ,  $__env); ?>".toList :=
    ⟨⟨[], [], hmeets⟩, hd, by decide +kernel⟩
  have henclosed := (spliced_calls_enclosed s "@f( ')' )".toList hnames hcontext).2
  exact ⟨hnames, hcontext, hsplices, henclosed _ _ _ _ hsplices (.inr ⟨_, rfl⟩)⟩

end Template

end TemplateFunctions
