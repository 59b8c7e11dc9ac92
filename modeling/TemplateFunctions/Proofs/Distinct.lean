import TemplateFunctions.Proofs.Site
import TemplateFunctions.Proofs.Trimming
import TemplateFunctions.Session

/-!
Fragments keep different functions and different lists apart.

The fragment that opens a definition and the fragment of a call have the same shape: a name between
fixed texts, then a list in front of the context. A name ends at the blank behind it, and everything
around the list is fixed, so both can be told from the fragment.

* `Frame`, `Frame.fill`: the fixed texts of a fragment, and the fragment that they make of a name
  and a list; `call_eq_fill` and `prologue_eq_fill`: calls and prologues are such fragments.
* `fill_eq_fill_iff`: **a fragment tells its name, and its list up to the margins.**
* `fragments_unambiguous`: what follows for calls and declarations.
-/

namespace TemplateFunctions

/-- A name ends at the blank behind it. -/
lemma Identifier.append_blank_inj {name name' rest rest' : Text} (h : isIdentifier name = true)
    (h' : isIdentifier name' = true) (heq : name ++ ' ' :: rest = name' ++ ' ' :: rest') :
    name = name' ∧ rest = rest' := by
  have hleads := Identifier.leads_cons h (by decide : isPart ' ' = false) rest
  have hleads' := Identifier.leads_cons h' (by decide : isPart ' ' = false) rest'
  have hsplit := Identifier.split?_eq_some_iff.2 ⟨hleads, rfl⟩
  rw [heq, Identifier.split?_eq_some_iff.2 ⟨hleads', rfl⟩] at hsplit
  cases hsplit
  exact ⟨rfl, rfl⟩

namespace Emitter

/-! ### Frames -/

/-- The fixed texts of a fragment: in front of the name, in front of the list, and behind it. -/
structure Frame where
  lead : Text
  opening : Text
  closing : Text

/-- The fragment that a frame makes of a name and a list. -/
def Frame.fill (f : Frame) (name list : Text) : Text :=
  f.lead ++ (name ++ ' ' :: (f.opening ++ (leadIn list ++ f.closing)))

/-- The frame of a call. -/
def callFrame (e : Emitter) : Frame :=
  match e.target with
  | .php => ⟨"<?php ".toList, "(".toList, ' ' :: (e.context ++ "); ?>".toList)⟩
  | .pseudo => ⟨"CALL ".toList, "( ".toList, e.context ++ " )".toList⟩

/-- The frame of the fragment that opens a definition. -/
def prologueFrame (e : Emitter) : Frame :=
  match e.target with
  | .php => ⟨"<?php function ".toList, "( ".toList, "  ".toList ++ e.context ++ " ) \x7b ?>".toList⟩
  | .pseudo => ⟨"BEGIN_FUNC ".toList, "( ".toList, e.context ++ " )".toList⟩

lemma call_eq_fill (e : Emitter) (name args : Text) :
    e.call name args = e.callFrame.fill name args := by
  obtain ⟨target, context⟩ := e
  cases target <;> simp [call, callFrame, Frame.fill]

lemma prologue_eq_fill (e : Emitter) (d : Declaration) :
    e.prologue d = e.prologueFrame.fill d.name d.params := by
  obtain ⟨target, context⟩ := e
  cases target <;> simp [prologue, prologueFrame, Frame.fill]

/-- **A fragment tells its name, and its list up to the margins.** -/
lemma fill_eq_fill_iff (f : Frame) {name name' list list' : Text} (h : isIdentifier name = true)
    (h' : isIdentifier name' = true) :
    f.fill name list = f.fill name' list' ↔ name = name' ∧ Text.SameCore isMargin list list' := by
  constructor
  · intro heq
    obtain ⟨hname, hrest⟩ := Identifier.append_blank_inj h h' (List.append_cancel_left heq)
    have hlead : leadIn list = leadIn list' :=
      List.append_cancel_right (List.append_cancel_left hrest)
    exact ⟨hname, leadIn_eq_leadIn_iff.1 hlead⟩
  · rintro ⟨rfl, hcore⟩
    rw [Frame.fill, Frame.fill, leadIn_eq_leadIn_iff.2 hcore]

/-- Calls of two functions are the same exactly if the functions are, and the arguments up to their
margins. -/
lemma call_eq_call_iff (e : Emitter) {name name' args args' : Text}
    (h : isIdentifier name = true) (h' : isIdentifier name' = true) :
    e.call name args = e.call name' args' ↔ name = name' ∧ Text.SameCore isMargin args args' := by
  rw [call_eq_fill, call_eq_fill, fill_eq_fill_iff e.callFrame h h']

/-- The same of what opens two definitions. -/
lemma prologue_eq_prologue_iff (e : Emitter) {d d' : Declaration}
    (h : isIdentifier d.name = true) (h' : isIdentifier d'.name = true) :
    e.prologue d = e.prologue d' ↔
      d.name = d'.name ∧ Text.SameCore isMargin d.params d'.params := by
  rw [prologue_eq_fill, prologue_eq_fill, fill_eq_fill_iff e.prologueFrame h h']

end Emitter

/-! ### Calls and declarations -/

/-- A declaration writes the prologue of what it declares. -/
lemma Session.perform_declare_eq_ok_iff {s : Session} {expression fragment : Text} :
    (s.perform .declare expression).1 = .ok fragment ↔
      ∃ d, Declaration.read expression = .ok d ∧ s.emitter.prologue d = fragment := by
  rw [Session.perform]
  cases Declaration.read expression with
  | ok d => simp
  | error unnamed => simp

namespace Emitter

/-- **Fragments are unambiguous up to margins**, under every emitter. Two calls of identifiers are
written alike exactly if they call the same function with the same arguments up to their margins,
and two declarations exactly if they declare the same name with the same parameters up to theirs. So
margins around a list never matter, and a list of margins is the same as no list. -/
theorem fragments_unambiguous (e : Emitter) :
    (∀ name name' args args', isIdentifier name = true → isIdentifier name' = true →
      (e.call name args = e.call name' args' ↔
        name = name' ∧ Text.SameCore isMargin args args')) ∧
    (∀ table table' x x' f f', (Session.perform ⟨e, table⟩ .declare x).1 = .ok f →
      (Session.perform ⟨e, table'⟩ .declare x').1 = .ok f' →
      (f = f' ↔ ∃ d d', Declaration.read x = .ok d ∧ Declaration.read x' = .ok d' ∧
        d.name = d'.name ∧ Text.SameCore isMargin d.params d'.params)) ∧
    (∀ name list l r, (∀ c ∈ l, isMargin c = true) → (∀ c ∈ r, isMargin c = true) →
      e.call name (l ++ list ++ r) = e.call name list ∧
      e.prologue ⟨name, l ++ list ++ r⟩ = e.prologue ⟨name, list⟩) ∧
    ∀ name list, (∀ c ∈ list, isMargin c = true) →
      e.call name list = e.call name [] ∧ e.prologue ⟨name, list⟩ = e.prologue ⟨name, []⟩ := by
  have hmargins : ∀ name list l r, (∀ c ∈ l, isMargin c = true) → (∀ c ∈ r, isMargin c = true) →
      e.call name (l ++ list ++ r) = e.call name list ∧
      e.prologue ⟨name, l ++ list ++ r⟩ = e.prologue ⟨name, list⟩ := by
    intro name list l r hl hr
    have hlead := leadIn_eq_leadIn_iff.2 (Text.sameCore_margins hl hr list)
    rw [call_eq_fill, call_eq_fill, prologue_eq_fill, prologue_eq_fill]
    simp only [Frame.fill, hlead, and_self]
  refine ⟨fun name name' args args' h h' => e.call_eq_call_iff h h', ?_, hmargins, ?_⟩
  · intro table table' x x' f f' hf hf'
    obtain ⟨d, hd, rfl⟩ := Session.perform_declare_eq_ok_iff.1 hf
    obtain ⟨d', hd', rfl⟩ := Session.perform_declare_eq_ok_iff.1 hf'
    have hiff := e.prologue_eq_prologue_iff (Declaration.isIdentifier_of_read hd)
      (Declaration.isIdentifier_of_read hd')
    refine hiff.trans ⟨fun h => ⟨d, d', hd, hd', h⟩, ?_⟩
    -- an expression is read as one declaration only
    rintro ⟨c, c', hc, hc', h⟩
    cases hd.symm.trans hc
    cases hd'.symm.trans hc'
    exact h
  · intro name list hlist
    have hnone := hmargins name [] list [] hlist nofun
    rwa [List.append_nil, List.append_nil] at hnone

/-- A card is declared alike with blanks around its parameter and without, and called alike with a
line break behind its argument and without. -/
theorem card_written_alike :
    let e : Emitter := .ofTarget .php none
    let f := "<?php function card ( $a ,   $__env ) \x7b ?>".toList
    isIdentifier "card".toList = true ∧
      e.call "card".toList " 1\n".toList = e.call "card".toList "1".toList ∧
      (Session.perform ⟨e, .empty⟩ .declare "card( $a )".toList).1 = .ok f ∧
      (Session.perform ⟨e, .empty⟩ .declare " card($a) // ".toList).1 = .ok f ∧
      Text.SameCore isMargin " $a ".toList "$a".toList := by
  intro e f
  have hname : isIdentifier "card".toList = true := by decide
  have hargs : Text.SameCore isMargin " 1\n".toList "1".toList := Text.sameCore_iff.2 (by decide)
  have hwide : (Session.perform ⟨e, .empty⟩ .declare "card( $a )".toList).1 = .ok f := by
    decide +kernel
  have htight : (Session.perform ⟨e, .empty⟩ .declare " card($a) // ".toList).1 = .ok f := by
    decide +kernel
  obtain ⟨hcalls, hdeclarations, -⟩ := fragments_unambiguous e
  obtain ⟨d, d', hd, hd', -, hcore⟩ := (hdeclarations _ _ _ _ f f hwide htight).1 rfl
  cases hd
  cases hd'
  exact ⟨hname, (hcalls _ _ _ _ hname hname).2 ⟨rfl, hargs⟩, hwide, htight, hcore⟩

end Emitter

end TemplateFunctions
