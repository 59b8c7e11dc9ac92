import Mathlib.Data.List.TakeWhile
import TemplateFunctions.Proofs.Names
import TemplateFunctions.Proofs.Run
import TemplateFunctions.Proofs.Trimming

/-!
A declaration, a body, a close and a call, compiled together.

* `ordinary_of_isPart`: a name keeps a balanced text balanced.
* `read_name_params`: the text `N(P)` declares `N` with the parameters `P`.
* `runs_declaration`, `runs_close`, `runs_call`: the three sites, each in the session that the one
  before it leaves.
* `compile_definition_and_call`: **they always form one definition and one call.**
-/

namespace TemplateFunctions

/-! ### The text of a declaration -/

namespace Identifier

/-- A character of a name is ordinary in a group. -/
lemma ordinary_of_isPart {c : Char} (h : isPart c = true) : Group.IsOrdinary c := by
  refine ⟨?_, ?_, ?_⟩
  · rintro (rfl | rfl)
    · exact absurd h (by decide)
    · exact absurd h (by decide)
  · rintro rfl
    exact absurd h (by decide)
  · rintro rfl
    exact absurd h (by decide)

/-- No name begins with one of the blanks and controls up to the carriage return. -/
lemma carriageReturn_lt_of_isStart {c : Char} (h : isStart c = true) : ¬ c ≤ '\r' := by
  intro hle
  have hc : c.toNat < 14 := Nat.lt_succ_of_le hle
  have hnone : ∀ n < 14, isStart (Char.ofNat n) = false := by decide
  have hstart := hnone c.toNat hc
  rw [Char.ofNat_toNat, h] at hstart
  cases hstart

/-- No name begins with a blank. -/
lemma isBlank_of_isStart {c : Char} (h : isStart c = true) : Declaration.isBlank c = false := by
  by_contra hblank
  simp only [Declaration.isBlank, Bool.not_eq_false, Bool.or_eq_true, beq_iff_eq,
    Bool.and_eq_true, decide_eq_true_eq] at hblank
  rcases hblank with rfl | ⟨-, hle⟩
  · exact absurd h (by decide)
  · exact carriageReturn_lt_of_isStart h hle

/-- No blanks are skipped in front of a name. -/
lemma Leads.dropWhile_isBlank {name rest : Text} (h : Leads name rest) :
    (name ++ rest).dropWhile Declaration.isBlank = name ++ rest := by
  obtain ⟨c, t, rfl⟩ := List.exists_cons_of_ne_nil h.ne_nil
  have hname := h.isIdentifier
  rw [TemplateFunctions.isIdentifier, Bool.and_eq_true] at hname
  rw [List.cons_append, List.dropWhile_cons_of_neg]
  simp [isBlank_of_isStart hname.1]

end Identifier

namespace Declaration

/-- Text without an opening parenthesis does not matter for the parameters. -/
lemma paramsOf_append {u : Text} (hu : '(' ∉ u) (t : Text) : paramsOf (u ++ t) = paramsOf t := by
  induction u with
  | nil => rfl
  | cons c u ih =>
      have hc : c ≠ '(' := fun h => hu (h ▸ List.mem_cons_self)
      rw [List.cons_append, paramsOf, if_neg hc, ih fun h => hu (List.mem_cons_of_mem c h)]

/-- A group on one line holds the parameters. -/
lemma paramsOf_group {params : Text} (h : '\n' ∉ params) :
    paramsOf ('(' :: (params ++ [')'])) = params := by
  have hline : (params ++ [')']).takeWhile (· != '\n') = params ++ [')'] := by
    rw [List.takeWhile_eq_self_iff]
    intro c hc
    have hne : c ≠ '\n' := by
      rintro rfl
      rcases List.mem_append.1 hc with hc | hc
      · exact h hc
      · simp at hc
    simpa using hne
  have hthrough : throughLine? (params ++ [')']) = some params := by
    rw [throughLine?, hline]
    exact Text.beforeLast?_eq_some_iff.2 ⟨[], rfl, List.not_mem_nil⟩
  rw [paramsOf, if_pos rfl, hthrough]

/-- **The text `N(P)` declares `N` with the parameters `P`.** -/
lemma read_name_params {name params : Text} (hname : isIdentifier name = true)
    (hline : '\n' ∉ params) :
    read (name ++ '(' :: (params ++ [')'])) = .ok ⟨name, params⟩ := by
  have hleads : Identifier.Leads name ('(' :: (params ++ [')'])) :=
    Identifier.leads_cons hname (by decide) _
  rw [read, hleads.dropWhile_isBlank, Identifier.split?_eq_some_iff.2 ⟨hleads, rfl⟩,
    paramsOf_append (hleads.notMem (by decide)), paramsOf_group hline]

end Declaration

namespace Template

/-! ### The three sites -/

/-- The declaration `@F(N(P))`. -/
def declarationText (declare name params : Text) : Text :=
  '@' :: (declare ++ '(' :: (name ++ '(' :: (params ++ [')', ')'])))

/-- The close `@E`. -/
def closeText (close : Text) : Text := '@' :: close

/-- The call `@N(A)`. -/
def callText (name args : Text) : Text := '@' :: (name ++ '(' :: (args ++ [')']))

/-- Neither a declaration nor what is written behind it ends like a word by itself. -/
lemma endsInWord_declarationText (declare name params : Text) {body : Text}
    (hword : endsInWord body = false) :
    endsInWord (declarationText declare name params ++ body) = false := by
  by_cases hnil : body = []
  · have hlast : declarationText declare name params ++ body
        = '@' :: (declare ++ '(' :: (name ++ '(' :: (params ++ [')']))) ++ [')'] := by
      simp [declarationText, hnil]
    rw [hlast, endsInWord_append _ (List.cons_ne_nil _ _)]
    rfl
  · rw [endsInWord_append _ hnil, hword]

/-- A site with a balanced group right behind its name stands wherever its name is known. -/
lemma stands_of_balanced {s : Session} {before name u : Text} (rest : Text)
    (hb : endsInWord before = false) (hname : isIdentifier name = true)
    (hknown : s.table.contains name = true) (hu : Group.Balanced u) :
    Site.Stands ⟨name, some ⟨[], u⟩⟩ s before rest :=
  ⟨hb, Identifier.leads_cons hname (by decide) _, hknown, ⟨by simp, hu⟩⟩

/-- **The declaration** `@F(N(P))` writes the prologue of `N` and makes `N` a call. -/
lemma runs_declaration {s : Session} {declare name params : Text} (rest : Text)
    (hdeclare : isIdentifier declare = true) (hd : s.table.get? declare = some .declare)
    (hname : isIdentifier name = true) (hline : '\n' ∉ params)
    (hparams : Group.Balanced params) :
    Runs s [] (declarationText declare name params) (s.emitter.prologue ⟨name, params⟩)
      (s.register name (.call name)) rest := by
  have hordinary : ∀ c ∈ name, Group.IsOrdinary c := fun c hc =>
    Identifier.ordinary_of_isPart (Identifier.isPart_of_mem hname hc)
  have hbalanced : Group.Balanced (name ++ '(' :: (params ++ [')'])) :=
    (Group.balanced_of_ordinary hordinary).append (.group hparams .nil)
  have hknown : s.table.contains declare = true := Table.contains_of_get?_eq_some hd
  have hstands : Site.Stands ⟨declare, some ⟨[], name ++ '(' :: (params ++ [')'])⟩⟩ s [] rest :=
    stands_of_balanced rest rfl hdeclare hknown hbalanced
  have hdispatch : s.dispatch declare (name ++ '(' :: (params ++ [')']))
      = (.ok (some (s.emitter.prologue ⟨name, params⟩)), s.register name (.call name)) := by
    refine Session.dispatch_eq_some_iff.2 ⟨.declare, hd, ?_⟩
    simp only [Session.perform, Declaration.read_name_params hname hline]
  have hrun := Runs.single (.replace (.site hstands hdispatch))
  simpa [Site.source_eq, Site.tail, Argument.source, declarationText] using hrun

/-- A name that no argument follows is a site by itself. -/
lemma runs_bare {s : Session} {before name fragment rest : Text} {d : Directive}
    (hb : endsInWord before = false) (hname : Identifier.Leads name rest)
    (hnone : argument? rest = none) (hd : s.table.get? name = some d)
    (hperform : s.perform d [] = (.ok fragment, s)) :
    Runs s before ('@' :: name) fragment s rest := by
  have hknown : s.table.contains name = true := Table.contains_of_get?_eq_some hd
  have hstands : Site.Stands ⟨name, none⟩ s before rest :=
    ⟨hb, hname, hknown, argument?_eq_none_iff.1 hnone⟩
  have hdispatch : s.dispatch name [] = (.ok (some fragment), s) :=
    Session.dispatch_eq_some_iff.2 ⟨d, hd, hperform⟩
  have hrun := Runs.single (.replace (.site hstands hdispatch))
  simpa [Site.source_eq, Site.tail] using hrun

/-- **The close** `@E`, in front of a blank and another `@`, ends the definition. -/
lemma runs_close {s : Session} {before close : Text} (rest : Text)
    (hb : endsInWord before = false) (hclose : isIdentifier close = true)
    (hd : s.table.get? close = some .close) :
    Runs s before (closeText close) s.emitter.close s (' ' :: '@' :: rest) :=
  runs_bare hb (Identifier.leads_cons hclose (by decide) _) rfl hd rfl

/-- **The call** `@N(A)` of a declared function. -/
lemma runs_call {s : Session} {before name args : Text} (rest : Text)
    (hb : endsInWord before = false) (hname : isIdentifier name = true)
    (hd : s.table.get? name = some (.call name)) (hargs : Group.Balanced args) :
    Runs s before (callText name args) (s.emitter.call name args) s rest := by
  have hknown : s.table.contains name = true := Table.contains_of_get?_eq_some hd
  have hstands := stands_of_balanced rest hb hname hknown hargs
  have hdispatch : s.dispatch name args = (.ok (some (s.emitter.call name args)), s) :=
    Session.dispatch_eq_some_iff.2 ⟨.call name, hd, rfl⟩
  have hrun := Runs.single (.replace (.site hstands hdispatch))
  simpa [Site.source_eq, Site.tail, Argument.source, callText] using hrun

/-! ### One definition and one call -/

/-- The template `@F(N(P))` `B` `@E @N(A)`. -/
def definitionAndCall (names : DirectiveNames) (name params body args : Text) : Text :=
  declarationText names.declare name params ++ body ++ closeText names.close ++ [' ']
    ++ callText name args

/-- The run through a declaration, a body, a close and a call, in a session that knows the two
directives and whose close is not the declared name. -/
lemma runs_definitionAndCall {s : Session} {names : DirectiveNames} {name params body args : Text}
    (hdeclare : isIdentifier names.declare = true)
    (hd : s.table.get? names.declare = some .declare)
    (hclose : isIdentifier names.close = true) (he : s.table.get? names.close = some .close)
    (hname : isIdentifier name = true) (hne : name ≠ names.close) (hline : '\n' ∉ params)
    (hparams : Group.Balanced params) (hargs : Group.Balanced args) (hbody : '@' ∉ body)
    (hword : endsInWord body = false) :
    Runs s [] (definitionAndCall names name params body args)
      (s.emitter.prologue ⟨name, params⟩ ++ body ++ s.emitter.close ++ [' ']
        ++ s.emitter.call name args)
      (s.register name (.call name)) [] := by
  -- the call that the declaration enters stands for `N` and for nothing else
  have he' : (s.register name (.call name)).table.get? names.close = some .close :=
    (Table.get?_insert_of_ne _ _ (Ne.symm hne)).trans he
  have hcall : (s.register name (.call name)).table.get? name = some (.call name) :=
    Table.get?_insert_self _ _ _
  have hafter := endsInWord_declarationText names.declare name params hword
  have hblank : endsInWord (declarationText names.declare name params ++ body
      ++ closeText names.close ++ [' ']) = false :=
    endsInWord_append _ (List.cons_ne_nil _ _)
  have hopen : Runs s [] (declarationText names.declare name params ++ body)
      (s.emitter.prologue ⟨name, params⟩ ++ body) (s.register name (.call name))
      (closeText names.close ++ (' ' :: callText name args)) :=
    (runs_declaration _ hdeclare hd hname hline hparams).append (.copy hbody)
  have hclosed : Runs s [] (declarationText names.declare name params ++ body
        ++ closeText names.close)
      (s.emitter.prologue ⟨name, params⟩ ++ body ++ s.emitter.close)
      (s.register name (.call name)) ([' '] ++ callText name args ++ []) := by
    rw [List.append_nil]
    exact hopen.append (runs_close _ hafter hclose he')
  have hcalled : Runs (s.register name (.call name))
      (declarationText names.declare name params ++ body ++ closeText names.close)
      ([' '] ++ callText name args) ([' '] ++ s.emitter.call name args)
      (s.register name (.call name)) [] :=
    Runs.append (.copy (by decide)) (runs_call [] hblank hname hcall hargs)
  simpa only [definitionAndCall, List.append_assoc] using hclosed.append hcalled

/-- **A declaration, a body, a close and a call form one definition and one call.** The declared
function is the only one afterwards, also where it has the name of the declaring or of the returning
directive. The two lists lose their margins, and a ` , ` joins them to the context unless nothing is
left of them. -/
theorem compile_definition_and_call (emitter : Emitter) (names : DirectiveNames)
    (name params body args : Text) (hcheck : names.check = none)
    (hname : isIdentifier name = true) (hne : name ≠ names.close) (hline : '\n' ∉ params)
    (hparams : Group.interior? ('(' :: (params ++ [')'])) = some (params, []))
    (hargs : Group.interior? ('(' :: (args ++ [')'])) = some (args, []))
    (hbody : '@' ∉ body) (hword : endsInWord body = false) :
    ∃ after,
      (Session.start emitter names).compile (definitionAndCall names name params body args)
        = (.ok (emitter.prologue ⟨name, params⟩ ++ body ++ emitter.close ++ [' ']
            ++ emitter.call name args), after) ∧
      after.table.declared = [name] ∧
      (∃ core, Text.IsTrimmed Emitter.isMargin params core ∧
        Emitter.leadIn params = if core = [] then [] else core ++ " , ".toList) ∧
      ∃ core, Text.IsTrimmed Emitter.isMargin args core ∧
        Emitter.leadIn args = if core = [] then [] else core ++ " , ".toList := by
  have hidentifier := (DirectiveNames.check_eq_none_iff.1 hcheck).1
  have hrun := runs_definitionAndCall (s := Session.start emitter names)
    (hidentifier _ names.declare_mem_enabled)
    (DirectiveNames.get?_install_of_mem hcheck names.declare_mem_enabled .empty)
    (hidentifier _ names.close_mem_enabled)
    (DirectiveNames.get?_install_of_mem hcheck names.close_mem_enabled .empty)
    hname hne hline (Group.interior?_eq_some_iff.1 hparams).1
    (Group.interior?_eq_some_iff.1 hargs).1 hbody hword
  refine ⟨_, compile_of_runs hrun, ?_, Emitter.exists_isTrimmed_leadIn params,
    Emitter.exists_isTrimmed_leadIn args⟩
  exact Table.declared_insert_call (Table.callless_install names) name name

/-- A card that is declared under the name of the declaring directive and called with a quoted
parenthesis. -/
theorem compile_card_and_call :
    DirectiveNames.standard.check = none ∧ isIdentifier "function".toList = true ∧
      "function".toList ≠ DirectiveNames.standard.close ∧ '\n' ∉ " $a ".toList ∧
      Group.interior? "( $a )".toList = some (" $a ".toList, []) ∧
      Group.interior? "('(')".toList = some ("'('".toList, []) ∧
      '@' ∉ "<b>\n".toList ∧ endsInWord "<b>\n".toList = false ∧
      ∃ after,
        (Session.start (.ofTarget .php none) .standard).compile
            "@function(function( $a ))<b>\n@endfunction @function('(')".toList
          = (.ok ("<?php function function ( $a ,   $__env ) \x7b ?><b>\n<?php \x7d ?> ".toList
              ++ "<?php function ('(' ,  $__env); ?>".toList), after) ∧
        after.table.declared = ["function".toList] := by
  have htext : definitionAndCall .standard "function".toList " $a ".toList "<b>\n".toList
        "'('".toList
      = "@function(function( $a ))<b>\n@endfunction @function('(')".toList := by
    decide +kernel
  have houtput : (Emitter.ofTarget .php none).prologue ⟨"function".toList, " $a ".toList⟩
        ++ "<b>\n".toList ++ (Emitter.ofTarget .php none).close ++ [' ']
        ++ (Emitter.ofTarget .php none).call "function".toList "'('".toList
      = "<?php function function ( $a ,   $__env ) \x7b ?><b>\n<?php \x7d ?> ".toList
        ++ "<?php function ('(' ,  $__env); ?>".toList := by
    decide +kernel
  obtain ⟨after, hcompile, hdeclared, -⟩ :=
    compile_definition_and_call (.ofTarget .php none) .standard "function".toList " $a ".toList
      "<b>\n".toList "'('".toList (by decide) (by decide) (by decide) (by decide) (by decide)
      (by decide) (by decide) (by decide)
  rw [htext, houtput] at hcompile
  exact ⟨by decide, by decide, by decide, by decide, by decide, by decide, by decide, by decide,
    after, hcompile, hdeclared⟩

end Template

end TemplateFunctions
