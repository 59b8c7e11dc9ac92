import Mathlib.Data.Bool.AllAny
import TemplateFunctions.Proofs.Definition
import TemplateFunctions.Proofs.Locality
import TemplateFunctions.Scaffold

/-!
The scaffold, compiled.

The name of the sample function is chosen freely, and from the declaration on it stands for a call.
The scaffold has three more words behind an `@`, and nothing keeps the name from being one of them:
such a word then calls the function too.

* `text_eq`: the scaffold is five sites in a frame.
* `runs_frame`: the frame is copied around whatever the sites give.
* `runs_loop`, `runs_endLoop`, `runs_ending`: what the three words give behind the declaration.
* `compile_render`: **the scaffold compiles under every name and declares just that function**;
  under every name but the three words, the loop is copied and the definition is closed.
-/

namespace TemplateFunctions

namespace Template

/-- A name that stands for no directive is copied, and so is the text behind it up to the next
`@`. -/
lemma runs_unknown {s : Session} {before name tail rest : Text} (hb : endsInWord before = false)
    (hname : Identifier.Leads name (tail ++ rest)) (hunknown : s.table.contains name = false)
    (htail : '@' ∉ tail) : Runs s before ('@' :: (name ++ tail)) ('@' :: (name ++ tail)) s rest :=
  (Runs.single (.pass (.unknown hb hname hunknown))).append (.copy htail)

/-- A run goes on with text that is copied and does not end like a word, and with a run that starts
by itself. -/
lemma Runs.thenText {s mid after : Session} {before u w t v x rest : Text}
    (hrun : Runs s before u w mid (t ++ (v ++ rest))) (ht : '@' ∉ t) (hne : t ≠ [])
    (hword : endsInWord t = false) (hnext : Runs mid [] v x after rest) :
    Runs s before (u ++ (t ++ v)) (w ++ (t ++ x)) after rest := by
  have hcopied : Runs s before (u ++ t) (w ++ t) mid (v ++ rest) := hrun.append (.copy ht)
  have hapart : endsInWord [] = endsInWord (before ++ (u ++ t)) := by
    rw [← List.append_assoc, endsInWord_append _ hne, hword]
    rfl
  have hall := hcopied.append (hnext.congr_before hapart)
  rwa [List.append_assoc, List.append_assoc] at hall

end Template

namespace Scaffold

open Template

/-! ### The frame -/

/-- The tag up to the name. -/
def tag : Text := "\n<section class=\"".toList

/-- The text from the name in the tag to the loop. -/
def title : Text := "\">\n    <h2>\x7b\x7b $title \x7d\x7d</h2>\n    <ul>\n    ".toList

/-- The text from the declaration to the loop. -/
def heading (name : Text) : Text := tag ++ (name ++ title)

/-- The list that the loop goes through. -/
def items : Text := "$items as $item".toList

/-- The text in the loop. -/
def entry : Text := "\n        <li>\x7b\x7b $item \x7d\x7d</li>\n    ".toList

/-- The text from the loop to the close. -/
def footing : Text := '\n' :: "    </ul>\n</section>\n".toList

/-- What stands at the five places of the scaffold that have an `@`. -/
structure Sites where
  declaration : Text
  loop : Text
  endLoop : Text
  close : Text
  call : Text

/-- The scaffold for a name with the given texts at the five places. -/
def frame (name : Text) (sites : Sites) : Text :=
  sites.declaration ++ (heading name ++ (sites.loop ++ (entry ++ (sites.endLoop ++ (footing ++
    (sites.close ++ (['\n', '\n'] ++ (sites.call ++ ['\n']))))))))

/-- The sites as the scaffold has them. -/
def source (name : Text) : Sites where
  declaration := declarationText "function".toList name params
  loop := callText "foreach".toList items
  endLoop := closeText "endforeach".toList
  close := closeText "endfunction".toList
  call := callText name (args name)

/-- The body has the two words of the loop in it. -/
lemma body_eq :
    body = title ++ (callText "foreach".toList items ++ (entry ++
      (closeText "endforeach".toList ++ footing))) := by
  decide +kernel

/-- **The scaffold is its five sites in the frame.** -/
lemma text_eq (name : Text) : text name = frame name (source name) := by
  have hopen : "@function(".toList = '@' :: ("function".toList ++ "(".toList) := by decide
  have htag : "))\n<section class=\"".toList = ')' :: ')' :: tag := by decide +kernel
  have hclose : "@endfunction\n\n@".toList
      = '@' :: ("endfunction".toList ++ ['\n', '\n', '@']) := by
    decide
  have hend : ")\n".toList = [')', '\n'] := by decide
  have hparen : "(".toList = ['('] := by decide
  unfold text
  rw [hopen, htag, hclose, hend, hparen, body_eq]
  simp only [frame, source, heading, declarationText, callText, closeText, List.append_assoc,
    List.cons_append, List.nil_append]

lemma at_notMem_heading {name : Text} (hname : isIdentifier name = true) :
    '@' ∉ heading name := by
  have hnot : '@' ∉ name := Identifier.notMem_of_isPart hname (by decide)
  have hframe : '@' ∉ tag ∧ '@' ∉ title := by decide +kernel
  simp only [heading, List.mem_append, hnot, hframe.1, hframe.2, or_self, not_false_eq_true]

lemma endsInWord_heading (name : Text) : endsInWord (heading name) = false := by
  have htitle : endsInWord title = false := by decide +kernel
  have hne : title ≠ [] := by decide +kernel
  rw [heading, ← List.append_assoc, endsInWord_append _ hne, htitle]

/-- **The frame is copied around whatever the sites give.** The first site leads to the session of
all the others, and a line break follows the end of the loop and the close. -/
lemma runs_frame {s mid : Session} {name : Text} {source output : Sites}
    (hname : isIdentifier name = true)
    (hdeclaration : ∀ rest, Runs s [] source.declaration output.declaration mid rest)
    (hloop : ∀ rest, Runs mid [] source.loop output.loop mid rest)
    (hendLoop : ∀ rest, Runs mid [] source.endLoop output.endLoop mid ('\n' :: rest))
    (hclose : ∀ rest, Runs mid [] source.close output.close mid ('\n' :: rest))
    (hcall : ∀ rest, Runs mid [] source.call output.call mid rest) :
    Runs s [] (frame name source) (frame name output) mid [] := by
  have hlast : Runs mid [] (source.call ++ ['\n']) (output.call ++ ['\n']) mid [] :=
    (hcall _).append (.copy (by decide))
  have hclosed := (hclose _).thenText (t := ['\n', '\n']) (by decide) (by decide) rfl hlast
  have hlooped := (hendLoop _).thenText (t := footing) (by decide) (by decide) rfl hclosed
  have hentered := (hloop _).thenText (t := entry) (by decide +kernel) (by decide +kernel)
    (by decide +kernel) hlooped
  have htag : tag ≠ [] := by decide +kernel
  have hne : heading name ≠ [] := List.append_ne_nil_of_left_ne_nil htag _
  exact (hdeclaration _).thenText (at_notMem_heading hname) hne (endsInWord_heading name) hentered

/-! ### The words behind the declaration -/

/-- The compiled sites: a word that is the name of the function calls it. -/
def compiled (e : Emitter) (name : Text) : Sites where
  declaration := e.prologue ⟨name, params⟩
  loop :=
    if name = "foreach".toList then e.call name items else callText "foreach".toList items
  endLoop := if name = "endforeach".toList then e.call name [] else closeText "endforeach".toList
  close := if name = "endfunction".toList then e.call name [] else e.close
  call := e.call name (args name)

/-- The session behind the declaration of the function. -/
def declared (e : Emitter) (name : Text) : Session :=
  (Session.start e .standard).register name (.call name)

section Words

variable {e : Emitter} {name : Text}

lemma get?_declared_self (e : Emitter) (name : Text) :
    (declared e name).table.get? name = some (.call name) :=
  Table.get?_insert_self _ _ _

lemma get?_declared_of_ne {word : Text} (h : name ≠ word) :
    (declared e name).table.get? word = (Session.start e .standard).table.get? word :=
  Table.get?_insert_of_ne _ _ (Ne.symm h)

/-- A word that stood for nothing stands for nothing, if it is not the name. -/
lemma not_contains_declared {word : Text} (h : name ≠ word)
    (hfree : (Session.start e .standard).table.get? word = none) :
    (declared e name).table.contains word = false := by
  rw [Table.contains, get?_declared_of_ne h, hfree, Option.isSome_none]

/-- A word without a group, in front of a line break, calls the function that has it as its name. -/
lemma runs_bare_self (e : Emitter) (hname : isIdentifier name = true) (rest : Text) :
    Runs (declared e name) [] (closeText name) (e.call name []) (declared e name)
      ('\n' :: rest) :=
  runs_bare rfl (Identifier.leads_cons hname (by decide) _) rfl (get?_declared_self e name) rfl

/-- The head of the loop is copied, or calls a function that has its word as the name. -/
lemma runs_loop (e : Emitter) (hname : isIdentifier name = true) (rest : Text) :
    Runs (declared e name) [] (source name).loop (compiled e name).loop (declared e name) rest := by
  have hitems : Group.Balanced items := Group.balanced_of_interior? (by decide +kernel)
  by_cases htaken : name = "foreach".toList
  · rw [compiled, if_pos htaken, source, ← htaken]
    exact runs_call rest rfl hname (get?_declared_self e name) hitems
  · have hunknown : (declared e name).table.contains "foreach".toList = false :=
      not_contains_declared htaken rfl
    have htail : '@' ∉ '(' :: (items ++ [')']) := by decide +kernel
    rw [compiled, if_neg htaken, source]
    exact runs_unknown rfl (Identifier.leads_cons (by decide) (by decide) _) hunknown htail

/-- The end of the loop is copied, or calls a function that has its word as the name. -/
lemma runs_endLoop (e : Emitter) (hname : isIdentifier name = true) (rest : Text) :
    Runs (declared e name) [] (source name).endLoop (compiled e name).endLoop (declared e name)
      ('\n' :: rest) := by
  by_cases htaken : name = "endforeach".toList
  · rw [compiled, if_pos htaken, source, ← htaken]
    exact runs_bare_self e hname rest
  · have hunknown : (declared e name).table.contains "endforeach".toList = false :=
      not_contains_declared htaken rfl
    have hleads : Identifier.Leads "endforeach".toList ('\n' :: rest) :=
      Identifier.leads_cons (by decide) (by decide) _
    rw [compiled, if_neg htaken, source]
    exact .single (.pass (.unknown rfl hleads hunknown))

/-- The close ends the definition, or calls a function that has its word as the name. -/
lemma runs_ending (e : Emitter) (hname : isIdentifier name = true) (rest : Text) :
    Runs (declared e name) [] (source name).close (compiled e name).close (declared e name)
      ('\n' :: rest) := by
  by_cases htaken : name = "endfunction".toList
  · rw [compiled, if_pos htaken, source, ← htaken]
    exact runs_bare_self e hname rest
  · have hclose : (declared e name).table.get? "endfunction".toList = some .close := by
      rw [get?_declared_of_ne htaken]
      rfl
    rw [compiled, if_neg htaken, source]
    exact runs_bare rfl (Identifier.leads_cons (by decide) (by decide) _) rfl hclose rfl

/-- The arguments of the sample call are balanced: a name does not end the string that it stands
in. -/
lemma balanced_args (hname : isIdentifier name = true) : Group.Balanced (args name) := by
  have hplain : ∀ c ∈ name, c ≠ '\\' ∧ c ≠ '\'' := by
    intro c hc
    constructor
    · rintro rfl
      exact Identifier.notMem_of_isPart hname (by decide) hc
    · rintro rfl
      exact Identifier.notMem_of_isPart hname (by decide) hc
  have hend : Group.Quoted '\'' (" example".toList ++ ['\'']) :=
    .prepend (List.all_iff_forall_prop.1 (by decide)) .close
  have hlist : Group.Balanced ", ['first', 'second']".toList :=
    Group.balanced_of_interior? (by decide +kernel)
  have hargs : args name
      = '\'' :: ((name ++ (" example".toList ++ ['\''])) ++ ", ['first', 'second']".toList) := by
    have hsplit : " example', ['first', 'second']".toList
        = (" example".toList ++ ['\'']) ++ ", ['first', 'second']".toList := by
      decide +kernel
    simp only [args, hsplit, List.append_assoc]
  rw [hargs]
  exact .string (Or.inl rfl) (.prepend hplain hend) hlist

/-- **The run through the scaffold**: the declaration, the three words and the call, one after
another in the frame. -/
lemma runs_text (e : Emitter) (hname : isIdentifier name = true) :
    Runs (Session.start e .standard) [] (text name) (frame name (compiled e name))
      (declared e name) [] := by
  have hline : '\n' ∉ params := by decide +kernel
  have hparams : Group.Balanced params := Group.balanced_of_interior? (by decide +kernel)
  rw [text_eq]
  refine runs_frame hname (fun rest => ?_) (runs_loop e hname) (runs_endLoop e hname)
    (runs_ending e hname) fun rest => ?_
  · exact runs_declaration rest (by decide) rfl hname hline hparams
  · exact runs_call rest rfl hname (get?_declared_self e name) (balanced_args hname)

end Words

/-! ### The compiled scaffold -/

/-- The compiled sites where the loop is copied and the definition is closed. -/
def plain (e : Emitter) (name : Text) : Sites :=
  { source name with
    declaration := e.prologue ⟨name, params⟩
    close := e.close
    call := e.call name (args name) }

/-- The words that stand in the scaffold between its declaration and its call. -/
def words : List Text := ["foreach".toList, "endforeach".toList, "endfunction".toList]

/-- A function that has none of the words as its name leaves them alone. -/
lemma compiled_eq_plain (e : Emitter) {name : Text} (h : name ∉ words) :
    compiled e name = plain e name := by
  simp only [words, List.mem_cons, List.not_mem_nil, or_false, not_or] at h
  obtain ⟨hloop, hendLoop, hclose⟩ := h
  rw [compiled, if_neg hloop, if_neg hendLoop, if_neg hclose]
  rfl

/-- What the scaffold compiles to under a name. -/
lemma compile_text (e : Emitter) {name : Text} (hname : isIdentifier name = true) :
    (Session.start e .standard).compile (text name)
      = (.ok (frame name (compiled e name)), declared e name) :=
  compile_of_runs (runs_text e hname)

/-- **The scaffold compiles under every name and declares just that function.** The frame is copied
around the declaration and the call. The loop is copied too and the definition is closed, unless
the name is one of the three words: then this word calls the function, with the items of the loop or
with nothing. -/
theorem compile_render (e : Emitter) (name : Text) (hname : isIdentifier name = true) :
    render name = .ok (frame name (source name)) ∧
      (∃ after, (Session.start e .standard).compile (frame name (source name))
          = (.ok (frame name (compiled e name)), after) ∧
        after.table.declared = [name]) ∧
      (name ∉ words → compiled e name = plain e name) := by
  rw [← text_eq]
  refine ⟨by rw [render, if_pos hname], ⟨declared e name, compile_text e hname, ?_⟩,
    compiled_eq_plain e⟩
  exact Table.declared_insert_call (Table.callless_install .standard) name name

/-- A scaffold under the name of the returning directive. -/
theorem compile_render_return :
    isIdentifier "return".toList = true ∧
      render "return".toList = .ok (text "return".toList) ∧
      ∃ after, (Session.start (.ofTarget .pseudo none) .standard).compile (text "return".toList)
          = (.ok ("BEGIN_FUNC return ( $title, $items = [] , ctx )\n".toList
              ++ "<section class=\"return\">\n    <h2>\x7b\x7b $title \x7d\x7d</h2>\n".toList
              ++ "    <ul>\n    @foreach($items as $item)\n".toList
              ++ "        <li>\x7b\x7b $item \x7d\x7d</li>\n    @endforeach\n".toList
              ++ "    </ul>\n</section>\nEND_FUNC\n\n".toList
              ++ "CALL return ( 'return example', ['first', 'second'] , ctx )\n".toList),
            after) ∧
        after.table.declared = ["return".toList] := by
  have hname : isIdentifier "return".toList = true := by decide
  have houtput : frame "return".toList (plain (.ofTarget .pseudo none) "return".toList)
      = "BEGIN_FUNC return ( $title, $items = [] , ctx )\n".toList
        ++ "<section class=\"return\">\n    <h2>\x7b\x7b $title \x7d\x7d</h2>\n".toList
        ++ "    <ul>\n    @foreach($items as $item)\n".toList
        ++ "        <li>\x7b\x7b $item \x7d\x7d</li>\n    @endforeach\n".toList
        ++ "    </ul>\n</section>\nEND_FUNC\n\n".toList
        ++ "CALL return ( 'return example', ['first', 'second'] , ctx )\n".toList := by
    decide +kernel
  obtain ⟨hrender, ⟨after, hcompile, hdeclared⟩, hplain⟩ :=
    compile_render (.ofTarget .pseudo none) "return".toList hname
  rw [← text_eq] at hrender hcompile
  rw [hplain (by decide), houtput] at hcompile
  exact ⟨hname, hrender, after, hcompile, hdeclared⟩

/-- **A scaffold under the name of the closing directive is not closed**: the close calls the
function. -/
theorem compile_text_endfunction :
    isIdentifier "endfunction".toList = true ∧
      render "endfunction".toList = .ok (text "endfunction".toList) ∧
      ¬ ∃ after, (Session.start (.ofTarget .php none) .standard).compile
          (text "endfunction".toList)
        = (.ok (frame "endfunction".toList
            (plain (.ofTarget .php none) "endfunction".toList)), after) := by
  have hname : isIdentifier "endfunction".toList = true := by decide
  -- only the close is another one: it is a call without arguments
  have hcompiled : compiled (.ofTarget .php none) "endfunction".toList
      = { plain (.ofTarget .php none) "endfunction".toList with
          close := (Emitter.ofTarget .php none).call "endfunction".toList [] } := by
    rw [compiled, if_neg (by decide), if_neg (by decide), if_pos rfl]
    rfl
  refine ⟨hname, by rw [render, if_pos hname], ?_⟩
  rintro ⟨after, hcompile⟩
  rw [compile_text _ hname, Prod.mk.injEq, Except.ok.injEq, hcompiled] at hcompile
  have hclose : (Emitter.ofTarget .php none).call "endfunction".toList []
      = (Emitter.ofTarget .php none).close := by
    have hframe := hcompile.1
    simp only [frame, List.append_right_inj, List.append_left_inj] at hframe
    exact hframe
  exact absurd hclose (by decide +kernel)

end Scaffold

end TemplateFunctions
