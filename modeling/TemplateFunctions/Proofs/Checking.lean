import TemplateFunctions.Program
import TemplateFunctions.Proofs.Agreement
import TemplateFunctions.Proofs.Loading

/-!
Checking a template against compiling it.

Checking loads the configuration as it is, and compiling puts the settings of the command line over
it. The settings change the emitter, and no failure depends on that. Nor does it matter how the text
of a configuration file is decoded.

* `compile_start_alike`: a template compiles under one emitter just where it does under another.
* `compileFile_alike`: a file compiles under two configurations with the same directive names, or it
  fails under both in the same way.
* `check_compile_alike`: checking and compiling a file without an output file fail alike.
* `check_agrees_with_compile`: **checking and compiling exit alike and report the same.**
-/

namespace TemplateFunctions

/-! ### Outcomes -/

/-- Outcomes with the same notices and the same failure exit alike and report the same. -/
lemma Outcome.exit_stderr_eq {o o' : Outcome} (hnotices : o.notices = o'.notices)
    (hfailure : o.failure = o'.failure) : o.exit = o'.exit ∧ o.stderr = o'.stderr := by
  rw [Outcome.exit, Outcome.exit, Outcome.stderr, Outcome.stderr, hnotices, hfailure]
  exact ⟨rfl, rfl⟩

/-- Without notices an outcome is a success with nothing to report or a failure with its report. -/
lemma Outcome.exit_stderr_of_notices {o : Outcome} (h : o.notices = []) :
    o.exit = 0 ∧ o.stderr = [] ∨
      ∃ failure, o.failure = some failure ∧ o.exit = 1 ∧ o.stderr = failure.report := by
  rw [Outcome.exit_eq_zero_iff, Outcome.exit_eq_one_iff, Outcome.stderr, h]
  cases o.failure with
  | none => exact Or.inl ⟨rfl, rfl⟩
  | some failure => exact Or.inr ⟨failure, rfl, rfl, rfl⟩

namespace Program

/-! ### Compiling under two configurations -/

/-- A template compiles under both of two emitters, or it fails under both with the same fault. -/
lemma compile_start_alike (names : DirectiveNames) (e e' : Emitter) (t : Text) :
    (∃ out out' after after', (Session.start e names).compile t = (.ok out, after) ∧
      (Session.start e' names).compile t = (.ok out', after')) ∨
    ∃ fault after after', (Session.start e names).compile t = (.error fault, after) ∧
      (Session.start e' names).compile t = (.error fault, after') := by
  have hagree : (Session.start e names).AgreeOn (fun _ => True) (Session.start e' names) :=
    fun _ _ => rfl
  rcases Template.compile_alike hagree (t := t) fun _ _ => trivial with
    ⟨ps, after, after', h, h', -⟩ | ⟨fault, after, after', h, h', -⟩
  · exact Or.inl ⟨_, _, after, after', h, h'⟩
  · exact Or.inr ⟨fault, after, after', h, h'⟩

/-- **A file compiles under both of two configurations** that name the directives alike, or it fails
under both in the same way: it cannot be read, or the same declaration is bad. -/
lemma compileFile_alike (fs : FileSystem) (cwd : Location) (file : Path) {c c' : Config}
    (hnames : c'.names = c.names) :
    (∃ compiled compiled', compileFile fs cwd c file = .ok compiled ∧
      compileFile fs cwd c' file = .ok compiled') ∨
    ∃ failure, compileFile fs cwd c file = .error failure ∧
      compileFile fs cwd c' file = .error failure := by
  simp only [compileFile, Config.session, hnames]
  cases fs.read cwd file with
  | error cause => exact Or.inr ⟨.unreadable file cause, rfl, rfl⟩
  | ok source =>
      rcases compile_start_alike c.names c.emitter c'.emitter source with
        ⟨out, out', after, after', h, h'⟩ | ⟨fault, after, after', h, h'⟩
      · simp only [h, h']
        exact Or.inl ⟨_, _, rfl, rfl⟩
      · simp only [h, h']
        exact Or.inr ⟨.uncompiled file fault, rfl, rfl⟩

/-! ### Checking and compiling -/

/-- **Checking and compiling fail alike**, and have no notices, if neither is asked to say more. -/
lemma check_compile_alike (decode : Config.Decoder) (fs : FileSystem) (cwd : Location)
    (config : Option Path) (file : Path) {settings : Overrides} (hsettings : settings.Usable) :
    let checked := run fs cwd ⟨.check file, false, config⟩ decode
    let compiled := run fs cwd ⟨.compile file none settings, false, config⟩ decode
    checked.notices = [] ∧ compiled.notices = [] ∧ checked.failure = compiled.failure := by
  simp only [run, perform, Config.load_some hsettings]
  cases Config.load fs cwd config none decode with
  | error cause => exact ⟨rfl, rfl, rfl⟩
  | ok c =>
      have hnames : (c.override settings).names = c.names := rfl
      simp only [Except.map, withConfig, check, compile]
      rcases compileFile_alike fs cwd file hnames with ⟨out, out', h, h'⟩ | ⟨failure, h, h'⟩
      · simp only [h, h']
        exact ⟨rfl, rfl, rfl⟩
      · simp only [h, h']
        exact ⟨rfl, rfl, rfl⟩

/-- **Checking a template and compiling it without an output file** agree, whatever the settings, as
long as their context is not blank, and if neither is asked to say more: the configuration is
refused for both or for none, both exit alike, and both write the same to the error stream. This is
nothing after a success, and the report on the same failure otherwise. It is so with any decoder of
configuration files. -/
theorem check_agrees_with_compile (decode : Config.Decoder) (fs : FileSystem) (cwd : Location)
    (config : Option Path) (file : Path) (settings : Overrides) (hsettings : settings.Usable) :
    let checked := run fs cwd ⟨.check file, false, config⟩ decode
    let compiled := run fs cwd ⟨.compile file none settings, false, config⟩ decode
    (∀ cause, Config.load fs cwd config none decode = .error cause ↔
        Config.load fs cwd config (some settings) decode = .error cause) ∧
      checked.exit = compiled.exit ∧ checked.stderr = compiled.stderr ∧
      (checked.exit = 0 ∧ checked.stderr = [] ∨
        ∃ failure, checked.failure = some failure ∧ compiled.failure = some failure ∧
          checked.exit = 1 ∧ checked.stderr = failure.report) := by
  intro checked compiled
  have hload : Config.load fs cwd config (some settings) decode =
      (Config.load fs cwd config none decode).map fun c => c.override settings :=
    Config.load_some hsettings
  obtain ⟨hchecked, hcompiled, hfailure⟩ := check_compile_alike decode fs cwd config file hsettings
  obtain ⟨hexit, hstderr⟩ := Outcome.exit_stderr_eq (hchecked.trans hcompiled.symm) hfailure
  refine ⟨fun cause => ?_, hexit, hstderr, ?_⟩
  · rw [hload]
    cases Config.load fs cwd config none decode <;> simp [Except.map]
  · rcases Outcome.exit_stderr_of_notices hchecked with hsuccess | ⟨failure, hfailed, hreport⟩
    · exact Or.inl hsuccess
    · exact Or.inr ⟨failure, hfailed, hfailure.symm.trans hfailed, hreport⟩

/-- Both report the bad declaration on the second line, although one writes PHP and the other pseudo
code with a context of its own. -/
theorem check_agrees_on_bad_declaration :
    let fs : FileSystem := ⟨[(["view".toList], .text "<p>\n@function(9lives)".toList)]⟩
    let settings : Overrides := ⟨some .pseudo, some "env".toList⟩
    let checked := run fs [] ⟨.check "view".toList, false, none⟩
    let compiled := run fs [] ⟨.compile "view".toList none settings, false, none⟩
    settings.Usable ∧ checked.exit = 1 ∧ checked.exit = compiled.exit ∧
      checked.stderr = compiled.stderr := by
  intro fs settings checked compiled
  have hsettings : settings.Usable := by
    rintro context ⟨⟩
    decide
  obtain ⟨-, hexit, hstderr, -⟩ :=
    check_agrees_with_compile .toml fs [] none "view".toList settings hsettings
  have hfails : checked.exit = 1 := by decide +kernel
  exact ⟨hsettings, hfails, hexit, hstderr⟩

end Program

end TemplateFunctions
