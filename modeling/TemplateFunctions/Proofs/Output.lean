import TemplateFunctions.Program
import TemplateFunctions.Proofs.Storage

/-!
What a command line leaves on the disk, and what it prints.

A command writes at most one file, its output file, and writes it last, so that a command that fails
has written nothing. A compiled template goes out or into the output file, and is the same text
either way, since the template is read before anything is written. Nothing here depends on how the
text of a configuration file is decoded.

* `Request.output?`: the file that a request may write.
* `Confined`: an outcome whose files are as before but for one write of that file.
* `confined_run`: **a run is confined to its output file, and to nothing if it fails.**
* `CompilesTo`: the text that a template file compiles to under the configuration that is loaded.
* `run_compile`: **compiling delivers that text, or fails and prints nothing.**
* `answer_touches_output`: what follows for command lines.
-/

namespace TemplateFunctions

open CommandLine

/-! ### Output files -/

/-- The file that a command may write. -/
def CommandLine.Command.output? : Command → Option Path
  | .compile _ output _ => output
  | .check _ => none
  | .extract _ _ => none
  | .init name output => some (output.getD (Program.scaffoldFile name))

/-- The file that a request may write. -/
def CommandLine.Request.output? : Request → Option Path
  | .version => none
  | .misuse => none
  | .run i => i.command.output?

namespace Program

variable {fs : FileSystem} {cwd : Location} {output : Option Path} {o : Outcome}

/-! ### Confined outcomes -/

/-- **An outcome is confined** to an output file: after a failure the files are as before, and
otherwise they are as before, or a text has been written to the output file and nothing else. -/
structure Confined (fs : FileSystem) (cwd : Location) (output : Option Path) (o : Outcome) :
    Prop where
  failed : o.failure.isSome → o.files = fs
  written : o.files = fs ∨
    ∃ file content, output = some file ∧ fs.write cwd file content = .ok o.files

namespace Confined

lemma of_files_eq (h : o.files = fs) : Confined fs cwd output o :=
  ⟨fun _ => h, Or.inl h⟩

lemma of_failed (failure : Failure) : Confined fs cwd output (.failed fs failure) :=
  .of_files_eq rfl

lemma noticing (h : Confined fs cwd output o) (notices : Text) :
    Confined fs cwd output (o.noticing notices) :=
  ⟨h.failed, h.written⟩

lemma printing (h : Confined fs cwd output o) (stdout : Text) :
    Confined fs cwd output (o.printing stdout) :=
  ⟨h.failed, h.written⟩

/-- What a configuration is needed for is confined if it is so with every configuration. -/
lemma withConfig {go : Config → Outcome} (h : ∀ c, Confined fs cwd output (go c))
    (config : Except Config.Failure Config) :
    Confined fs cwd output (Program.withConfig fs config go) := by
  cases config with
  | error failure => exact .of_failed _
  | ok c => exact h c

end Confined

/-- A compiled text goes into the output file and nowhere else. -/
lemma confined_deliver (output : Option Path) (t : Text) :
    Confined fs cwd output (deliver fs cwd output t) := by
  cases output with
  | none => exact .of_files_eq rfl
  | some path =>
      rw [deliver]
      split
      · next after hwrite => exact ⟨nofun, Or.inr ⟨path, t, rfl, hwrite⟩⟩
      · exact .of_failed _

/-- Compiling writes the output file at most. -/
lemma confined_compile (c : Config) (file : Path) (output : Option Path) (verbose : Bool) :
    Confined fs cwd output (compile fs cwd c file output verbose) := by
  refine .noticing ?_ _
  split
  · exact confined_deliver _ _
  · exact .of_failed _

lemma confined_check (c : Config) (file : Path) (verbose : Bool) :
    Confined fs cwd output (check fs cwd c file verbose) := by
  refine .printing ?_ _
  split
  · exact .of_files_eq rfl
  · exact .of_failed _

lemma confined_extract (t : Text) (asJson : Bool) :
    Confined fs cwd output (extract fs t asJson) := by
  rw [extract]
  split
  · exact .of_files_eq rfl
  · exact .of_failed _

/-- Making a scaffold writes the file for it at most. -/
lemma confined_init (name : Text) (given : Option Path) (verbose : Bool) :
    Confined fs cwd (some (given.getD (scaffoldFile name))) (init fs cwd name given verbose) := by
  refine .printing ?_ _
  split
  · exact .of_failed _
  · next content _ =>
    dsimp only
    split
    · next after hwrite => exact ⟨nofun, Or.inr ⟨_, content, rfl, hwrite⟩⟩
    · exact .of_failed _

/-- **A run is confined to its output file**, whatever the command. -/
lemma confined_run (decode : Config.Decoder) (fs : FileSystem) (cwd : Location) (i : Invocation) :
    Confined fs cwd i.command.output? (run fs cwd i decode) := by
  refine .noticing ?_ _
  rw [perform]
  cases i.command with
  | compile file output settings => exact .withConfig (fun c => confined_compile c file _ _) _
  | check file => exact .withConfig (fun c => confined_check c file _) _
  | extract t asJson => exact confined_extract t asJson
  | init name output => exact confined_init name output _

/-! ### Compiled texts -/

section

variable {decode : Config.Decoder} {config : Option Path} {settings : Overrides} {file : Path}
  {out out' : Text}

/-- A file compiles if it can be read and its template compiles. -/
lemma compileFile_eq_ok_iff {c : Config} {compiled : Compiled} :
    compileFile fs cwd c file = .ok compiled ↔
      ∃ source after, fs.read cwd file = .ok source ∧
        c.session.compile source = (.ok compiled.output, after) ∧
        compiled.functions = after.table.declared := by
  rw [compileFile]
  cases fs.read cwd file with
  | error cause => simp
  | ok source =>
      rcases hresult : c.session.compile source with ⟨_ | out, after⟩
      · simp [hresult]
      · obtain ⟨output, functions⟩ := compiled
        simp [hresult, eq_comm]

/-- **The text that a template file compiles to** under the configuration that is loaded with the
settings. -/
def CompilesTo (decode : Config.Decoder) (fs : FileSystem) (cwd : Location) (config : Option Path)
    (settings : Overrides) (file : Path) (out : Text) : Prop :=
  ∃ c source after, Config.load fs cwd config (some settings) decode = .ok c ∧
    fs.read cwd file = .ok source ∧ c.session.compile source = (.ok out, after)

/-- A template file compiles to one text. -/
lemma CompilesTo.unique (h : CompilesTo decode fs cwd config settings file out)
    (h' : CompilesTo decode fs cwd config settings file out') : out = out' := by
  obtain ⟨c, source, after, hload, hread, hcompile⟩ := h
  obtain ⟨c', source', after', hload', hread', hcompile'⟩ := h'
  cases hload.symm.trans hload'
  cases hread.symm.trans hread'
  cases hcompile.symm.trans hcompile'
  rfl

/-- **Compiling delivers the text that the file compiles to**, or there is no such text, and it
fails and prints nothing. -/
lemma run_compile (decode : Config.Decoder) (fs : FileSystem) (cwd : Location)
    (config : Option Path) (settings : Overrides) (file : Path) (output : Option Path)
    (verbose : Bool) :
    let o := run fs cwd ⟨.compile file output settings, verbose, config⟩ decode
    (∃ out, CompilesTo decode fs cwd config settings file out ∧
      o.stdout = (deliver fs cwd output out).stdout ∧
      o.failure = (deliver fs cwd output out).failure ∧
      o.files = (deliver fs cwd output out).files) ∨
    (∀ out, ¬ CompilesTo decode fs cwd config settings file out) ∧ o.stdout = [] ∧
      o.failure.isSome = true := by
  intro o
  simp only [o, run, perform]
  cases hload : Config.load fs cwd config (some settings) decode with
  | error cause =>
      refine Or.inr ⟨?_, rfl, rfl⟩
      rintro out ⟨c, source, after, hload', -⟩
      cases hload.symm.trans hload'
  | ok c =>
      simp only [withConfig, compile]
      cases hcompiled : compileFile fs cwd c file with
      | error failure =>
          refine Or.inr ⟨?_, rfl, rfl⟩
          rintro out ⟨c', source, after, hload', hread, hcompile⟩
          cases hload.symm.trans hload'
          have hok : compileFile fs cwd c file = .ok ⟨out, after.table.declared⟩ :=
            compileFile_eq_ok_iff.2 ⟨source, after, hread, hcompile, rfl⟩
          cases hcompiled.symm.trans hok
      | ok compiled =>
          obtain ⟨source, after, hread, hcompile, -⟩ := compileFile_eq_ok_iff.1 hcompiled
          exact Or.inl ⟨compiled.output, ⟨c, source, after, hload, hread, hcompile⟩, rfl, rfl, rfl⟩

/-- Compiling without an output file prints the text that the file compiles to. -/
lemma run_compile_none (verbose : Bool) :
    let o := run fs cwd ⟨.compile file none settings, verbose, config⟩ decode
    (o.exit = 0 ∧ o.stdout = out) ↔ CompilesTo decode fs cwd config settings file out := by
  intro o
  rcases run_compile decode fs cwd config settings file none verbose with
    ⟨text, htext, hstdout, hfailure, -⟩ | ⟨hnone, -, hfailure⟩
  · have hexit : o.exit = 0 := Outcome.exit_eq_zero_iff.2 hfailure
    have hprinted : o.stdout = text := hstdout
    constructor
    · rintro ⟨-, rfl⟩
      rwa [hprinted]
    · intro hout
      exact ⟨hexit, hprinted.trans (htext.unique hout)⟩
  · have hexit : o.exit = 1 := Outcome.exit_eq_one_iff.2 hfailure
    constructor
    · rintro ⟨h, -⟩
      rw [hexit] at h
      cases h
    · intro hout
      exact absurd hout (hnone out)

/-- **Compiling into a file** leaves the text there that the template file compiles to, also when
the output file is the template file itself. -/
lemma read_of_run_compile_some {path : Path} (verbose : Bool)
    (hexit : (run fs cwd ⟨.compile file (some path) settings, verbose, config⟩ decode).exit = 0) :
    ∃ out, CompilesTo decode fs cwd config settings file out ∧
      (run fs cwd ⟨.compile file (some path) settings, verbose, config⟩ decode).files.read cwd path
        = .ok out := by
  rcases run_compile decode fs cwd config settings file (some path) verbose with
    ⟨text, htext, -, hfailure, hfiles⟩ | ⟨-, -, hfailure⟩
  · refine ⟨text, htext, ?_⟩
    rw [Outcome.exit_eq_zero_iff, hfailure] at hexit
    rw [hfiles]
    rw [deliver] at hexit ⊢
    split
    · next after hwrite => exact FileSystem.read_of_write hwrite
    · next cause hwrite =>
      rw [hwrite] at hexit
      cases hexit
  · rw [Outcome.exit_eq_zero_iff.1 hexit] at hfailure
    cases hfailure

/-- Compiling into a file prints nothing, and neither does compiling that fails. -/
lemma stdout_of_run_compile (verbose : Bool)
    (h : output ≠ none ∨
      (run fs cwd ⟨.compile file output settings, verbose, config⟩ decode).exit ≠ 0) :
    (run fs cwd ⟨.compile file output settings, verbose, config⟩ decode).stdout = [] := by
  rcases run_compile decode fs cwd config settings file output verbose with
    ⟨text, -, hstdout, hfailure, -⟩ | ⟨-, hstdout, -⟩
  · rw [hstdout]
    cases output with
    | none =>
        have hexit := Outcome.exit_eq_zero_iff.2 hfailure
        exact absurd hexit (h.resolve_left fun hne => hne rfl)
    | some path =>
        rw [deliver]
        split <;> rfl
  · exact hstdout

end

/-! ### Command lines -/

/-- **A command line touches only its output file.** If it fails, or if it has no output file, all
files are as before; otherwise nothing but the place that the output file names has changed. A
command line that compiles prints the compiled text if it succeeds and has no output file, and
nothing otherwise, whether it is to say more or not. If it succeeds and has an output file, that
file holds the very text that would have been printed without one. It is so with any decoder of
configuration files. -/
theorem answer_touches_output {decode : Config.Decoder} {fs : FileSystem} {cwd : Location}
    {words : List Text} {o : Outcome} (h : answer fs cwd words decode = some o) :
    (o.exit = 1 → o.files = fs) ∧
      ((Request.ofWords words).output? = none → o.files = fs) ∧
      (∀ path, (Request.ofWords words).output? = some path →
        ∀ x, o.files.node? x ≠ fs.node? x → fs.placeOf cwd path = .ok x) ∧
      ∀ file output settings verbose config,
        Request.ofWords words = .run ⟨.compile file output settings, verbose, config⟩ →
        let plain := run fs cwd ⟨.compile file none settings, verbose, config⟩ decode
        (output = none →
          ∀ out, o.exit = 0 ∧ o.stdout = out ↔ CompilesTo decode fs cwd config settings file out) ∧
        (output ≠ none ∨ o.exit ≠ 0 → o.stdout = []) ∧
        ∀ path, output = some path → o.exit = 0 →
          plain.exit = 0 ∧ o.files.read cwd path = .ok plain.stdout := by
  have hconfined : Confined fs cwd (Request.ofWords words).output? o := by
    rw [answer] at h
    split at h
    · next hrequest =>
      cases h
      exact .of_files_eq rfl
    · cases h
    · next i hrequest =>
      cases h
      rw [hrequest]
      exact confined_run decode fs cwd i
  refine ⟨?_, ?_, ?_, ?_⟩
  · intro hexit
    exact hconfined.failed (Outcome.exit_eq_one_iff.1 hexit)
  · intro hnone
    rcases hconfined.written with hfiles | ⟨path, content, hpath, -⟩
    · exact hfiles
    · cases hnone.symm.trans hpath
  · intro path hpath x hx
    rcases hconfined.written with hfiles | ⟨path', content, hpath', hwrite⟩
    · exact absurd (by rw [hfiles]) hx
    · cases hpath.symm.trans hpath'
      exact FileSystem.node?_of_write hwrite hx
  · intro file output settings verbose config hrequest plain
    simp only [answer, hrequest, Option.some.injEq] at h
    subst h
    refine ⟨?_, stdout_of_run_compile verbose, ?_⟩
    · rintro rfl out
      exact run_compile_none verbose
    · rintro path rfl hexit
      obtain ⟨out, hout, hread⟩ := read_of_run_compile_some verbose hexit
      obtain ⟨hplain, hstdout⟩ := (run_compile_none verbose).2 hout
      exact ⟨hplain, by rw [hread, hstdout]⟩

/-- A template compiled in its own place, asked to say more, holds afterwards what would have been
printed. -/
theorem compile_in_place_touches_output :
    let fs : FileSystem := ⟨[(["view".toList], .text "@function(f)<p>@endfunction".toList)]⟩
    let words := ["-v", "compile", "view", "-o", "view"].map String.toList
    let i : Invocation :=
      ⟨.compile "view".toList (some "view".toList) .none, true, none⟩
    let plain := run fs [] ⟨.compile "view".toList none .none, true, none⟩
    answer fs [] words = some (run fs [] i) ∧ (run fs [] i).stdout = [] ∧
      plain.stdout = "<?php function f (   $__env ) \x7b ?><p><?php \x7d ?>".toList ∧
      (run fs [] i).files.read [] "view".toList = .ok plain.stdout := by
  intro fs words i plain
  have hrequest : Request.ofWords words = .run i := by decide +kernel
  have hanswer : answer fs [] words = some (run fs [] i) := by
    simp only [answer, hrequest]
  obtain ⟨-, -, -, hcompile⟩ := answer_touches_output hanswer
  obtain ⟨-, hstdout, hread⟩ := hcompile _ _ _ _ _ hrequest
  have hexit : (run fs [] i).exit = 0 := by decide +kernel
  have hplain : plain.stdout =
      "<?php function f (   $__env ) \x7b ?><p><?php \x7d ?>".toList := by decide +kernel
  exact ⟨hanswer, hstdout (Or.inl nofun), hplain, (hread _ rfl hexit).2⟩

end Program

end TemplateFunctions
