import TemplateFunctions.Config.Load
import TemplateFunctions.Proofs.Storage

/-!
Which configuration is loaded.

A setting of the command line goes before what the file states, and that before the standard value.
The file is checked before any setting is put over it, so that no setting can make up for a bad
file. Nothing here depends on how the text of a file is decoded: the decoder is arbitrary.

* `chosen`, `statedBy`, `baseBy`: the file that is given or found, the fields that it states, and
  the configuration that settings are put over.
* `flaw?_override_eq_none_iff`: settings put over a usable configuration can only fail for their own
  context.
* `load_some`: **loading with usable settings is loading without, and putting them over it.**
* `load_eq_ok_iff`: **which configuration is loaded, and when one is loaded at all.**
* `follows_override`: settings put over such a configuration follow the precedence.
* `load_follows_precedence`: what follows for the fields of a loaded configuration and for bad
  files.
-/

namespace TemplateFunctions

/-- The context of the settings, if they have one, is not white space only. -/
def Overrides.Usable (o : Overrides) : Prop :=
  ∀ context, o.context = some context → context.all Text.isWhite = false

lemma Overrides.usable_none : Overrides.none.Usable := nofun

namespace Config

variable {decode : Decoder} {fs : FileSystem} {cwd : Location} {given : Option Path}

/-! ### The file to load -/

/-- The file that is given, or the nearest one at the working directory or above it. -/
def chosen (fs : FileSystem) (cwd : Location) (given : Option Path) : Option Path :=
  given.or (discover fs cwd (FileSystem.pathOf cwd))

/-- The fields that a file states, if it can be read and decoded. -/
def statedBy (decode : Decoder) (fs : FileSystem) (cwd : Location) (path : Path) : Option Config :=
  (fs.read cwd path).toOption.bind fun content => (decode content).toOption

/-- What a file states comes from its text. -/
lemma statedBy_eq_some_iff {path : Path} {file : Config} :
    statedBy decode fs cwd path = some file ↔
      ∃ content, fs.read cwd path = .ok content ∧ decode content = .ok file := by
  rw [statedBy]
  cases fs.read cwd path with
  | error cause => simp [Except.toOption]
  | ok content => cases hdecode : decode content <;> simp [Except.toOption, hdecode]

/-- A file that is given has to be there. -/
lemma source_some_eq_ok_iff {p : Path} {path : Option Path} :
    source fs cwd (some p) = .ok path ↔ fs.isThere cwd p = true ∧ path = some p := by
  rw [source]
  split
  · next hp => simp [hp, eq_comm]
  · next hp => simp [hp]

/-- A chosen file that can be read is the file to load. -/
lemma source_of_read {path : Path} {content : Text} (hchosen : chosen fs cwd given = some path)
    (hread : fs.read cwd path = .ok content) : source fs cwd given = .ok (some path) := by
  cases given with
  | none => exact congrArg Except.ok hchosen
  | some p =>
      cases hchosen
      exact source_some_eq_ok_iff.2 ⟨FileSystem.isThere_of_read hread, rfl⟩

/-- The file to load is the chosen one. -/
lemma eq_chosen_of_source {path : Option Path} (h : source fs cwd given = .ok path) :
    path = chosen fs cwd given := by
  cases given with
  | none =>
      cases h
      rfl
  | some p => exact (source_some_eq_ok_iff.1 h).2

/-! ### The configuration of the file -/

/-- The configuration that settings are put over: what the file states, or the standard one if there
is no file. -/
def baseBy (decode : Decoder) (fs : FileSystem) (cwd : Location) : Option Path → Option Config
  | some path => statedBy decode fs cwd path
  | none => some standard

lemma flaw?_standard : standard.flaw? = none := by decide

/-- There is a usable configuration to put settings over if the file, where there is one, states
one. -/
lemma exists_base_iff {path : Option Path} :
    (∃ base, baseBy decode fs cwd path = some base ∧ base.flaw? = none) ↔
      ∀ file, path = some file →
        ∃ stated, statedBy decode fs cwd file = some stated ∧ stated.flaw? = none := by
  cases path with
  | none =>
      refine iff_of_true ⟨standard, rfl, flaw?_standard⟩ ?_
      rintro file ⟨⟩
  | some path =>
      constructor
      · rintro hbase file ⟨⟩
        exact hbase
      · intro hfile
        exact hfile path rfl

/-- If there is a configuration to put settings over, the chosen file is the file to load. -/
lemma source_of_base {base : Config} (h : baseBy decode fs cwd (chosen fs cwd given) = some base) :
    source fs cwd given = .ok (chosen fs cwd given) := by
  cases given with
  | none => rfl
  | some p =>
      obtain ⟨content, hread, -⟩ := statedBy_eq_some_iff.1 h
      exact source_of_read rfl hread

/-- **A file gives a configuration** exactly if it states one that is usable. -/
lemma ofSource_eq_ok_iff {path : Option Path} {c : Config} :
    ofSource fs cwd path decode = .ok c ↔
      ∃ base, baseBy decode fs cwd path = some base ∧ base.flaw? = none ∧
        c = { base with path := path } := by
  cases path with
  | none =>
      rw [ofSource, Except.ok.injEq]
      constructor
      · rintro rfl
        exact ⟨standard, rfl, flaw?_standard, rfl⟩
      · rintro ⟨base, ⟨⟩, -, rfl⟩
        rfl
  | some path =>
      rw [ofSource, ofFile, baseBy, statedBy]
      cases fs.read cwd path with
      | error cause => simp [Except.toOption]
      | ok content =>
          simp only [Except.toOption, Option.bind_some, ofText]
          cases decode content with
          | error detail => simp [Except.map]
          | ok file =>
              cases hflaw : file.flaw? with
              | none => simp [checked, hflaw, Except.map, eq_comm]
              | some flaw => simp [checked, hflaw, Except.map]

/-- A file that states an unusable configuration is refused. -/
lemma ofSource_of_flaw {path : Path} {file : Config} {flaw : Flaw}
    (h : statedBy decode fs cwd path = some file) (hflaw : file.flaw? = some flaw) :
    ofSource fs cwd (some path) decode = .error (.unusable flaw) := by
  obtain ⟨content, hread, hdecode⟩ := statedBy_eq_some_iff.1 h
  simp only [ofSource, ofFile, hread, ofText, hdecode, checked, hflaw, Except.map]

/-- A file that cannot be decoded is refused for what the decoder says. -/
lemma ofSource_of_malformed {path : Path} {content : Text} {detail : Option Text}
    (hread : fs.read cwd path = .ok content) (hdecode : decode content = .error detail) :
    ofSource fs cwd (some path) decode = .error (@Failure.malformed detail) := by
  simp only [ofSource, ofFile, hread, ofText, hdecode, Except.map]

lemma flaw?_of_ofSource {path : Option Path} {c : Config}
    (h : ofSource fs cwd path decode = .ok c) : c.flaw? = none := by
  obtain ⟨base, -, hflaw, rfl⟩ := ofSource_eq_ok_iff.1 h
  exact hflaw

/-! ### Settings put over a configuration -/

lemma flaw?_eq_none_iff {c : Config} :
    c.flaw? = none ↔ c.hasBlankContext = false ∧ c.names.check = none := by
  rw [flaw?]
  cases c.hasBlankContext <;> simp

/-- **Settings put over a usable configuration** can only fail for their own context. -/
lemma flaw?_override_eq_none_iff {c : Config} (hc : c.flaw? = none) (o : Overrides) :
    (c.override o).flaw? = none ↔ o.Usable := by
  obtain ⟨hblank, hnames⟩ := flaw?_eq_none_iff.1 hc
  have hsame : (c.override o).names.check = none := hnames
  rw [hasBlankContext] at hblank
  rw [flaw?_eq_none_iff, and_iff_left hsame, hasBlankContext, override]
  cases ho : o.context with
  | none => simpa [Overrides.Usable, ho] using hblank
  | some context => simp [Overrides.Usable, ho]

/-- Usable settings are put over a usable configuration. -/
lemma withOverrides_of_usable {c : Config} (hc : c.flaw? = none) {o : Overrides} (ho : o.Usable) :
    c.withOverrides (some o) = .ok (c.override o) :=
  checked_eq_ok_iff.2 ⟨rfl, (flaw?_override_eq_none_iff hc o).2 ho⟩

/-- Settings that are put over a usable configuration are usable, and no settings change nothing. -/
lemma withOverrides_eq_ok_iff {c d : Config} (hc : c.flaw? = none) {o : Option Overrides} :
    c.withOverrides o = .ok d ↔ (o.getD .none).Usable ∧ d = c.override (o.getD .none) := by
  cases o with
  | none => simp [withOverrides, Overrides.usable_none, eq_comm]
  | some o =>
      rw [withOverrides, checked_eq_ok_iff, Option.getD_some]
      constructor
      · rintro ⟨rfl, hflaw⟩
        exact ⟨(flaw?_override_eq_none_iff hc o).1 hflaw, rfl⟩
      · rintro ⟨ho, rfl⟩
        exact ⟨rfl, (flaw?_override_eq_none_iff hc o).2 ho⟩

/-! ### Loading -/

/-- **Loading with usable settings** is loading without any, and putting them over the result. -/
lemma load_some {o : Overrides} (ho : o.Usable) :
    load fs cwd given (some o) decode =
      (load fs cwd given none decode).map fun c => c.override o := by
  simp only [load, bind, Except.bind]
  cases source fs cwd given with
  | error failure => rfl
  | ok path =>
      cases hsource : ofSource fs cwd path decode with
      | error failure => simp only [hsource, Except.map]
      | ok c =>
          -- the file was checked when it was read, so that only the settings can fail now
          have hc := flaw?_of_ofSource hsource
          simp only [hsource, withOverrides_of_usable hc ho]
          rfl

/-- **Which configuration is loaded, and when one is loaded at all**: the file states something
usable, or there is none, and the settings are usable. -/
lemma load_eq_ok_iff {o : Option Overrides} {c : Config} :
    load fs cwd given o decode = .ok c ↔
      ∃ base, baseBy decode fs cwd (chosen fs cwd given) = some base ∧ base.flaw? = none ∧
        (o.getD .none).Usable ∧
        c = { base with path := chosen fs cwd given }.override (o.getD .none) := by
  simp only [load, bind_eq_ok_iff]
  constructor
  · rintro ⟨path, hpath, d, hsource, hd⟩
    obtain rfl := eq_chosen_of_source hpath
    obtain ⟨ho, rfl⟩ := (withOverrides_eq_ok_iff (flaw?_of_ofSource hsource)).1 hd
    obtain ⟨base, hbase, hflaw, rfl⟩ := ofSource_eq_ok_iff.1 hsource
    exact ⟨base, hbase, hflaw, ho, rfl⟩
  · rintro ⟨base, hbase, hflaw, ho, rfl⟩
    have hsource := ofSource_eq_ok_iff.2 ⟨base, hbase, hflaw, rfl⟩
    have hput := (withOverrides_eq_ok_iff (flaw?_of_ofSource hsource)).2 ⟨ho, rfl⟩
    exact ⟨_, source_of_base hbase, _, hsource, hput⟩

/-- A chosen file that can be read and gives no configuration is refused for its own failure,
whatever the settings. -/
lemma load_of_ofSource_eq_error {path : Path} {content : Text} {failure : Failure}
    (o : Option Overrides) (hchosen : chosen fs cwd given = some path)
    (hread : fs.read cwd path = .ok content)
    (hfile : ofSource fs cwd (some path) decode = .error failure) :
    load fs cwd given o decode = .error failure := by
  simp only [load, bind, Except.bind, source_of_read hchosen hread, hfile]

/-! ### The precedence -/

/-- **The precedence**: a setting goes before what the file states, and that before the standard
value. The standard context is that of the resulting target. -/
structure Follows (c : Config) (o : Overrides) (file : Option Config) : Prop where
  names : c.names = (file.map Config.names).getD .standard
  target : c.emitter.target = (o.target.or (file.map Config.target)).getD .php
  context : c.emitter.context =
    (o.context.or (file.bind Config.context)).getD c.emitter.target.defaultContext

/-- Settings put over the configuration of a file, or the standard one, follow the precedence. -/
lemma follows_override {path : Option Path} {base : Config}
    (h : baseBy decode fs cwd path = some base) (o : Overrides) :
    ({ base with path := path }.override o).Follows o (path.bind (statedBy decode fs cwd)) := by
  cases path with
  | none =>
      cases h
      refine ⟨rfl, ?_, rfl⟩
      rw [Option.bind_none, Option.map_none, Option.or_none]
      rfl
  | some path =>
      have hstated : statedBy decode fs cwd path = some base := h
      rw [Option.bind_some, hstated]
      refine ⟨rfl, ?_, rfl⟩
      rw [Option.map_some]
      cases ho : o.target <;> simp [emitter, Emitter.ofTarget, override, ho]

/-- **A loaded configuration is usable and follows the precedence**, whatever the decoder. It comes
from the file that is given, or else from the nearest one, or from no file if there is none. One is
loaded exactly if the file, where there is one, states a usable configuration, and the settings are
usable. A file that states an unusable one is refused for that, and one that cannot be decoded for
what the decoder says, whatever the settings; and no settings are the same as empty ones. -/
theorem load_follows_precedence (decode : Decoder) (fs : FileSystem) (cwd : Location)
    (given : Option Path) (o : Option Overrides) :
    (∀ c, load fs cwd given o decode = .ok c → c.flaw? = none ∧ c.path = chosen fs cwd given ∧
        c.Follows (o.getD .none) (c.path.bind (statedBy decode fs cwd))) ∧
      ((∃ c, load fs cwd given o decode = .ok c) ↔
        (∀ path, chosen fs cwd given = some path →
          ∃ file, statedBy decode fs cwd path = some file ∧ file.flaw? = none) ∧
        (o.getD .none).Usable) ∧
      (∀ path file flaw, chosen fs cwd given = some path → statedBy decode fs cwd path = some file →
        file.flaw? = some flaw → load fs cwd given o decode = .error (.unusable flaw)) ∧
      (∀ path content detail, chosen fs cwd given = some path → fs.read cwd path = .ok content →
        decode content = .error detail →
        load fs cwd given o decode = .error (@Failure.malformed detail)) ∧
      load fs cwd given none decode = load fs cwd given (some .none) decode := by
  refine ⟨?_, ?_, ?_, ?_, ?_⟩
  · intro c hload
    obtain ⟨base, hbase, hflaw, ho, rfl⟩ := load_eq_ok_iff.1 hload
    exact ⟨(flaw?_override_eq_none_iff hflaw _).2 ho, rfl, follows_override hbase _⟩
  · rw [← exists_base_iff]
    constructor
    · rintro ⟨c, hload⟩
      obtain ⟨base, hbase, hflaw, ho, -⟩ := load_eq_ok_iff.1 hload
      exact ⟨⟨base, hbase, hflaw⟩, ho⟩
    · rintro ⟨⟨base, hbase, hflaw⟩, ho⟩
      exact ⟨_, load_eq_ok_iff.2 ⟨base, hbase, hflaw, ho, rfl⟩⟩
  · intro path file flaw hchosen hstated hflaw
    obtain ⟨content, hread, -⟩ := statedBy_eq_some_iff.1 hstated
    exact load_of_ofSource_eq_error o hchosen hread (ofSource_of_flaw hstated hflaw)
  · intro path content detail hchosen hread hdecode
    exact load_of_ofSource_eq_error o hchosen hread (ofSource_of_malformed hread hdecode)
  · rw [load_some Overrides.usable_none]
    cases load fs cwd given none decode <;> simp [Except.map]

end Config

end TemplateFunctions
