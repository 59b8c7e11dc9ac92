import TemplateFunctions.Template.Piece

/-!
Reading a template from left to right, and compiling it.

An `@` right behind a word character is passed over alone. Any other `@` is read with the name
behind it: two `@` before a name give the name behind one `@`; a name that stands for a directive
gives the fragment of that directive, whose table may have grown by then; everything else is copied.
A declaration that names no function stops the reading.

* `Session.step`: the next piece of a template.
* `step_append`: the piece and the rest make up the template.
* `Session.read`: all pieces of a template, the session after them, and the site that stopped the
  reading, if one did.
* `Session.compile`: the compiled template or the fault, and the session after it.
-/

namespace TemplateFunctions

namespace Template

/-- A site whose directive failed, and why. -/
structure Stop where
  site : Site
  cause : Declaration.Unnamed
  deriving DecidableEq, Repr

/-- What a reading takes off the front of a template. -/
inductive Step where
  | piece (piece : Piece) (after : Session) (rest : Text)
  | stop (stop : Stop) (after : Session) (rest : Text)

/-- What a reading has found. -/
structure Reading where
  pieces : List Piece
  after : Session
  stop : Option Stop

/-- The reading with one more piece in front. -/
def Reading.cons (p : Piece) (r : Reading) : Reading :=
  { r with pieces := p :: r.pieces }

/-- The text that the pieces of a reading cover. -/
def Reading.source (r : Reading) : Text :=
  r.pieces.flatMap Piece.source

/-- The text that the pieces of a reading stand for. -/
def Reading.output (r : Reading) : Text :=
  r.pieces.flatMap Piece.output

end Template

open Template

namespace Session

/-! ### One step -/

/-- Reads the name behind two `@`. -/
def stepPair (s : Session) (t : Text) : Step :=
  match Identifier.split? t with
  | some (name, rest) => .piece (.escape name) s rest
  | none => .piece .pair s t

/-- Reads the name behind one `@`. -/
def stepName (s : Session) (t : Text) : Step :=
  match Identifier.split? t with
  | none => .piece (.mark []) s t
  | some (name, rest) =>
    match s.table.get? name with
    | none => .piece (.mark name) s rest
    | some d =>
      let (site, rest) := siteOf name rest
      match s.perform d site.expression with
      | (.ok fragment, after) => .piece (.site site fragment) after rest
      | (.error cause, after) => .stop ⟨site, cause⟩ after rest

/-- Reads what follows an `@` that may start something. -/
def stepAt (s : Session) : Text → Step
  | [] => s.stepName []
  | c :: t => if c = '@' then s.stepPair t else s.stepName (c :: t)

/-- The next piece of the template whose first character is `c`. The flag says whether a word
character stands right before it. -/
def step (s : Session) (behindWord : Bool) (c : Char) (t : Text) : Step :=
  if c ≠ '@' then .piece (.char c) s t
  else if behindWord then .piece (.mark []) s t
  else s.stepAt t

/-- The piece behind two `@` and the rest make up the template. -/
theorem stepPair_append {s after : Session} {t rest : Text} {p : Piece}
    (h : s.stepPair t = .piece p after rest) : p.source ++ rest = '@' :: '@' :: t := by
  rw [stepPair] at h
  split at h
  · next hs => cases h; simp [Piece.source, Identifier.split?_append hs]
  · cases h; rfl

/-- The piece behind one `@` and the rest make up the template. -/
theorem stepName_append {s after : Session} {t rest : Text} {p : Piece}
    (h : s.stepName t = .piece p after rest) : p.source ++ rest = '@' :: t := by
  rw [stepName] at h
  split at h
  · cases h; rfl
  · next name rest' hs =>
    split at h
    · cases h; simp [Piece.source, Identifier.split?_append hs]
    · next d _ =>
      have happ := siteOf_append name rest'
      dsimp only at h
      split at h
      · cases h
        rw [Piece.source, happ, Identifier.split?_append hs]
      · cases h

/-- The piece behind an `@` and the rest make up the template. -/
theorem stepAt_append {s after : Session} {t rest : Text} {p : Piece}
    (h : s.stepAt t = .piece p after rest) : p.source ++ rest = '@' :: t := by
  cases t with
  | nil => exact stepName_append h
  | cons c t =>
    rw [stepAt] at h
    split at h
    · next hc => rw [hc]; exact stepPair_append h
    · exact stepName_append h

/-- The piece and the rest make up the template. -/
theorem step_append {s after : Session} {behindWord : Bool} {c : Char} {t rest : Text} {p : Piece}
    (h : s.step behindWord c t = .piece p after rest) : p.source ++ rest = c :: t := by
  rw [step] at h
  split at h
  · cases h; rfl
  · next hc =>
    rw [Decidable.not_not.1 hc]
    split at h
    · cases h; rfl
    · exact stepAt_append h

/-- A step leaves less to read. -/
theorem step_length_lt {s after : Session} {behindWord : Bool} {c : Char} {t rest : Text}
    {p : Piece} (h : s.step behindWord c t = .piece p after rest) :
    rest.length < (c :: t).length := by
  have hp := List.length_pos_iff.2 p.source_ne_nil
  have hl := congrArg List.length (step_append h)
  rw [List.length_append] at hl
  omega

/-! ### The whole template -/

/-- Reads a template. The flag says whether a word character stands right before it. -/
def readFrom (s : Session) (behindWord : Bool) : Text → Reading
  | [] => ⟨[], s, none⟩
  | c :: t =>
    match h : s.step behindWord c t with
    | .piece p after rest =>
      have : rest.length < (c :: t).length := step_length_lt h
      (readFrom after p.endsInWord rest).cons p
    | .stop stop after _ => ⟨[], after, some stop⟩
  termination_by t => t.length
  decreasing_by exact this

/-- Reads a template from its start. -/
def read (s : Session) (t : Text) : Reading :=
  s.readFrom false t

@[simp] theorem readFrom_nil (s : Session) (behindWord : Bool) :
    s.readFrom behindWord [] = ⟨[], s, none⟩ := by
  rw [readFrom]

/-- After a piece the reading goes on with the rest. -/
theorem readFrom_of_piece {s after : Session} {behindWord : Bool} {c : Char} {t rest : Text}
    {p : Piece} (h : s.step behindWord c t = .piece p after rest) :
    s.readFrom behindWord (c :: t) = (after.readFrom p.endsInWord rest).cons p := by
  rw [readFrom]
  split
  · next h' => cases h.symm.trans h'; rfl
  · next h' => cases h.symm.trans h'

/-- A failing site ends the reading. -/
theorem readFrom_of_stop {s after : Session} {behindWord : Bool} {c : Char} {t rest : Text}
    {stop : Stop} (h : s.step behindWord c t = .stop stop after rest) :
    s.readFrom behindWord (c :: t) = ⟨[], after, some stop⟩ := by
  rw [readFrom]
  split
  · next h' => cases h.symm.trans h'
  · next h' => cases h.symm.trans h'; rfl

end Session

/-! ### Compiling -/

namespace Template

/-- A directive that failed: its name, the line of its `@`, and why. -/
structure Fault where
  directive : Text
  line : Nat
  cause : Declaration.Unnamed
  deriving DecidableEq, Repr

/-- The message about a directive that failed. -/
def Fault.message (f : Fault) : Text :=
  "@".toList ++ f.directive ++ " on line ".toList ++ Nat.toDigits 10 f.line ++ ": ".toList
    ++ f.cause.message

/-- The fault of a reading that stopped: its line is the one that the pieces before it end on. -/
def Reading.fault? (r : Reading) : Option Fault :=
  r.stop.map fun stop => ⟨stop.site.name, Text.lineAfter r.source, stop.cause⟩

/-- The compiled template, or the fault that stopped the reading. -/
def Reading.result (r : Reading) : Except Fault Text :=
  match r.fault? with
  | some fault => .error fault
  | none => .ok r.output

end Template

/-- Compiles a template. Declarations that stand before a fault stay in the session. -/
def Session.compile (s : Session) (t : Text) : Except Template.Fault Text × Session :=
  let reading := s.read t
  (reading.result, reading.after)

end TemplateFunctions
