import TemplateFunctions.Config

/-!
Command lines: what the words behind the name of the program ask for.

Switches stand in front of the command or behind it. A value is written into the word of its switch
or is the next word; two hyphens end the switches of a command. A switch stands at most once in
front of the command and once behind it.

* `Collected.ofWords`: the switches and the plain words up to the command or to the end.
* `Request.ofWords`: what the words ask for, if they make sense.
-/

namespace TemplateFunctions

namespace CommandLine

/-! ### Switches -/

/-- The switches of a command line. -/
inductive Switch where
  | verbose
  | config
  | version
  | output
  | target
  | context
  | json
  deriving DecidableEq, Repr

namespace Switch

/-- The long name of a switch. -/
def long : Switch → Text
  | verbose => "verbose".toList
  | config => "config".toList
  | version => "version".toList
  | output => "output".toList
  | target => "target".toList
  | context => "context-var".toList
  | json => "json".toList

/-- The letter of a switch. -/
def letter? : Switch → Option Char
  | verbose => some 'v'
  | config => some 'c'
  | version => some 'V'
  | output => some 'o'
  | target => some 't'
  | context | json => none

/-- Whether a switch has a value. -/
def hasValue : Switch → Bool
  | config | output | target | context => true
  | verbose | version | json => false

/-- Whether a switch may have this value: a path is not empty, and a target has its label. -/
def accepts : Switch → Text → Bool
  | config, value | output, value => !value.isEmpty
  | target, value => (Target.ofLabel? value).isSome
  | _, _ => true

end Switch

/-- The commands. -/
inductive Verb where
  | compile
  | check
  | extract
  | init
  deriving DecidableEq, Repr

namespace Verb

/-- All commands. -/
def all : List Verb :=
  [.compile, .check, .extract, .init]

/-- The word for a command. -/
def label : Verb → Text
  | compile => "compile".toList
  | check => "check".toList
  | extract => "extract".toList
  | init => "init".toList

/-- The command with this word. -/
def ofLabel? (t : Text) : Option Verb :=
  all.find? fun verb => verb.label == t

end Verb

/-- The switches that may stand in front of a command, or behind the one that is given. -/
def switches : Option Verb → List Switch
  | none => [.verbose, .config, .version]
  | some .compile => [.verbose, .config, .output, .target, .context]
  | some .check => [.verbose, .config]
  | some .extract => [.verbose, .config, .json]
  | some .init => [.verbose, .config, .output]

/-! ### Collecting switches and words -/

/-- Why collecting ends early: the words make no sense, or they ask for the version. -/
inductive Halt where
  | misuse
  | version
  deriving DecidableEq, Repr

/-- The switches with their values and the plain words so far. A switch may still wait for its
value. -/
structure Collected where
  switches : List (Switch × Text)
  words : List Text
  waiting : Option Switch
  deriving DecidableEq, Repr

namespace Collected

/-- Nothing so far. -/
def empty : Collected :=
  ⟨[], [], none⟩

/-- Whether a switch is there. -/
def has (c : Collected) (s : Switch) : Bool :=
  (c.switches.lookup s).isSome

/-- The value of a switch. -/
def value? (c : Collected) (s : Switch) : Option Text :=
  c.switches.lookup s

/-- Adds a switch with its value. The version is asked for at once; a switch stands only once. -/
def use (c : Collected) (s : Switch) (value : Text) : Except Halt Collected :=
  if s = .version then .error .version
  else if c.has s || !s.accepts value then .error .misuse
  else .ok { c with switches := c.switches ++ [(s, value)], waiting := none }

/-- Adds a word behind the name of a switch, without the sign between them. -/
def useLetters (c : Collected) (allowed : List Switch) : Text → Except Halt Collected
  | [] => .ok c
  | letter :: letters =>
    match allowed.find? fun s => s.letter? == some letter with
    | none => .error .misuse
    | some s =>
      if s.hasValue then
        match letters with
        | [] => .ok { c with waiting := some s }
        | '=' :: value => c.use s value
        | value => c.use s value
      else
        match c.use s [] with
        | .ok c => c.useLetters allowed letters
        | .error halt => .error halt

/-- Adds a switch by its long name, which a value may follow behind an equals sign. -/
def useLong (c : Collected) (allowed : List Switch) (t : Text) : Except Halt Collected :=
  let name := t.takeWhile (· != '=')
  match allowed.find? fun s => s.long == name with
  | none => .error .misuse
  | some s =>
    match t.dropWhile (· != '='), s.hasValue with
    | [], true => .ok { c with waiting := some s }
    | [], false => c.use s []
    | _ :: value, true => c.use s value
    | _ :: _, false => .error .misuse

/-- Whether a word is read as a switch: it starts with a hyphen and is not a single one. -/
def isSwitch (t : Text) : Bool :=
  t.head? == some '-' && t != ['-']

/-- Adds one more word of the command line. -/
def add (c : Collected) (allowed : List Switch) (word : Text) : Except Halt Collected :=
  match c.waiting with
  | some s => if isSwitch word then .error .misuse else c.use s word
  | none =>
    match word, isSwitch word with
    | '-' :: '-' :: t, true => c.useLong allowed t
    | _ :: t, true => c.useLetters allowed t
    | word, _ => .ok { c with words := c.words ++ [word] }

/-- Whether a word is the sign that no switches follow. -/
def isEnd (c : Collected) (word : Text) : Bool :=
  c.waiting.isNone && word == ['-', '-']

/-- Whether a word is a plain one. -/
def isPlain (c : Collected) (word : Text) : Bool :=
  c.waiting.isNone && !isSwitch word

/-- Collects the switches and the plain words behind a command. -/
def behind (c : Collected) (allowed : List Switch) : List Text → Except Halt Collected
  | [] => if c.waiting.isSome then .error .misuse else .ok c
  | word :: words =>
    if c.isEnd word then .ok { c with words := c.words ++ words }
    else
      match c.add allowed word with
      | .ok c => c.behind allowed words
      | .error halt => .error halt

/-- Collects the switches in front of the command. What is left starts with the command. -/
def inFront (c : Collected) (allowed : List Switch) :
    List Text → Except Halt (Collected × List Text)
  | [] => if c.waiting.isSome then .error .misuse else .ok (c, [])
  | word :: words =>
    if c.isPlain word then .ok (c, word :: words)
    else
      match c.add allowed word with
      | .ok c => c.inFront allowed words
      | .error halt => .error halt

end Collected

/-! ### Requests -/

/-- A command with its own switches. -/
inductive Command where
  | compile (file : Path) (output : Option Path) (settings : Overrides)
  | check (file : Path)
  | extract (text : Text) (asJson : Bool)
  | init (name : Text) (output : Option Path)
  deriving DecidableEq, Repr

/-- The command that a verb, a word and switches make. The name of a file is not empty. -/
def Command.of? (verb : Verb) (word : Text) (c : Collected) : Option Command :=
  let output := c.value? .output
  match verb with
  | .compile =>
    if word.isEmpty then none
    else some (.compile word output
      ⟨(c.value? .target).bind Target.ofLabel?, c.value? .context⟩)
  | .check => if word.isEmpty then none else some (.check word)
  | .extract => some (.extract word (c.has .json))
  | .init => some (.init word output)

/-- A command with the switches that all commands have. -/
structure Invocation where
  command : Command
  verbose : Bool
  config : Option Path
  deriving DecidableEq, Repr

/-- What the switches in front of a verb and the words behind it make. What stands behind the verb
goes before what stands in front of it. -/
def Invocation.ofWords (front : Collected) (verb : Verb) (words : List Text) :
    Except Halt Invocation := do
  let c ← Collected.empty.behind (switches verb) words
  match c.words with
  | [word] =>
    match Command.of? verb word c with
    | some command =>
      pure ⟨command, c.has .verbose || front.has .verbose,
        (c.value? .config).or (front.value? .config)⟩
    | none => throw .misuse
  | _ => throw .misuse

/-- What a command line asks for. -/
inductive Request where
  | version
  | misuse
  | run (invocation : Invocation)
  deriving DecidableEq, Repr

/-- What the words behind the name of the program ask for. -/
def Request.ofWords (words : List Text) : Request :=
  let result := do
    let (front, rest) ← Collected.empty.inFront (switches none) words
    match rest with
    | [] => throw Halt.misuse
    | word :: rest =>
      match Verb.ofLabel? word with
      | some verb => Invocation.ofWords front verb rest
      | none => throw Halt.misuse
  match result with
  | .ok invocation => .run invocation
  | .error .version => .version
  | .error .misuse => .misuse

end CommandLine

end TemplateFunctions
