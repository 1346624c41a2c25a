/-
  GrammarBindings.CommandLine.Arguments

  The arguments of the program.  They are read from left to right: options that
  hold for every command, the command, and what belongs to it.
-/
import GrammarBindings.Path

namespace GrammarBindings.CommandLine

/-! ## Requests -/

/-- How results and errors are written. -/
inductive Format
  | text
  | json
  deriving DecidableEq, Repr

/-- The name of a format. -/
def Format.label : Format → String
  | text => "text"
  | json => "json"

/-- The format with a name. -/
def Format.ofLabel? (s : String) : Option Format :=
  [text, json].find? (·.label == s)

/-- What holds for every command. -/
structure Settings where
  format : Format
  quiet : Bool
  verbose : Bool
  deriving DecidableEq, Repr

/-- What is to be done with a spec. -/
inductive Action
  /-- The spec is checked. -/
  | validate
  /-- The binding is generated below a directory, or just listed. -/
  | generate (out : Path) (dryRun : Bool)
  deriving DecidableEq, Repr

/-- A command: its action, the configuration file, and the directory of the
    templates if not the built-in ones are used. -/
structure Job where
  config : Path
  templates : Option Path
  action : Action
  deriving DecidableEq, Repr

/-- What the arguments ask for. -/
inductive Request
  | version
  | job (settings : Settings) (job : Job)
  deriving DecidableEq, Repr

/-- The directory that is written to unless another one is given. -/
def defaultOut : Path := ⟨"build/generated"⟩

/-! ## Misuse -/

/-- Why arguments cannot be used. -/
inductive Misuse
  | unknownOption (option : String)
  /-- An option of which one value is wanted has none. -/
  | noValue (option : String)
  /-- An option that takes no value has one. -/
  | needlessValue (option : String)
  | badValue (option : String) (value : String)
  /-- An option is given twice. -/
  | repeated (option : String)
  | unknownCommand (name : String)
  | noCommand
  | noConfig
  | needlessArgument (argument : String)
  deriving DecidableEq, Repr

/-- A misuse in words. -/
def Misuse.message : Misuse → String
  | unknownOption option => "there is no option '" ++ option ++ "' here"
  | noValue option => "option '" ++ option ++ "' wants a value"
  | needlessValue option => "option '" ++ option ++ "' takes no value"
  | badValue option value => "option '" ++ option ++ "' does not take '" ++ value ++ "'"
  | repeated option => "option '" ++ option ++ "' is given twice"
  | unknownCommand name => "there is no command '" ++ name ++ "'"
  | noCommand => "a command is missing: generate or validate"
  | noConfig => "the configuration file is missing"
  | needlessArgument argument => "there is no use for '" ++ argument ++ "'"

/-! ## Words -/

/-- One argument by its shape. -/
inductive Word
  /-- A `--`, after which no argument is an option. -/
  | separator
  /-- An option such as `--output` or `--output=json`. -/
  | long (name : String) (value : Option String)
  /-- Options of one letter such as `-v`. -/
  | short (letters : List Char)
  /-- Any other argument; a lone `-` is one. -/
  | plain (s : String)
  deriving DecidableEq, Repr

/-- The name of a long option and the value that is attached to it. -/
def splitValue (s : List Char) : String × Option String :=
  match s.dropWhile (· ≠ '=') with
  | [] => (String.ofList s, none)
  | _ :: value => (String.ofList (s.takeWhile (· ≠ '=')), some (String.ofList value))

/-- The shape of an argument. -/
def Word.ofArgument (s : String) : Word :=
  match s.toList with
  | ['-', '-'] => separator
  | '-' :: '-' :: rest => long (splitValue rest).1 (splitValue rest).2
  | '-' :: c :: rest => short (c :: rest)
  | _ => plain s

/-! ## Options -/

/-- The commands. -/
inductive Verb
  | generate
  | validate
  deriving DecidableEq, Repr

/-- The name of a command. -/
def Verb.label : Verb → String
  | generate => "generate"
  | validate => "validate"

/-- The command with a name. -/
def Verb.ofLabel? (s : String) : Option Verb :=
  [generate, validate].find? (·.label == s)

/-- Where an argument stands: before the command, or after it. -/
inductive Place
  | front
  | after (verb : Verb)
  deriving DecidableEq, Repr

/-- The options. -/
inductive Switch
  | output
  | quiet
  | verbose
  | version
  | out
  | templates
  | dryRun
  deriving DecidableEq, Repr

namespace Switch

/-- The long name of an option. -/
def label : Switch → String
  | output => "output"
  | quiet => "quiet"
  | verbose => "verbose"
  | version => "version"
  | out => "out"
  | templates => "templates"
  | dryRun => "dry-run"

/-- The letter of an option. -/
def letter? : Switch → Option Char
  | verbose => some 'v'
  | version => some 'V'
  | _ => none

/-- The options that are known at a place. -/
def known : Place → List Switch
  | .front => [output, quiet, verbose, version]
  | .after .generate => [output, quiet, verbose, out, templates, dryRun]
  | .after .validate => [output, quiet, verbose, templates]

/-- Whether an option wants a value. -/
def wantsValue : Switch → Bool
  | output | out | templates => true
  | quiet | verbose | version | dryRun => false

/-- How an option is named in messages. -/
def spelling (s : Switch) : String := "--" ++ s.label

end Switch

/-! ## Reading options -/

/-- What was read at one place. -/
structure Draft where
  format : Option Format := none
  quiet : Bool := false
  verbose : Bool := false
  config : Option Path := none
  out : Option Path := none
  templates : Option Path := none
  dryRun : Bool := false
  deriving DecidableEq, Repr

/-- Why reading ends before the last argument. -/
inductive Halt
  /-- The version is asked for; what follows does not matter. -/
  | version
  | misuse (m : Misuse)
  deriving DecidableEq, Repr

namespace Draft

/-- A path as the value of an option; it is not empty. -/
def pathValue (s : Switch) (value : String) : Except Halt Path :=
  if value = "" then .error (.misuse (.badValue s.spelling value)) else .ok ⟨value⟩

/-- `value` where nothing was given before. -/
def once {α : Type} (s : Switch) (before : Option α) (value : α) : Except Halt (Option α) :=
  match before with
  | none => .ok (some value)
  | some _ => .error (.misuse (.repeated s.spelling))

/-- A flag that was not set before. -/
def flagOnce (s : Switch) (before : Bool) : Except Halt Bool :=
  if before then .error (.misuse (.repeated s.spelling)) else .ok true

/-- The draft with an option that has no value. -/
def setFlag (d : Draft) : Switch → Except Halt Draft
  | .quiet => do return { d with quiet := ← flagOnce .quiet d.quiet }
  | .verbose => do return { d with verbose := ← flagOnce .verbose d.verbose }
  | .dryRun => do return { d with dryRun := ← flagOnce .dryRun d.dryRun }
  | .version => .error .version
  | s => .error (.misuse (.noValue s.spelling))

/-- The draft with an option and its value. -/
def setValue (d : Draft) (s : Switch) (value : String) : Except Halt Draft :=
  match s with
  | .output =>
    match Format.ofLabel? value with
    | none => .error (.misuse (.badValue s.spelling value))
    | some format => do return { d with format := ← once s d.format format }
  | .out => do return { d with out := ← once s d.out (← pathValue s value) }
  | .templates => do return { d with templates := ← once s d.templates (← pathValue s value) }
  | _ => .error (.misuse (.needlessValue s.spelling))

/-- The draft with an argument that is no option: the configuration file. -/
def setPlain (d : Draft) (s : String) : Except Halt Draft :=
  match d.config with
  | some _ => .error (.misuse (.needlessArgument s))
  | none => if s = "" then .error (.misuse .noConfig) else .ok { d with config := some ⟨s⟩ }

/-- The draft with options of one letter, none of which wants a value. -/
def setLetters (place : Place) (d : Draft) : List Char → Except Halt Draft
  | [] => .ok d
  | c :: cs =>
    match (Switch.known place).find? (·.letter? == some c) with
    | none => .error (.misuse (.unknownOption ("-" ++ String.singleton c)))
    | some s => do setLetters place (← d.setFlag s) cs

end Draft

/-- The option with a long name at a place. -/
def findLong (place : Place) (name : String) : Except Halt Switch :=
  match (Switch.known place).find? (·.label == name) with
  | some s => .ok s
  | none => .error (.misuse (.unknownOption ("--" ++ name)))

/-- An argument that can be the value of the option before it. -/
def Word.value? : Word → Option String
  | .plain s => some s
  | _ => none

/-! ## Reading arguments -/

/-- The draft of the arguments before the command, the command, and the arguments
    behind it. -/
def readFront (d : Draft) : List String → Except Halt (Draft × Verb × List String)
  | [] => .error (.misuse .noCommand)
  | argument :: rest =>
    match Word.ofArgument argument with
    | .separator =>
      match rest with
      | [] => .error (.misuse .noCommand)
      | next :: _ => .error (.misuse (.needlessArgument next))
    | .plain s =>
      match Verb.ofLabel? s with
      | some verb => .ok (d, verb, rest)
      | none => .error (.misuse (.unknownCommand s))
    | .short letters => do readFront (← d.setLetters .front letters) rest
    | .long name (some value) => do
      readFront (← d.setValue (← findLong .front name) value) rest
    | .long name none => do
      let s ← findLong .front name
      if s.wantsValue then
        match rest with
        | [] => throw (.misuse (.noValue s.spelling))
        | next :: rest =>
          match (Word.ofArgument next).value? with
          | none => throw (.misuse (.noValue s.spelling))
          | some value => readFront (← d.setValue s value) rest
      else readFront (← d.setFlag s) rest

/-- The draft of the arguments behind a command. -/
def readAfter (verb : Verb) (d : Draft) : List String → Except Halt Draft
  | [] => .ok d
  | argument :: rest =>
    match Word.ofArgument argument with
    | .separator => rest.foldlM Draft.setPlain d
    | .plain s => do readAfter verb (← d.setPlain s) rest
    | .short letters => do readAfter verb (← d.setLetters (.after verb) letters) rest
    | .long name (some value) => do
      readAfter verb (← d.setValue (← findLong (.after verb) name) value) rest
    | .long name none => do
      let s ← findLong (.after verb) name
      if s.wantsValue then
        match rest with
        | [] => throw (.misuse (.noValue s.spelling))
        | next :: rest =>
          match (Word.ofArgument next).value? with
          | none => throw (.misuse (.noValue s.spelling))
          | some value => readAfter verb (← d.setValue s value) rest
      else readAfter verb (← d.setFlag s) rest

/-- The settings from both sides of the command: the format behind it wins. -/
def settingsOf (front after : Draft) : Settings where
  format := (after.format.or front.format).getD .text
  quiet := front.quiet || after.quiet
  verbose := front.verbose || after.verbose

/-- The action of a command. -/
def actionOf (d : Draft) : Verb → Action
  | .validate => .validate
  | .generate => .generate (d.out.getD defaultOut) d.dryRun

/-- What some arguments ask for, or why reading them ends. -/
def readArguments (arguments : List String) : Except Halt Request := do
  let (front, verb, rest) ← readFront {} arguments
  let after ← readAfter verb {} rest
  match after.config with
  | none => throw (.misuse .noConfig)
  | some config =>
    return .job (settingsOf front after) ⟨config, after.templates, actionOf after verb⟩

/-- What some arguments ask for. -/
def parseArguments (arguments : List String) : Except Misuse Request :=
  match readArguments arguments with
  | .ok request => .ok request
  | .error .version => .ok .version
  | .error (.misuse m) => .error m

end GrammarBindings.CommandLine
