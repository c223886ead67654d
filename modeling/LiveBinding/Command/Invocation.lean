import LiveBinding.Command.Argument

/-!
# Invocations

What a command line asks for. Some options may stand before the command and behind it; there the
ones behind it count. No option is given twice in one place, save assignments.
-/

namespace LiveBinding.Command

/-- How answers are written. -/
inductive Format where
  | text
  | json
  deriving DecidableEq, Repr

/-- The format with a name. -/
def Format.ofName? (name : String) : Option Format :=
  if name = "text" then some .text
  else if name = "json" then some .json
  else none

/-- The commands. -/
inductive Verb where
  | parse
  | eval
  | watch
  deriving DecidableEq, Repr

/-- The command with a name. -/
def Verb.ofName? (name : String) : Option Verb :=
  if name = "parse" then some .parse
  else if name = "eval" then some .eval
  else if name = "watch" then some .watch
  else none

/-- Why a command line makes no sense. -/
inductive Misuse where
  | noCommand
  | unknownCommand (name : String)
  | unknownOption (name : String)
  | unexpectedWord (word : String)
  | missingValue (option : String)
  | unexpectedValue (option value : String)
  | invalidValue (option value : String)
  | repeatedOption (name : String)
  | missingText
  | missingContext
  deriving DecidableEq, Repr

/-- The wording of a misuse. -/
def Misuse.message : Misuse → String
  | .noCommand => "a command is needed"
  | .unknownCommand name => "unknown command '" ++ name ++ "'"
  | .unknownOption name => "unexpected option '" ++ name ++ "'"
  | .unexpectedWord word => "unexpected argument '" ++ word ++ "'"
  | .missingValue option => "option '--" ++ option ++ "' needs a value"
  | .unexpectedValue option value =>
    "option '--" ++ option ++ "' takes no value, got '" ++ value ++ "'"
  | .invalidValue option value =>
    "invalid value '" ++ value ++ "' of option '--" ++ option ++ "'"
  | .repeatedOption name => "option '--" ++ name ++ "' is given twice"
  | .missingText => "an expression is needed"
  | .missingContext => "option '--context' is needed"

/-- Why reading a command line ends early. -/
inductive Stop where
  | help
  | version
  | misuse (fault : Misuse)
  deriving DecidableEq, Repr

/-- Options and words that stand together, before a command or behind it. -/
structure Options where
  format : Option Format := none
  quiet : Bool := false
  config : Option String := none
  context : Option String := none
  template : Bool := false
  assignments : List String := []
  text : Option String := none

namespace Options

/-- Whether an option may stand behind a command, or before it. -/
def allows (verb : Option Verb) (name : String) : Bool :=
  if name = "set" then verb == some .watch
  else if name = "context" ∨ name = "template" then verb == some .eval || verb == some .watch
  else if name = "version" then verb == none
  else true

/-- Stop because of a misuse. -/
def refuse {α : Type} (fault : Misuse) : Except Stop α := .error (.misuse fault)

/-- Set what may be set once. -/
def once {α : Type} (name : String) (old : Option α) (new : α) : Except Stop (Option α) :=
  match old with
  | none => .ok (some new)
  | some _ => refuse (.repeatedOption name)

/-- Switch on what may be switched on once. -/
def switchOn (name : String) (old : Bool) : Except Stop Bool :=
  if old then refuse (.repeatedOption name) else .ok true

/-- A path of a file, which is never empty. -/
def filePath (name path : String) : Except Stop String :=
  if path = "" then refuse (.invalidValue name path) else .ok path

/-- Take in an option that takes a value. -/
def addValued (options : Options) (name value : String) : Except Stop Options :=
  match name with
  | "output" =>
    match Format.ofName? value with
    | none => refuse (.invalidValue name value)
    | some format => do return { options with format := ← once name options.format format }
  | "config" => do
    return { options with config := ← once name options.config (← filePath name value) }
  | "context" => do
    return { options with context := ← once name options.context (← filePath name value) }
  | "set" => .ok { options with assignments := options.assignments ++ [value] }
  | _ => refuse (.unexpectedValue name value)

/-- Take in an option that stands alone. -/
def addSwitch (options : Options) (name : String) : Except Stop Options :=
  match name with
  | "help" => .error .help
  | "version" => .error .version
  | "quiet" => do return { options with quiet := ← switchOn name options.quiet }
  | "template" => do return { options with template := ← switchOn name options.template }
  | _ =>
    if Argument.valued.contains name then refuse (.missingValue name)
    else refuse (.unknownOption ("--" ++ name))

/-- Take in a word. Only a command has one, the text that it is about. -/
def addWord (verb : Option Verb) (options : Options) (word : String) : Except Stop Options :=
  match verb, options.text with
  | some _, none => .ok { options with text := some word }
  | _, _ => refuse (.unexpectedWord word)

/-- Take in letters behind a dash, of which the first one counts. -/
def addLetters (verb : Option Verb) (letters : String) : Except Stop Options :=
  match letters.toList.head? with
  | some 'h' => .error .help
  | some 'V' =>
    if verb = none then .error .version else refuse (.unknownOption ("-" ++ letters))
  | _ => refuse (.unknownOption ("-" ++ letters))

/-- Take in an argument. -/
def add (verb : Option Verb) (options : Options) : Argument → Except Stop Options
  | .word word => options.addWord verb word
  | .divider => .ok options
  | .literal word => options.addWord verb word
  | .letters letters => addLetters verb letters
  | .option name value =>
    if allows verb name then
      match value with
      | none => options.addSwitch name
      | some value => options.addValued name value
    else refuse (.unknownOption ("--" ++ name))

end Options

/-- What concerns every command. -/
structure Preferences where
  format : Format := .text
  quiet : Bool := false
  config : Option String := none
  deriving DecidableEq, Repr

/-- What a command does. -/
inductive Task where
  | parse (text : String)
  | eval (text : String) (template : Bool) (context : Option String)
  | watch (text : String) (template : Bool) (context : String) (assignments : List String)
  deriving DecidableEq, Repr

/-- A command line that makes sense. -/
structure Invocation where
  preferences : Preferences
  task : Task
  deriving DecidableEq, Repr

namespace Invocation

/-- The preferences from before a command and behind it. -/
def preferencesOf (outer inner : Options) : Preferences where
  format := (inner.format.or outer.format).getD .text
  quiet := inner.quiet || outer.quiet
  config := inner.config.or outer.config

/-- The task of a command. -/
def taskOf (verb : Verb) (options : Options) : Except Stop Task :=
  match options.text with
  | none => Options.refuse .missingText
  | some text =>
    match verb, options.context with
    | .parse, _ => .ok (.parse text)
    | .eval, context => .ok (.eval text options.template context)
    | .watch, some context => .ok (.watch text options.template context options.assignments)
    | .watch, none => Options.refuse .missingContext

/-- Help is asked for in general or on one command. Here the two dashes are a word like others. -/
def helpOn : List Argument → Stop
  | [] => .help
  | [.word name] =>
    if name = "help" ∨ (Verb.ofName? name).isSome then .help
    else .misuse (.unknownCommand name)
  | argument :: _ =>
    match argument with
    | .word name => .misuse (.unknownCommand name)
    | .divider => .misuse (.unknownCommand "--")
    | .literal name => .misuse (.unknownCommand name)
    | .option name _ => .misuse (.unknownOption ("--" ++ name))
    | .letters letters => .misuse (.unknownOption ("-" ++ letters))

/-- The invocation that words spell. -/
def read (words : List String) : Except Stop Invocation := do
  let arguments := Argument.ofWords words
  let outer ← (arguments.takeWhile (!·.isWord)).foldlM (Options.add none) {}
  match arguments.dropWhile (!·.isWord) with
  | .word name :: rest =>
    if name = "help" then throw (helpOn rest)
    match Verb.ofName? name with
    | none => Options.refuse (.unknownCommand name)
    | some verb =>
      let inner ← rest.foldlM (Options.add (some verb)) {}
      let task ← taskOf verb inner
      return ⟨preferencesOf outer inner, task⟩
  | _ => Options.refuse .noCommand

/-- The files that are read, by their paths. -/
def paths (invocation : Invocation) : List String :=
  let contexts :=
    match invocation.task with
    | .parse _ => none
    | .eval _ _ context => context
    | .watch _ _ context _ => some context
  invocation.preferences.config.toList ++ contexts.toList

end Invocation

end LiveBinding.Command
