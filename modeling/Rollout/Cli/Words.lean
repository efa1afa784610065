import Rollout.Cli.Option

/-!
# Words

The parser of the program.  The words of a command line are options for all commands, the name of
a command, and words for that command.
-/

namespace Rollout.Cli

/-- An option that stands before the command. -/
inductive GlobalOption where
  /-- Show progress. -/
  | verbose
  /-- Show what matters alone. -/
  | quiet
  /-- Show everything. -/
  | debug
  /-- The settings file. -/
  | config (path : String)
  /-- Ask for the version. -/
  | version
  /-- Ask for help. -/
  | help
deriving DecidableEq, Repr

/-- The spelling of the option that asks for help. -/
def helpName : String := "--help"

/-- The options that may stand before the command. -/
def globalOptions : Options GlobalOption :=
  [("--verbose", .alone .verbose), ("-v", .alone .verbose), ("--quiet", .alone .quiet),
    ("-q", .alone .quiet), ("--debug", .alone .debug), ("--config", .withValue .config),
    ("-c", .withValue .config), ("--version", .alone .version), (helpName, .alone .help)]

namespace Globals

/-- The choices with one more option taken into account. -/
def add (g : Globals) : GlobalOption → Globals
  | .verbose => { g with switches := { g.switches with verbose := true } }
  | .quiet => { g with switches := { g.switches with quiet := true } }
  | .debug => { g with switches := { g.switches with debug := true } }
  | .config path => { g with config := some path }
  | .version => g
  | .help => g

/-- The choices that options amount to. -/
def ofOptions (options : List GlobalOption) : Globals :=
  options.foldl add ⟨{}, none⟩

end Globals

/-- What an option asks for instead of a command. -/
def GlobalOption.halt? : GlobalOption → Option Halt
  | .version => some .version
  | .help => some .help
  | _ => none

/-- Whether a text holds the character that no path may hold. -/
def holdsNul (s : String) : Bool :=
  s.toList.contains '\x00'

/-- The choices for all commands, and the words after them.  The first option that asks for
something else wins over what is wrong with the settings file. -/
def readGlobals (words : List String) : Except Halt (Globals × List String) :=
  match scan globalOptions false words with
  | .error m => .error (.misuse m)
  | .ok (options, rest) =>
    match options.findSome? GlobalOption.halt? with
    | some halt => .error halt
    | none =>
      let globals := Globals.ofOptions options
      if globals.config.any holdsNul then .error .nulInPath
      else .ok (globals, rest)

/-- The commands by name. -/
def Command.known : List (String × Command) :=
  [("config", .config), ("features", .features), ("render", .render)]

/-- The command line that words make up.  A name that is no command may still be an option
behind two dashes, and is then heard if it asks for something. -/
def Invocation.ofWords (words : List String) : Except Halt Invocation :=
  if words.isEmpty then .error (.misuse .noWords)
  else match readGlobals words with
    | .error halt => .error halt
    | .ok (_, []) => .error (.misuse .noCommand)
    | .ok (globals, name :: rest) =>
      match Command.known.lookup name with
      | some command => .ok ⟨globals, command, rest⟩
      | none =>
        match readGlobals (name :: rest) with
        | .error halt => .error halt
        | .ok _ => .error (.misuse (.unknownCommand name))

/-- The options and the other words of a command.  Asking for help wins over all else that
is not wrong with the options themselves. -/
def readCommand {α : Type} (options : Options α) (mixed : Bool) (words : List String) :
    Except Halt (List α × List String) :=
  let withHelp : Options (Option α) :=
    (helpName, .alone none) :: options.map fun
      | (name, .alone given) => (name, .alone (some given))
      | (name, .withValue given) => (name, .withValue (fun value => some (given value)))
  match scan withHelp mixed words with
  | .error m => .error (.misuse m)
  | .ok (given, others) =>
    if given.any Option.isNone then .error .help else .ok (given.filterMap id, others)

/-- The end of a command line that has a word left over. -/
def noMore {α : Type} (result : α) : (others : List String) → Except Halt α
  | [] => .ok result
  | word :: _ => .error (.misuse (.unexpectedWord word))

/-- The options for output as JSON. -/
def jsonOptions : Options Unit :=
  [("--json-output", .alone ()), ("--json", .alone ())]

/-- The tasks that have to do with the settings, by name. -/
def settingsTasks : List (String × (Bool → Task)) :=
  [("show", .showSettings), ("check", .checkSettings)]

/-- The task that has to do with the settings and that words ask for. -/
def readSettingsTask (words : List String) : Except Halt Task :=
  if words.isEmpty then .error (.misuse .noWords)
  else match readCommand ([] : Options Unit) false words with
    | .error halt => .error halt
    | .ok (_, []) => .error (.misuse .noCommand)
    | .ok (_, name :: rest) =>
      match settingsTasks.lookup name with
      | some task =>
        match readCommand jsonOptions true rest with
        | .error halt => .error halt
        | .ok (given, others) => noMore (task (!given.isEmpty)) others
      | none =>
        match readCommand ([] : Options Unit) false (name :: rest) with
        | .error halt => .error halt
        | .ok _ => .error (.misuse (.unknownCommand name))

/-- An option of the rendering of a template. -/
inductive RenderOption where
  /-- A property as a pair in one word. -/
  | property (pair : String)
  /-- Insert values as they are. -/
  | raw
  /-- Do not check the result. -/
  | unchecked
deriving DecidableEq, Repr

/-- The pair that an option gives. -/
def RenderOption.pair? : RenderOption → Option String
  | .property pair => some pair
  | _ => none

/-- The options of the rendering of a template. -/
def renderOptions : Options RenderOption :=
  [("--property", .withValue .property), ("-p", .withValue .property), ("--raw", .alone .raw),
    ("--no-validate", .alone .unchecked)]

/-- The options and the other words of a rendering. -/
def readRendering (words : List String) : Except Halt (List RenderOption × List String) :=
  readCommand renderOptions true words

/-- The path of a template, which has to be a file. -/
def templatePath (disk : Disk) (word : String) : Except Halt Path :=
  let path := Path.ofText word
  if holdsNul word then .error .nulInPath
  else match disk.stat path with
    | .ok (.file _) =>
      if Path.endsAsFolder word then .error (.misuse (.templateNotFile word)) else .ok path
    | _ => .error (.misuse (.templateNotFile word))

/-- The rendering that options and other words ask for. -/
def Rendering.ofWords (disk : Disk) (given : List RenderOption) :
    (others : List String) → Except Halt Rendering
  | [] => .error (.misuse .noTemplate)
  | word :: others =>
    (templatePath disk word).bind fun path =>
      noMore ⟨path, given.filterMap RenderOption.pair?, given.contains .raw,
        given.contains .unchecked⟩ others

/-- The task that words for a command ask for. -/
def readTask (disk : Disk) : Command → (words : List String) → Except Halt Task
  | .config, words => readSettingsTask words
  | .features, words =>
    match readCommand ([] : Options Unit) true words with
    | .error halt => .error halt
    | .ok (_, others) => noMore .listFeatures others
  | .render, words =>
    match readRendering words with
    | .error halt => .error halt
    | .ok (given, others) => (Rendering.ofWords disk given others).map .render

/-- The parser of the program. -/
def Parser.words : Parser Halt where
  invocation := Invocation.ofWords
  task := readTask

end Rollout.Cli
