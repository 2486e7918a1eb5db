import SeriesRender.Configuration.Load
import SeriesRender.Configuration.Show
import SeriesRender.Configuration.Validate

/-!
# The command line

Both programs take the same options and commands, but only the querier can be bound to another
address. `Invocation.read` reads the arguments, one after the other, up to the first one that
settles what is to be done; `Invocation.run` carries a command out, given the text of the file with
the settings and the environment.
-/

namespace SeriesRender

/-- The two programs. -/
inductive Program
  | querier
  | reader
  deriving DecidableEq, Repr

/-- The name a program is called by. -/
def Program.name : Program → String
  | querier => "graphite-querier"
  | reader => "graphite-reader"

/-- The commands that both of them have. -/
inductive Command
  | start
  | showSettings (asJson : Bool)
  | validate
  | version
  deriving DecidableEq, Repr

/-- What a program is asked to do. -/
structure Invocation where
  /-- The file with the settings. -/
  file : Option String
  /-- The address to listen on, in place of the one in the settings. -/
  bind : Option String
  verbose : Bool
  quiet : Bool
  command : Command
  deriving DecidableEq, Repr

/-- Why arguments do not make an invocation : a question about the program, or a mistake. -/
inductive Aside
  | version
  | help
  | mistake
  deriving DecidableEq, Repr

/-! ## Reading arguments -/

/-- An argument by its form. -/
inductive Argument
  /-- Two dashes. -/
  | separator
  /-- Two dashes and a name, and what follows an equals sign. -/
  | long (name : List Char) (value : Option (List Char))
  /-- A dash and letters. -/
  | short (letters : List Char)
  | word

/-- The form of an argument. A dash by itself is a word. -/
def Argument.of (arg : String) : Argument :=
  match arg.toList with
  | ['-', '-'] => separator
  | '-' :: '-' :: cs =>
    match cs.dropWhile (· ≠ '=') with
    | [] => long cs none
    | _ :: value => long (cs.takeWhile (· ≠ '=')) (some value)
  | '-' :: c :: cs => short (c :: cs)
  | _ => word

/-- Switch something on that is still off. -/
def switchOn (isOn : Bool) : Except Aside Bool :=
  if isOn then .error .mistake else .ok true

/-- Give a value that has not been given. -/
def giveOnce (current : Option String) (value : String) : Except Aside (Option String) :=
  match current with
  | some _ => .error .mistake
  | none => .ok (some value)

/-- The arguments of a command. After two dashes there may be no more. -/
def readCommandArguments (command : Command) : List String → Except Aside Command
  | [] => .ok command
  | arg :: args =>
    match Argument.of arg with
    | .separator => if args.isEmpty then .ok command else .error .mistake
    | .long name none =>
      if name = "help".toList then .error .help
      else if name = "json".toList ∧ command = .showSettings false then
        readCommandArguments (.showSettings true) args
      else .error .mistake
    | .short ('h' :: _) => .error .help
    | _ => .error .mistake

/-- The command with a name. -/
def Command.ofName? (name : String) : Option Command :=
  match name with
  | "start" => some start
  | "config" => some (showSettings false)
  | "validate" => some validate
  | "version" => some version
  | _ => none

/-- The command at the first argument that is no option, and its own arguments. -/
def readCommand (name : String) (args : List String) : Except Aside Command :=
  match Command.ofName? name with
  | some command => readCommandArguments command args
  | none =>
    if name = "help" ∧ args.all fun arg => (Command.ofName? arg).isSome ∨ arg = "help" then
      .error .help
    else .error .mistake

namespace Invocation

/-- What is done without any arguments. -/
def plain : Invocation := ⟨none, none, false, false, .start⟩

/-- Options of one letter. -/
def readShort (i : Invocation) : List Char → Except Aside Invocation
  | [] => .ok i
  | 'v' :: cs => do readShort { i with verbose := (← switchOn i.verbose) } cs
  | 'q' :: cs => do readShort { i with quiet := (← switchOn i.quiet) } cs
  | 'h' :: _ => .error .help
  | 'V' :: _ => .error .version
  | _ :: _ => .error .mistake

/-- Options without a value. -/
def readFlag (i : Invocation) (name : List Char) : Except Aside Invocation :=
  if name = "verbose".toList then do return { i with verbose := (← switchOn i.verbose) }
  else if name = "quiet".toList then do return { i with quiet := (← switchOn i.quiet) }
  else if name = "help".toList then .error .help
  else if name = "version".toList then .error .version
  else .error .mistake

/-- Whether a program has an option with a value of this name. -/
def takesValue (program : Program) (name : List Char) : Bool :=
  name = "config".toList || (program = .querier && name = "bind".toList)

/-- Options with a value. The name of a file is not empty. -/
def readOption (i : Invocation) (name : List Char) (value : String) :
    Except Aside Invocation :=
  if name = "config".toList then do
    if value.isEmpty then throw .mistake
    return { i with file := (← giveOnce i.file value) }
  else do return { i with bind := (← giveOnce i.bind value) }

/-- The invocation that arguments make, continuing another one. -/
def readFrom (program : Program) (i : Invocation) : List String → Except Aside Invocation
  | [] => .ok i
  | arg :: args =>
    match Argument.of arg with
    | .separator => if args.isEmpty then .ok i else .error .mistake
    | .short letters => do readFrom program (← i.readShort letters) args
    | .word => do return { i with command := (← readCommand arg args) }
    | .long name (some value) =>
      if takesValue program name then do
        readFrom program (← i.readOption name (String.ofList value)) args
      else .error .mistake
    | .long name none =>
      if takesValue program name then
        match args with
        | [] => .error .mistake
        | value :: args =>
          match Argument.of value with
          | .word => do readFrom program (← i.readOption name value) args
          | _ => .error .mistake
      else do readFrom program (← i.readFlag name) args

/-- The invocation that the arguments of a program make. -/
def read (program : Program) (args : List String) : Except Aside Invocation :=
  readFrom program plain args

/-- The name of the file with the settings. -/
def settingsFile (i : Invocation) : String :=
  i.file.getD "graphite-reader.toml"

end Invocation

/-! ## Carrying a command out -/

/-- How a program ends, or that it is to serve requests. -/
inductive Ending
  | done (output : String)
  | failed (message : String)
  | misused
  | serve (settings : Settings)

/-- What the command for the version says. -/
def versionReport : String :=
  "common 0.1.0 (1.85.0)"

/-- What is printed about the options when help is asked for. -/
def usage (program : Program) : String :=
  "Usage: " ++ program.name ++ " [OPTIONS] [COMMAND]\n"

/-- Lines, each of them ended. -/
def unlines (lines : List String) : String :=
  String.join (lines.map (· ++ "\n"))

/-- What a mistake or a question about a program leads to. -/
def Aside.ending (program : Program) : Aside → Ending
  | .version => .done (program.name ++ " 0.1.0\n")
  | .help => .done (usage program)
  | .mistake => .misused

/-- Carry out a command with settings. -/
def Command.run (settings : Settings) : Command → Ending
  | .showSettings true => .done (unlines [String.ofList settings.json.pretty])
  | .showSettings false => .done (unlines settings.lines)
  | .version => .done (unlines [versionReport])
  | .validate =>
    match settings.validate with
    | .ok () => .done ""
    | .error fault => .failed fault.message
  | .start =>
    match settings.validate with
    | .ok () => .serve settings
    | .error fault => .failed fault.message

/-- Carry out an invocation. -/
def Invocation.run (i : Invocation) (file : Option String)
    (environment : List (String × String)) : Ending :=
  match Settings.load file environment with
  | .error _ => .failed "Failed to load configuration"
  | .ok settings =>
    let address := i.bind.getD settings.render.bindAddress
    i.command.run { settings with render := { settings.render with bindAddress := address } }

end SeriesRender
