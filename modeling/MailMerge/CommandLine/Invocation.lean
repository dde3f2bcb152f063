import MailMerge.CommandLine.Arguments

/-!
# Invocations

What a command line asks for. The settings file is the one named behind the command, or before it,
or by the environment, or else the usual one.
-/

namespace MailMerge.CommandLine

structure GenerateOptions where
  template : String
  values : Option Path
  assignments : List String
  interactive : Bool
  toPdf : Bool
  output : Option Path
  deriving DecidableEq, Repr

structure BatchOptions where
  template : String
  data : Path
  output : Option Path
  deriving DecidableEq, Repr

inductive Task where
  | init
  | extract (file : Path) (asJson : Bool)
  | generate (options : GenerateOptions)
  | batch (options : BatchOptions)
  | check
  deriving DecidableEq, Repr

structure Invocation where
  settingsFile : Path
  task : Task
  deriving DecidableEq, Repr

/-- What a command line comes to. -/
inductive Reading where
  | run (invocation : Invocation)
  | version (text : String)
  | usage
  deriving DecidableEq, Repr

namespace Invocation

def usualSettingsFile : String := "docfill.config.json"

def programName : String := "docfill"

def programVersion : String := "0.1.0"

/-- The options that all commands have. -/
def commonSwitches : List Switch :=
  [⟨"config", none, .path⟩, ⟨"verbose", some 'v', .counted⟩, ⟨"version", some 'V', .version⟩]

def commandNames : List String :=
  ["init", "extract", "generate", "batch", "check"]

def rootShape : Shape :=
  ⟨commonSwitches, 0, commandNames⟩

def commandShape (command : String) : Shape :=
  let template : Switch := ⟨"template", some 't', .text⟩
  let output : Switch := ⟨"output", some 'o', .path⟩
  match command with
  | "extract" => ⟨⟨"json", none, .once⟩ :: commonSwitches, 1, []⟩
  | "generate" =>
    ⟨template :: ⟨"values", none, .path⟩ :: ⟨"set", none, .texts⟩ ::
      ⟨"interactive", some 'i', .once⟩ :: ⟨"no-convert", none, .once⟩ :: output ::
      commonSwitches, 0, []⟩
  | "batch" => ⟨template :: ⟨"data", some 'd', .path⟩ :: output :: commonSwitches, 0, []⟩
  | _ => ⟨commonSwitches, 0, []⟩

/-- The task of a command, unless something that it needs is left out. -/
def task? (command : String) (found : Found) : Option Task :=
  let output := (found.value? "output").map Path.mk
  match command with
  | "init" => some .init
  | "extract" => found.operands.head?.map fun file => .extract ⟨file⟩ (found.has "json")
  | "generate" =>
    (found.value? "template").map fun template =>
      .generate ⟨template, (found.value? "values").map Path.mk, found.values "set",
        found.has "interactive", !found.has "no-convert", output⟩
  | "batch" => do
    let template ← found.value? "template"
    let data ← found.value? "data"
    return .batch ⟨template, ⟨data⟩, output⟩
  | "check" => some .check
  | _ => none

/-- The settings file that is named before or behind the command or by the environment. -/
def settingsFile? (environment before behind : Option String) : Option Path :=
  if environment = some "" && (before.isNone || behind.isNone) then none
  else some ⟨(behind <|> before <|> environment).getD usualSettingsFile⟩

def versionText (command : Option String) : String :=
  match command with
  | some command => programName ++ "-" ++ command ++ " " ++ programVersion
  | none => programName ++ " " ++ programVersion

/-- What a refused command line comes to. -/
def refused (command : Option String) : Refusal → Reading
  | .usage => .usage
  | .version => .version (versionText command)

/-- Reads a command line; `environment` is the settings file that the environment names. -/
def read (environment : Option String) (arguments : List String) : Reading :=
  match rootShape.read Found.empty arguments with
  | .error refusal => refused none refusal
  | .ok (_, none) => .usage
  | .ok (before, some (command, rest)) =>
    match (commandShape command).read Found.empty rest with
    | .error refusal => refused (some command) refusal
    | .ok (found, _) =>
      let file := settingsFile? environment (before.value? "config") (found.value? "config")
      match file, task? command found with
      | some file, some task => .run ⟨file, task⟩
      | _, _ => .usage

end Invocation

end MailMerge.CommandLine
