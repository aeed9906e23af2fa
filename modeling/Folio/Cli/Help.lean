import Folio.Cli.Arguments

/-!
# Help texts

* `helpTable`: names and their descriptions in two columns.
* **`ToolSpec.help`**, `CommandSpec.help`, `ToolSpec.helpOnHelp`: the help on a tool, on one of its
  commands, and on the command that gives help.
-/

namespace Folio.Cli

/-- A text with blanks after it, up to a width. -/
def padRight (width : Nat) (text : String) : String :=
  text ++ String.ofList (List.replicate (width - text.length) ' ')

/-- Names and their descriptions in two columns. -/
def helpTable (rows : List (String × String)) : String :=
  let width := (rows.map fun row => row.1.length).foldl max 0
  String.join (rows.map fun row => "  " ++ padRight (width + 2) row.1 ++ row.2 ++ "\n")

/-- The option that every tool and every command has. -/
def helpOption : OptionSpec :=
  { long := "help", short := some 'h', about := "Print help" }

namespace OptionSpec

/-- An option with its long name, as in a usage line. -/
def longForm (spec : OptionSpec) : String :=
  "--" ++ spec.long ++ (spec.valueName.elim "" fun name => " <" ++ name ++ ">")

/-- An option with both its names. -/
def bothForms (spec : OptionSpec) : String :=
  (spec.short.elim "    " fun c => "-" ++ String.singleton c ++ ", ") ++ spec.longForm

end OptionSpec

/-- The table of options. -/
def optionTable (specs : List OptionSpec) : String :=
  "Options:\n" ++
    helpTable ((specs ++ [helpOption]).map fun spec => (spec.bothForms, spec.about))

/-- The help on a command of the tool of this name. -/
def CommandSpec.help (command : CommandSpec) (tool : String) : String :=
  let optional := command.options.filter fun spec => !spec.required
  let required := command.options.filter OptionSpec.required
  let words := [tool, command.name] ++ (if optional.isEmpty then [] else ["[OPTIONS]"]) ++
    required.map OptionSpec.longForm ++ (command.argument.map fun spec =>
      "<" ++ spec.name ++ ">").toList
  let arguments := command.argument.elim "" fun spec =>
    "Arguments:\n" ++ helpTable [("<" ++ spec.name ++ ">", "")] ++ "\n"
  command.about ++ "\n\nUsage: " ++ " ".intercalate words ++ "\n\n" ++ arguments ++
    optionTable command.options

/-- What the command `help` does. -/
def helpAbout : String :=
  "Print this message or the help of the given subcommand(s)"

/-- The help on a tool. -/
def ToolSpec.help (tool : ToolSpec) : String :=
  let commands := tool.commands.map fun command => (command.name, command.about)
  tool.about ++ "\n\nUsage: " ++ tool.name ++ " [OPTIONS] <COMMAND>\n\nCommands:\n" ++
    helpTable (commands ++ [("help", helpAbout)]) ++ "\n" ++ optionTable tool.options

/-- The help on the command `help`. -/
def ToolSpec.helpOnHelp (tool : ToolSpec) : String :=
  helpAbout ++ "\n\nUsage: " ++ tool.name ++ " help [COMMAND]...\n\nArguments:\n" ++
    helpTable [("[COMMAND]...", "Print help for the subcommand(s)")]

/-- The help that was asked for. -/
def ToolSpec.helpText (tool : ToolSpec) : HelpTopic → String
  | .tool => tool.help
  | .command name =>
    match tool.command? name with
    | some command => command.help tool.name
    | none => tool.help
  | .help => tool.helpOnHelp

end Folio.Cli
