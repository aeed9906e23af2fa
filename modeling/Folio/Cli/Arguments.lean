/-!
# Command lines

A command line is a list of words: options of the tool, the name of a command, and the command's
options and argument. An option has a long name, and may have a short one of one letter. Words are
read one after the other, and the first that is wrong or asks for help decides. Only a value that is
a word of its own is looked at later, with the word after it; the options of a tool are settled when
its command has been read.

* `OptionSpec`, `CommandSpec`, `ToolSpec`: an option, a command and a tool.
* `Words`: the options found, and the argument; `Words.settle` looks at the last value.
* **`readToolWords`**, **`readCommandWords`**: read the words of a tool up to the name of a command,
  and those of a command.
* **`ToolSpec.parse`**: the invocation of a command.
-/

namespace Folio.Cli

/-- An option. -/
structure OptionSpec where
  long : String
  short : Option Char := none
  /-- What the value is called; none if the option takes no value. -/
  valueName : Option String := none
  /-- The value may not be empty. -/
  isPath : Bool := false
  required : Bool := false
  about : String

/-- The argument of a command. -/
structure ArgumentSpec where
  name : String
  /-- The argument may not be empty. -/
  isPath : Bool := false

/-- A command. -/
structure CommandSpec where
  name : String
  about : String
  options : List OptionSpec := []
  argument : Option ArgumentSpec := none

/-- A tool with its commands. -/
structure ToolSpec where
  name : String
  about : String
  options : List OptionSpec := []
  commands : List CommandSpec := []

/-- Why a command line is not carried out. -/
inductive Stop
  | usage
  /-- Help was asked for. -/
  | help
  deriving DecidableEq, Inhabited, Repr

/-- What has been read. -/
structure Words where
  /-- The options found with their values, latest first. -/
  options : List (String × String) := []
  /-- An option whose value has been read but not looked at. -/
  pending : Option (OptionSpec × String) := none
  argument : Option String := none

/-! ## Options -/

namespace Words

/-- The value of an option. -/
def value? (words : Words) (long : String) : Option String :=
  (words.options.find? fun entry => entry.1 = long).map Prod.snd

/-- Set an option; none may be set twice. -/
def set (words : Words) (spec : OptionSpec) (value : String) : Except Stop Words :=
  if (words.value? spec.long).isSome || (spec.isPath && value = "") then .error .usage
  else .ok { words with options := (spec.long, value) :: words.options }

/-- Look at the last value. -/
def settle (words : Words) : Except Stop Words :=
  match words.pending with
  | none => .ok words
  | some (spec, value) => { words with pending := none }.set spec value

/-- The argument; there is at most one. -/
def setArgument (words : Words) (spec : Option ArgumentSpec) (word : String) :
    Except Stop Words :=
  match spec, words.argument with
  | some spec, none =>
    if spec.isPath && word = "" then .error .usage else .ok { words with argument := some word }
  | _, _ => .error .usage

end Words

/-- Does the word look like an option? A single hyphen does not. -/
def isOptionWord (word : String) : Bool :=
  word.length > 1 && word.toList.head? = some '-'

/-- A long option without its hyphens: its name, and the value after an equals sign. -/
def splitLong (cs : List Char) : String × Option String :=
  let name := cs.takeWhile (· != '=')
  (String.ofList name,
    match cs.drop name.length with
    | _ :: value => some (String.ofList value)
    | [] => none)

/-- What is known after one word: all of it, or that the next word is the value of an option. -/
inductive Progress
  | done (words : Words)
  | wantsValue (spec : OptionSpec) (words : Words)

/-- A long option. -/
def readLong (specs : List OptionSpec) (words : Words) (cs : List Char) : Except Stop Progress :=
  let (name, attached) := splitLong cs
  match specs.find? fun spec => spec.long = name with
  | none => .error (if name = "help" && attached.isNone then .help else .usage)
  | some spec =>
    match spec.valueName.isSome, attached with
    | true, none => .ok (.wantsValue spec words)
    | true, some value => (words.set spec value).map .done
    | false, none => (words.set spec "").map .done
    | false, some _ => .error .usage

/-- Short options after one hyphen; what follows one that takes a value is the value. -/
def readShort (specs : List OptionSpec) (words : Words) : List Char → Except Stop Progress
  | [] => .ok (.done words)
  | c :: rest =>
    match specs.find? fun spec => spec.short = some c with
    | none => .error (if c == 'h' then .help else .usage)
    | some spec =>
      if spec.valueName.isSome then
        match rest with
        | [] => .ok (.wantsValue spec words)
        | '=' :: value => (words.set spec (String.ofList value)).map .done
        | value => (words.set spec (String.ofList value)).map .done
      else
        match words.set spec "" with
        | .error e => .error e
        | .ok words => readShort specs words rest

/-- An option as a word. -/
def readOption (specs : List OptionSpec) (words : Words) (word : String) : Except Stop Progress :=
  match word.toList with
  | '-' :: '-' :: cs => readLong specs words cs
  | _ :: cs => readShort specs words cs
  | [] => .error .usage

/-- What follows an option: the words after it and, if it wants one, its value. -/
def readValue (progress : Progress) (rest : List String) : Except Stop (Words × List String) :=
  match progress, rest with
  | .done words, rest => .ok (words, rest)
  | .wantsValue _ _, [] => .error .usage
  | .wantsValue spec words, value :: rest =>
    if isOptionWord value then .error .usage
    else .ok ({ words with pending := some (spec, value) }, rest)

theorem readValue_length {progress : Progress} {rest : List String} {words : Words}
    {left : List String} (h : readValue progress rest = .ok (words, left)) :
    left.length ≤ rest.length := by
  unfold readValue at h
  split at h
  · cases h; exact Nat.le_refl _
  · cases h
  · split at h
    · cases h
    · cases h; simp

/-- **Read the words of a tool**, up to the first that is no option; the words after it are given
back. -/
def readToolWords (specs : List OptionSpec) (words : Words) :
    List String → Except Stop (Words × String × List String)
  | [] => .error .usage
  | word :: rest =>
    if !isOptionWord word then .ok (words, word, rest)
    else
      match words.settle with
      | .error e => .error e
      | .ok words =>
        match readOption specs words word with
        | .error e => .error e
        | .ok progress =>
          match h : readValue progress rest with
          | .error e => .error e
          | .ok (words, left) =>
            have := readValue_length h
            readToolWords specs words left
  termination_by words => words.length
  decreasing_by simp only [List.length_cons]; omega

/-- **Read the words of a command.** Two hyphens make all words after them arguments. -/
def readCommandWords (specs : List OptionSpec) (argument : Option ArgumentSpec) (words : Words) :
    List String → Except Stop Words
  | [] => words.settle
  | word :: rest =>
    match words.settle with
    | .error e => .error e
    | .ok words =>
      if word = "--" then rest.foldlM (fun words word => words.setArgument argument word) words
      else if isOptionWord word then
        match readOption specs words word with
        | .error e => .error e
        | .ok progress =>
          match h : readValue progress rest with
          | .error e => .error e
          | .ok (words, left) =>
            have := readValue_length h
            readCommandWords specs argument words left
      else
        match words.setArgument argument word with
        | .error e => .error e
        | .ok words => readCommandWords specs argument words rest
  termination_by words => words.length
  decreasing_by all_goals simp only [List.length_cons]; omega

/-! ## Commands -/

/-- A command to be carried out. -/
structure Invocation where
  /-- The options of the tool. -/
  global : Words
  command : String
  /-- The options of the command, and its argument. -/
  words : Words

/-- What help is asked for. -/
inductive HelpTopic
  | tool
  | command (name : String)
  /-- The command that gives help. -/
  | help
  deriving DecidableEq, Inhabited, Repr

/-- Why there is no invocation. -/
inductive Refusal
  | usage
  | help (topic : HelpTopic)
  deriving DecidableEq, Inhabited, Repr

/-- The options and the argument of a command. -/
def CommandSpec.parse (command : CommandSpec) (rest : List String) : Except Refusal Words :=
  match readCommandWords command.options command.argument {} rest with
  | .error .usage => .error .usage
  | .error .help => .error (.help (.command command.name))
  | .ok words =>
    if command.options.any fun spec => spec.required && (words.value? spec.long).isNone then
      .error .usage
    else if command.argument.isSome && words.argument.isNone then .error .usage
    else .ok words

namespace ToolSpec

/-- A command by its name. -/
def command? (tool : ToolSpec) (name : String) : Option CommandSpec :=
  tool.commands.find? fun command => command.name = name

/-- What the command `help` asks for. -/
def helpOn (tool : ToolSpec) : List String → Refusal
  | [] => .help .tool
  | [name] =>
    if name = "help" then .help .help
    else if (tool.command? name).isSome then .help (.command name)
    else .usage
  | _ => .usage

/-- **The invocation of a command.** -/
def parse (tool : ToolSpec) (words : List String) : Except Refusal Invocation :=
  match readToolWords tool.options {} words with
  | .error .usage => .error .usage
  | .error .help => .error (.help .tool)
  | .ok (global, name, rest) =>
    match tool.command? name with
    | none => .error (if name = "help" then tool.helpOn rest else .usage)
    | some command =>
      match command.parse rest with
      | .error e => .error e
      | .ok words =>
        match global.settle with
        | .error _ => .error .usage
        | .ok global => .ok ⟨global, command.name, words⟩

end ToolSpec

end Folio.Cli
