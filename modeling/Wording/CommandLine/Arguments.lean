import Wording.CommandLine.Options
import Wording.CommandLine.Word

/-!
# Reading a command line

The words are read from left to right.  An option that takes a value waits for it: the next plain
word is its value.  What has been read is *settled*, that is checked and kept, only when the next
option or operand that is known turns up, or at the end.  So a word that is no option at all is
refused before a fault in what stands just before it, and a known option after it.

A word that begins with a dash is never the value of a waiting option; a value of that look has
to be attached (`--exclude=-x`).  After a separator all words are operands.
-/

namespace Wording

/-- One thing that a command line asks for. -/
inductive Setting where
  | verbose
  | root (path : String)
  | rules (path : String)
  | suffix (text : String)
  | exclude (pattern : String)
  | format (value : ReportFormat)
  | plain
  | failOnFindings
  | output (path : String)
  | force
deriving DecidableEq

namespace Setting

/-- A path, which is not empty, as a setting. -/
def ofPath? (setting : String → Setting) (text : String) : Option Setting :=
  if text.isEmpty then none else some (setting text)

/-- The word for a form of the report, as a setting. -/
def ofFormat? (text : String) : Option Setting :=
  (ReportFormat.words.lookup text).map format

end Setting

/-- What an option does. -/
inductive OptionUse where
  | help
  | version
  /-- It takes no value. -/
  | flag (setting : Setting)
  /-- It takes a value, which may be refused. -/
  | value (read : String → Option Setting)

/-- An option (or an operand) of a command. -/
structure OptionSpec where
  /-- The name of its long form.  An operand has none, and this is what it is called. -/
  name : String
  /-- The letter of its short form. -/
  letter : Option Char := none
  /-- It may be given again and again. -/
  repeatable : Bool := false
  use : OptionUse

/-- The option is given by itself. -/
def OptionSpec.isFlag (spec : OptionSpec) : Bool :=
  match spec.use with
  | .value _ => false
  | _ => true

/-! ## Options and commands -/

/-- The options that stand before and after the name of a command. -/
def commonOptions : List OptionSpec :=
  [{ name := "verbose", letter := some 'v', use := .flag .verbose },
   { name := "help", letter := some 'h', use := .help }]

/-- The options before the name of a command. -/
def topOptions : List OptionSpec :=
  commonOptions ++ [{ name := "version", letter := some 'V', use := .version }]

/-- The options of a scan. -/
def scanOptions : List OptionSpec :=
  commonOptions ++
    [{ name := "rules", letter := some 'r', use := .value (Setting.ofPath? .rules) },
     { name := "ext", letter := some 'e', repeatable := true, use := .value (some <| .suffix ·) },
     { name := "exclude", letter := some 'x', repeatable := true,
       use := .value (some <| .exclude ·) },
     { name := "format", letter := some 'f', use := .value Setting.ofFormat? },
     { name := "no-color", use := .flag .plain },
     { name := "fail-on-findings", use := .flag .failOnFindings }]

/-- The operand of a scan. -/
def scanOperand : OptionSpec :=
  { name := "PATH", use := .value (Setting.ofPath? .root) }

/-- The options of the making of a rules file. -/
def initOptions : List OptionSpec :=
  commonOptions ++
    [{ name := "output", letter := some 'o', use := .value (Setting.ofPath? .output) },
     { name := "force", use := .flag .force }]

/-- A command before its options are read. -/
inductive CommandName where
  | scan
  | init
deriving DecidableEq

namespace CommandName

/-- The names of the commands. -/
def words : List (String × CommandName) :=
  [("scan", .scan), ("check", .scan), ("init", .init)]

/-- The command with this name. -/
def ofText? (text : String) : Option CommandName :=
  words.lookup text

/-- The options of the command. -/
def options : CommandName → List OptionSpec
  | .scan => scanOptions
  | .init => initOptions

/-- The operand of the command. -/
def operand? : CommandName → Option OptionSpec
  | .scan => some scanOperand
  | .init => none

end CommandName

/-- The word that asks for help on commands. -/
def helpWord : String := "help"

/-! ## Reading options -/

/-- What has been read so far of a row of options. -/
structure Reading where
  /-- What is settled, each setting with the name of its option, in order. -/
  settled : List (String × Setting) := []
  /-- The option or operand that has been read last, with its value if that is there already. -/
  open? : Option (OptionSpec × Option String) := none

namespace Reading

/-- The option waits for its value. -/
def isWaiting (r : Reading) : Bool :=
  match r.open? with
  | some (_, none) => true
  | _ => false

/-- Keeps a setting of the option. -/
def keep (r : Reading) (spec : OptionSpec) (setting : Setting) : Reading :=
  { r with settled := r.settled ++ [(spec.name, setting)] }

/-- The option has been settled before. -/
def has (r : Reading) (spec : OptionSpec) : Bool :=
  r.settled.any (·.1 = spec.name)

/-- Checks an option with its value and keeps its setting. -/
def take (r : Reading) (spec : OptionSpec) (value : Option String) : Except Usage Reading :=
  match spec.use with
  | .help => .error .help
  | .version => .error .version
  | .flag setting =>
    if r.has spec && !spec.repeatable then .error .repeatedArgument else .ok (r.keep spec setting)
  | .value read =>
    match value with
    | none => .error .invalidValue
    | some text =>
      if r.has spec && !spec.repeatable then .error .repeatedArgument
      else
        match read text with
        | none => .error .invalidValue
        | some setting => .ok (r.keep spec setting)

/-- Settles what has been read last. -/
def settle (r : Reading) : Except Usage Reading :=
  match r.open? with
  | none => .ok r
  | some (spec, value) => take { r with open? := none } spec value

/-- Reads an option that is complete: a flag, or one with an attached value. -/
def complete (r : Reading) (spec : OptionSpec) (value : Option String) : Except Usage Reading := do
  (← r.settle).take spec value

/-- Reads an option or operand whose value is there, or is still to come. -/
def begin (r : Reading) (spec : OptionSpec) (value : Option String) : Except Usage Reading := do
  return { ← r.settle with open? := some (spec, value) }

/-- Reads the long form of an option. -/
def long (specs : List OptionSpec) (r : Reading) (name : String) (value : Option String) :
    Except Usage Reading :=
  match specs.find? (·.name = name) with
  | none => .error .unknownArgument
  | some spec =>
    match spec.isFlag, value with
    | true, none => r.complete spec none
    | true, some _ => .error .unexpectedValue
    | false, some value => r.complete spec (some value)
    | false, none => r.begin spec none

/-- Reads the letters of short forms.  What follows the letter of an option that takes a value is
the value, less an equals sign. -/
def short (specs : List OptionSpec) (r : Reading) : List Char → Except Usage Reading
  | [] => .ok r
  | letter :: rest =>
    match specs.find? (·.letter = some letter) with
    | none => .error .unknownArgument
    | some spec =>
      if spec.isFlag then
        match r.complete spec none with
        | .error usage => .error usage
        | .ok r => r.short specs rest
      else
        match rest with
        | [] => r.begin spec none
        | '=' :: value => r.complete spec (some (String.ofList value))
        | value => r.complete spec (some (String.ofList value))

/-- Reads an operand, of which a command takes one at most. -/
def operand (operand? : Option OptionSpec) (r : Reading) (text : String) : Except Usage Reading :=
  match operand? with
  | none => .error .unknownArgument
  | some spec =>
    if r.has spec || r.open?.any (·.1.name = spec.name) then .error .unknownArgument
    else r.begin spec (some text)

/-- Reads a plain word: the value of a waiting option, or an operand. -/
def plain (operand? : Option OptionSpec) (r : Reading) (text : String) : Except Usage Reading :=
  match r.open? with
  | some (spec, none) => .ok { r with open? := some (spec, some text) }
  | _ => r.operand operand? text

/-- Reads the operands after a separator. -/
def operands (operand? : Option OptionSpec) (r : Reading) : List String → Except Usage Reading
  | [] => r.settle
  | text :: rest =>
    match r.operand operand? text with
    | .error usage => .error usage
    | .ok r => r.operands operand? rest

/-- Reads the options and the operand of a command. -/
def words (specs : List OptionSpec) (operand? : Option OptionSpec) (r : Reading) :
    List String → Except Usage Reading
  | [] => r.settle
  | text :: rest =>
    let next := match Word.ofText text with
      | .separator => none
      | .long name value => some (r.long specs name value)
      | .short letter more => some (r.short specs (letter :: more))
      | .plain text => some (r.plain operand? text)
    match next with
    | none => r.operands operand? rest
    | some (.error usage) => .error usage
    | some (.ok r) => r.words specs operand? rest

end Reading

/-! ## From settings to a command -/

/-- The options of a scan with one more setting. -/
def ScanOptions.set (o : ScanOptions) : Setting → ScanOptions
  | .root path => { o with root := path }
  | .rules path => { o with rules := some path }
  | .suffix text => { o with suffixes := o.suffixes ++ [text] }
  | .exclude pattern => { o with exclude := o.exclude ++ [pattern] }
  | .format value => { o with format := value }
  | .plain => { o with plain := true }
  | .failOnFindings => { o with failOnFindings := true }
  | _ => o

/-- The options of the making of a rules file with one more setting. -/
def InitOptions.set (o : InitOptions) : Setting → InitOptions
  | .output path => { o with output := path }
  | .force => { o with force := true }
  | _ => o

/-- The command with the settings. -/
def CommandName.withSettings (settings : List Setting) : CommandName → Command
  | .scan => .scan (settings.foldl ScanOptions.set {})
  | .init => .init (settings.foldl InitOptions.set {})

/-- Reads what follows the name of a command. -/
def CommandName.read (name : CommandName) (verbose : Bool) (words : List String) :
    Except Usage Invocation := do
  let r ← Reading.words name.options name.operand? {} words
  let settings := r.settled.map (·.2)
  return ⟨verbose || settings.contains .verbose, name.withSettings settings⟩

/-- What a request for help comes to: no word may follow, or the name of one command. -/
def helpOn : List String → Usage
  | [] => .help
  | [word] =>
    if word = helpWord || (CommandName.ofText? word).isSome then .help else .unknownCommand
  | _ => .unknownCommand

/-- What the operands that stand in place of a command come to. -/
def withoutCommand (r : Reading) : List String → Usage
  | [] => if r.settled.isEmpty then .nothing else .missingCommand
  | word :: _ =>
    if word = helpWord || (CommandName.ofText? word).isSome then .unknownArgument
    else .unknownCommand

/-- Reads the words up to the name of a command, and then the command. -/
def Reading.top (r : Reading) : List String → Except Usage Invocation
  | [] => .error (withoutCommand r [])
  | word :: rest =>
    if word = helpWord then .error (helpOn rest)
    else
      match CommandName.ofText? word with
      | some name => name.read (r.settled.any (·.2 = .verbose)) rest
      | none =>
        let next : Except Usage Reading := match Word.ofText word with
          | .separator => .error (withoutCommand r rest)
          | .long name value => r.long topOptions name value
          | .short letter more => r.short topOptions (letter :: more)
          | .plain _ => .error .unknownCommand
        match next with
        | .error usage => .error usage
        | .ok r => r.top rest

/-- What a command line asks for. -/
def Invocation.ofWords (words : List String) : Except Usage Invocation :=
  Reading.top {} words

end Wording
