import QueryPack.Path

namespace QueryPack

/-!
# The command line

A command line names at most one command. Options that concern every command
may stand before it or after it; what stands after it wins. Arguments are read
from left to right, and the first thing that is wrong, or that asks for the
version or for help, decides.
-/

/-- How results are printed. -/
inductive Format where
  | human
  | json
  deriving Repr, DecidableEq

namespace Format

def ofName? (name : String) : Option Format :=
  if name = "human" then
    some human
  else if name = "json" then
    some json
  else
    none

end Format

/-- What the program is told to do. -/
inductive Command where
  | generate
  | list
  | showQuery (language category : String)
  | init (force : Bool)
  deriving Repr, DecidableEq

namespace Command

def name : Command → String
  | generate => "generate"
  | list => "list"
  | showQuery _ _ => "show"
  | init _ => "init"

end Command

/-- A complete and accepted command line. -/
structure Invocation where
  command : Command
  verbose : Bool
  quiet : Bool
  format : Format
  config? : Option Path
  out? : Option Path
  deriving Repr, DecidableEq

/-- What is wrong with a command line. -/
inductive UsageError where
  | unknownOption (option : String)
  | repeatedOption (option : String)
  | missingValue (option : String)
  | emptyValue (option : String)
  | unknownFormat (value : String)
  | needlessValue (option : String)
  | unknownCommand (word : String)
  | unexpectedArgument (word : String)
  | missingArgument
  deriving Repr, DecidableEq

/-- Why a command line does not lead to a command. -/
inductive Interruption where
  | usage (error : UsageError)
  | version
  | help
  deriving Repr, DecidableEq

inductive Flag where
  | verbose
  | quiet
  | force
  | version
  | help
  deriving Repr, DecidableEq

inductive Setting where
  | format
  | config
  | out
  deriving Repr, DecidableEq

namespace Setting

def name : Setting → String
  | format => "format"
  | config => "config"
  | out => "out"

end Setting

inductive Switch where
  | flag (flag : Flag)
  | setting (setting : Setting)
  deriving Repr, DecidableEq

/-- The place of an argument, which decides what options it may be. -/
inductive Scope where
  | top
  /-- After the command; only one command takes `force`. -/
  | command (takesForce : Bool)
  deriving Repr, DecidableEq

namespace Switch

def ofLong? (name : String) : Option Switch :=
  match name with
  | "verbose" => some (flag .verbose)
  | "quiet" => some (flag .quiet)
  | "force" => some (flag .force)
  | "version" => some (flag .version)
  | "help" => some (flag .help)
  | "format" => some (setting .format)
  | "config" => some (setting .config)
  | "out" => some (setting .out)
  | _ => none

def ofShort? (letter : Char) : Option Switch :=
  match letter with
  | 'v' => some (flag .verbose)
  | 'q' => some (flag .quiet)
  | 'f' => some (flag .force)
  | 'V' => some (flag .version)
  | 'h' => some (flag .help)
  | 'c' => some (setting .config)
  | 'o' => some (setting .out)
  | _ => none

def isAllowed (scope : Scope) (switch : Switch) : Bool :=
  match switch, scope with
  | flag .force, .command takesForce => takesForce
  | flag .force, .top => false
  | flag .version, .top => true
  | flag .version, .command _ => false
  | _, _ => true

end Switch

/-- The options on one side of the command. -/
structure Options where
  verbose : Bool
  quiet : Bool
  force : Bool
  format? : Option Format
  config? : Option Path
  out? : Option Path
  deriving Repr, DecidableEq

namespace Options

def none : Options where
  verbose := false
  quiet := false
  force := false
  format? := Option.none
  config? := Option.none
  out? := Option.none

def withFlag (options : Options) (flag : Flag) : Except Interruption Options :=
  match flag with
  | .verbose =>
      if options.verbose then
        .error (.usage (.repeatedOption "verbose"))
      else
        .ok { options with verbose := true }
  | .quiet =>
      if options.quiet then
        .error (.usage (.repeatedOption "quiet"))
      else
        .ok { options with quiet := true }
  | .force =>
      if options.force then
        .error (.usage (.repeatedOption "force"))
      else
        .ok { options with force := true }
  | .version => .error .version
  | .help => .error .help

/-- Take note of a value. -/
def withSetting (options : Options) (setting : Setting) (value : String) :
    Except Interruption Options :=
  match setting with
  | .format =>
      if options.format?.isSome then
        .error (.usage (.repeatedOption "format"))
      else
        match Format.ofName? value with
        | some format => .ok { options with format? := some format }
        | Option.none => .error (.usage (.unknownFormat value))
  | .config =>
      if options.config?.isSome then
        .error (.usage (.repeatedOption "config"))
      else if value = "" then
        .error (.usage (.emptyValue "config"))
      else
        .ok { options with config? := some ⟨value⟩ }
  | .out =>
      if options.out?.isSome then
        .error (.usage (.repeatedOption "out"))
      else if value = "" then
        .error (.usage (.emptyValue "out"))
      else
        .ok { options with out? := some ⟨value⟩ }

end Options

/-- What an argument looks like. -/
inductive Argument where
  /-- Two dashes: everything that follows is a word. -/
  | endOfOptions
  | long (name : String) (value? : Option String)
  | short (letters : List Char)
  | word (text : String)
  deriving Repr, DecidableEq

namespace Argument

/-- The look of an argument; a single dash is a word. -/
def ofText (text : String) : Argument :=
  match text.toList with
  | ['-', '-'] => endOfOptions
  | '-' :: '-' :: rest =>
      match rest.dropWhile (· != '=') with
      | [] => long (String.ofList rest) none
      | _ :: value => long (String.ofList (rest.takeWhile (· != '='))) (String.ofList value)
  | '-' :: letter :: letters => short (letter :: letters)
  | _ => word text

end Argument

/-- The options after an argument, and the option that still waits for its value. -/
structure Noted where
  options : Options
  waiting? : Option Setting

def noteLong (scope : Scope) (options : Options) (name : String) (value? : Option String) :
    Except Interruption Noted :=
  match Switch.ofLong? name with
  | none => .error (.usage (.unknownOption name))
  | some switch =>
      if switch.isAllowed scope then
        match switch, value? with
        | .flag flag, none => do
            return ⟨← options.withFlag flag, none⟩
        | .flag _, some _ => .error (.usage (.needlessValue name))
        | .setting setting, some value => do
            return ⟨← options.withSetting setting value, none⟩
        | .setting setting, none => .ok ⟨options, some setting⟩
      else
        .error (.usage (.unknownOption name))

def dropEquals : List Char → List Char
  | '=' :: rest => rest
  | value => value

/--
Take note of a group of letters.

The letters after one that takes a value are its value.
-/
def noteShort (scope : Scope) (options : Options) : List Char → Except Interruption Noted
  | [] => .ok ⟨options, none⟩
  | letter :: rest =>
      match Switch.ofShort? letter with
      | none => .error (.usage (.unknownOption (String.singleton letter)))
      | some switch =>
          if switch.isAllowed scope then
            match switch with
            | .flag flag => do
                noteShort scope (← options.withFlag flag) rest
            | .setting setting =>
                if rest.isEmpty then
                  .ok ⟨options, some setting⟩
                else do
                  let value := String.ofList (dropEquals rest)
                  return ⟨← options.withSetting setting value, none⟩
          else
            .error (.usage (.unknownOption (String.singleton letter)))

/-- The options before the command, and the command's word with what follows it. -/
structure Heading where
  options : Options
  word? : Option String
  rest : List String

/-- Read the options up to the first word. -/
def readHeading (noted : Noted) : List String → Except Interruption Heading
  | [] =>
      match noted.waiting? with
      | none => .ok ⟨noted.options, none, []⟩
      | some setting => .error (.usage (.missingValue setting.name))
  | argument :: rest =>
      match noted.waiting?, Argument.ofText argument with
      | some setting, .word value => do
          readHeading ⟨← noted.options.withSetting setting value, none⟩ rest
      | some setting, _ => .error (.usage (.missingValue setting.name))
      | none, .word word => .ok ⟨noted.options, some word, rest⟩
      | none, .endOfOptions =>
          match rest with
          | [] => .ok ⟨noted.options, none, []⟩
          | word :: _ => .error (.usage (.unexpectedArgument word))
      | none, .long name value? => do
          readHeading (← noteLong .top noted.options name value?) rest
      | none, .short letters => do
          readHeading (← noteShort .top noted.options letters) rest

/-- The options and the words after a command. -/
structure Tail where
  options : Options
  words : List String

def takeWords (options : Options) (room : Nat) (words : List String) :
    List String → Except Interruption Tail
  | [] => .ok ⟨options, words⟩
  | word :: rest =>
      if words.length < room then
        takeWords options room (words ++ [word]) rest
      else
        .error (.usage (.unexpectedArgument word))

/-- Read the options and words after a command with room for a number of words. -/
def readTail (takesForce : Bool) (room : Nat) (noted : Noted) (words : List String) :
    List String → Except Interruption Tail
  | [] =>
      match noted.waiting? with
      | none => .ok ⟨noted.options, words⟩
      | some setting => .error (.usage (.missingValue setting.name))
  | argument :: rest =>
      match noted.waiting?, Argument.ofText argument with
      | some setting, .word value => do
          readTail takesForce room
            ⟨← noted.options.withSetting setting value, none⟩ words rest
      | some setting, _ => .error (.usage (.missingValue setting.name))
      | none, .word word =>
          if words.length < room then
            readTail takesForce room noted (words ++ [word]) rest
          else
            .error (.usage (.unexpectedArgument word))
      | none, .endOfOptions => takeWords noted.options room words rest
      | none, .long name value? => do
          readTail takesForce room
            (← noteLong (.command takesForce) noted.options name value?) words rest
      | none, .short letters => do
          readTail takesForce room
            (← noteShort (.command takesForce) noted.options letters) words rest

/-- The number of words that a command takes, and how it is made from them. -/
structure CommandForm where
  room : Nat
  takesForce : Bool
  build : Bool → List String → Option Command

namespace CommandForm

def simple (command : Command) : CommandForm where
  room := 0
  takesForce := false
  build := fun _ _ => some command

def ofName? (name : String) : Option CommandForm :=
  match name with
  | "generate" => some (simple .generate)
  | "list" => some (simple .list)
  | "show" =>
      some {
        room := 2
        takesForce := false
        build := fun _ words =>
          match words with
          | [language, category] => some (.showQuery language category)
          | _ => none }
  | "init" =>
      some {
        room := 0
        takesForce := true
        build := fun force _ => some (.init force) }
  | _ => none

end CommandForm

/-- A command with the options on both sides of it; those after it win. -/
def Invocation.ofSides (command : Command) (before after : Options) : Invocation where
  command := command
  verbose := before.verbose || after.verbose
  quiet := before.quiet || after.quiet
  format := (after.format?.or before.format?).getD .human
  config? := after.config?.or before.config?
  out? := after.out?.or before.out?

def helpWord : String := "help"

def readHelp : List String → Interruption
  | [] => .help
  | [word] =>
      if (CommandForm.ofName? word).isSome || word = helpWord then
        .help
      else
        .usage (.unknownCommand word)
  | _ :: word :: _ => .usage (.unexpectedArgument word)

/-- The invocation that the arguments of a command line stand for. -/
def Invocation.ofArguments (arguments : List String) : Except Interruption Invocation := do
  let heading ← readHeading ⟨Options.none, none⟩ arguments
  match heading.word? with
  | none => return ofSides .generate heading.options Options.none
  | some word =>
      match CommandForm.ofName? word with
      | none =>
          if word = helpWord then
            throw (readHelp heading.rest)
          else
            throw (.usage (.unknownCommand word))
      | some form => do
          let tail ← readTail form.takesForce form.room ⟨Options.none, none⟩ [] heading.rest
          match form.build tail.options.force tail.words with
          | some command => return ofSides command heading.options tail.options
          | none => throw (.usage .missingArgument)

end QueryPack
