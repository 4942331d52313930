import QueryPack.CommandLine
import QueryPack.Configuration.Store
import QueryPack.Console
import QueryPack.Coverage
import QueryPack.Json.Reply
import QueryPack.Job
import QueryPack.SourceTable

namespace QueryPack

/-!
# The program

A run of the program is a function of its command line and the file system it
starts from. It gives the file system it leaves behind, what it prints, what it
logs, and its exit code. The time a run took is only printed; it is handed in
as text. So are the words of the libraries that read TOML and command lines.
-/

/-- What the libraries that read texts say of those they do not accept. -/
structure Wording where
  /-- What is wrong with the text of a configuration file that gives no configuration. -/
  diagnose : String → String
  /-- The help on a command line, if it asks for help, or else what is wrong with it. -/
  advise : List String → String

/--
A stand-in where the words of the libraries are not at hand: the kind of error,
and how a command line looks. The libraries themselves say more.
-/
def Wording.brief : Wording where
  diagnose _ := "TOML parse error"
  advise _ := "Usage: querygen [OPTIONS] [COMMAND]\n"

/-- Why a command fails. -/
inductive CommandError where
  | config (error : ConfigurationError)
  | run (error : RunError)
  | store (error : StoreError)
  deriving Repr, DecidableEq

namespace CommandError

/-- The wording of a failure, followed by the reason beneath it, if there is one. -/
def message : CommandError → String
  | config error => error.message
  | run error => error.message ++ ": " ++ error.reason.message
  | store error => error.message

end CommandError

/-- What a command has done: its output and its notices up to the end or a failure. -/
structure CommandOutcome where
  failure? : Option CommandError
  output : String
  notices : List Notice
  fileSystem : FileSystem

/-- What a run of the program leaves behind. -/
structure ProgramOutcome where
  exitCode : Nat
  output : String
  notices : List Notice
  errorOutput : String
  fileSystem : FileSystem

/-- How a command prints. -/
structure Presentation where
  format : Format
  quiet : Bool
  palette : Palette
  elapsed : String

namespace Presentation

/-- The presentation that an invocation asks for. -/
def ofInvocation (palette : Palette) (elapsed : String) (invocation : Invocation) :
    Presentation where
  format := invocation.format
  quiet := invocation.quiet
  palette := palette
  elapsed := elapsed

/-- The output of a success: text for people, or a reply for programs. -/
def success (presentation : Presentation) (command : Command) (text : String)
    (data : Json) : String :=
  match presentation.format with
  | .human => text
  | .json => Console.line (Reply.success command.name data).document.pretty

end Presentation

/-- A job, and the notices of bringing it together. -/
structure LoadedJob where
  job : Job
  notices : List Notice

/-- The job that options ask for; a missing configuration is only worth a notice. -/
def Job.load (diagnose : String → String) (fileSystem : FileSystem)
    (config? out? : Option Path) : Except ConfigurationError LoadedJob :=
  match config? with
  | none => .ok ⟨.ofConfiguration none out?, []⟩
  | some path =>
      match Configuration.load diagnose fileSystem path with
      | .error error => .error error
      | .ok none => .ok ⟨.ofConfiguration none out?, [.configMissing path.text]⟩
      | .ok (some config) => .ok ⟨.ofConfiguration (some config) out?, []⟩

/-- What is printed before a run. -/
def generateOpening (palette : Palette) (job : Job) : String :=
  Console.opening palette "Materializing query packs" ++
    Console.remark palette "Output" job.root.text ++
    Console.remark palette "Catalog"
      (toString job.languages.size ++ " languages x " ++
        toString job.categories.size ++ " categories")

/-- What is printed after a run that wrote everything. -/
def generateSummary (presentation : Presentation) (report : RunReport) : String :=
  let palette := presentation.palette
  Console.timing palette presentation.elapsed report.languages report.artifacts.length ++
    Console.title palette "Coverage" ++
    Console.line report.coverage ++
    Console.total palette "Overrides:" (toString (report.count .override)) ++
    Console.total palette "Placeholders:" (toString (report.count .placeholder)) ++
    Console.total palette "Digest:" (palette.paint .dim report.digest) ++
    Console.line "" ++
    Console.done palette
      ("Done generating queries for " ++ toString report.languages ++ " languages.")

/-- Write every artifact of a job. -/
def Job.generate (presentation : Presentation) (job : Job)
    (fileSystem : FileSystem) : CommandOutcome :=
  let forPeople := presentation.format = .human ∧ presentation.quiet = false
  let opening := if forPeople then generateOpening presentation.palette job else ""
  let outcome := job.run fileSystem
  match outcome.result with
  | .error error => ⟨some (.run error), opening, outcome.notices, outcome.fileSystem⟩
  | .ok report =>
      let summary := if forPeople then generateSummary presentation report else ""
      ⟨none, presentation.success .generate (opening ++ summary) report.document,
        outcome.notices, outcome.fileSystem⟩

/-- The queries of a job, by language and then by category. -/
def Job.queries (job : Job) : List EffectiveQuery :=
  job.languages.list.flatMap job.book.ofLanguage

/-- Show where each query of a job comes from. -/
def Job.list (presentation : Presentation) (job : Job)
    (fileSystem : FileSystem) : CommandOutcome :=
  let palette := presentation.palette
  let text :=
    Console.title palette "📊 Resolution" ++
      Console.line (job.book.sourceTable job.languages).render ++
      Console.key palette
  let data := Json.array (job.queries.map EffectiveQuery.sourceDocument)
  ⟨none, presentation.success .list text data, [], fileSystem⟩

/-- Print the query of one pair, which need not be in the pack. -/
def Job.show (presentation : Presentation) (job : Job) (language : Language)
    (category : Category) (fileSystem : FileSystem) : CommandOutcome :=
  let query := job.book.effective language category
  let notices :=
    if job.languages.contains language && job.categories.contains category then
      []
    else
      [Notice.outsidePack language category]
  ⟨none,
    presentation.success (.showQuery language.name category.name)
      (Console.line query.expression) query.document,
    notices, fileSystem⟩

/-- The configuration file that `init` writes unless another one is named. -/
def starterPath : Path :=
  ⟨"querygen.toml"⟩

/-- The configuration to begin with: it asks for the default root. -/
def starterConfiguration : Configuration :=
  { Configuration.empty with output? := some Layout.defaultRoot.text }

/-- Write a configuration file to begin with. -/
def writeStarter (presentation : Presentation) (path : Path) (force : Bool)
    (fileSystem : FileSystem) : CommandOutcome :=
  match Configuration.store fileSystem path starterConfiguration force with
  | .error error => ⟨some (.store error), "", [], fileSystem⟩
  | .ok after =>
      let palette := presentation.palette
      let text :=
        Console.done palette ("Wrote " ++ path.text) ++
          Console.remark palette "Use it with" ("querygen --config " ++ path.text)
      ⟨none, presentation.success (.init force) text (.object [("path", .string path.text)]),
        [], after⟩

/-- Carry out a command that works on a job. -/
def withJob (diagnose : String → String) (invocation : Invocation)
    (fileSystem : FileSystem) (command : Job → FileSystem → CommandOutcome) :
    CommandOutcome :=
  match Job.load diagnose fileSystem invocation.config? invocation.out? with
  | .error error => ⟨some (.config error), "", [], fileSystem⟩
  | .ok loaded =>
      let outcome := command loaded.job fileSystem
      { outcome with notices := loaded.notices ++ outcome.notices }

/-- Carry out the command of an invocation. -/
def Invocation.execute (diagnose : String → String) (invocation : Invocation)
    (presentation : Presentation) (fileSystem : FileSystem) : CommandOutcome :=
  match invocation.command with
  | .generate => withJob diagnose invocation fileSystem (Job.generate presentation)
  | .list => withJob diagnose invocation fileSystem (Job.list presentation)
  | .showQuery language category =>
      withJob diagnose invocation fileSystem fun job =>
        Job.show presentation job ⟨language⟩ ⟨category⟩
  | .init force =>
      writeStarter presentation (invocation.config?.getD starterPath) force fileSystem

/-- Whether a notice is logged. -/
def Notice.isLogged (verbose : Bool) (notice : Notice) : Bool :=
  verbose || notice.level ≠ .debug

/-- Run an accepted command line. -/
def Invocation.run (diagnose : String → String) (palette : Palette) (elapsed : String)
    (invocation : Invocation) (fileSystem : FileSystem) : ProgramOutcome :=
  let outcome :=
    invocation.execute diagnose (.ofInvocation palette elapsed invocation) fileSystem
  let notices := outcome.notices.filter (Notice.isLogged invocation.verbose)
  match outcome.failure? with
  | none => ⟨0, outcome.output, notices, "", outcome.fileSystem⟩
  | some error =>
      match invocation.format with
      | .human =>
          ⟨1, outcome.output, notices, Console.failed palette error.message,
            outcome.fileSystem⟩
      | .json =>
          ⟨1,
            outcome.output ++ Console.line
              (Reply.failure invocation.command.name error.message).document.compact,
            notices, "", outcome.fileSystem⟩

/-- The line that tells the version. -/
def versionLine : String :=
  Console.line "querygen 0.0.1"

/-- Run the program with the arguments of a command line. -/
def runProgram (wording : Wording) (palette : Palette) (elapsed : String)
    (arguments : List String) (fileSystem : FileSystem) : ProgramOutcome :=
  match Invocation.ofArguments arguments with
  | .ok invocation => invocation.run wording.diagnose palette elapsed fileSystem
  | .error .version => ⟨0, versionLine, [], "", fileSystem⟩
  | .error .help => ⟨0, wording.advise arguments, [], "", fileSystem⟩
  | .error (.usage _) => ⟨2, "", [], wording.advise arguments, fileSystem⟩

end QueryPack
