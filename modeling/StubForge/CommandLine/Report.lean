import StubForge.CommandLine.Arguments
import StubForge.Generation.Run

/-! What the command line says. -/
namespace StubForge.CommandLine

def programName : String := "idlgen"

def version : String := "0.1.0"

namespace Report

def versionLine : String := programName ++ " " ++ version ++ "\n"

/-- The line above every run. -/
def header : String := "  ◆ " ++ versionLine ++ "\n"

def info (text : String) : String := "  ◇ " ++ text ++ "\n"

def success (document : Path) (o : Outcome) : String :=
  "  ◉ " ++ document.text ++ " ▸ " ++ o.package.fullName ++ "\n"

def listed : List Path → String
  | [] => ""
  | p :: r =>
    "    " ++ (if r.isEmpty then "╰──" else "├──") ++ " " ++ p.fileName?.getD "" ++ "\n" ++ listed r

/-- The files of an outcome below their directory. -/
def listing (o : Outcome) : String :=
  match o.files.head?.bind Path.parent? with
  | none => info (o.package.fullName ++ ": nothing to generate")
  | some dir => "  ▸ " ++ dir.text ++ "/\n" ++ listed o.files

def counted (n : Nat) (noun : String) : String :=
  n.repr ++ " " ++ noun ++ if n = 1 then "" else "s"

/-- The lines below a run; `elapsed` counts milliseconds. -/
def summary (documents files : Nat) (elapsed : String) (dryRun : Bool) : String :=
  "\n" ++ info (counted documents "document" ++ " · " ++
    (if dryRun then "would write " else "wrote ") ++ counted files "file" ++ " in " ++ elapsed ++
    "ms") ++ if dryRun then info "Dry run: nothing was written." else ""

def outcome (dryRun : Bool) (document : Path) (o : Outcome) : String :=
  if dryRun then listing o else success document o

def purpose : Command → String
  | .generate => "Generate sources for one or more documents"
  | .files => "List the files a generation would produce"

def topHelp : String :=
  "Generate Scala or Java sources from a parsed IDL document\n\n" ++
  "Usage: idlgen <COMMAND>\n\n" ++
  "Commands:\n" ++
  "  generate  " ++ purpose .generate ++ "\n" ++
  "  files     " ++ purpose .files ++ "\n" ++
  "  help      Print this message or the help of the given subcommand(s)\n\n" ++
  "Options:\n" ++
  "  -h, --help     Print help\n" ++
  "  -V, --version  Print version\n"

def commandName : Command → String
  | .generate => "generate"
  | .files => "files"

def dryRunHelp : Command → String
  | .generate =>
    "      --dry-run              Show the files that would be written without writing them\n"
  | .files => ""

def commandHelp (c : Command) : String :=
  purpose c ++ "\n\n" ++
  "Usage: idlgen " ++ commandName c ++ " [OPTIONS] <DOCUMENTS>...\n\n" ++
  "Arguments:\n" ++
  "  <DOCUMENTS>...  Parsed IDL documents (JSON)\n\n" ++
  "Options:\n" ++
  "  -o, --out <OUT>            " ++
    "Output root; namespace directories are created below it [default: generated]\n" ++
  "  -l, --language <LANGUAGE>  Output language [default: scala]\n" ++
  "  -w, --with <WITH>          Optional sections to generate (repeatable) " ++
    "[possible values: client, server, monitoring]\n" ++
  dryRunHelp c ++
  "  -h, --help                 Print help\n"

def helpHelp : String :=
  "Print this message or the help of the given subcommand(s)\n\n" ++
  "Usage: idlgen help [COMMAND]...\n\n" ++
  "Arguments:\n" ++
  "  [COMMAND]...  Print help for the subcommand(s)\n"

def help : Topic → String
  | .top => topHelp
  | .command c => commandHelp c
  | .help => helpHelp

end Report
end StubForge.CommandLine
