import StubForge.ServiceOption
import StubForge.Storage.Path

/-! What the arguments of the command line ask for. -/
namespace StubForge.CommandLine

/-- Documents to generate, the root for their sources, the language and optional sections. -/
structure Target where
  documents : List Path
  out : Path
  language : String
  options : ServiceOptions
  deriving DecidableEq, Repr

inductive Command
  | generate
  | files
  deriving DecidableEq, Repr

inductive Topic
  | top
  | command (c : Command)
  | help
  deriving DecidableEq, Repr

inductive Request
  | run (command : Command) (target : Target) (dryRun : Bool)
  | version
  | help (topic : Topic)
  deriving DecidableEq, Repr

/-- Arguments so far. What was not given yet is absent. -/
structure Given where
  documents : List Path
  out : Option Path
  language : Option String
  options : ServiceOptions
  dryRun : Bool

def Given.nothing : Given := ⟨[], none, none, .none, false⟩

/-- An option that takes a value. -/
inductive Setter
  | out
  | language
  | section
  deriving DecidableEq, Repr

/-- The names of a section on the command line. -/
def section? : String → Option ServiceOption
  | "client" => some .client
  | "server" => some .server
  | "monitoring" => some .monitoring
  | _ => none

/-- A root and a language are given at most once, and sections as often as one likes. -/
def Given.set? (g : Given) (value : String) : Setter → Option Given
  | .out => if g.out.isSome ∨ value = "" then none else some { g with out := some ⟨value⟩ }
  | .language => if g.language.isSome then none else some { g with language := some value }
  | .section => (section? value).map fun o => { g with options := g.options.add o }

def Given.document? (g : Given) (value : String) : Option Given :=
  if value = "" then none else some { g with documents := g.documents ++ [⟨value⟩] }

def Given.request? (command : Command) (g : Given) : Option Request :=
  if g.documents.isEmpty then none
  else some (.run command
    ⟨g.documents, g.out.getD ⟨"generated"⟩, g.language.getD "scala", g.options⟩
    (g.dryRun || command == .files))

def longSetter? : List Char → Option Setter
  | ['o', 'u', 't'] => some .out
  | ['l', 'a', 'n', 'g', 'u', 'a', 'g', 'e'] => some .language
  | ['w', 'i', 't', 'h'] => some .section
  | _ => none

def shortSetter? : Char → Option Setter
  | 'o' => some .out
  | 'l' => some .language
  | 'w' => some .section
  | _ => none

/-- An argument that is taken for an option wherever it stands. -/
def looksLikeOption (arg : String) : Bool :=
  match arg.toList with
  | ['-'] => false
  | '-' :: _ => true
  | _ => false

def afterEquals (t : List Char) : List Char :=
  match t with
  | '=' :: r => r
  | t => t

/-- The arguments of a command from left to right. The first that does not fit ends them. -/
def readTarget (command : Command) (g : Given) : List String → Option Request
  | [] => g.request? command
  | arg :: r =>
    let value (s : Setter) : Option Request :=
      match r with
      | [] => none
      | v :: r => if looksLikeOption v then none else (g.set? v s).bind (readTarget command · r)
    match arg.toList with
    | ['-', '-'] =>
      (r.foldlM (fun g v => Given.document? g v) g).bind (Given.request? command)
    | '-' :: '-' :: name =>
      if name = "help".toList then some (.help (.command command))
      else if name = "dry-run".toList then
        if command = .generate ∧ g.dryRun = false then
          readTarget command { g with dryRun := true } r
        else none
      else match longSetter? (name.takeWhile (· != '=')) with
        | none => none
        | some s =>
          match name.dropWhile (· != '=') with
          | [] => value s
          | _ :: text => (g.set? (String.ofList text) s).bind (readTarget command · r)
    | ['-'] => (g.document? arg).bind (readTarget command · r)
    | ['-', c] =>
      if c = 'h' then some (.help (.command command)) else (shortSetter? c).bind value
    | '-' :: c :: text =>
      if c = 'h' then some (.help (.command command))
      else (shortSetter? c).bind fun s =>
        (g.set? (String.ofList (afterEquals text)) s).bind (readTarget command · r)
    | _ => (g.document? arg).bind (readTarget command · r)

def command? : String → Option Command
  | "generate" => some .generate
  | "files" => some .files
  | _ => none

def readTopic : List String → Option Topic
  | [] => some .top
  | ["help"] => some .help
  | [name] => (command? name).map .command
  | _ => none

/-- All arguments; without a result where they do not fit. -/
def readArguments : List String → Option Request
  | [] => none
  | arg :: r =>
    match arg.toList with
    | ['-', '-', 'h', 'e', 'l', 'p'] => some (.help .top)
    | ['-', '-', 'v', 'e', 'r', 's', 'i', 'o', 'n'] => some .version
    | '-' :: 'h' :: _ => some (.help .top)
    | '-' :: 'V' :: _ => some .version
    | _ =>
      if arg = "help" then (readTopic r).map .help
      else (command? arg).bind fun c => readTarget c .nothing r

example : readArguments ["files", "a.json", "-l", "java", "-o=x"] =
    some (.run .files ⟨[⟨"a.json"⟩], ⟨"x"⟩, "java", .none⟩ true) := by decide +kernel
example : readArguments ["generate"] = none ∧ readArguments ["generate", "a", "-w"] = none := by
  decide +kernel

end StubForge.CommandLine
