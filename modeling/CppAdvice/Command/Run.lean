import CppAdvice.Command.Line
import CppAdvice.Config.File
import CppAdvice.Document.Read
import CppAdvice.Engine
import CppAdvice.Outline

/-!
# Commands

What each command does, as an outcome: what it prints and how it ends. A run over documents loads
all of them before it reports on any.
-/

namespace CppAdvice.Command

/-- How a command ends and what it prints. -/
structure Outcome where
  exit : Nat
  stdout : String
  stderr : String
deriving Repr, DecidableEq

/-- Why a command fails. -/
inductive Failure where
  /-- The command line asks for nothing sensible. -/
  | usage
  | config (fault : Config.Fault)
  | configStandard (fault : Config.StandardFault)
  | standard (fault : Language.UnknownStandard)
  | check (fault : UnknownCheck)
  /-- A path on the command line cannot be used. -/
  | inaccessible (path : Path) (trouble : Trouble)
  | listing (fault : Host.ListFault)
  | document (path : Path) (fault : Document.ReadFault)
  | input (trouble : Trouble)
  | inputDocument (fault : Document.Fault)

/-- The wording of the complaint. -/
def Failure.message : Failure → String
  | .usage => "usage"
  | .config fault => fault.message
  | .configStandard fault => fault.message
  | .standard fault => "invalid --std value: " ++ fault.name ++ ": " ++ fault.message
  | .check fault => fault.message
  | .inaccessible path trouble => "cannot read " ++ path.text ++ ": " ++ trouble.message
  | .listing fault => fault.message
  | .document path fault => "failed to load " ++ path.text ++ ": " ++ fault.account
  | .input trouble => trouble.message
  | .inputDocument fault => "failed to load AST document from stdin: " ++ fault.message

/-! ## Questions about checks -/

/-- The line that lists a check. -/
def checkLine (d : Descriptor) : String :=
  d.id ++ "\t" ++ d.category.label ++ "\t" ++ d.minTier.requirement ++ "\t" ++ d.description ++
    (if d.fix.isSome then " [fix: safe]" else "")

/-- All checks, in the order of their ids. -/
def checkList : String :=
  Report.unlines ((catalog.descriptors.mergeSort fun a b => a.id ≤ b.id).map checkLine)

/-- The lines on the replacements that a check offers. -/
def fixLines (d : Descriptor) : List String :=
  match d.fix with
  | none => ["fix: not available"]
  | some "" => ["fix: available (safe)"]
  | some description => ["fix: available (safe)", "fix description: " ++ description]

/-- All about a check. -/
def explanation (name : String) : Except UnknownCheck String :=
  match catalog.get? (resolveCheck name) with
  | none => .error ⟨name⟩
  | some d =>
    .ok (Report.unlines
      (["id: " ++ d.id, "legacy name: " ++ d.legacyName, "category: " ++ d.category.label,
        "requires: " ++ d.minTier.requirement, "description: " ++ d.description] ++ fixLines d))

/-- The line that names the program. -/
def versionLine : String :=
  Report.unlines ["cxx-clippy 0.1.0"]

/-- How the program is called. -/
def helpText : String :=
  Report.unlines
    ["Usage: cxx-clippy [lint] [OPTIONS] [PATH]...", "       cxx-clippy list-checks",
      "       cxx-clippy explain <CHECK>"]

/-! ## Runs over documents -/

variable {m : Type → Type} [Monad m]

/-- The steps of a command, each of which may fail. -/
abbrev Action (m : Type → Type) := ExceptT Failure m

/-- Goes on with the value of a step, or fails with its fault in the command's words. -/
def attempt {ε α : Type} (wrap : ε → Failure) (step : ExceptT ε m α) : Action m α :=
  ExceptT.adapt wrap step

/-- Goes on with a value that may have a fault instead. -/
def accept {ε α : Type} (wrap : ε → Failure) (value : Except ε α) : Action m α :=
  attempt wrap (ExceptT.mk (pure value))

/-- The directory whose settings file counts: that of the first path, or the working directory. -/
def startDirectory (host : Host m) (paths : List Path) : m Path := do
  let base ← match paths with
    | path :: _ => pure path
    | [] => host.workingDirectory
  if ← host.isFile base then return base.parent?.getD ⟨"."⟩ else return base

/-- Whether a directory inside a directory that is searched is passed over. -/
def skipsDirectory (name : String) : Bool :=
  name ∈ [".git", "target", "build"]

/-- Whether a file in a directory that is searched holds a document, by its name. -/
def isDocument (path : Path) : Bool :=
  Text.endsWith ".ast.json".toList path.text.toList

/-- The documents that a path on the command line stands for: itself, or those below it. -/
def documentsAt (host : Host m) (path : Path) : Action m (List Path) := do
  match ← accept (.inaccessible path) (← host.kind path) with
  | .directory =>
    let files ← attempt .listing (host.filesBelow skipsDirectory Host.maxDepth path)
    return files.filter isDocument
  | _ => return [path]

/-- The documents that the paths stand for, in order, each once. -/
def collect (host : Host m) (paths : List Path) : Action m (List Path) := do
  let found ← paths.mapM (documentsAt host)
  return Path.sorted found.flatten

/-- The document on the standard input. -/
def inputDocument (host : Host m) : Action m Document := do
  let text ← accept .input (← host.input)
  let d ← accept .inputDocument (Document.load text)
  return d.named "stdin"

/-- The documents to run over. -/
def documents (host : Host m) (paths : List Path) : Action m (List Document) := do
  if paths.isEmpty then return [← inputDocument host]
  else
    let files ← collect host paths
    files.mapM fun path => attempt (.document path) (Document.ofFile host path)

/-- The engine that the choices and the command line ask for, with the language that wins over that
of every document. -/
def prepare (c : Config) (args : LintArgs) :
    Except Failure (Engine × Option Language.Flags) := do
  let fallback ← (c.language).mapError .configStandard
  let override ← match args.standard with
    | none => pure none
    | some name => some <$> (Language.Flags.ofStandard name).mapError .standard
  let registry ← (Registry.filtered args.only args.skip c.disabled c.options).mapError .check
  let engine : Engine := { registry, settings := c.settings }
  return ({ engine with fallback := fallback.getD engine.fallback }, override)

/-- The findings on a document. -/
def examine (engine : Engine) (override : Option Language.Flags) (d : Document) : Section :=
  let u := engine.unit d
  let u := { u with language := override.getD u.language }
  ⟨u.file, engine.analyze u⟩

/-- The report of a run over documents. -/
def lint (host : Host m) (args : LintArgs) : Action m String := do
  let start ← (startDirectory host args.paths : m Path)
  let loaded ← attempt .config (Config.load host args.config start)
  let config : Config := loaded.elim {} (·.2)
  let (engine, override) ← ExceptT.mk (pure (prepare config args))
  let docs ← documents host args.paths
  return (args.format.getD .pretty).report (docs.map (examine engine override))

/-! ## Command lines -/

/-- What a command line asks for, done. -/
def perform (host : Host m) (line : List String) : Action m String :=
  match read? line with
  | none => throw .usage
  | some (.lint args) => lint host args
  | some .listChecks => return checkList
  | some (.explain name) => accept .check (explanation name)
  | some .version => return versionLine
  | some .help => return helpText

/-- The outcome of a command, given how it ends when it fails. -/
def conclude (failing : Nat) (result : Except Failure String) : Outcome :=
  match result with
  | .ok text => ⟨0, text, ""⟩
  | .error failure => ⟨failing, "", failure.message ++ "\n"⟩

/-- Runs the command that a command line asks for. -/
def run (host : Host m) (line : List String) : m Outcome := do
  return conclude 2 (← (perform host line).run)

/-- Prints the outline of the one document that a command line names. -/
def runOutline (host : Host m) (line : List String) : m Outcome := do
  match line with
  | [word] =>
    let path : Path := ⟨word⟩
    let result ← (attempt (.document path) (Document.ofFile host path)).run
    return conclude 1 (result.map fun d =>
      (TranslationUnit.ofDocument d (.ofTier .unknown)).outline)
  | _ => return ⟨1, "", "Usage: dump_ast <file.ast.json>\n"⟩

end CppAdvice.Command
