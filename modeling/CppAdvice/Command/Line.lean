import CppAdvice.Path
import CppAdvice.Report

/-!
# Command lines

What a command line asks for. Options come before, between and after paths, up to a bare `--`. A
command has to be the first word. A line that asks for nothing sensible has no reading.
-/

namespace CppAdvice.Command

/-- What a run over documents is told. -/
structure LintArgs where
  paths : List Path := []
  format : Option Format := none
  only : List String := []
  skip : List String := []
  standard : Option String := none
  config : Option Path := none
deriving Repr, DecidableEq

/-- What a command line asks for. -/
inductive Request where
  | lint (args : LintArgs)
  | listChecks
  | explain (name : String)
  | version
  | help
deriving Repr, DecidableEq

/-- The options that take a value. -/
inductive Setting where
  | format
  | only
  | skip
  | standard
  | config
deriving Repr, DecidableEq

/-- The option with the given name. -/
def Setting.ofName? : String → Option Setting
  | "format" => some .format
  | "only" => some .only
  | "skip" => some .skip
  | "std" => some .standard
  | "config" => some .config
  | _ => none

/-- The words between commas. -/
def commaList (s : String) : List String :=
  (s.toList.splitOn ',').map String.ofList

/-- A path, which has at least one character. -/
def path? (s : String) : Option Path :=
  if s.isEmpty then none else some ⟨s⟩

namespace LintArgs

/-- Gives an option a value. Lists of checks grow; the other options are given at most once. -/
def set? (args : LintArgs) (setting : Setting) (value : String) : Option LintArgs :=
  match setting with
  | .only => some { args with only := args.only ++ commaList value }
  | .skip => some { args with skip := args.skip ++ commaList value }
  | .format =>
    match args.format, Format.ofName? value with
    | none, some format => some { args with format := some format }
    | _, _ => none
  | .standard =>
    match args.standard with
    | none => some { args with standard := some value }
    | some _ => none
  | .config =>
    match args.config, path? value with
    | none, some path => some { args with config := some path }
    | _, _ => none

/-- Adds a path. -/
def addPath? (args : LintArgs) (word : String) : Option LintArgs :=
  (path? word).map fun path => { args with paths := args.paths ++ [path] }

end LintArgs

/-- What a word of a command line looks like. -/
inductive Word where
  /-- The bare `--`, after which no word is an option. -/
  | divider
  /-- An option, with the value after its equals sign if there is one. -/
  | long (name : String) (value : Option String)
  /-- Options of one letter each. -/
  | short (letters : List Char)
  | plain (text : String)
deriving Repr, DecidableEq

/-- How a word looks. A single hyphen is a plain word. -/
def Word.ofString (s : String) : Word :=
  match s.toList with
  | ['-', '-'] => .divider
  | '-' :: '-' :: cs =>
    match Text.beforeFirst? '=' cs with
    | some name => .long (String.ofList name) (some (String.ofList (cs.drop (name.length + 1))))
    | none => .long (String.ofList cs) none
  | '-' :: c :: cs => .short (c :: cs)
  | _ => .plain s

/-- The question that a flag asks; only a line without a command may ask for the version. -/
def flag? (leading : Bool) : String → Option Request
  | "version" => if leading then some .version else none
  | "help" => some .help
  | _ => none

/-- The question that a letter asks. -/
def letter? (leading : Bool) : Char → Option Request
  | 'V' => flag? leading "version"
  | 'h' => flag? leading "help"
  | _ => none

/-- The rest of a line after a bare `--`: paths only. -/
def readPaths? : LintArgs → List String → Option LintArgs
  | args, [] => some args
  | args, word :: words => do
    let args ← args.addPath? word
    readPaths? args words

/-- What a line of options and paths asks for; `leading` says that no command stands before it. -/
def readLint? (leading : Bool) : LintArgs → List String → Option Request
  | args, [] => some (.lint args)
  | args, word :: words =>
    match Word.ofString word with
    | .divider => (readPaths? args words).map .lint
    | .plain text => do
      let args ← args.addPath? text
      readLint? leading args words
    | .short letters => letters.head?.bind (letter? leading)
    | .long name (some value) => do
      let setting ← Setting.ofName? name
      let args ← args.set? setting value
      readLint? leading args words
    | .long name none =>
      match Setting.ofName? name, words with
      | some setting, value :: words =>
        match Word.ofString value with
        | .plain value => do
          let args ← args.set? setting value
          readLint? leading args words
        | _ => none
      | some _, [] => none
      | none, _ => flag? leading name

/-- The plain words of the line of a command that has no options but the one for help. -/
inductive Words where
  | plain (words : List String)
  | help
deriving Repr, DecidableEq

/-- The words of a command that takes at most `room` of them. -/
def readWords? (room : Nat) : List String → Option Words
  | [] => some (.plain [])
  | word :: words =>
    match Word.ofString word with
    | .divider => if words.length ≤ room then some (.plain words) else none
    | .plain text =>
      match room with
      | 0 => none
      | room + 1 =>
        match readWords? room words with
        | some (.plain rest) => some (.plain (text :: rest))
        | other => other
    | .short letters => if letters.head? = some 'h' then some .help else none
    | .long name none => if name = "help" then some .help else none
    | .long _ (some _) => none

/-- The names of commands. -/
def names : List String :=
  ["lint", "list-checks", "explain", "help"]

/-- What a command line asks for. -/
def read? (line : List String) : Option Request :=
  match line with
  | "lint" :: words => readLint? false {} words
  | "list-checks" :: words =>
    match readWords? 0 words with
    | some .help => some .help
    | some (.plain _) => some .listChecks
    | none => none
  | "explain" :: words =>
    match readWords? 1 words with
    | some .help => some .help
    | some (.plain [name]) => some (.explain name)
    | _ => none
  | "help" :: words =>
    match words with
    | [] => some .help
    | [name] => if name ∈ names then some .help else none
    | _ => none
  | words => readLint? true {} words

end CppAdvice.Command
