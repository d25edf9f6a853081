import CppAdvice.Finding.Basic
import CppAdvice.Json.Printer
import CppAdvice.Document.Write
import CppAdvice.Text.Pieces

/-!
# Reports

The findings of a run as text: lines for people, an array of values for programs, or commands that
put remarks into a code review.
-/

namespace CppAdvice

/-- The forms of a report. -/
inductive Format where
  | pretty
  | json
  | github
deriving Repr, DecidableEq

/-- The form with the given name. -/
def Format.ofName? : String → Option Format
  | "pretty" => some .pretty
  | "json" => some .json
  | "github" => some .github
  | _ => none

/-- The findings on one file. -/
structure Section where
  file : String
  findings : List Finding
deriving Repr, DecidableEq

namespace Report

/-- Lines of text, each with its end. -/
def unlines (lines : List String) : String :=
  String.join (lines.map (· ++ "\n"))

/-! ## For people -/

/-- The lines of one finding: where and what, its notes, and its replacement. -/
def findingLines (f : Finding) : List String :=
  (f.file ++ ":" ++ toString f.start.row ++ ":" ++ toString f.start.column ++ ": " ++
    f.level.label ++
    ": " ++ f.check.id ++ ": " ++ f.message) ::
  (f.notes.map fun note => "  note: " ++ note.message) ++
  (f.fixit.map fun fix =>
    "  fix-it: replace `" ++ fix.replaced ++ "` with `" ++ fix.replacement ++ "`").toList

/-- The lines of one file: its findings, and how many there are. -/
def sectionLines (s : Section) : List String :=
  s.findings.flatMap findingLines ++ [toString s.findings.length ++ " findings for " ++ s.file]

/-! ## For programs -/

/-- The value of a note. -/
def noteValue (note : Note) : Json :=
  .ofMembers (("message", .ofString note.message) ::
    (note.alternative.map fun name => ("alternative", Json.ofString name)).toList)

/-- The value of a replacement. -/
def fixValue (fix : FixIt) : Json :=
  .ofMembers [("range", Document.writeRange fix.range), ("original", .ofString fix.replaced),
    ("replacement", .ofString fix.replacement)]

/-- The value of a finding. -/
def findingValue (f : Finding) : Json :=
  .ofMembers
    ([("file", .ofString f.file), ("row", .ofNat f.start.row), ("column", .ofNat f.start.column),
      ("level", .ofString f.level.label), ("check", .ofString f.check.id),
      ("legacy_name", .ofString f.check.legacyName), ("message", .ofString f.message),
      ("notes", .array (f.notes.map noteValue))] ++
    (f.fixit.map fun fix => ("fixit", fixValue fix)).toList)

/-! ## For code reviews -/

/-- A text inside a command. Percent signs are replaced first, since the other replacements bring in
more. -/
def escape (s : String) : String :=
  let s := Text.replaceChar '%' ['%', '2', '5'] s.toList
  let s := Text.replaceChar '\r' ['%', '0', 'D'] s
  String.ofList (Text.replaceChar '\n' ['%', '0', 'A'] s)

/-- What the command for a finding says: its message and its notes, each on a line. -/
def body (f : Finding) : String :=
  String.intercalate "\n" (f.message :: f.notes.map (·.message))

/-- The command for a finding. -/
def command (f : Finding) : String :=
  "::" ++ f.level.label ++ " file=" ++ escape f.file ++ ",line=" ++
    toString f.start.row ++ ",col=" ++
    toString f.start.column ++ ",title=" ++ f.check.id ++ "::" ++
    escape (body f)

end Report

/-- The report on several files. -/
def Format.report (format : Format) (sections : List Section) : String :=
  let findings := sections.flatMap (·.findings)
  match format with
  | .pretty => Report.unlines (sections.flatMap Report.sectionLines)
  | .json => (Json.array (findings.map Report.findingValue)).pretty ++ "\n"
  | .github => Report.unlines (findings.map Report.command)

end CppAdvice
