import CppAdvice.Decimal.Shortest
import CppAdvice.Json.Value
import CppAdvice.Text.Quoted

/-!
# Faults of a document

A text can fail to be a document in two ways: it is not well formed, or it is well formed and has
the wrong shape. The second kind says what was found and what was due.
-/

namespace CppAdvice.Document

/-- What was found in place of something else. -/
inductive Found where
  | null
  | bool (b : Bool)
  | integer (n : Int)
  | float (f : Float)
  | string (s : String)
  | sequence
  | map

namespace Found

/-- How what was found is named. -/
def phrase : Found → String
  | .null => "null"
  | .bool b => "boolean `" ++ (if b then "true" else "false") ++ "`"
  | .integer n => "integer `" ++ toString n ++ "`"
  | .float f => "floating point `" ++ Decimal.text f ++ "`"
  | .string s => "string " ++ Text.quoted s
  | .sequence => "sequence"
  | .map => "map"

end Found

/-- What was due at some place of a document. -/
inductive Due where
  | string
  | boolean
  | sequence
  /-- A whole number that a literal may have. -/
  | literalValue
  /-- A whole number that is a place in a file. -/
  | offset
  /-- The object with the given name. -/
  | record (name : String)
  | variantName
  /-- A variant in a fact that only some kinds have. -/
  | variant
  /-- The empty content of a variant. -/
  | nothing
  | singleKey

namespace Due

/-- How what was due is named. -/
def phrase : Due → String
  | .string => "a string"
  | .boolean => "a boolean"
  | .sequence => "a sequence"
  | .literalValue => "u64"
  | .offset => "usize"
  | .record name => "struct " ++ name
  | .variantName => "variant identifier"
  | .variant => "string or map"
  | .nothing => "unit"
  | .singleKey => "map with a single key"

end Due

/-- How the shape of a well formed document can be wrong. -/
inductive ShapeFault where
  | missingField (name : String)
  | duplicateField (name : String)
  | wrongType (found : Found) (due : Due)
  | wrongValue (found : Found) (due : Due)
  | unknownVariant (name : String) (known : List String)
  /-- An array with too few items for the fields of a record. -/
  | tooShort (length : Nat) (record : String) (fields : Nat)
  /-- An array with more items than a record has fields. -/
  | tooLong (length : Nat) (fields : Nat)

namespace ShapeFault

/-- The variants that would have been right. -/
def alternatives : List String → String
  | [a, b] => "`" ++ a ++ "` or `" ++ b ++ "`"
  | names => "one of " ++ String.intercalate ", " (names.map fun name => "`" ++ name ++ "`")

/-- The wording of the fault. -/
def message : ShapeFault → String
  | .missingField name => "missing field `" ++ name ++ "`"
  | .duplicateField name => "duplicate field `" ++ name ++ "`"
  | .wrongType found due => "invalid type: " ++ found.phrase ++ ", expected " ++ due.phrase
  | .wrongValue found due => "invalid value: " ++ found.phrase ++ ", expected " ++ due.phrase
  | .unknownVariant name known =>
    "unknown variant `" ++ name ++ "`, expected " ++ alternatives known
  | .tooShort length record fields =>
    "invalid length " ++ toString length ++ ", expected struct " ++ record ++ " with " ++
      toString fields ++ " elements"
  | .tooLong length fields =>
    "invalid length " ++ toString length ++ ", expected " ++ toString fields ++
      " elements in sequence"

end ShapeFault

/-- Why a text is no document. -/
inductive Fault where
  /-- The text is not well formed, or goes beyond the limits of the format. -/
  | malformed
  | shape (fault : ShapeFault)
  /-- The tree starts with a node of the wrong kind. -/
  | wrongRoot (tag : String)

/-- The wording of the fault. -/
def Fault.message : Fault → String
  | .malformed => "malformed AST document: the text is not well formed"
  | .shape fault => "malformed AST document: " ++ fault.message
  | .wrongRoot tag => "AST document root must be a TranslationUnitDecl, found " ++ tag

end CppAdvice.Document
