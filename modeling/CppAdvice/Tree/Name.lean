import CppAdvice.Text.Blank
import CppAdvice.Text.Pieces

/-!
# Qualified names

A qualified name is a list of segments with `::` between them. The canonical spelling has no leading
`::` and leaves out the inline namespaces that standard libraries put between their own names.
-/

namespace CppAdvice.Tree.Name

/-- The separator between segments. -/
def separator : List Char := [':', ':']

/-- The segments of a name, cut at each `::` from the left. -/
def segments : List Char → List (List Char)
  | [] => [[]]
  | ':' :: ':' :: s => [] :: segments s
  | c :: s =>
    match segments s with
    | [] => [[c]]
    | segment :: rest => (c :: segment) :: rest

/-- A name without any leading `::`. -/
def dropLeading : List Char → List Char
  | ':' :: ':' :: s => dropLeading s
  | s => s

/-- Whether a segment is an inline namespace of a standard library: `__cxx11`, or two underscores
and digits. -/
def isInline (segment : List Char) : Bool :=
  segment = "__cxx11".toList ||
    match segment with
    | '_' :: '_' :: digits => !digits.isEmpty && digits.all Char.isDigit
    | _ => false

/-- The segments that count: the last one, and those before it that are no inline namespace. -/
def canonicalSegments : List (List Char) → List (List Char)
  | [] => []
  | [last] => [last]
  | segment :: rest =>
    if isInline segment then canonicalSegments rest else segment :: canonicalSegments rest

/-- The canonical spelling of a qualified name. -/
def normalize (name : String) : String :=
  let s := dropLeading (Text.trim name.toList)
  String.ofList (separator.intercalate (canonicalSegments (segments s)))

end CppAdvice.Tree.Name
