import CppAdvice.Text.Pieces

/-!
# Name patterns

A pattern with a leading `::` stands for one qualified name. Any other pattern stands for every name
that ends with it at a segment boundary, so `npos` covers `std::basic_string::npos`.
-/

namespace CppAdvice.Pattern

/-- One pattern, or any of several. -/
inductive Name where
  | one (pattern : String)
  | any (patterns : List String)
deriving Repr, DecidableEq

/-- Whether one pattern covers a qualified name. -/
def nameMatches (pattern name : List Char) : Bool :=
  match [':', ':'].isPrefixOf? pattern with
  | some full => name = full
  | none =>
    match Text.dropEnd? pattern name with
    | some head => head.isEmpty || Text.endsWith [':', ':'] head
    | none => false

/-- Whether the pattern covers a qualified name. -/
def Name.covers (name : String) : Name → Bool
  | .one pattern => nameMatches pattern.toList name.toList
  | .any patterns => patterns.any fun pattern => nameMatches pattern.toList name.toList

end CppAdvice.Pattern
