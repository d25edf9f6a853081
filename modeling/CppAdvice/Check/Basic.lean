import CppAdvice.Finding.Step
import CppAdvice.Matcher.Basic

/-!
# Checks

A check looks for shapes in a tree and gives advice on what it finds. Each shape is a rule: a
matcher, and what to say about a match, if anything.
-/

namespace CppAdvice

/-- What to say, and about which node. -/
structure Advice where
  anchor : Nat
  steps : List Step
deriving Repr, DecidableEq

/-- A shape and what to say about it. -/
structure Rule where
  name : String
  matcher : Matcher
  verdict : TranslationUnit → Matcher.Bindings → Option Advice

namespace Rule

/-- The label of the node that a rule speaks about. -/
def site : String := "site"

/-- A rule that speaks about the node it matches, if `test` holds there. -/
def provided (name : String) (shape : Matcher) (test : TranslationUnit → Nat → Bool)
    (steps : TranslationUnit → Nat → List Step) : Rule where
  name
  matcher := .bind site shape
  verdict u b := (b.get? site).bind fun id => if test u id then some ⟨id, steps u id⟩ else none

/-- A rule that speaks about every node it matches. -/
def always (name : String) (shape : Matcher) (steps : TranslationUnit → Nat → List Step) :
    Rule where
  name
  matcher := .bind site shape
  verdict u b := (b.get? site).map fun id => ⟨id, steps u id⟩

end Rule

/-- A check. -/
structure Check where
  descriptor : Descriptor
  rules : List Rule

end CppAdvice
