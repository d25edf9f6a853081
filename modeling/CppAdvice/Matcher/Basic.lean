import CppAdvice.Matcher.Bindings
import CppAdvice.Matcher.Condition
import CppAdvice.Pattern.RegexReader

/-!
# Matchers

Descriptions of the shape of a tree around a node. A match puts labels on nodes. There is one set of
labels that is written to as a matcher is run; where one of several ways is chosen, every way is
tried on the labels from before, so whatever has been labelled on the way to a failure is forgotten.
-/

namespace CppAdvice

open CppAdvice.Tree CppAdvice.Pattern CppAdvice.Matcher

/-- A description of a node and what is around it. -/
inductive Matcher where
  /-- The node meets a condition. -/
  | test (condition : Condition)
  /-- Some node at the end of a route matches; the first one counts. -/
  | reach (route : Route) (inner : Matcher)
  | allOf (matchers : List Matcher)
  /-- Some of several matchers matches; the first one counts. -/
  | anyOf (matchers : List Matcher)
  | not (inner : Matcher)
  /-- The node matches, and gets a label. -/
  | bind (label : String) (inner : Matcher)

namespace Matcher

/-- Tries candidates in turn, each from the same labels. The labels of the first success are kept;
those of a failed attempt are dropped. -/
def firstSuccess (attempt : Nat → Bindings → Bool × Bindings) :
    List Nat → Bindings → Bool × Bindings
  | [], b => (false, b)
  | candidate :: candidates, b =>
    match attempt candidate b with
    | (true, found) => (true, found)
    | (false, _) => firstSuccess attempt candidates b

mutual

/-- Matches at a node, writing labels into those given so far. After a failure they may hold labels
that were written on the way. -/
def run (u : TranslationUnit) : Matcher → (id : Nat) → Bindings → Bool × Bindings
  | .test condition, id, b => (condition.holds u id, b)
  | .reach route inner, id, b =>
    if route.isChoice then
      firstSuccess (fun target b => inner.run u target b) (route.targets u id) b
    else
      match route.targets u id with
      | target :: _ => inner.run u target b
      | [] => (false, b)
  | .allOf matchers, id, b => runAll u matchers id b
  | .anyOf matchers, id, b => runAny u matchers id b
  | .not inner, id, b => (!(inner.run u id b).1, b)
  | .bind label inner, id, b =>
    match inner.run u id b with
    | (true, b) => (true, b.insert label id)
    | (false, b) => (false, b)

/-- Matches all of several matchers, one after another, each with the labels that the one before has
written. -/
def runAll (u : TranslationUnit) : List Matcher → (id : Nat) → Bindings → Bool × Bindings
  | [], _, b => (true, b)
  | matcher :: matchers, id, b =>
    match matcher.run u id b with
    | (true, b) => runAll u matchers id b
    | (false, b) => (false, b)

/-- Matches the first of several matchers that does, each tried from the same labels. -/
def runAny (u : TranslationUnit) : List Matcher → (id : Nat) → Bindings → Bool × Bindings
  | [], _, b => (false, b)
  | matcher :: matchers, id, b =>
    match matcher.run u id b with
    | (true, found) => (true, found)
    | (false, _) => runAny u matchers id b

end

/-- The labels that a match at a node gives. -/
def match? (m : Matcher) (u : TranslationUnit) (id : Nat) : Option Bindings :=
  match m.run u id {} with
  | (true, b) => some b
  | (false, _) => none

/-- Both matchers; conditions that are already a list grow by one. -/
def and (m other : Matcher) : Matcher :=
  match m with
  | .allOf matchers => .allOf (matchers ++ [other])
  | m => .allOf [m, other]

/-- A node with the given tag. -/
def ofTag (tag : Tag) : Matcher :=
  .test (.tag tag)

/-- A node whose type meets the condition. -/
def typed (ty : TypePattern) : Matcher :=
  .test (.type ty)

/-- A call to any of the names. -/
def callTo (names : List String) : Matcher :=
  (ofTag .callExpr).and (.test (.callee (.any names)))

/-- A call whose callee, with `::` before it, matches the expression from end to end. -/
def callMatching (r : Regex) : Matcher :=
  (ofTag .callExpr).and (.test (.calleeRegex r.whole))

/-- A call whose callee, with `::` before it, matches the written expression from end to end, if the
text is the written form of one. -/
def callMatchingText? (pattern : String) : Option Matcher :=
  (Regex.wholeOfText? pattern).map fun r => (ofTag .callExpr).and (.test (.calleeRegex r))

/-- A member call of any of the methods. -/
def memberCall (methods : List String) : Matcher :=
  (ofTag .memberCallExpr).and (.test (.method (.any methods)))

/-- A reference to any of the names. -/
def declRef (names : List String) : Matcher :=
  (ofTag .declRefExpr).and (.test (.refers (.any names)))

/-- An integer literal. -/
def anyInteger : Matcher :=
  (ofTag .integerLiteral).and (.test (.integerLiteral none))

/-- The literal `0`. -/
def zeroLiteral : Matcher :=
  (ofTag .integerLiteral).and (.test (.integerLiteral (some 0)))

/-- The construction of a fresh object, neither copied nor moved from another. -/
def temporary : Matcher :=
  (ofTag .constructExpr).and (.test (.constructs .regular))

/-- Some node below. -/
def descendant (inner : Matcher) : Matcher :=
  .reach .descendant inner

/-- The argument with the given number. -/
def argument (index : Nat) (inner : Matcher) : Matcher :=
  .reach (.argument index) inner

/-- Some argument. -/
def anyArgument (inner : Matcher) : Matcher :=
  .reach .anyArgument inner

/-- The object of a member call. -/
def object (inner : Matcher) : Matcher :=
  .reach .object inner

/-- Some of the first two operands. -/
def operand (inner : Matcher) : Matcher :=
  .reach .operand inner

/-- The initial value of a variable. -/
def initializer (inner : Matcher) : Matcher :=
  .reach .initializer inner

/-- The nearest function around. -/
def enclosingFunction (inner : Matcher) : Matcher :=
  .reach .enclosingFunction inner

end Matcher

end CppAdvice
