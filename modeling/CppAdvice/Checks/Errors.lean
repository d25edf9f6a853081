import CppAdvice.Check.Describe

/-!
# Advice on errors

Signalling failure, moves that may throw, and code that cannot be reached.
-/

namespace CppAdvice.Checks

open CppAdvice.Tree Describe

/-- A function that meets the condition. -/
def functionThat (f : Matcher.FunctionPattern) : Matcher :=
  .test (.function f)

/-- What to say about a move that may throw. -/
def moveSteps (isConstructor : Bool) : List Step :=
  if isConstructor then
    [.message ("move constructor is not noexcept; std::vector will COPY instead of MOVE " ++
        "elements during reallocation") [],
      .note ("add noexcept to enable move-based reallocation in std::vector, std::swap, and " ++
          "standard algorithms"),
      .note ("a missing noexcept turns O(N) reallocation into O(N * copy_cost), one of the most " ++
          "impactful C++ performance issues")]
  else
    [.message ("move assignment operator is not noexcept; this disables move optimizations in " ++
        "standard containers and algorithms") [],
      .note ("add noexcept to enable efficient move operations; CppCoreGuidelines C.66 requires " ++
          "noexcept move operations")]

/-- Whether a node declares a move constructor. -/
def isMoveConstructor (u : TranslationUnit) (id : Nat) : Bool :=
  match u.kind id with
  | .functionDecl f => f.special = .moveConstructor
  | _ => false

/-- Moves that are written out and may throw. -/
def preferNoexceptMove : Check where
  descriptor :=
    { id := "baseline-performance.prefer-noexcept-move"
      category := .baselinePerformance
      minTier := .unknown
      description := "user-written move operations should be noexcept" }
  rules :=
    [.always "throwing-move"
      ((((((Matcher.ofTag .functionDecl).and
        (.anyOf [functionThat (.special .moveConstructor), functionThat
          (.special .moveAssignment)])).and
        (functionThat .definition)).and
        (.not (functionThat .defaulted))).and
        (.not (functionThat .deleted))).and
        (.not (functionThat .noexcept)))
      fun u id => moveSteps (isMoveConstructor u id)]

/-- Failures without a typed error. -/
def preferExpected : Check where
  descriptor :=
    { id := "standard-upgrade.prefer-expected"
      category := .standardUpgrade
      minTier := .cpp23
      description := "error signalling via std::optional or exceptions; std::expected carries " ++
          "typed errors" }
  rules :=
    [.always "optional-return"
        ((Matcher.ofTag .functionDecl).and
          (functionThat (.returns (.classType (.one "::std::optional")))))
        fun _ _ =>
          [.message ("function returns std::optional but may benefit from std::expected<T, E> " ++
              "(C++23) to propagate error information") [],
            .note ("std::expected carries both the success value and a typed error, enabling " ++
                "richer error handling without exceptions"),
            .note ("use monadic operations (.and_then, .or_else, .transform) for composable " ++
                "error handling pipelines")],
      .always "throw-in-function"
        ((Matcher.ofTag .throwExpr).and
          (.enclosingFunction (.not
            (.anyOf [functionThat (.role .constructor), functionThat (.role .destructor)]))))
        fun _ _ =>
          [.message ("throw expression in regular function; exceptions have high overhead for " ++
              "expected error conditions; consider returning std::expected<T, E> (C++23) " ++
              "instead") [],
            .note ("exception unwinding traverses the call stack and involves RTTI; " ++
                "std::expected is a zero-overhead value type"),
            .note ("reserve exceptions for truly exceptional/unrecoverable conditions (out of " ++
                "memory, invariant violations)")]]

/-- Hints to a particular compiler that code cannot be reached. -/
def preferUnreachable : Check where
  descriptor :=
    { id := "standard-upgrade.prefer-unreachable"
      category := .standardUpgrade
      minTier := .cpp23
      description := "compiler-specific unreachable hints should use std::unreachable()" }
  rules :=
    [.always "builtin-unreachable" (.callTo ["::__builtin_unreachable"])
        fun _ _ =>
          [.message ("__builtin_unreachable() is a GCC/Clang extension; use std::unreachable() " ++
              "(C++23) for portable code") [],
            .note ("std::unreachable() provides the same optimization hint to the compiler " ++
                "while being portable across all C++23 compilers")],
      .always "msvc-assume" (.callTo ["::__assume"])
        fun _ _ =>
          [.message ("__assume(false) is an MSVC extension; use std::unreachable() (C++23) for " ++
              "portable code") []]]

end CppAdvice.Checks
