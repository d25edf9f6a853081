import CppAdvice.Check.Describe

/-!
# Advice on callables

Wrappers around functions that cost more than they need to, and what later editions offer instead.
-/

namespace CppAdvice.Checks

open CppAdvice.Tree Describe

/-- The wrapper that owns a copy of any callable. -/
def stdFunction : Pattern.Name := .one "::std::function"

/-- Declarations of `std::function` by value. -/
def avoidStdFunction : Check where
  descriptor :=
    { id := "baseline-performance.avoid-std-function"
      category := .baselinePerformance
      minTier := .cpp17
      description := "std::function declarations pay for heap allocation and type erasure" }
  rules :=
    [.always "std-function-decl"
      (valueDecl [.varDecl, .parmVarDecl, .fieldDecl, .typeAliasDecl] stdFunction)
      fun u id =>
        [.message ("std::function causes heap allocation and type-erasure overhead; avoid in " ++
            "high-load / hot-path code ({0})")
            [declaration u id],
          .note "for non-owning callable references use a template parameter or a function pointer",
          .upgrade "std::move_only_function" .cpp23
            ("if ownership transfer is needed, consider std::move_only_function (C++23); avoids " ++
                "copy overhead"),
          .upgrade "std::function_ref" .cpp26
            ("for non-owning callable parameters, consider std::function_ref (C++26), a " ++
                "zero-overhead type-erased reference")]]

/-- What to say about a binder, by its name. -/
def bindSteps (binder : String) : List Step :=
  if binder = "bind_front" then
    [.message ("std::bind_front (C++20) is better than std::bind but lambdas are still " ++
        "preferred for inlining and clarity") [],
      .note ("replace with a lambda: [captured_args](auto&&... rest)\x7b return " ++
          "fn(captured_args, std::forward<decltype(rest)>(rest)...); \x7d")]
  else if binder = "bind_back" then
    [.message ("std::bind_back (C++23) is better than std::bind but lambdas are still preferred " ++
        "for inlining and clarity") []]
  else
    [.message ("std::bind creates a type-erased wrapper that prevents inlining; use a lambda " ++
        "instead (banned in Chromium)") [],
      .note ("lambdas are zero-overhead, inlineable, and produce clearer error messages; prefer " ++
          "[captures](params)\x7b body \x7d"),
      .note ("std::bind also interacts poorly with overloaded functions and default arguments; " ++
          "lambdas handle both correctly")]

/-- Calls of `std::bind` and its relatives. -/
def avoidStdBind : Check where
  descriptor :=
    { id := "baseline-performance.avoid-std-bind"
      category := .baselinePerformance
      minTier := .unknown
      description := "std::bind and friends block inlining; lambdas do not" }
  rules :=
    [.always "bind-call" (.callTo ["::std::bind", "::std::bind_front", "::std::bind_back"])
      fun u id => bindSteps (((callee? u id).map lastSegment).getD "bind")]

/-- What to say about a callback that could be move-only. -/
def moveOnlySteps (label : String) : List Step :=
  [.message ("std::function {0} can likely be replaced with std::move_only_function (C++23) for " ++
      "move-only callbacks")
      [label],
    .note ("std::move_only_function does not require the callable to be copyable, enabling more " ++
        "aggressive small-buffer optimization and eliminating unnecessary copy overhead"),
    .note ("std::move_only_function also supports const, noexcept, and ref-qualified call " ++
        "operators for stronger API contracts")]

/-- Callbacks that are owned and never copied. -/
def preferMoveOnlyFunction : Check where
  descriptor :=
    { id := "standard-upgrade.prefer-move-only-function"
      category := .standardUpgrade
      minTier := .cpp23
      description := "owned callbacks that are never copied fit std::move_only_function" }
  rules :=
    [.always "function-field" ((Matcher.ofTag .fieldDecl).and (.typed (.named stdFunction)))
        fun _ _ => moveOnlySteps "field",
      .always "function-by-value-param"
        ((Matcher.ofTag .parmVarDecl).and (.typed (.named stdFunction)))
        fun _ _ => moveOnlySteps "by-value parameter",
      .always "function-rvalue-param"
        ((Matcher.ofTag .parmVarDecl).and (.typed (.rvalueRef stdFunction)))
        fun _ _ => moveOnlySteps "rvalue-reference parameter"]

/-- Callable parameters that need not be owned. -/
def preferFunctionRef : Check where
  descriptor :=
    { id := "standard-upgrade.prefer-function-ref"
      category := .standardUpgrade
      minTier := .cpp26
      description := "non-owning callable parameters should be std::function_ref" }
  rules :=
    [.always "function-param"
      ((Matcher.ofTag .parmVarDecl).and
        (.anyOf [.typed (.named stdFunction), .typed (.constRef stdFunction)]))
      fun _ _ =>
        [.message ("std::function parameter can likely be replaced with std::function_ref " ++
            "(C++26) for non-owning callable references") [],
          .note ("std::function_ref has zero overhead: no heap allocation, no type-erasure " ++
              "copy/move operations, typically just 2 pointers"),
          .note ("use std::function_ref when the callable does not need to outlive the function " ++
              "call; use std::move_only_function (C++23) for ownership transfer")]]

/-- Declarations of `std::function` that a stricter wrapper could replace. -/
def preferCopyableFunction : Check where
  descriptor :=
    { id := "standard-upgrade.prefer-copyable-function"
      category := .standardUpgrade
      minTier := .cpp26
      description := "std::function should become std::copyable_function" }
  rules :=
    [.always "function-decl"
      ((Matcher.anyOf [.ofTag .varDecl, .ofTag .fieldDecl, .ofTag .parmVarDecl]).and
        (.typed (.classType stdFunction)))
      fun u id =>
        [.message ("std::function {0} can be replaced with std::copyable_function (C++26) for " ++
            "stricter const/noexcept correctness")
            [declaration u id],
          .note ("std::copyable_function enforces that operator() const only invokes " ++
              "const-qualified callables, preventing subtle bugs with mutable lambdas"),
          .note ("if the callable does not need to be copied, prefer std::move_only_function " ++
              "(C++23) or std::function_ref (C++26) for even lower overhead")]]

end CppAdvice.Checks
