import CppAdvice.Check.Describe

/-!
# Advice on dispatch

Casts and calls that are only resolved while the program runs, and casts between enumerations and
integers.
-/

namespace CppAdvice.Checks

open CppAdvice.Tree Describe

/-- Casts that look at the type of an object while the program runs. -/
def avoidDynamicCast : Check where
  descriptor :=
    { id := "baseline-performance.avoid-dynamic-cast"
      category := .baselinePerformance
      minTier := .unknown
      description := "dynamic_cast needs RTTI and walks the class hierarchy at runtime" }
  rules :=
    [.always "dynamic-cast" (.ofTag .dynamicCastExpr)
      fun _ _ =>
        [.message ("dynamic_cast requires RTTI and performs O(depth) vtable traversal at " ++
            "runtime; avoid in performance-critical code") [],
          .note ("use static_cast with a type-tag enum field for a zero-overhead alternative, " ++
              "or use the visitor pattern / std::variant for closed type hierarchies"),
          .note ("Chromium, LLVM, and most game engines build with -fno-rtti; consider CRTP for " ++
              "compile-time polymorphism")]]

/-- Virtual calls in a loop. -/
def avoidVirtualInLoop : Check where
  descriptor :=
    { id := "baseline-performance.avoid-virtual-in-loop"
      category := .baselinePerformance
      minTier := .unknown
      description := "virtual dispatch through a pointer or reference inside a loop" }
  rules :=
    [.always "virtual-call-in-loop"
      ((((Matcher.ofTag .memberCallExpr).and (.test .virtualCall)).and
        (.object (.typed .indirect))).and (.test .insideLoop))
      fun u id =>
        [.message ("virtual call to '{0}' inside a loop: indirect dispatch prevents inlining " ++
            "and causes branch predictor misses")
            [(method? u id).getD ""],
          .note ("consider CRTP, std::variant + std::visit, or 'if constexpr' with type tags " ++
              "for compile-time dispatch"),
          .note ("if dynamic dispatch is required, cache the function pointer before the loop " ++
              "or batch-process by concrete type")]]

/-- The scoped enumeration that a cast is applied to directly. -/
def castEnum? (u : TranslationUnit) (cast : Nat) : Option TypeRef := do
  let operand ← (u.children cast).head?
  (u.type? (u.skipImplicit operand)).filter Pattern.TypePattern.scopedEnum.covers

/-- Casts from a scoped enumeration to an integer. -/
def preferToUnderlying : Check where
  descriptor :=
    { id := "standard-upgrade.prefer-to-underlying"
      category := .standardUpgrade
      minTier := .cpp23
      description := "casting a scoped enum to an integer should use std::to_underlying()" }
  rules :=
    [{ name := "enum-to-integer-cast"
       matcher := .bind Rule.site (.allOf [.ofTag .staticCastExpr, .typed .integer])
       verdict := fun u b => do
         let cast ← b.get? Rule.site
         let ty ← castEnum? u cast
         return ⟨cast,
           [.message ("static_cast of scoped enum '{0}' to integer; use std::to_underlying() " ++
               "(C++23) for type-safe conversion")
               [lastSegment (typeName ty)],
             .note ("std::to_underlying() always returns the correct underlying type, " ++
                 "preventing silent truncation or widening bugs")]⟩ }]

end CppAdvice.Checks
