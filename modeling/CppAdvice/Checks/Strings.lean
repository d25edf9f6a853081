import CppAdvice.Check.Describe
import CppAdvice.Sentinel

/-!
# Advice on strings

Patterns, parameters, conversions between numbers and text, and tests on the ends of a string.
-/

namespace CppAdvice.Checks

open CppAdvice.Tree Describe

/-- The types of regular expressions. -/
def regexTypes : Pattern.Name := .any ["::std::regex", "::std::basic_regex"]

/-- The functions that match regular expressions. -/
def regexCallees : Pattern.Regex :=
  .seqAll (Pattern.Regex.letters "::std::regex_" ++ [.oneOf "search" ["match", "replace"]])

/-- The functions that read a number from a string. -/
def stoCallees : Pattern.Regex :=
  .seqAll (Pattern.Regex.letters "::std::sto" ++
    [.oneOf "i" ["l", "ll", "ul", "ull", "f", "d", "ld"]])

/-- The functions that read a number from characters, with or without their namespace. -/
def atoCallees : Pattern.Regex :=
  .seqAll (Pattern.Regex.letters "::" ++ .opt (.text "std::") ::
    Pattern.Regex.letters "ato" ++ [.oneOf "i" ["l", "f", "ll"]])

/-- What to say about regular expressions. -/
def regexSteps : List Step :=
  [.message ("std::regex has extremely poor performance: dynamic pattern compilation, heavy " ++
      "heap allocations, and no compile-time optimizations; banned in Chromium and other " ++
      "high-load projects") [],
    .note ("use CTRE (compile-time regular expressions) for static patterns, or Google RE2 for " ++
        "runtime patterns with linear-time guarantees"),
    .note ("for simple string matching consider std::string::find(), std::string_view::find(), " ++
        "or hand-written parsers")]

/-- Regular expressions of the standard library. -/
def avoidStdRegex : Check where
  descriptor :=
    { id := "baseline-performance.avoid-std-regex"
      category := .baselinePerformance
      minTier := .unknown
      description := "std::regex construction and matching are slow and allocation heavy" }
  rules :=
    [.always "regex-construct" ((Matcher.ofTag .constructExpr).and (.typed (.classType regexTypes)))
        fun _ _ => regexSteps,
      .always "regex-var" ((Matcher.ofTag .varDecl).and (.typed (.classType regexTypes)))
        fun _ _ => regexSteps,
      .always "regex-call" (.callMatching regexCallees) fun _ _ => regexSteps]

/-- String parameters that are only read. -/
def preferStringView : Check where
  descriptor :=
    { id := "baseline-performance.prefer-string-view"
      category := .baselinePerformance
      minTier := .cpp17
      description := "read-only string parameters should be std::string_view" }
  rules :=
    [.always "const-string-ref-param"
      ((Matcher.ofTag .parmVarDecl).and
        (.typed (.constRef (.any ["::std::basic_string", "::std::string"]))))
      fun _ _ =>
        [.message ("'const std::string&' parameter causes potential heap allocation when called " ++
            "with string literals or substrings; prefer std::string_view for read-only access") [],
          .note "std::string_view is a non-owning view that avoids copies; available since C++17",
          .note ("note: if the function stores the string, keep std::string parameter (by value " ++
              "with move) for ownership transfer")]]

/-- Conversions that throw or depend on the locale. -/
def preferFromChars : Check where
  descriptor :=
    { id := "baseline-performance.prefer-from-chars"
      category := .baselinePerformance
      minTier := .cpp17
      description := "locale-dependent or throwing number conversions should use " ++
          "std::from_chars/std::to_chars" }
  rules :=
    [.always "sto-call" (.callMatching stoCallees)
        fun _ _ =>
          [.message ("std::sto* functions throw exceptions on invalid input and use " ++
              "locale-dependent parsing (global locale lock contention); prefer std::from_chars " ++
              "(C++17)") [],
            .note ("std::from_chars is locale-independent, exception-free, and performs no heap " ++
                "allocations; up to 20x faster")],
      .always "to-string-call" (.callTo ["::std::to_string"])
        fun _ _ =>
          [.message ("std::to_string allocates heap memory and depends on the global locale; " ++
              "prefer std::to_chars (C++17) for high-throughput code") [],
            .note ("std::to_chars writes directly into a caller-provided buffer, avoiding " ++
                "allocation entirely"),
            .upgrade "std::format" .cpp20
              ("alternatively, std::format (C++20) provides type-safe formatting with better " ++
                  "performance than std::to_string")],
      .always "ato-call" (.callMatching atoCallees)
        fun _ _ =>
          [.message ("C-style ato* functions have undefined behavior on overflow and no error " ++
              "reporting; prefer std::from_chars (C++17)") [],
            .note "std::from_chars reports errors via std::errc and handles overflow safely"]]

/-- The comparison of a position with the start of a string. -/
def equalsZero : Sentinel.Comparison := ⟨.zero, [.equal]⟩

/-- Whether the value of a call is compared with zero. -/
def comparedWithZero (u : TranslationUnit) (call : Nat) : Bool :=
  Sentinel.isCompared u Sentinel.defaultTransparent equalsZero call

/-- A call of a method on a class with `starts_with`. -/
def stringMethod (name : String) : Matcher :=
  (Matcher.memberCall [name]).and (.test (.classDeclares "starts_with"))

/-- Tests on the start or end of a string that are written out by hand. -/
def preferStartsEndsWith : Check where
  descriptor :=
    { id := "standard-upgrade.prefer-starts-ends-with"
      category := .standardUpgrade
      minTier := .cpp20
      description := "hand-written prefix/suffix tests should use starts_with/ends_with" }
  rules :=
    [.provided "find-eq-zero" (stringMethod "find") comparedWithZero
        fun _ _ =>
          [.message ("s.find(x) == 0 scans the entire string to check a prefix; use " ++
              "s.starts_with(x) (C++20) which is O(prefix length)") [],
            .note ("starts_with performs no allocation and clearly expresses intent; also works " ++
                "on std::string_view")],
      .provided "rfind-eq-zero" ((stringMethod "rfind").and (.argument 1 .zeroLiteral))
        comparedWithZero
        fun _ _ =>
          [.message ("s.rfind(x, 0) == 0 is an obscure way to check a prefix; use " ++
              "s.starts_with(x) (C++20) for clarity") [],
            .note ("starts_with performs no allocation and clearly expresses intent; also works " ++
                "on std::string_view")],
      { name := "substr-eq"
        matcher :=
          ((Matcher.ofTag .operatorCallExpr).and (.test (.operator [.eq]))).and
            (.descendant (.bind Rule.site ((stringMethod "substr").and (.argument 0 .zeroLiteral))))
        verdict := fun _ b => (b.get? Rule.site).map fun call => ⟨call,
          [.message ("s.substr(0, n) == x ALLOCATES a temporary string to check a prefix; use " ++
              "s.starts_with(x) (C++20) for zero allocation") [],
            .note ("this pattern creates a heap-allocated temporary on every call; critical in " ++
                "hot paths with high request rates")]⟩ },
      .provided "compare-prefix-eq-zero"
        (((stringMethod "compare").and (.test (.argumentCount 3))).and (.argument 0 .zeroLiteral))
        comparedWithZero
        fun _ _ =>
          [.message ("s.compare(0, n, x) == 0 is correct but verbose; use s.starts_with(x) " ++
              "(C++20) for clarity") []],
      .provided "compare-suffix-eq-zero"
        ((((Matcher.memberCall ["compare"]).and (.test (.classDeclares "ends_with"))).and
          (.test (.argumentCount 3))).and
          (.argument 0 (((Matcher.ofTag .binaryOperator).and (.test (.operator [.sub]))).and
            (.operand (.memberCall ["size", "length"])))))
        comparedWithZero
        fun _ _ =>
          [.message ("s.compare(s.size() - n, n, x) == 0 checks a suffix with manual index " ++
              "arithmetic; use s.ends_with(x) (C++20) for clarity") [],
            .note ("ends_with performs no allocation and cannot underflow when the suffix is " ++
                "longer than the string")]]

end CppAdvice.Checks
