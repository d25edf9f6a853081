import CppAdvice.Check.Describe

/-!
# Advice on output

Streams, flushing and formatted output.
-/

namespace CppAdvice.Checks

open CppAdvice.Tree Describe

/-- Line ends that flush the stream. -/
def avoidStdEndl : Check where
  descriptor :=
    { id := "baseline-performance.avoid-std-endl"
      category := .baselinePerformance
      minTier := .unknown
      description := "std::endl flushes the stream on every use"
      fix := some "replace std::endl with '\\n'" }
  rules :=
    [.always "endl" (.declRef ["::std::endl"])
      fun _ id =>
        [.message ("std::endl forces a stream flush on every call; use '\\n' instead: up to 10x " ++
            "faster in I/O-intensive code") [],
          .note ("if you need an explicit flush, call stream.flush() separately to make the " ++
              "intent clear"),
          .fixit id "'\\n'"]]

/-- The streams that all threads share. -/
def avoidCoutCerr : Check where
  descriptor :=
    { id := "baseline-performance.avoid-cout-cerr"
      category := .baselinePerformance
      minTier := .unknown
      description := "global iostreams synchronize through a process-wide lock" }
  rules :=
    [.always "global-stream" (.declRef ["::std::cout", "::std::cerr", "::std::clog"])
      fun u id =>
        [.message ("{0} uses a global mutex (sync_with_stdio) causing contention in " ++
            "multi-threaded code; avoid in production services")
            [(target? u id).getD "std::cout"],
          .note ("use a logging framework (spdlog, glog, or custom) that supports async " ++
              "logging, log levels, and structured output"),
          .note ("for non-logging output, consider fmt::print or std::format (C++20) with " ++
              "explicit file descriptor writes")]]

/-- The streams that write into a string. -/
def stringStreams : Pattern.Name :=
  .any ["::std::stringstream", "::std::ostringstream", "::std::istringstream",
    "::std::basic_stringstream", "::std::basic_ostringstream", "::std::basic_istringstream"]

/-- Formatting through streams or without type checks. -/
def preferFormat : Check where
  descriptor :=
    { id := "standard-upgrade.prefer-format"
      category := .standardUpgrade
      minTier := .cpp20
      description := "string streams and printf-style formatting should move to std::format" }
  rules :=
    [.always "stringstream-var" ((Matcher.ofTag .varDecl).and (.typed (.named stringStreams)))
        fun _ _ =>
          [.message ("std::stringstream has significant overhead: virtual dispatch, locale " ++
              "handling, and heap allocation; prefer std::format (C++20)") [],
            .note "std::format is type-safe, faster, and validates format strings at compile time",
            .upgrade "std::print" .cpp23
              ("for direct output use std::print/std::println (C++23); avoids intermediate " ++
                  "string allocation entirely")],
      .always "sprintf-call"
        (.callTo ["::sprintf", "::snprintf", "::std::sprintf", "::std::snprintf"])
        fun _ _ =>
          [.message ("sprintf/snprintf are not type-safe and risk buffer overflow; prefer " ++
              "std::format (C++20) or std::format_to for pre-allocated buffers") [],
            .note ("std::format_to writes into an output iterator, allowing direct output to a " ++
                "pre-sized buffer without intermediate string allocation")],
      .always "fprintf-call" (.callTo ["::fprintf", "::std::fprintf"])
        fun _ _ =>
          [.message ("fprintf is not type-safe; prefer std::format (C++20) with explicit write, " ++
              "or std::print (C++23) for direct output") [],
            .upgrade "std::print" .cpp23
              ("std::print(stream, fmt, args...) provides type-safe formatted output directly " ++
                  "to a stream (C++23)")]]

/-- Output that could be printed directly. Of a chain of shifts, only the innermost one has the
stream itself on its left. -/
def preferPrint : Check where
  descriptor :=
    { id := "standard-upgrade.prefer-print"
      category := .standardUpgrade
      minTier := .cpp23
      description := "C stdio and iostream output should use std::print/std::println" }
  rules :=
    [.always "printf-call" (.callTo ["::printf", "::puts", "::std::printf", "::std::puts"])
        fun _ _ =>
          [.message ("printf/puts is not type-safe; use std::print/std::println (C++23) with " ++
              "compile-time format validation") [],
            .note ("std::print writes directly without global mutex contention and supports " ++
                "user-defined types via std::formatter")],
      .always "fprintf-call" (.callTo ["::fprintf", "::fputs", "::std::fprintf", "::std::fputs"])
        fun _ _ =>
          [.message ("fprintf/fputs is not type-safe; use std::print(stream, fmt, args...) " ++
              "(C++23)") []],
      .always "stream-shift"
        (((Matcher.ofTag .operatorCallExpr).and (.test (.operator [.shl]))).and
          (.argument 0 (.declRef ["::std::cout", "::std::cerr"])))
        fun _ _ =>
          [.message ("cout/cerr << chain has global mutex contention and stateful formatting; " ++
              "use std::print/std::println (C++23)") [],
            .note ("std::println handles newline automatically without flush overhead, and " ++
                "formatting is localized to each call")]]

end CppAdvice.Checks
