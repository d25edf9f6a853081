import CppAdvice.Catalog
import CppAdvice.Checks.Callables
import CppAdvice.Checks.Containers
import CppAdvice.Checks.Dispatch
import CppAdvice.Checks.Errors
import CppAdvice.Checks.Output
import CppAdvice.Checks.Ownership
import CppAdvice.Checks.Strings

/-!
# The checks that run

All checks in the order in which they report, their catalog, and the choice of those that run.
-/

namespace CppAdvice

/-- Choices that checks leave open. -/
structure Options where
  /-- The largest size of an array that counts as small. -/
  maxInplaceSize : Nat := 64
deriving Repr, DecidableEq

open Checks in
/-- All checks, in the order in which they report. -/
def allChecks (options : Options) : List Check :=
  [avoidStdFunction, avoidStdRegex, avoidStdEndl, preferVector, preferStringView, preferFromChars,
    avoidStdAny, preferUniquePtr, preferReserve, avoidDynamicCast, avoidStdBind, preferEmplace,
    preferNoexceptMove, avoidCoutCerr, avoidVirtualInLoop,
    preferJthread, preferFormat, preferSpan, preferStartsEndsWith, preferContains, preferEraseIf,
    preferFlatContainers,
    preferExpected, preferMoveOnlyFunction, preferUnreachable, preferToUnderlying, preferPrint,
    preferFunctionRef, preferInplaceVector options.maxInplaceSize,
    preferCopyableFunction, preferHive]

/-- The catalog of all checks. -/
def catalog : Catalog :=
  .ofList ((allChecks {}).map (·.descriptor))

/-- The names of checks from before they had categories, each with the id that it stands for. -/
def aliases : List (String × String) :=
  [("hl-perf-avoid-std-function", "baseline-performance.avoid-std-function"),
    ("hl-perf-avoid-std-regex", "baseline-performance.avoid-std-regex"),
    ("hl-perf-avoid-std-endl", "baseline-performance.avoid-std-endl"),
    ("hl-perf-prefer-vector", "baseline-performance.prefer-vector"),
    ("hl-perf-prefer-string-view", "baseline-performance.prefer-string-view"),
    ("hl-perf-prefer-from-chars", "baseline-performance.prefer-from-chars"),
    ("hl-perf-avoid-std-any", "baseline-performance.avoid-std-any"),
    ("hl-perf-prefer-unique-ptr", "baseline-performance.prefer-unique-ptr"),
    ("hl-perf-prefer-reserve", "baseline-performance.prefer-reserve"),
    ("hl-perf-avoid-dynamic-cast", "baseline-performance.avoid-dynamic-cast"),
    ("hl-perf-avoid-std-bind", "baseline-performance.avoid-std-bind"),
    ("hl-perf-prefer-emplace", "baseline-performance.prefer-emplace"),
    ("hl-perf-prefer-noexcept-move", "baseline-performance.prefer-noexcept-move"),
    ("hl-perf-avoid-cout-cerr", "baseline-performance.avoid-cout-cerr"),
    ("hl-perf-avoid-virtual-in-loop", "baseline-performance.avoid-virtual-in-loop"),
    ("hl-modernize-prefer-jthread", "standard-upgrade.prefer-jthread"),
    ("hl-modernize-prefer-format", "standard-upgrade.prefer-format"),
    ("hl-modernize-prefer-span", "standard-upgrade.prefer-span"),
    ("hl-modernize-prefer-starts-ends-with", "standard-upgrade.prefer-starts-ends-with"),
    ("hl-modernize-prefer-contains", "standard-upgrade.prefer-contains"),
    ("hl-modernize-prefer-erase-if", "standard-upgrade.prefer-erase-if"),
    ("hl-modernize-prefer-flat-containers", "standard-upgrade.prefer-flat-containers"),
    ("hl-modernize-prefer-expected", "standard-upgrade.prefer-expected"),
    ("hl-modernize-prefer-move-only-function", "standard-upgrade.prefer-move-only-function"),
    ("hl-modernize-prefer-unreachable", "standard-upgrade.prefer-unreachable"),
    ("hl-modernize-prefer-to-underlying", "standard-upgrade.prefer-to-underlying"),
    ("hl-modernize-prefer-print", "standard-upgrade.prefer-print"),
    ("hl-modernize-prefer-function-ref", "standard-upgrade.prefer-function-ref"),
    ("hl-modernize-prefer-inplace-vector", "standard-upgrade.prefer-inplace-vector"),
    ("hl-modernize-prefer-copyable-function", "standard-upgrade.prefer-copyable-function"),
    ("hl-modernize-prefer-hive", "standard-upgrade.prefer-hive")]

/-- The id that a name of a check stands for. -/
def resolveCheck (name : String) : String :=
  catalog.resolve aliases name

/-- A name that is no check's. -/
structure UnknownCheck where
  name : String
deriving Repr, DecidableEq

/-- The wording of the complaint. -/
def UnknownCheck.message (fault : UnknownCheck) : String :=
  "unknown check: " ++ fault.name

/-- The checks that run, in order. -/
structure Registry where
  checks : List Check

namespace Registry

/-- All checks. -/
def default (options : Options) : Registry :=
  ⟨allChecks options⟩

/-- Whether a name stands for a check. -/
def isKnown (name : String) : Bool :=
  (catalog.get? (resolveCheck name)).isSome

/-- Whether some of the names stands for the check with the given id. -/
def names (list : List String) (id : String) : Bool :=
  list.any fun name => resolveCheck name = id

/-- The checks that are named in `only`, or all if it is empty, without those named in `skip` or
`disabled`. The first name that is no check's is an error. -/
def filtered (only skip disabled : List String) (options : Options) :
    Except UnknownCheck Registry :=
  match (only ++ skip ++ disabled).find? fun name => !isKnown name with
  | some name => .error ⟨name⟩
  | none =>
    .ok ⟨(allChecks options).filter fun check =>
      let id := check.descriptor.id
      (only.isEmpty || names only id) && !names (skip ++ disabled) id⟩

/-- The descriptor of a check that runs, by any of its names. -/
def find? (r : Registry) (name : String) : Option Descriptor :=
  (r.checks.map (·.descriptor)).find? (·.id = resolveCheck name)

/-- The checks that run on a unit with the given language. -/
def eligible (r : Registry) (language : Language.Flags) : List Check :=
  r.checks.filter (·.descriptor.isEligible language)

end Registry

end CppAdvice
