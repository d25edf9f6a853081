import CppAdvice.Settings
import CppAdvice.Suppression.Coverage

/-!
# Runs

All checks over one unit. Every node is visited once, in preorder; at each node the rules of every
eligible check are tried in order. What a rule has to say becomes a finding if it has a place in the
main file, is reported if its check may report, and is counted if a comment silences it.
-/

namespace CppAdvice

/-- The checks that run, their levels, and the language of units that do not say. -/
structure Engine where
  registry : Registry
  settings : Settings := {}
  fallback : Language.Flags := .ofTier .unknown

/-- A match of a rule of a check at a node. -/
structure Hit where
  node : Nat
  check : Check
  rule : Rule
  bindings : Matcher.Bindings

/-- The counts of a run. -/
structure Summary where
  tier : Language.Tier
  /-- The number of checks that could run. -/
  eligible : Nat
  /-- The number of matches. -/
  hits : Nat
  /-- The number of findings that were handed on. -/
  emitted : Nat
  /-- The number of findings that a comment silences. -/
  suppressed : Nat
deriving Repr, DecidableEq

/-- The outcome of a run: its counts, and the findings that it hands on. -/
structure Run extends Summary where
  findings : List Finding
deriving Repr, DecidableEq

/-- What a run has done so far: the findings that it has handed on, behind those that were there
before, and its counts. -/
structure Progress where
  sink : Array Finding
  hits : Nat := 0
  emitted : Nat := 0
  suppressed : Nat := 0

/-- The finding that a match leads to. -/
def Hit.finding? (hit : Hit) (u : TranslationUnit) (tier : Language.Tier) : Option Finding :=
  (hit.rule.verdict u hit.bindings).bind fun advice =>
    compose u tier hit.check.descriptor advice.anchor advice.steps

namespace Engine

/-- All checks with the given options and nothing switched off. -/
def default (options : Options) : Engine where
  registry := .default options

/-- The unit that a document describes. -/
def unit (e : Engine) (d : Document) : TranslationUnit :=
  .ofDocument d e.fallback

/-- Hands a finding on, unless its check may not report or a comment silences it. -/
def report (e : Engine) (coverage : Suppression.Coverage) (p : Progress) : Option Finding → Progress
  | none => p
  | some finding =>
    let level := e.settings.levelFor finding.check.id
    if level = .allow then p
    else if coverage.covers finding.start.row finding.check then
      { p with suppressed := p.suppressed + 1 }
    else { p with sink := p.sink.push { finding with level }, emitted := p.emitted + 1 }

/-- Tries a rule of a check at a node. -/
def tryRule (e : Engine) (u : TranslationUnit) (coverage : Suppression.Coverage) (node : Nat)
    (check : Check) (p : Progress) (rule : Rule) : Progress :=
  match rule.matcher.match? u node with
  | none => p
  | some bindings =>
    let hit : Hit := { node, check, rule, bindings }
    e.report coverage { p with hits := p.hits + 1 } (hit.finding? u u.language.tier)

/-- Visits every node in preorder, and tries the rules of every check there. -/
def walk (e : Engine) (u : TranslationUnit) (coverage : Suppression.Coverage) (checks : List Check)
    (p : Progress) : Progress :=
  u.preorder.foldl (fun p node =>
    checks.foldl (fun p check => check.rules.foldl (e.tryRule u coverage node check) p) p) p

/-- Runs the checks over a unit and hands the findings on, behind those that are there already. -/
def analyzeInto (e : Engine) (u : TranslationUnit) (sink : Array Finding) :
    Summary × Array Finding :=
  let eligible := e.registry.eligible u.language
  let p := e.walk u (.ofSource u.source) eligible { sink }
  let summary : Summary :=
    { tier := u.language.tier
      eligible := eligible.length
      hits := p.hits
      emitted := p.emitted
      suppressed := p.suppressed }
  (summary, p.sink)

/-- Runs the checks over a unit. -/
def run (e : Engine) (u : TranslationUnit) : Run :=
  let (summary, sink) := e.analyzeInto u #[]
  { summary with findings := sink.toList }

/-- The findings on a unit. -/
def analyze (e : Engine) (u : TranslationUnit) : List Finding :=
  (e.run u).findings

end Engine

end CppAdvice
