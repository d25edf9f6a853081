import CppAdvice.Finding.Basic
import CppAdvice.Finding.Template
import CppAdvice.Tree.TranslationUnit

/-!
# Composing findings

The wording of a finding as a list of steps. Steps do not know the tier; composing them does. A
facility of a newer edition is advised where it is available, and named as a reason to upgrade where
it is not, so no step is lost at a lower tier except remarks that only make sense from some tier on.
-/

namespace CppAdvice

open CppAdvice.Language

/-- A part of the wording of a finding. -/
inductive Step where
  /-- The message, in place of any before it. -/
  | message (template : String) (args : List String)
  | note (text : String)
  | noteWith (template : String) (args : List String)
  /-- A remark that is left out below a tier. -/
  | noteAtLeast (required : Tier) (text : String)
  /-- A facility with the tier that has it, and the advice to use it. -/
  | upgrade (alternative : String) (since : Tier) (advice : String)
  /-- A replacement for the text of a node, in place of any before it. -/
  | fixit (node : Nat) (replacement : String)
deriving Repr, DecidableEq

/-- The remark that names a facility which the current tier does not have. -/
def replacementNote (alternative : String) (since current : Tier) : String :=
  alternative ++ " would be a better fit but requires " ++ since.label ++
    "; current standard is " ++
    current.label

/-- The wording of a finding. -/
structure Wording where
  message : String := ""
  notes : List Note := []
  fixit : Option FixIt := none
deriving Repr, DecidableEq

namespace Step

/-- The notes that a step adds at a tier. -/
def notes (tier : Tier) : Step → List Note
  | .note text => [{ message := text }]
  | .noteWith template args => [{ message := Template.render template args }]
  | .noteAtLeast required text => if tier.atLeast required then [{ message := text }] else []
  | .upgrade alternative since advice =>
    let text := if tier.atLeast since then advice else replacementNote alternative since tier
    [{ message := text, alternative := some alternative }]
  | .message _ _ | .fixit _ _ => []

/-- The replacement for the text of a node, if there is any text that is not blank. -/
def fixitAt? (u : TranslationUnit) (node : Nat) (replacement : String) : Option FixIt := do
  let range ← u.mainFileRange? node
  let replaced ← u.text? node
  if replaced.all Text.isBlank then none
  else some { range, replaced := String.ofList replaced, replacement }

/-- Adds a step to the wording. -/
def apply (u : TranslationUnit) (tier : Tier) (w : Wording) (step : Step) : Wording :=
  match step with
  | .message template args => { w with message := Template.render template args }
  | .fixit node replacement => { w with fixit := (fixitAt? u node replacement).or w.fixit }
  | step => { w with notes := w.notes ++ step.notes tier }

end Step

/-- The finding at a node, if the node has a place in the main file. -/
def compose (u : TranslationUnit) (tier : Tier) (check : Descriptor) (anchor : Nat)
    (steps : List Step) :
    Option Finding :=
  (u.mainFileRange? anchor).map fun range =>
    let w := steps.foldl (Step.apply u tier) {}
    { check
      level := .warn
      file := u.file
      range
      start := u.position range.first.toNat
      stop := u.position range.last.toNat
      message := w.message
      notes := w.notes
      fixit := w.fixit }

end CppAdvice
