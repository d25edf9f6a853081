import CppAdvice.Language.Tier
import CppAdvice.Text.Blank

/-!
# Language flags

The language options of a translation unit, one flag an edition, and the names of standards that
select them on a compiler's command line.
-/

namespace CppAdvice.Language

/-- Language options, one flag an edition. All flags off is plain C. -/
structure Flags where
  cplusplus : Bool := false
  cplusplus17 : Bool := false
  cplusplus20 : Bool := false
  cplusplus23 : Bool := false
  cplusplus26 : Bool := false
deriving Repr, DecidableEq

/-- The flags of a tier; every lower edition is implied. -/
def Flags.ofTier (tier : Tier) : Flags where
  cplusplus := true
  cplusplus17 := tier.atLeast .cpp17
  cplusplus20 := tier.atLeast .cpp20
  cplusplus23 := tier.atLeast .cpp23
  cplusplus26 := tier.atLeast .cpp26

/-- The highest tier whose flag is set. -/
def Flags.tier (flags : Flags) : Tier :=
  if flags.cplusplus26 then .cpp26
  else if flags.cplusplus23 then .cpp23
  else if flags.cplusplus20 then .cpp20
  else if flags.cplusplus17 then .cpp17
  else .unknown

/-- A name that is no language standard. -/
structure UnknownStandard where
  name : String
deriving Repr, DecidableEq

/-- The wording of the complaint. -/
def UnknownStandard.message (fault : UnknownStandard) : String :=
  "unrecognized language standard: " ++ fault.name

namespace Standard

/-- Text without any leading `-std=`. -/
def dropOption : List Char → List Char
  | '-' :: 's' :: 't' :: 'd' :: '=' :: s => dropOption s
  | s => s

/-- The tier that an edition after `c++` or `gnu++` names. -/
def editionTier? (edition : String) : Option Tier :=
  if edition ∈ ["98", "03", "11", "14", "0x", "1y"] then some .unknown
  else if edition ∈ ["17", "1z"] then some .cpp17
  else if edition ∈ ["20", "2a"] then some .cpp20
  else if edition ∈ ["23", "2b"] then some .cpp23
  else if edition ∈ ["26", "2c"] then some .cpp26
  else none

/-- The flags that a name in lower case selects: an edition of C++, or anything else that starts
like the name of a C standard. -/
def flagsOf? (name : List Char) : Option Flags :=
  let edition? := "c++".toList.isPrefixOf? name <|> "gnu++".toList.isPrefixOf? name
  match edition? with
  | some edition => (editionTier? (String.ofList edition)).map Flags.ofTier
  | none => if "c".toList.isPrefixOf name || "gnu".toList.isPrefixOf name then some {} else none

end Standard

/-- The flags that the name of a standard selects. Blanks around it and leading `-std=` do not
count, nor does the case of its letters. -/
def Flags.ofStandard (name : String) : Except UnknownStandard Flags :=
  match Standard.flagsOf? ((Standard.dropOption (Text.trim name.toList)).map Char.toLower) with
  | some flags => .ok flags
  | none => .error ⟨name⟩

end CppAdvice.Language
