import CppAdvice.Language.Flags
import CppAdvice.Tree.Node

/-!
# Documents

A document describes one translation unit: its file, its source text, the language it is written in,
the classes it knows and its syntax tree.
-/

namespace CppAdvice

/-- A class and the names of the methods that it declares. -/
structure ClassRecord where
  name : String
  methods : List String := []
deriving Repr, DecidableEq

/-- A description of one translation unit. The language is absent when the front end did not say. -/
structure Document where
  file : String := ""
  source : String := ""
  language : Option Language.Flags := none
  records : List ClassRecord := []
  root : Tree.Node
deriving Repr

end CppAdvice
