import CppAdvice.Text.Pieces

/-!
# Message templates

A template is a text with numbered placeholders such as `{0}`. Each placeholder that has an argument
is replaced by it, once and from the left; everything else stays as it is.
-/

namespace CppAdvice.Template

/-- The argument that a placeholder stands for, and the text after the placeholder, when its opening
brace has been read. A placeholder has the number of its argument in decimal digits, which has to
fit a machine word. -/
def placeholder? (args : List String) (s : List Char) : Option (String × List Char) :=
  let digits := s.takeWhile Char.isDigit
  match s.dropWhile Char.isDigit with
  | '\x7d' :: rest =>
    let index := digits.foldl (fun n c => n * 10 + (c.toNat - '0'.toNat)) 0
    if digits.isEmpty ∨ UInt64.size ≤ index then none
    else args[index]?.map fun arg => (arg, rest)
  | _ => none

/-- A placeholder takes up at least its closing brace. -/
theorem length_of_placeholder? {args : List String} {s rest : List Char} {arg : String}
    (h : placeholder? args s = some (arg, rest)) : rest.length < s.length := by
  unfold placeholder? at h
  have hl : (s.takeWhile Char.isDigit).length + (s.dropWhile Char.isDigit).length = s.length := by
    rw [← List.length_append, List.takeWhile_append_dropWhile]
  split at h
  · rename_i r hr
    dsimp only at h
    split at h
    · simp at h
    · simp only [Option.map_eq_some_iff, Prod.mk.injEq] at h
      obtain ⟨_, _, _, rfl⟩ := h
      rw [hr, List.length_cons] at hl
      omega
  · simp at h

/-- The template with its placeholders filled in. -/
def renderChars (args : List String) : List Char → List Char
  | [] => []
  | c :: s =>
    if c = '\x7b' then
      match _h : placeholder? args s with
      | some (arg, rest) => arg.toList ++ renderChars args rest
      | none => c :: renderChars args s
    else c :: renderChars args s
termination_by s => s.length
decreasing_by
  · exact Nat.lt_succ_of_lt (length_of_placeholder? _h)
  · simp
  · simp

/-- The template with its placeholders filled in. -/
def render (template : String) (args : List String) : String :=
  String.ofList (renderChars args template.toList)

end CppAdvice.Template
