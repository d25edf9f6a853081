import CppAdvice.Text.Pieces

/-!
# Lines

The lines of a text end at a newline, or at a carriage return and a newline. A final newline starts
no new line.
-/

namespace CppAdvice.Text

/-- A line without the carriage return at its end. -/
def dropReturn (line : List Char) : List Char :=
  (dropEnd? ['\r'] line).getD line

/-- Makes lines of the pieces between newlines: all but the last piece ended with a newline. -/
def linesOfPieces : List (List Char) → List (List Char)
  | [] => []
  | [last] => if last.isEmpty then [] else [last]
  | piece :: pieces => dropReturn piece :: linesOfPieces pieces

/-- The lines of a text. -/
def lines (s : List Char) : List (List Char) :=
  linesOfPieces (s.splitOn '\n')

end CppAdvice.Text
