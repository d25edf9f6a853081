import CppAdvice.Json.Token

/-!
# Reading values

The value that a list of tokens starts with, and the tokens after it. The arrays and objects that
are still open are kept in a list of frames, so that reading takes one token at a time and ends with
the list. Where the tokens are no value, every open frame is closed around a `broken` one.
-/

namespace CppAdvice.Json

/-- An array or object that is still open, with what has been read of it, latest first. -/
inductive Frame where
  | items (done : List Json)
  | member (done : List (Key × Json)) (key : Key)

namespace Frame

/-- Closes a frame whose last item or member has the value `v`. -/
def close (v : Json) : Frame → Json
  | .items done => .array (v :: done).reverse
  | .member done key => .object ((key, v) :: done).reverse

/-- Closes all open frames around a value after which nothing can be read. -/
def closeAll (v : Json) (frames : List Frame) : Json :=
  frames.foldl close v

end Frame

/-- The key that a string literal stands for. -/
def Key.ofText : Option String → Key
  | some s => .name s
  | none => .garbled

mutual

/-- Reads a value inside the open frames. -/
def readValue (frames : List Frame) : List Token → Json × List Token
  | .null :: ts => readAfter .null frames ts
  | .bool b :: ts => readAfter (.bool b) frames ts
  | .number n :: ts => readAfter (.number n) frames ts
  | .string s :: ts => readAfter (.string s) frames ts
  | .openBracket :: .closeBracket :: ts => readAfter (.array []) frames ts
  | .openBracket :: ts => readValue (.items [] :: frames) ts
  | .openBrace :: .closeBrace :: ts => readAfter (.object []) frames ts
  | .openBrace :: ts => readMember [] frames ts
  | _ => (Frame.closeAll .broken frames, [])

/-- Reads the next member of an object of which `done` has been read. -/
def readMember (done : List (Key × Json)) (frames : List Frame) : List Token → Json × List Token
  | .string k :: .colon :: ts => readValue (.member done (.ofText k) :: frames) ts
  | .string k :: _ =>
    (Frame.closeAll (.object ((.ofText k, .broken) :: done).reverse) frames, [])
  | _ => (Frame.closeAll (.object ((.missing, .broken) :: done).reverse) frames, [])

/-- Goes on after the value `v` inside the open frames. -/
def readAfter (v : Json) : List Frame → List Token → Json × List Token
  | [], ts => (v, ts)
  | .items done :: frames, .comma :: ts => readValue (.items (v :: done) :: frames) ts
  | .items done :: frames, .closeBracket :: ts => readAfter (.array (v :: done).reverse) frames ts
  | .items done :: frames, _ => (Frame.closeAll (.array (.broken :: v :: done).reverse) frames, [])
  | .member done key :: frames, .comma :: ts => readMember ((key, v) :: done) frames ts
  | .member done key :: frames, .closeBrace :: ts =>
    readAfter (.object ((key, v) :: done).reverse) frames ts
  | .member done key :: frames, _ =>
    (Frame.closeAll (.object ((.missing, .broken) :: (key, v) :: done).reverse) frames, [])

end

/-- The value of a text, and whether nothing but blanks stands after it. -/
def parse (text : String) : Json × Bool :=
  let (v, rest) := readValue [] (Token.lex text.toList)
  (v, rest.isEmpty)

end CppAdvice.Json
