import CppAdvice.Json.Value
import CppAdvice.Text.Digit

/-!
# Tokens

Cutting a text into tokens. The grammar is strict: no comments, no leading zeros, no raw control
characters in strings. Where the text is no token, the list ends with `Token.bad`.
-/

namespace CppAdvice.Json

/-- The smallest parts of a text. -/
inductive Token where
  | openBracket
  | closeBracket
  | openBrace
  | closeBrace
  | comma
  | colon
  | null
  | bool (b : Bool)
  | number (n : Number)
  /-- A string literal; there is no text when it has half of a surrogate pair. -/
  | string (s : Option String)
  /-- The text is no token here. -/
  | bad
deriving Repr, DecidableEq

namespace Token

/-- The blanks allowed between tokens. -/
def isSpace (c : Char) : Bool :=
  c = ' ' || c = '\t' || c = '\n' || c = '\r'

/-- The number that four hexadecimal digits spell. -/
def hexUnit? (a b c d : Char) : Option Nat := do
  let a ← Text.digitValue? 16 a
  let b ← Text.digitValue? 16 b
  let c ← Text.digitValue? 16 c
  let d ← Text.digitValue? 16 d
  return ((a * 16 + b) * 16 + c) * 16 + d

/-- The character that a one-letter escape stands for. -/
def simpleEscape? : Char → Option Char
  | '"' => some '"'
  | '\\' => some '\\'
  | '/' => some '/'
  | 'b' => some '\x08'
  | 'f' => some '\x0c'
  | 'n' => some '\n'
  | 'r' => some '\r'
  | 't' => some '\t'
  | _ => none

/-- What one step through a string literal yields: a character, or half of a surrogate pair. -/
inductive Unit where
  | char (c : Char)
  | high (n : Nat)
  | low (n : Nat)

/-- The unit that a four-digit escape stands for. -/
def Unit.ofCode (n : Nat) : Unit :=
  if 0xD800 ≤ n ∧ n < 0xDC00 then .high (n - 0xD800)
  else if 0xDC00 ≤ n ∧ n < 0xE000 then .low (n - 0xDC00)
  else .char (Char.ofNat n)

/-- The text of a literal: halves of surrogate pairs are joined, and one on its own has no text. -/
def Unit.text? : List Unit → Option (List Char)
  | [] => some []
  | .char c :: us => (text? us).map (c :: ·)
  | .high h :: .low l :: us => (text? us).map (Char.ofNat (0x10000 + h * 0x400 + l) :: ·)
  | .high _ :: _ => none
  | .low _ :: _ => none

/-- The units of a string literal whose opening quote has been read, and the text after its closing
quote. -/
def scanUnits? : List Char → Option (List Unit × List Char)
  | [] => none
  | '"' :: s => some ([], s)
  | '\\' :: 'u' :: a :: b :: c :: d :: s => do
    let n ← hexUnit? a b c d
    let (us, rest) ← scanUnits? s
    return (Unit.ofCode n :: us, rest)
  | '\\' :: e :: s => do
    let c ← simpleEscape? e
    let (us, rest) ← scanUnits? s
    return (.char c :: us, rest)
  | c :: s =>
    if c.toNat < 0x20 then none
    else do
      let (us, rest) ← scanUnits? s
      return (.char c :: us, rest)

/-- Leading digits, and the text after them. -/
def scanDigits (s : List Char) : List Nat × List Char :=
  ((s.takeWhile Char.isDigit).map fun c => c.toNat - '0'.toNat, s.dropWhile Char.isDigit)

/-- The digits after a point; there is at least one when there is a point. -/
def scanFraction? : List Char → Option (List Nat × List Char)
  | '.' :: s =>
    match scanDigits s with
    | ([], _) => none
    | (digits, rest) => some (digits, rest)
  | s => some ([], s)

/-- The exponent of a literal, `none` inside when there is none; it has at least one digit. -/
def scanExponent? (s : List Char) : Option (Option Int × List Char) :=
  match s with
  | c :: s' =>
    if c = 'e' ∨ c = 'E' then
      let (negative, s'') := match s' with
        | '-' :: t => (true, t)
        | '+' :: t => (false, t)
        | t => (false, t)
      match scanDigits s'' with
      | ([], _) => none
      | (digits, rest) =>
        let n : Nat := digits.foldl (fun acc d => acc * 10 + d) 0
        some (some (if negative then -(n : Int) else n), rest)
    else some (none, s)
  | [] => some (none, [])

/-- The number literal whose sign has been read, and the text after it. -/
def scanNumber? (negative : Bool) (s : List Char) : Option (Number × List Char) :=
  match scanDigits s with
  | ([], _) => none
  | (0 :: _ :: _, _) => none
  | (whole, rest) => do
    let (fraction, rest') ← scanFraction? rest
    let (exponent, rest'') ← scanExponent? rest'
    match fraction, exponent with
    | [], none => return (Number.ofDigits negative whole, rest'')
    | _, _ => return (.decimal ⟨negative, whole, fraction, exponent.getD 0⟩, rest'')

/-- The token at the start of a text that starts with `c`, and the text after it. -/
def scan? (c : Char) (s : List Char) : Option (Token × List Char) :=
  match c with
  | '[' => some (.openBracket, s)
  | ']' => some (.closeBracket, s)
  | '\x7b' => some (.openBrace, s)
  | '\x7d' => some (.closeBrace, s)
  | ',' => some (.comma, s)
  | ':' => some (.colon, s)
  | 'n' => (['u', 'l', 'l'].isPrefixOf? s).map (.null, ·)
  | 't' => (['r', 'u', 'e'].isPrefixOf? s).map (.bool true, ·)
  | 'f' => (['a', 'l', 's', 'e'].isPrefixOf? s).map (.bool false, ·)
  | '"' => (scanUnits? s).map fun (us, rest) => (.string ((Unit.text? us).map String.ofList), rest)
  | '-' => (scanNumber? true s).map fun (n, rest) => (.number n, rest)
  | c => (scanNumber? false (c :: s)).map fun (n, rest) => (.number n, rest)

/-- A string literal takes up at least its closing quote. -/
theorem length_of_scanUnits? {s rest : List Char} {us : List Unit}
    (h : scanUnits? s = some (us, rest)) : rest.length < s.length := by
  fun_induction scanUnits? s generalizing us rest with
  | case1 => simp at h
  | case2 s => simp_all
  | case3 a b c d s ih =>
    simp only [Option.bind_eq_bind, Option.bind_eq_some_iff, Option.pure_def,
      Option.some.injEq] at h
    obtain ⟨_, _, ⟨_, r⟩, hr, h⟩ := h
    have := ih hr
    simp_all
    omega
  | case4 e s _ ih =>
    simp only [Option.bind_eq_bind, Option.bind_eq_some_iff, Option.pure_def,
      Option.some.injEq] at h
    obtain ⟨_, _, ⟨_, r⟩, hr, h⟩ := h
    have := ih hr
    simp_all
    omega
  | case5 => simp at h
  | case6 c s _ _ _ _ ih =>
    simp only [Option.bind_eq_bind, Option.bind_eq_some_iff, Option.pure_def,
      Option.some.injEq] at h
    obtain ⟨⟨_, r⟩, hr, h⟩ := h
    have := ih hr
    simp_all
    omega

/-- Digits and the text after them make up the text. -/
theorem length_scanDigits (s : List Char) :
    (scanDigits s).1.length + (scanDigits s).2.length = s.length := by
  simp only [scanDigits, List.length_map, ← List.length_append, List.takeWhile_append_dropWhile]

/-- A fraction does not lengthen the text. -/
theorem length_of_scanFraction? {s rest : List Char} {ds : List Nat}
    (h : scanFraction? s = some (ds, rest)) : rest.length ≤ s.length := by
  fun_cases scanFraction? s with
  | case1 s _ hs => simp [scanFraction?, hs] at h
  | case2 s ds' r hs hd =>
    have hl := length_scanDigits s
    simp only [scanFraction?, hd, Option.some.injEq, Prod.mk.injEq] at h
    simp only [hd] at hl
    simp only [List.length_cons, ← h.2]
    omega
  | case3 s hs =>
    simp only [scanFraction?, Option.some.injEq, Prod.mk.injEq] at h
    simp [h.2]

/-- An exponent does not lengthen the text. -/
theorem length_of_scanExponent? {s rest : List Char} {e : Option Int}
    (h : scanExponent? s = some (e, rest)) : rest.length ≤ s.length := by
  unfold scanExponent? at h
  split at h
  · rename_i c s'
    split at h
    · split at h
      rename_i negative s'' hs
      have hs'' : s''.length ≤ s'.length := by
        split at hs <;> simp_all
      have hl := length_scanDigits s''
      split at h
      · simp at h
      · rename_i hd
        simp only [hd] at hl
        simp only [Option.some.injEq, Prod.mk.injEq] at h
        simp only [List.length_cons, ← h.2]
        omega
    · simp_all
  · simp_all

/-- A number literal takes up at least one digit. -/
theorem length_of_scanNumber? {negative : Bool} {s rest : List Char} {n : Number}
    (h : scanNumber? negative s = some (n, rest)) : rest.length < s.length := by
  unfold scanNumber? at h
  have hl := length_scanDigits s
  split at h
  · simp at h
  · simp at h
  · rename_i whole r hne _ hd
    simp only [hd] at hl
    have hw : 0 < whole.length := List.length_pos_iff.2 hne
    simp only [Option.bind_eq_bind, Option.bind_eq_some_iff] at h
    obtain ⟨⟨fraction, r'⟩, hf, ⟨e, r''⟩, he, h⟩ := h
    have h1 : r'.length ≤ r.length := length_of_scanFraction? hf
    have h2 : r''.length ≤ r'.length := length_of_scanExponent? he
    have h3 : r'' = rest := by
      simp only at h
      split at h <;> simp_all
    subst h3
    omega

/-- Taking a word off the front does not lengthen the text. -/
theorem length_of_isPrefixOf? {w s rest : List Char} (h : w.isPrefixOf? s = some rest) :
    rest.length ≤ s.length := by
  induction w generalizing s with
  | nil =>
    have e : s = rest := Option.some.inj h
    exact Nat.le_of_eq (congrArg List.length e.symm)
  | cons a w ih =>
    cases s with
    | nil => cases h
    | cons b s =>
      change (if a == b then w.isPrefixOf? s else none) = some rest at h
      split at h
      · exact Nat.le_succ_of_le (ih h)
      · cases h

/-- Every token takes up at least one character. -/
theorem length_of_scan? {c : Char} {s rest : List Char} {t : Token}
    (h : scan? c s = some (t, rest)) : rest.length ≤ s.length := by
  unfold scan? at h
  split at h
  case h_7 | h_8 | h_9 =>
    simp only [Option.map_eq_some_iff, Prod.mk.injEq] at h
    obtain ⟨r, hr, -, rfl⟩ := h
    exact length_of_isPrefixOf? hr
  case h_10 =>
    simp only [Option.map_eq_some_iff, Prod.mk.injEq] at h
    obtain ⟨r, hr, -, rfl⟩ := h
    exact Nat.le_of_lt (length_of_scanUnits? hr)
  case h_11 =>
    simp only [Option.map_eq_some_iff, Prod.mk.injEq] at h
    obtain ⟨r, hr, -, rfl⟩ := h
    exact Nat.le_of_lt (length_of_scanNumber? hr)
  case h_12 =>
    simp only [Option.map_eq_some_iff, Prod.mk.injEq] at h
    obtain ⟨r, hr, -, rfl⟩ := h
    exact Nat.le_of_lt_succ (length_of_scanNumber? hr)
  all_goals
    simp only [Option.some.injEq, Prod.mk.injEq] at h
    exact Nat.le_of_eq (congrArg List.length h.2.symm)

/-- The tokens of a text, up to the first place where it has none. -/
def lex : List Char → List Token
  | [] => []
  | c :: s =>
    if isSpace c then lex s
    else match _h : scan? c s with
      | some (t, rest) => t :: lex rest
      | none => [.bad]
termination_by s => s.length
decreasing_by
  · simp
  · exact Nat.lt_succ_of_le (length_of_scan? _h)

end Token

end CppAdvice.Json
