import CppAdvice.Json.Parser
import CppAdvice.Json.Printer
import Mathlib.Data.List.Basic
import Mathlib.Tactic.Lemma
import Mathlib.Tactic.SplitIfs

/-!
# Written values are read back

The text of a value, cut into tokens and read again, is the value (`parse_render`). Each half is
proved for whatever stands behind the value: its text is cut into its tokens and those of the rest
(`lex_renderChars`), and its tokens are read as the value inside any frames (`readValue_tokens`).
Only a number could swallow what comes after it, so the first half asks that the rest goes on with
no digit, point or exponent (`Separate`).
-/

namespace CppAdvice.Json

mutual

/-- Whether a value is made up of nulls, booleans, whole numbers of 64 bits, texts, arrays and
objects. -/
def isPlain : Json → Bool
  | .null | .bool _ | .number (.natural _) | .string (some _) => true
  | .array items => arePlain items
  | .object members => arePlainMembers members
  | _ => false

/-- Whether all items are plain. -/
def arePlain : List Json → Bool
  | [] => true
  | v :: items => v.isPlain && arePlain items

/-- Whether all members have names, and plain values. -/
def arePlainMembers : List (Key × Json) → Bool
  | [] => true
  | (.name _, v) :: members => v.isPlain && arePlainMembers members
  | _ :: _ => false

end

/-- The token of the key of a member. -/
def Key.token : Key → Token
  | .name s => .string (some s)
  | .garbled | .missing => .string (some "")

mutual

/-- The tokens of a value. -/
def tokens : Json → List Token
  | .null | .broken => [.null]
  | .bool b => [.bool b]
  | .number n => [.number n]
  | .string s => [.string s]
  | .array items => .openBracket :: (tokensOfItems items ++ [.closeBracket])
  | .object members => .openBrace :: (tokensOfMembers members ++ [.closeBrace])

/-- The tokens of the items of an array, with commas between them. -/
def tokensOfItems : List Json → List Token
  | [] => []
  | [v] => v.tokens
  | v :: items => v.tokens ++ .comma :: tokensOfItems items

/-- The tokens of the members of an object, with commas between them. -/
def tokensOfMembers : List (Key × Json) → List Token
  | [] => []
  | [(k, v)] => k.token :: .colon :: v.tokens
  | (k, v) :: members => k.token :: .colon :: (v.tokens ++ .comma :: tokensOfMembers members)

end

/-! ## String literals -/

namespace Token

/-- A control character is found again in the two digits that it is written with. -/
lemma hexUnit?_control :
    ∀ n < 0x20, hexUnit? '0' '0' (hexDigit (n / 16)) (hexDigit (n % 16)) = some n := by
  decide

/-- The units of a literal with one more character in front. -/
def withChar (c : Char) (p : List Unit × List Char) : List Unit × List Char :=
  (.char c :: p.1, p.2)

/-- A character that has an escape of its own is found again. -/
lemma scanUnits?_simpleEscape {e c : Char} (he : e ≠ 'u') (hc : simpleEscape? e = some c)
    (s : List Char) :
    scanUnits? ('\\' :: e :: s) = (scanUnits? s).map (withChar c) := by
  rw [scanUnits?.eq_4 e s fun _ _ _ _ _ hu _ => he hu, hc]
  cases scanUnits? s <;> rfl

/-- An escaped character is read as that character. -/
lemma scanUnits?_escapeChar (c : Char) (s : List Char) :
    scanUnits? (escapeChar c ++ s) = (scanUnits? s).map (withChar c) := by
  rw [escapeChar]
  split_ifs with hquote hslash hback htab hline hfeed hreturn hcontrol
  case pos => subst hquote; exact scanUnits?_simpleEscape (by decide) rfl s
  case pos => subst hslash; exact scanUnits?_simpleEscape (by decide) rfl s
  case pos => subst hback; exact scanUnits?_simpleEscape (by decide) rfl s
  case pos => subst htab; exact scanUnits?_simpleEscape (by decide) rfl s
  case pos => subst hline; exact scanUnits?_simpleEscape (by decide) rfl s
  case pos => subst hfeed; exact scanUnits?_simpleEscape (by decide) rfl s
  case pos => subst hreturn; exact scanUnits?_simpleEscape (by decide) rfl s
  case pos =>
    have hcode : Unit.ofCode c.toNat = .char c := by
      rw [Unit.ofCode, if_neg (by omega), if_neg (by omega), Char.ofNat_toNat]
    change scanUnits? ('\\' :: 'u' :: '0' :: '0' :: _ :: _ :: s) = _
    rw [scanUnits?, hexUnit?_control c.toNat hcontrol]
    cases scanUnits? s with
    | none => rfl
    | some p => simp [hcode, withChar]
  case neg =>
    rw [List.singleton_append,
      scanUnits?.eq_5 c s hquote (fun _ _ _ _ _ h _ => hslash h) (fun _ _ h _ => hslash h),
      if_neg hcontrol]
    cases scanUnits? s <;> rfl
/-- A text whose characters are escaped is found again, up to the closing quote. -/
lemma scanUnits?_escaped (s rest : List Char) :
    scanUnits? (s.flatMap escapeChar ++ '"' :: rest) = some (s.map .char, rest) := by
  induction s with
  | nil => rw [List.flatMap_nil, List.nil_append, scanUnits?, List.map_nil]
  | cons c s ih =>
    rw [List.flatMap_cons, List.append_assoc, scanUnits?_escapeChar, ih]
    rfl

/-- Characters that were read one by one make up the text. -/
lemma text?_chars (s : List Char) : Unit.text? (s.map .char) = some s := by
  induction s with
  | nil => rfl
  | cons c s ih => rw [List.map_cons, Unit.text?, ih, Option.map_some]

/-! ## Numbers -/

/-- A text that does not go on with a number. -/
def Separate (s : List Char) : Prop :=
  ∀ c ∈ s.head?, c.isDigit = false ∧ c ≠ '.' ∧ c ≠ 'e' ∧ c ≠ 'E'

/-- A positive number is written without a leading zero. -/
lemma head?_toDigits {n : Nat} (h : 0 < n) : (Nat.toDigits 10 n).head? ≠ some '0' := by
  induction n using Nat.strongRecOn with
  | ind n ih =>
    by_cases hn : n < 10
    · have hdigit : ∀ m < 10, 0 < m → some m.digitChar ≠ some '0' := by decide
      rw [Nat.toDigits_of_lt_base hn]
      exact hdigit n hn h
    · rw [Nat.toDigits_of_base_le (by decide) (by omega),
        List.head?_append_of_ne_nil _ Nat.toDigits_ne_nil]
      exact ih (n / 10) (by omega) (by omega)

/-- The digits of a number are read as digits that spell it, none of them in vain. -/
lemma scanDigits_decimalDigits (n : Nat) {rest : List Char} (h : Separate rest) :
    ∃ ds, scanDigits (Text.decimalDigits n ++ rest) = (ds, rest) ∧ ds ≠ [] ∧
      (∀ d es, ds ≠ 0 :: d :: es) ∧
      ds.foldl (fun acc d => acc * 10 + d) 0 = n := by
  have hdigits : ∀ c ∈ Nat.toDigits 10 n, c.isDigit = true :=
    fun c hc => Nat.isDigit_of_mem_toDigits (by decide) (by decide) hc
  have hrest : rest.takeWhile Char.isDigit = [] ∧ rest.dropWhile Char.isDigit = rest := by
    cases rest with
    | nil => exact ⟨rfl, rfl⟩
    | cons c s =>
      have hc : ¬c.isDigit = true := by rw [(h c rfl).1]; exact Bool.false_ne_true
      exact ⟨List.takeWhile_cons_of_neg hc, List.dropWhile_cons_of_neg hc⟩
  refine ⟨(Nat.toDigits 10 n).map fun c => c.toNat - '0'.toNat, ?_, ?_, ?_, ?_⟩
  · rw [Text.decimalDigits, scanDigits, List.takeWhile_append_of_pos hdigits,
      List.dropWhile_append_of_pos hdigits, hrest.1, hrest.2, List.append_nil]
  · exact fun hnil => Nat.toDigits_ne_nil (List.map_eq_nil_iff.1 hnil)
  · intro d es hzero
    obtain ⟨c, cs, hn, hc, hcs⟩ := List.map_eq_cons_iff.1 hzero
    have hdigit := Char.isDigit_iff_toNat.1 (hdigits c (by rw [hn]; exact List.mem_cons_self))
    have hc : c = '0' := Char.toNat_inj.1 (by omega)
    subst hc
    cases n with
    | zero =>
      obtain ⟨-, rfl⟩ := List.cons.inj hn
      cases hcs
    | succ n => exact head?_toDigits (Nat.succ_pos n) (by rw [hn]; rfl)
  · have hn : Nat.ofDigitChars 10 (Nat.toDigits 10 n) 0 = n := Nat.ofDigitChars_ten_toDigits
    rw [Nat.ofDigitChars_eq_foldl] at hn
    rw [List.foldl_map]
    simpa only [Nat.mul_comm] using hn

/-- What sets a number apart starts no fraction. -/
lemma scanFraction?_separate {rest : List Char} (h : Separate rest) :
    scanFraction? rest = some ([], rest) := by
  cases rest with
  | nil => rfl
  | cons c s => exact scanFraction?.eq_2 (c :: s) fun _ hc => (h c rfl).2.1 (List.cons.inj hc).1

/-- What sets a number apart starts no exponent. -/
lemma scanExponent?_separate {rest : List Char} (h : Separate rest) :
    scanExponent? rest = some (none, rest) := by
  cases rest with
  | nil => rfl
  | cons c s =>
    obtain ⟨-, -, he, hE⟩ := h c rfl
    exact if_neg (not_or.2 ⟨he, hE⟩)

/-- A number is found again in its digits. -/
lemma scanNumber?_decimalDigits (n : UInt64) {rest : List Char} (h : Separate rest) :
    scanNumber? false (Text.decimalDigits n.toNat ++ rest) = some (.natural n, rest) := by
  obtain ⟨ds, hscan, hne, hzero, hvalue⟩ := scanDigits_decimalDigits n.toNat h
  have hnumber : Number.ofDigits false ds = .natural n := by
    rw [Number.ofDigits, hvalue]
    simp [n.toNat_lt_size]
  rw [scanNumber?, hscan]
  split
  · rename_i hds
    exact absurd (Prod.mk.inj hds).1 hne
  · rename_i hds
    exact absurd (Prod.mk.inj hds).1 (hzero _ _)
  · rename_i hds
    obtain ⟨rfl, rfl⟩ := Prod.mk.inj hds
    simp [scanFraction?_separate h, scanExponent?_separate h, hnumber]

/-- A digit starts a number. -/
lemma scan?_of_isDigit {c : Char} (h : c.isDigit = true) (s : List Char) :
    scan? c s = (scanNumber? false (c :: s)).map fun (n, rest) => (.number n, rest) := by
  rw [scan?]
  · rintro rfl; revert h; decide
  · rintro rfl; revert h; decide
  · rintro rfl; revert h; decide
  · rintro rfl; revert h; decide
  · rintro rfl; revert h; decide
  · rintro rfl; revert h; decide
  · rintro rfl; revert h; decide
  · rintro rfl; revert h; decide
  · rintro rfl; revert h; decide
  · rintro rfl; revert h; decide
  · rintro rfl; revert h; decide

/-! ## Tokens of a text -/

/-- The first token of a text is what is scanned at its start. -/
lemma lex_of_scan? {c : Char} {s rest : List Char} {t : Token} (hc : isSpace c = false)
    (h : scan? c s = some (t, rest)) : lex (c :: s) = t :: lex rest := by
  rw [lex, if_neg (by rw [hc]; exact Bool.false_ne_true)]
  split
  · rename_i h'
    rw [h] at h'
    cases h'
    rfl
  · rename_i h'
    rw [h] at h'
    cases h'

/-- A text in quotes is one token. -/
lemma lex_renderString (s : String) (rest : List Char) :
    lex (renderString s.toList ++ rest) = .string (some s) :: lex rest := by
  have hscan :
      scan? '"' (s.toList.flatMap escapeChar ++ '"' :: rest) = some (.string (some s), rest) := by
    rw [scan?, scanUnits?_escaped]
    simp only [Option.map_some, text?_chars, String.ofList_toList]
  rw [renderString, List.cons_append, List.append_assoc]
  exact lex_of_scan? rfl hscan

/-- A number is one token. -/
lemma lex_decimalDigits (n : UInt64) {rest : List Char} (h : Separate rest) :
    lex (Text.decimalDigits n.toNat ++ rest) = .number (.natural n) :: lex rest := by
  have hscan := scanNumber?_decimalDigits n h
  cases hdigits : Text.decimalDigits n.toNat with
  | nil => exact absurd hdigits Nat.toDigits_ne_nil
  | cons c cs =>
    have hc : c.isDigit = true := by
      apply Nat.isDigit_of_mem_toDigits (b := 10) (n := n.toNat) (by decide) (by decide)
      rw [← Text.decimalDigits, hdigits]
      exact List.mem_cons_self
    have hspace : isSpace c = false := by
      by_contra hspace
      simp only [isSpace, Bool.not_eq_false, Bool.or_eq_true, decide_eq_true_eq] at hspace
      rcases hspace with ((rfl | rfl) | rfl) | rfl <;> exact absurd hc (by decide)
    rw [hdigits, List.cons_append] at hscan
    rw [List.cons_append]
    apply lex_of_scan? hspace
    rw [scan?_of_isDigit hc, hscan, Option.map_some]

/-- A character that continues no number sets one apart. -/
lemma separate_cons {c : Char} (h : c.isDigit = false ∧ c ≠ '.' ∧ c ≠ 'e' ∧ c ≠ 'E')
    (s : List Char) :
    Separate (c :: s) := by
  intro c' hc'
  cases hc'
  exact h

end Token

open Token

/-- A key is one token. -/
lemma lex_key {k : Key} (rest : List Char) : lex (k.render ++ rest) = k.token :: lex rest := by
  cases k with
  | name s => exact lex_renderString s rest
  | garbled => exact lex_renderString "" rest
  | missing => exact lex_renderString "" rest

/-- Two or more items are written with a comma behind the first. -/
lemma renderItems_cons (v w : Json) (items : List Json) :
    renderItems (v :: w :: items) = v.renderChars ++ ',' :: renderItems (w :: items) :=
  rfl

/-- Two or more members are written with a comma behind the first. -/
lemma renderMembers_cons (k : Key) (v : Json) (m : Key × Json) (members : List (Key × Json)) :
    renderMembers ((k, v) :: m :: members) =
      k.render ++ ':' :: (v.renderChars ++ ',' :: renderMembers (m :: members)) :=
  rfl

/-- The tokens of two or more items have a comma behind those of the first. -/
lemma tokensOfItems_cons (v w : Json) (items : List Json) :
    tokensOfItems (v :: w :: items) = v.tokens ++ .comma :: tokensOfItems (w :: items) :=
  rfl

/-- The tokens of two or more members have a comma behind those of the first. -/
lemma tokensOfMembers_cons (k : Key) (v : Json) (m : Key × Json) (members : List (Key × Json)) :
    tokensOfMembers ((k, v) :: m :: members) =
      k.token :: .colon :: (v.tokens ++ .comma :: tokensOfMembers (m :: members)) :=
  rfl

mutual

/-- The text of a value is cut into its tokens. -/
theorem lex_renderChars : ∀ {v : Json}, v.isPlain = true → ∀ {rest : List Char}, Separate rest →
    lex (v.renderChars ++ rest) = v.tokens ++ lex rest
  | .null, _, _, _ => lex_of_scan? rfl rfl
  | .bool true, _, _, _ => lex_of_scan? rfl rfl
  | .bool false, _, _, _ => lex_of_scan? rfl rfl
  | .number (.natural n), _, _, hrest => lex_decimalDigits n hrest
  | .string (some s), _, rest, _ => lex_renderString s rest
  | .array items, h, rest, hrest => by
    have hopen := lex_of_scan? (c := '[') (s := renderItems items ++ ']' :: rest) rfl rfl
    have hclose := lex_of_scan? (c := ']') (s := rest) rfl rfl
    have hitems := @lex_renderItems items h _ (separate_cons (c := ']') (by decide) rest)
    rw [renderChars, List.cons_append, List.append_assoc, List.singleton_append, hopen, hitems,
      hclose, tokens, List.cons_append, List.append_assoc, List.singleton_append]
  | .object members, h, rest, hrest => by
    have hopen := lex_of_scan? (c := '\x7b') (s := renderMembers members ++ '\x7d' :: rest) rfl rfl
    have hclose := lex_of_scan? (c := '\x7d') (s := rest) rfl rfl
    have hmembers := @lex_renderMembers members h _ (separate_cons (c := '\x7d') (by decide) rest)
    rw [renderChars, List.cons_append, List.append_assoc, List.singleton_append, hopen, hmembers,
      hclose, tokens, List.cons_append, List.append_assoc, List.singleton_append]

/-- The tokens of items are found again in what the items are written as. -/
theorem lex_renderItems : ∀ {items : List Json}, arePlain items = true →
    ∀ {rest : List Char}, Separate rest →
    lex (renderItems items ++ rest) = tokensOfItems items ++ lex rest
  | [], _, _, _ => rfl
  | [v], h, _, hrest => by
    rw [arePlain, Bool.and_eq_true] at h
    exact lex_renderChars h.1 hrest
  | v :: w :: items, h, rest, hrest => by
    rw [arePlain, Bool.and_eq_true] at h
    have hcomma := lex_of_scan? (c := ',') (s := renderItems (w :: items) ++ rest) rfl rfl
    have hv :=
      lex_renderChars h.1 (separate_cons (c := ',') (by decide) (renderItems (w :: items) ++ rest))
    have hitems := lex_renderItems h.2 hrest
    rw [renderItems_cons, List.append_assoc, List.cons_append, hv, hcomma, hitems,
      tokensOfItems_cons, List.append_assoc, List.cons_append]

/-- The tokens of members are found again in what the members are written as. -/
theorem lex_renderMembers : ∀ {members : List (Key × Json)}, arePlainMembers members = true →
    ∀ {rest : List Char}, Separate rest →
    lex (renderMembers members ++ rest) = tokensOfMembers members ++ lex rest
  | [], _, _, _ => rfl
  | [(.name k, v)], h, rest, hrest => by
    rw [arePlainMembers, Bool.and_eq_true] at h
    have hcolon := lex_of_scan? (c := ':') (s := v.renderChars ++ rest) rfl rfl
    rw [renderMembers, List.append_assoc, List.cons_append, lex_key, hcolon,
      lex_renderChars h.1 hrest, tokensOfMembers, List.cons_append, List.cons_append]
  | (.name k, v) :: m :: members, h, rest, hrest => by
    rw [arePlainMembers, Bool.and_eq_true] at h
    have hcomma := lex_of_scan? (c := ',') (s := renderMembers (m :: members) ++ rest) rfl rfl
    have hv :=
      lex_renderChars h.1
        (separate_cons (c := ',') (by decide) (renderMembers (m :: members) ++ rest))
    have hmembers := lex_renderMembers h.2 hrest
    have hcolon :=
      lex_of_scan? (c := ':')
        (s := v.renderChars ++ ',' :: (renderMembers (m :: members) ++ rest)) rfl rfl
    rw [renderMembers_cons, List.append_assoc, List.cons_append, lex_key, List.append_assoc,
      List.cons_append, hcolon, hv, hcomma, hmembers, tokensOfMembers_cons, List.cons_append,
      List.cons_append, List.append_assoc, List.cons_append]

end

/-! ## Values of tokens -/

/-- No value starts by closing an array. -/
lemma head?_tokens (v : Json) (ts : List Token) : (v.tokens ++ ts).head? ≠ some .closeBracket := by
  cases v <;> exact nofun

/-- The tokens of items do not start with what closes an array. -/
lemma head?_tokensOfItems (v : Json) (items : List Json) (ts : List Token) :
    (tokensOfItems (v :: items) ++ ts).head? ≠ some .closeBracket := by
  cases items with
  | nil => exact head?_tokens v ts
  | cons w items =>
    rw [tokensOfItems_cons, List.append_assoc]
    exact head?_tokens v _

/-- An array that is not closed at once starts with an item. -/
lemma readValue_openBracket {ts : List Token} (h : ts.head? ≠ some .closeBracket)
    (frames : List Frame) :
    readValue frames (.openBracket :: ts) = readValue (.items [] :: frames) ts := by
  cases ts with
  | nil => rfl
  | cons t ts =>
    cases t with
    | closeBracket => exact absurd rfl h
    | _ => rfl

/-- An object that starts with a key starts with a member. -/
lemma readValue_openBrace (k : Key) (ts : List Token) (frames : List Frame) :
    readValue frames (.openBrace :: k.token :: ts) = readMember [] frames (k.token :: ts) := by
  cases k <;> rfl

/-- The tokens of members start with a key and a colon. -/
lemma tokensOfMembers_head (k : Key) (v : Json) (members : List (Key × Json)) (ts : List Token) :
    ∃ rest, tokensOfMembers ((k, v) :: members) ++ ts = k.token :: .colon :: rest := by
  cases members with
  | nil => exact ⟨_, rfl⟩
  | cons m members => exact ⟨_, rfl⟩

mutual

/-- The tokens of a value are read as the value. -/
theorem readValue_tokens :
    ∀ {v : Json}, v.isPlain = true → ∀ (frames : List Frame) (ts : List Token),
    readValue frames (v.tokens ++ ts) = readAfter v frames ts
  | .null, _, _, _ => rfl
  | .bool _, _, _, _ => rfl
  | .number (.natural _), _, _, _ => rfl
  | .string (some _), _, _, _ => rfl
  | .array [], _, _, _ => rfl
  | .array (v :: items), h, frames, ts => by
    rw [tokens, List.cons_append, List.append_assoc, List.singleton_append,
      readValue_openBracket (head?_tokensOfItems v items _)]
    exact readValue_items h (List.cons_ne_nil v items) [] frames ts
  | .object [], _, _, _ => rfl
  | .object ((k, v) :: members), h, frames, ts => by
    have hread := readMember_members h (List.cons_ne_nil (k, v) members) [] frames ts
    obtain ⟨rest, hrest⟩ := tokensOfMembers_head k v members (.closeBrace :: ts)
    rw [hrest] at hread
    rw [tokens, List.cons_append, List.append_assoc, List.singleton_append, hrest,
      readValue_openBrace, hread]
    rfl

/-- The items of an array are read back, behind those that have been read before. -/
theorem readValue_items : ∀ {items : List Json}, arePlain items = true → items ≠ [] →
    ∀ (done : List Json) (frames : List Frame) (ts : List Token),
    readValue (.items done :: frames) (tokensOfItems items ++ .closeBracket :: ts) =
      readAfter (.array (done.reverse ++ items)) frames ts
  | [], _, hne, _, _, _ => absurd rfl hne
  | [v], h, _, done, frames, ts => by
    rw [arePlain, Bool.and_eq_true] at h
    rw [tokensOfItems, readValue_tokens h.1, readAfter, List.reverse_cons]
  | v :: w :: items, h, _, done, frames, ts => by
    rw [arePlain, Bool.and_eq_true] at h
    rw [tokensOfItems_cons, List.append_assoc, readValue_tokens h.1, List.cons_append, readAfter,
      readValue_items h.2 (List.cons_ne_nil w items), List.reverse_cons, List.append_assoc,
      List.singleton_append]

/-- The members of an object are read back, behind those that have been read before. -/
theorem readMember_members : ∀ {members : List (Key × Json)}, arePlainMembers members = true →
    members ≠ [] →
    ∀ (done : List (Key × Json)) (frames : List Frame) (ts : List Token),
    readMember done frames (tokensOfMembers members ++ .closeBrace :: ts) =
      readAfter (.object (done.reverse ++ members)) frames ts
  | [], _, hne, _, _, _ => absurd rfl hne
  | [(.name k, v)], h, _, done, frames, ts => by
    rw [arePlainMembers, Bool.and_eq_true] at h
    rw [tokensOfMembers, List.cons_append, List.cons_append, Key.token, readMember,
      readValue_tokens h.1, readAfter, List.reverse_cons, Key.ofText]
  | (.name k, v) :: m :: members, h, _, done, frames, ts => by
    rw [arePlainMembers, Bool.and_eq_true] at h
    rw [tokensOfMembers_cons, List.cons_append, List.cons_append, List.append_assoc,
      Key.token, readMember, readValue_tokens h.1, List.cons_append, readAfter,
      readMember_members h.2 (List.cons_ne_nil m members), List.reverse_cons,
      List.append_assoc, List.singleton_append, Key.ofText]

end

/-- A written value is read back, and nothing is left over. -/
theorem parse_render {v : Json} (h : v.isPlain = true) : parse v.render = (v, true) := by
  have hlex := @lex_renderChars v h [] (by simp [Separate])
  rw [List.append_nil, lex] at hlex
  rw [parse, render, String.toList_ofList, hlex, readValue_tokens h, readAfter]
  rfl

end CppAdvice.Json
