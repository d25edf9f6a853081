import CppAdvice.Path
import CppAdvice.Proofs.Pieces

/-!
# Ways that paths name

A path is a text, and what counts of it are its steps. The parent of a path has all its steps but
the last (`parent?_cases`), so climbing goes through the paths above one by one and never runs out
(`upward_eq`). What is joined to a path goes on where the path ends (`steps_join`).
-/

namespace CppAdvice

namespace Path

namespace Step

variable {first : List Char} {rest pieces : List (List Char)}

/-- The steps of two or more pieces, or of a first one that says something. -/
lemma ofPieces_cons (h : first :: rest ≠ [[]]) :
    ofPieces (first :: rest) = ofFirst first :: rest.filterMap ofPiece? := by
  cases first with
  | cons c first => rfl
  | nil =>
    cases rest with
    | nil => exact absurd rfl h
    | cons piece rest => rfl

/-- Pieces behind others add the steps they stand for. -/
lemma ofPieces_append {more : List (List Char)} (hne : pieces ≠ []) (hmore : more ≠ []) :
    ofPieces (pieces ++ more) = ofPieces (pieces ++ [[]]) ++ more.filterMap ofPiece? := by
  obtain ⟨first, rest, rfl⟩ := List.exists_cons_of_ne_nil hne
  have hidle : ofPiece? [] = none := rfl
  rw [List.cons_append, List.cons_append, ofPieces_cons (by simp [hmore]), ofPieces_cons (by simp)]
  simp [hidle]

/-- An empty piece at the end says nothing, unless it is what makes the path one. -/
lemma ofPieces_append_nil (h : pieces ≠ [[]]) : ofPieces (pieces ++ [[]]) = ofPieces pieces := by
  have hidle : ofPiece? [] = none := rfl
  cases pieces with
  | nil => rfl
  | cons first rest =>
    rw [List.cons_append, ofPieces_cons (by simp), ofPieces_cons h]
    simp [hidle]

/-- A piece stands for no step if it says nothing. -/
lemma ofPiece?_eq_none_iff {piece : List Char} : ofPiece? piece = none ↔ isIdle piece = true := by
  rw [ofPiece?]
  split_ifs with hidle hup
  · simp [hidle]
  · simp [hidle]
  · simp [hidle]

/-- No piece behind the first stands for the root. -/
lemma ofPiece?_ne_root {piece : List Char} : ofPiece? piece ≠ some .root := by
  rw [ofPiece?]
  split_ifs <;> simp

/-- A piece that stands for a step down is the name of what it leads to. -/
lemma ofPiece?_eq_down {piece : List Char} {name : String}
    (h : ofPiece? piece = some (.down name)) :
    isIdle piece = false ∧ piece ≠ ['.', '.'] ∧ String.ofList piece = name := by
  rw [ofPiece?] at h
  split_ifs at h with hidle hup
  · cases h
  · rw [Option.some.injEq, down.injEq] at h
    exact ⟨Bool.eq_false_iff.2 hidle, hup, h⟩

/-- What says nothing at the end adds no steps. -/
lemma filterMap_rdropWhile (pieces : List (List Char)) :
    (pieces.rdropWhile isIdle).filterMap ofPiece? = pieces.filterMap ofPiece? := by
  induction pieces using List.reverseRecOn with
  | nil => rfl
  | append_singleton pieces piece ih =>
    rw [List.rdropWhile_concat]
    split_ifs with hidle
    · rw [ih, List.filterMap_append, List.filterMap_cons_none (ofPiece?_eq_none_iff.2 hidle),
        List.filterMap_nil, List.append_nil]
    · rfl

/-- A first piece makes the steps no fewer. -/
lemma length_filterMap_tail_le (first : List Char) (rest : List (List Char)) :
    (rest.filterMap ofPiece?).length ≤ ((first :: rest).filterMap ofPiece?).length :=
  ((List.sublist_cons_self first rest).filterMap ofPiece?).length_le

/-- Every step takes at least one character. -/
lemma length_filterMap_splitOn (s : List Char) :
    ((s.splitOn '/').filterMap ofPiece?).length ≤ s.length := by
  have hidle : ofPiece? [] = none := rfl
  induction s with
  | nil => simp [hidle]
  | cons c s ih =>
    by_cases hc : c = '/'
    · rw [hc, Text.splitOn_cons_self, List.filterMap_cons_none hidle]
      exact Nat.le_succ_of_le ih
    · obtain ⟨first, rest, hs⟩ := List.exists_cons_of_ne_nil (List.splitOn_ne_nil '/' s)
      rw [hs] at ih
      rw [Text.splitOn_cons_of_ne hc hs]
      have hrest := length_filterMap_tail_le first rest
      have hfirst : (((c :: first) :: rest).filterMap ofPiece?).length ≤
          (rest.filterMap ofPiece?).length + 1 := by
        rw [List.filterMap_cons]
        split <;> simp
      rw [List.length_cons]
      omega

/-- Steps down lead down by their names. -/
lemma foldl_go_down (way names : List String) : (names.map down).foldl go way = way ++ names := by
  induction names generalizing way with
  | nil => simp
  | cons name names ih =>
    rw [List.map_cons, List.foldl_cons, ih, go, List.append_assoc]
    rfl

end Step

open Step

variable {p q : Path}

/-- A path has at least one piece. -/
lemma pieces_ne_nil (p : Path) : p.pieces ≠ [] :=
  List.splitOn_ne_nil '/' _

/-- The empty path has one empty piece, and is the only one that does. -/
lemma pieces_eq_iff : p.pieces = [[]] ↔ p.text = "" := by
  rw [pieces]
  constructor
  · intro h
    cases hs : p.text.toList with
    | nil => exact String.toList_eq_nil_iff.1 hs
    | cons c s =>
      rw [hs] at h
      by_cases hc : c = '/'
      · rw [hc, Text.splitOn_cons_self, List.cons.injEq] at h
        exact absurd h.2 (List.splitOn_ne_nil '/' s)
      · obtain ⟨first, rest, hsplit⟩ := List.exists_cons_of_ne_nil (List.splitOn_ne_nil '/' s)
        rw [Text.splitOn_cons_of_ne hc hsplit] at h
        cases h
  · intro h
    rw [h]
    rfl

/-- A path has no more steps than characters. -/
lemma length_steps_le (p : Path) : p.steps.length ≤ p.text.length := by
  rw [steps, pieces, ← String.length_toList]
  cases p.text.toList with
  | nil => rfl
  | cons c s =>
    have hs := length_filterMap_splitOn s
    by_cases hc : c = '/'
    · have hne : [] :: s.splitOn '/' ≠ [[]] := by simp
      rw [hc, Text.splitOn_cons_self, ofPieces_cons hne, List.length_cons, List.length_cons]
      omega
    · obtain ⟨first, rest, hsplit⟩ := List.exists_cons_of_ne_nil (List.splitOn_ne_nil '/' s)
      rw [hsplit] at hs
      have hrest := length_filterMap_tail_le first rest
      rw [Text.splitOn_cons_of_ne hc hsplit, ofPieces_cons (by simp), List.length_cons,
        List.length_cons]
      omega

/-- The steps of a path that is put together from pieces. A lone empty piece is written as the
root. -/
lemma steps_ofPieces {first : List Char} {rest : List (List Char)}
    (h : ∀ piece ∈ first :: rest, '/' ∉ piece) :
    (ofPieces (first :: rest)).steps = ofFirst first :: rest.filterMap ofPiece? := by
  rw [ofPieces]
  split_ifs with hroot
  · cases hroot
    rfl
  · have hsplit := List.splitOn_intercalate '/' h (List.cons_ne_nil first rest)
    rw [steps, pieces, String.toList_ofList, hsplit, Step.ofPieces_cons hroot]

/-- A path of several pieces that say something loses the last of them. -/
lemma parent?_of_trimPieces {first last : List Char} {init : List (List Char)}
    (h : trimPieces p.pieces = first :: (init ++ [last])) :
    p.parent? = some (ofPieces (first :: init.rdropWhile isIdle)) := by
  have hdrop : (first :: (init ++ [last])).dropLast = first :: init := by
    rw [← List.cons_append, List.dropLast_concat]
  have htrim : trimPieces (first :: init) = first :: init.rdropWhile isIdle := rfl
  rw [parent?, h, ← htrim, ← hdrop]
  cases init <;> cases first <;> rfl

/-- A first piece that is not empty does not stand for the root. -/
lemma ofFirst_ne_root {piece : List Char} (h : piece ≠ []) : ofFirst piece ≠ .root := by
  intro hroot
  rw [ofFirst, if_neg (by simpa using h)] at hroot
  cases hpiece : ofPiece? piece with
  | none =>
    rw [hpiece] at hroot
    cases hroot
  | some step =>
    rw [hpiece, Option.getD_some] at hroot
    rw [hroot] at hpiece
    exact ofPiece?_ne_root hpiece

/-- A path has no parent if it has no steps or only goes to the root; otherwise its parent has all
its steps but the last. -/
lemma parent?_cases (p : Path) :
    (p.parent? = none ∧ (p.steps = [] ∨ p.steps = [.root])) ∨
      ∃ q step, p.parent? = some q ∧ p.steps = q.steps ++ [step] ∧ step ≠ .root := by
  obtain ⟨first, rest, hpieces⟩ := List.exists_cons_of_ne_nil p.pieces_ne_nil
  have htrim : trimPieces p.pieces = first :: rest.rdropWhile isIdle := by
    rw [hpieces]
    rfl
  have hfilter := filterMap_rdropWhile rest
  rcases List.eq_nil_or_concat' (rest.rdropWhile isIdle) with hnil | ⟨init, last, hconcat⟩
  · -- Nothing but the first piece says anything.
    rw [hnil, List.filterMap_nil] at hfilter
    rw [steps, parent?, htrim, hnil, hpieces]
    cases first with
    | nil =>
      refine .inl ⟨rfl, ?_⟩
      cases rest with
      | nil => exact .inl rfl
      | cons piece rest =>
        rw [ofPieces_cons (by simp), ← hfilter]
        exact .inr rfl
    | cons c first =>
      rw [ofPieces_cons (by simp), ← hfilter]
      exact .inr ⟨⟨""⟩, ofFirst (c :: first), rfl, rfl, ofFirst_ne_root (List.cons_ne_nil c first)⟩
  · -- The last piece that says something goes, and with it what says nothing before it.
    have hsub : first :: init.rdropWhile isIdle <+: first :: rest := by
      rw [List.prefix_cons_inj]
      have hinit : init ++ [last] <+: rest := hconcat ▸ List.rdropWhile_prefix isIdle rest
      exact (List.rdropWhile_prefix isIdle init).trans
        ((List.prefix_append init [last]).trans hinit)
    have hslash : ∀ piece ∈ first :: init.rdropWhile isIdle, '/' ∉ piece := by
      rw [← hpieces] at hsub
      exact fun piece hpiece => Text.notMem_of_mem_splitOn (hsub.subset hpiece)
    have hlast : isIdle last = false := by
      have h := List.rdropWhile_last_not isIdle rest (by simp [hconcat])
      simpa [hconcat] using h
    obtain ⟨step, hstep⟩ := Option.ne_none_iff_exists'.1 fun h =>
      Bool.eq_false_iff.1 hlast (ofPiece?_eq_none_iff.1 h)
    rw [hconcat] at hfilter htrim
    refine .inr ⟨_, step, parent?_of_trimPieces htrim, ?_,
      fun hroot => ofPiece?_ne_root (hroot ▸ hstep)⟩
    have hrest : rest ≠ [] := by
      rintro rfl
      simp at hconcat
    rw [steps_ofPieces hslash, filterMap_rdropWhile, steps, hpieces,
      ofPieces_cons (by simp [hrest]), ← hfilter, List.filterMap_append,
      List.filterMap_cons_some hstep, List.filterMap_nil]
    rfl

/-- A path that ends with another step than the root has a parent. -/
lemma not_top_of_concat {init : List Step} {step : Step} (hstep : step ≠ .root) :
    ¬ (init ++ [step] = [] ∨ init ++ [step] = [.root]) := by
  rintro (h | h)
  · simp at h
  · have hlast := congrArg List.getLast? h
    rw [List.getLast?_concat, List.getLast?_singleton, Option.some.injEq] at hlast
    exact hstep hlast

/-- The empty path and the root have no parent. -/
lemma parent?_eq_none (h : p.steps = [] ∨ p.steps = [.root]) : p.parent? = none := by
  rcases p.parent?_cases with ⟨hnone, -⟩ | ⟨q, step, -, hsteps, hroot⟩
  · exact hnone
  · rw [hsteps] at h
    exact absurd h (not_top_of_concat hroot)

/-- The parent of a path that ends with a step down has the steps before that. -/
lemma exists_parent? {init : List Step} {name : String} (h : p.steps = init ++ [.down name]) :
    ∃ q, p.parent? = some q ∧ q.steps = init := by
  rcases p.parent?_cases with ⟨-, hsteps⟩ | ⟨q, step, hq, hsteps, -⟩
  · rw [h] at hsteps
    exact absurd hsteps (not_top_of_concat nofun)
  · rw [h] at hsteps
    exact ⟨q, hq, (List.append_inj' hsteps rfl).1.symm⟩

/-- With enough steps allowed, more of them add nothing. -/
lemma climb_congr {m n : Nat} (hm : p.steps.length < m) (hn : p.steps.length < n) :
    climb m p = climb n p := by
  induction m generalizing n p with
  | zero => omega
  | succ m ih =>
    cases n with
    | zero => omega
    | succ n =>
      rw [climb, climb]
      rcases p.parent?_cases with ⟨hnone, -⟩ | ⟨q, step, hq, hsteps, -⟩
      · rw [hnone]
        rfl
      · rw [hsteps, List.length_append, List.length_singleton] at hm hn
        rw [hq, Option.elim_some, Option.elim_some, ih (n := n) (by omega) (by omega)]

/-- Above a path are its parent and what is above that. -/
lemma upward_eq (p : Path) : p.upward = p :: p.parent?.elim [] upward := by
  rw [upward, climb]
  rcases p.parent?_cases with ⟨hnone, -⟩ | ⟨q, step, hq, hsteps, -⟩
  · rw [hnone]
    rfl
  · have hlength := p.length_steps_le
    rw [hsteps, List.length_append, List.length_singleton] at hlength
    rw [hq, Option.elim_some, Option.elim_some, upward,
      climb_congr (p := q) (by omega) (Nat.lt_succ_of_le q.length_steps_le)]

/-- A path that only goes down has a step for every piece that says something. -/
lemma filterMap_pieces {names : List String} (h : p.steps = names.map .down) :
    p.pieces.filterMap ofPiece? = p.steps := by
  obtain ⟨first, rest, hpieces⟩ := List.exists_cons_of_ne_nil p.pieces_ne_nil
  by_cases hempty : first :: rest = [[]]
  · rw [steps, hpieces, hempty]
    rfl
  · rw [steps, hpieces, ofPieces_cons hempty] at h
    cases names with
    | nil => cases h
    | cons name names =>
      rw [List.map_cons, List.cons.injEq, ofFirst] at h
      have hfirst : ofPiece? first = some (.down name) := by
        split_ifs at h
        · cases h.1
        · cases hpiece : ofPiece? first with
          | none =>
            rw [hpiece] at h
            cases h.1
          | some step =>
            rw [hpiece] at h
            rw [← h.1]
            rfl
      rw [steps, hpieces, ofPieces_cons hempty, List.filterMap_cons_some hfirst, ofFirst, hfirst]
      split_ifs with hnil
      · rw [List.isEmpty_iff.1 hnil] at hfirst
        cases hfirst
      · rfl

/-- A path that only goes down, joined to another one, goes on where that one ends. -/
lemma steps_join (p : Path) {r : Path} {names : List String} (h : r.steps = names.map .down) :
    (p.join r.text).steps = p.steps ++ r.steps := by
  have hr := filterMap_pieces h
  rw [join]
  split_ifs with hjoin
  · rw [Bool.or_eq_true] at hjoin
    by_cases hp : p.text = ""
    · have hnone : p.steps = [] := by
        rw [steps, pieces_eq_iff.2 hp]
        rfl
      rw [hp, String.empty_append, hnone]
      rfl
    · have hends := hjoin.resolve_left (by simpa using hp)
      obtain ⟨s, hs⟩ := Text.endsWith_iff.1 hends
      have hpieces : p.pieces = s.splitOn '/' ++ [[]] := by
        rw [pieces, ← hs, List.splitOn_append_cons_self]
        rfl
      have hjoined : (Path.mk (p.text ++ r.text)).pieces = s.splitOn '/' ++ r.pieces := by
        rw [pieces, String.toList_append, ← hs, List.append_assoc, List.singleton_append,
          List.splitOn_append_cons_self]
        rfl
      rw [steps, hjoined, ofPieces_append (List.splitOn_ne_nil '/' s) r.pieces_ne_nil,
        ← hpieces, hr]
      rfl
  · rw [Bool.or_eq_true, not_or] at hjoin
    have hp : p.pieces ≠ [[]] := by
      rw [Ne, pieces_eq_iff]
      simpa using hjoin.1
    have hjoined : (Path.mk (p.text ++ "/" ++ r.text)).pieces = p.pieces ++ r.pieces := by
      rw [pieces, String.toList_append, String.toList_append, List.append_assoc]
      exact List.splitOn_append_cons_self _ _
    rw [steps, hjoined, ofPieces_append p.pieces_ne_nil r.pieces_ne_nil, ofPieces_append_nil hp, hr]
    rfl

/-- Trimming leaves a beginning of the pieces. -/
lemma trimPieces_isPrefix (pieces : List (List Char)) : trimPieces pieces <+: pieces := by
  cases pieces with
  | nil => exact List.prefix_rfl
  | cons first rest => exact (List.prefix_cons_inj first).2 (List.rdropWhile_prefix isIdle rest)

/-- Fewer pieces make up what a path starts with. -/
lemma isPrefix_ofPieces {pieces more : List (List Char)} (h : p.pieces = pieces ++ more)
    (hmore : more ≠ []) : (ofPieces pieces).text.toList <+: p.text.toList := by
  have htext : p.text.toList = ['/'].intercalate (pieces ++ more) := by
    rw [← h]
    exact (List.intercalate_splitOn '/').symm
  rw [ofPieces, htext]
  split_ifs with hroot
  · rw [hroot, List.singleton_append, List.intercalate_cons_of_ne_nil hmore]
    exact List.prefix_append ['/'] _
  · rw [String.toList_ofList]
    exact Text.isPrefix_intercalate ['/'] pieces more

/-- A path starts with its parent. -/
lemma isPrefix_of_parent? (h : p.parent? = some q) : q.text.toList <+: p.text.toList := by
  have htrim := trimPieces_isPrefix p.pieces
  rw [parent?] at h
  split at h
  · cases h
  · cases h
  · cases h
    exact List.nil_prefix
  · cases h
    have hinit := trimPieces_isPrefix (trimPieces p.pieces).dropLast
    obtain ⟨more, hmore⟩ := hinit.trans ((List.dropLast_prefix _).trans htrim)
    refine isPrefix_ofPieces hmore.symm ?_
    rintro rfl
    have hlength := congrArg List.length hmore
    have hpos := List.length_pos_of_ne_nil p.pieces_ne_nil
    have hle := hinit.length_le
    have htrimmed := htrim.length_le
    rw [List.length_dropLast] at hle
    rw [List.append_nil] at hlength
    omega

/-- A path that starts with a slash starts at the root. -/
lemma steps_of_slash {s : List Char} (hs : p.text.toList = '/' :: s) :
    p.steps = .root :: p.pieces.filterMap ofPiece? := by
  have hpieces : p.pieces = [] :: s.splitOn '/' := by
    rw [pieces, hs, Text.splitOn_cons_self]
  rw [steps, hpieces, ofPieces_cons (by simp)]
  rfl

/-- The pieces of a path that goes down from the root. -/
lemma filterMap_pieces_of_root {names : List String} (h : p.steps = .root :: names.map .down) :
    (∃ s, p.text.toList = '/' :: s) ∧ p.pieces.filterMap ofPiece? = names.map .down := by
  cases hs : p.text.toList with
  | nil =>
    rw [steps, pieces, hs] at h
    cases h
  | cons c s =>
    by_cases hc : c = '/'
    · subst hc
      rw [steps_of_slash hs, List.cons.injEq] at h
      exact ⟨⟨s, rfl⟩, h.2⟩
    · obtain ⟨first, rest, hsplit⟩ := List.exists_cons_of_ne_nil (List.splitOn_ne_nil '/' s)
      have hpieces : p.pieces = (c :: first) :: rest := by
        rw [pieces, hs, Text.splitOn_cons_of_ne hc hsplit]
      rw [steps, hpieces, ofPieces_cons (by simp), List.cons.injEq] at h
      exact absurd h.1 (ofFirst_ne_root (List.cons_ne_nil c first))

/-- The way of a path that goes down from where it starts. -/
lemma way_of_steps {working : List String} {lead : List Step} {names : List String}
    (h : p.steps = lead ++ names.map .down) : p.way working = lead.foldl go working ++ names := by
  rw [way, h, List.foldl_append, foldl_go_down]

/-- What is joined to a path is its last piece. -/
lemma exists_pieces_join (p : Path) (name : String) (h : '/' ∉ name.toList) :
    ∃ init, (p.join name).pieces = init ++ [name.toList] := by
  have hbehind : ∀ s, (s ++ '/' :: name.toList).splitOn '/' = s.splitOn '/' ++ [name.toList] := by
    intro s
    rw [List.splitOn_append_cons_self, List.splitOn_eq_singleton h]
  rw [join]
  split_ifs with hjoin
  · rw [pieces, String.toList_append]
    by_cases hp : p.text = ""
    · refine ⟨[], ?_⟩
      rw [hp]
      exact List.splitOn_eq_singleton h
    · rw [Bool.or_eq_true] at hjoin
      obtain ⟨s, hs⟩ := Text.endsWith_iff.1 (hjoin.resolve_left (by simpa using hp))
      rw [← hs, List.append_assoc]
      exact ⟨_, hbehind s⟩
  · rw [pieces, String.toList_append, String.toList_append, List.append_assoc]
    exact ⟨_, hbehind _⟩

end Path

end CppAdvice
