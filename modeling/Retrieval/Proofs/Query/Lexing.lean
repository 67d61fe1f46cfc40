import Mathlib.Data.List.SplitBy
import Mathlib.Tactic.Common
import Retrieval.Proofs.Unicode.Lowercase
import Retrieval.Query.Lexer

/-!
# Lexing piece by piece

The lexer first falls a text into pieces and then glues some of them together again, so what it does
at one place depends on the neighbours of that place.  Between a word and a character that is no
word character it does not: there the pieces of a text are those of its two parts
(`pieces_append_cons`), and a word that stands before such a place ends there (`lexemes_word`).  The
equations below read the parts of a printed query off one after the other: words, operators between
blanks, and delimiters.

Conversely a word that was read is glued of pieces that belong to words
(`exists_pieces_of_mem_lexemesFrom`), so it holds no character that queries are cut at
(`uncut_of_mem_lexemes`).
-/

namespace Retrieval.Query

open Unicode

/-! ## Pieces -/

/-- Nothing is glued across a character that is no word character. -/
lemma pieces_append_cons {c : Char} (hc : isWordCharacter c = false) (before after : List Char) :
    pieces (before ++ c :: after) = pieces before ++ [c] :: pieces after := by
  have hafter : pieces (c :: after) = [c] :: pieces after :=
    List.splitBy_append (l := [c]) (by simp [hc])
  rw [← hafter]
  exact List.splitBy_append_cons after (by simp [hc])

lemma pieces_cons {c : Char} (hc : isWordCharacter c = false) (after : List Char) :
    pieces (c :: after) = [c] :: pieces after :=
  pieces_append_cons hc [] after

lemma mem_of_mem_piece {text piece : List Char} {c : Char} (hpiece : piece ∈ pieces text)
    (hc : c ∈ piece) : c ∈ text := by
  rw [← List.flatten_splitBy (fun a b => isWordCharacter a && isWordCharacter b) text]
  exact List.mem_flatten.mpr ⟨piece, hpiece, hc⟩

lemma piece_ne_nil {text piece : List Char} (h : piece ∈ pieces text) : piece ≠ [] :=
  List.ne_nil_of_mem_splitBy h

/-- A run of at least two characters is one of word characters. -/
lemma word_of_isChain {a b : Char} {rest : List Char}
    (h : (a :: b :: rest).IsChain fun x y => (isWordCharacter x && isWordCharacter y) = true) :
    ∀ c ∈ a :: b :: rest, isWordCharacter c = true := by
  induction rest generalizing a b with
  | nil =>
    have hpair := (List.isChain_cons_cons.mp h).1
    rw [Bool.and_eq_true] at hpair
    simpa using hpair
  | cons next rest ih =>
    obtain ⟨hpair, htail⟩ := List.isChain_cons_cons.mp h
    rw [Bool.and_eq_true] at hpair
    exact List.forall_mem_cons.mpr ⟨hpair.1, ih htail⟩

/-- A character that is no word character is a piece by itself. -/
lemma piece_eq_singleton {text piece : List Char} {c : Char} (hpiece : piece ∈ pieces text)
    (hmem : c ∈ piece) (hc : isWordCharacter c = false) : piece = [c] := by
  have hchain := List.isChain_of_mem_splitBy hpiece
  match piece, hmem, hchain with
  | [a], hmem, _ => rw [List.mem_singleton.mp hmem]
  | a :: b :: rest, hmem, hchain =>
    rw [word_of_isChain hchain c hmem] at hc
    cases hc

/-! ## Words -/

/-- A piece that belongs to a word. -/
def IsPlain (piece : List Char) : Prop :=
  delimiter? piece = none ∧ piece.all isWhiteSpace = false

lemma lexemesFrom_append {plain : List (List Char)} (h : ∀ piece ∈ plain, IsPlain piece)
    (read rest : List (List Char)) :
    lexemesFrom read (plain ++ rest) = lexemesFrom (plain.reverse ++ read) rest := by
  induction plain generalizing read with
  | nil => rfl
  | cons piece others ih =>
    rw [List.forall_mem_cons] at h
    rw [List.cons_append, lexemesFrom, h.1.1]
    simp only [h.1.2, Bool.false_eq_true, if_false]
    rw [ih h.2, List.reverse_cons, List.append_assoc, List.singleton_append]

/-- A text that starts with a character that queries are cut at, or not at all. -/
def StartsCut (text : List Char) : Prop :=
  ∀ c ∈ text.head?, isCut c = true

/-- What is cut by itself is a delimiter or white space. -/
lemma delimiter_or_white {c : Char} (h : isCut c = true) :
    (∃ token, delimiter? [c] = some token) ∨
      (delimiter? [c] = none ∧ [c].all isWhiteSpace = true) := by
  simp only [isCut, Bool.or_eq_true, decide_eq_true_eq] at h
  rcases h with ((hwhite | rfl) | rfl) | rfl
  · cases hdelimiter : delimiter? [c] with
    | some token => exact Or.inl ⟨token, rfl⟩
    | none => exact Or.inr ⟨rfl, by simpa using hwhite⟩
  · exact Or.inl ⟨_, rfl⟩
  · exact Or.inl ⟨_, rfl⟩
  · exact Or.inl ⟨_, rfl⟩

lemma lexemesFrom_of_startsCut {rest : List Char} (h : StartsCut rest)
    (read : List (List Char)) :
    lexemesFrom read (pieces rest) = closedWord read ++ lexemes rest := by
  cases rest with
  | nil => exact (List.append_nil _).symm
  | cons c tail =>
    have hc : isCut c = true := h c rfl
    rw [lexemes, pieces_cons (not_word_of_isCut hc)]
    rcases delimiter_or_white hc with ⟨token, htoken⟩ | ⟨hnone, hwhite⟩
    · rw [lexemesFrom, lexemesFrom, htoken]
      rfl
    · simp only [lexemesFrom, hnone, hwhite, if_true]
      rfl

/-- A text that the lexer reads as one word, wherever it is cut off. -/
structure IsWord (text : List Char) : Prop where
  nonempty : text ≠ []
  plain : ∀ piece ∈ pieces text, IsPlain piece

/-- **A word is read.** -/
lemma lexemes_word {text rest : List Char} (h : IsWord text) (hrest : StartsCut rest) :
    lexemes (text ++ rest) = .word text :: lexemes rest := by
  have hpieces : pieces (text ++ rest) = pieces text ++ pieces rest := by
    cases rest with
    | nil =>
      rw [List.append_nil]
      exact (List.append_nil _).symm
    | cons c tail =>
      have hc := not_word_of_isCut (hrest c rfl)
      rw [pieces_append_cons hc, pieces_cons hc]
  have hread : closedWord ((pieces text).reverse ++ []) = [.word text] := by
    have hnonempty : (pieces text).reverse.isEmpty = false := by
      rw [List.isEmpty_reverse, List.isEmpty_eq_false_iff]
      exact List.splitBy_ne_nil.mpr h.nonempty
    rw [List.append_nil, closedWord, hnonempty, List.reverse_reverse, pieces,
      List.flatten_splitBy]
    rfl
  rw [lexemes, hpieces, lexemesFrom_append h.plain, lexemesFrom_of_startsCut hrest, hread]
  rfl

/-! ## Blanks, delimiters and operators -/

lemma lexemes_blank (rest : List Char) : lexemes (' ' :: rest) = lexemes rest := by
  rw [lexemes, pieces_cons (by decide)]
  rfl

lemma lexemes_mark (rest : List Char) :
    lexemes ('!' :: rest) = .delimiter (.operator .not) :: lexemes rest := by
  rw [lexemes, pieces_cons (by decide)]
  rfl

lemma lexemes_left (rest : List Char) :
    lexemes ('(' :: rest) = .delimiter .leftParen :: lexemes rest := by
  rw [lexemes, pieces_cons (by decide)]
  rfl

lemma lexemes_right (rest : List Char) :
    lexemes (')' :: rest) = .delimiter .rightParen :: lexemes rest := by
  rw [lexemes, pieces_cons (by decide)]
  rfl

/-- An operator between blanks is read. -/
lemma lexemes_operator (name : List Char) {token : Token} (hpieces : pieces name = [name])
    (htoken : delimiter? name = some token) (rest : List Char) :
    lexemes (' ' :: (name ++ ' ' :: rest)) = .delimiter token :: lexemes rest := by
  rw [lexemes_blank, lexemes, pieces_append_cons (by decide), hpieces, List.singleton_append,
    lexemesFrom, htoken]
  rfl

lemma lexemes_and (rest : List Char) :
    lexemes ([' ', 'A', 'N', 'D', ' '] ++ rest) = .delimiter (.operator .and) :: lexemes rest :=
  lexemes_operator ['A', 'N', 'D'] (by decide) rfl rest

lemma lexemes_or (rest : List Char) :
    lexemes ([' ', 'O', 'R', ' '] ++ rest) = .delimiter (.operator .or) :: lexemes rest :=
  lexemes_operator ['O', 'R'] (by decide) rfl rest

/-! ## What a word holds -/

/-- A text without characters that queries are cut at is one word unless an operator is spelled in
it. -/
lemma isWord_of_uncut {text : List Char} (hne : text ≠ []) (hcut : ∀ c ∈ text, isCut c = false)
    (hand : ['A', 'N', 'D'] ∉ pieces text) (hor : ['O', 'R'] ∉ pieces text) : IsWord text := by
  refine ⟨hne, fun piece hpiece => ⟨?_, ?_⟩⟩
  · have huncut : ∀ c ∈ piece, isCut c = false := fun c hc => hcut c (mem_of_mem_piece hpiece hc)
    rw [delimiter?]
    split_ifs with hpand hpor hmark hleft hright
    · exact absurd (hpand ▸ hpiece) hand
    · exact absurd (hpor ▸ hpiece) hor
    · exact absurd (huncut '!' (by rw [hmark]; decide)) (by decide)
    · exact absurd (huncut '(' (by rw [hleft]; decide)) (by decide)
    · exact absurd (huncut ')' (by rw [hright]; decide)) (by decide)
    · rfl
  · obtain ⟨c, hc⟩ := List.exists_mem_of_ne_nil piece (piece_ne_nil hpiece)
    have huncut := hcut c (mem_of_mem_piece hpiece hc)
    rw [List.all_eq_false]
    refine ⟨c, hc, fun hwhite => ?_⟩
    rw [isCut, hwhite] at huncut
    cases huncut

/-- A settled text without characters that queries are cut at is one word, since operators are
spelled in capitals. -/
lemma isWord_of_settled {text : List Char} (hne : text ≠ [])
    (h : ∀ c ∈ text, IsSettled c ∧ isCut c = false) : IsWord text := by
  refine isWord_of_uncut hne (fun c hc => (h c hc).2) (fun hand => ?_) (fun hor => ?_)
  · exact absurd (h 'A' (mem_of_mem_piece hand (by decide))).1 (by decide)
  · exact absurd (h 'O' (mem_of_mem_piece hor (by decide))).1 (by decide)

/-- A word by itself has one part. -/
lemma lexemes_of_isWord {text : List Char} (h : IsWord text) : lexemes text = [.word text] := by
  have hend : StartsCut [] := by simp [StartsCut]
  have hread := lexemes_word h hend
  rwa [List.append_nil] at hread

/-- A piece of a word holds no character that queries are cut at. -/
lemma uncut_of_isPlain {text piece : List Char} (hpiece : piece ∈ pieces text)
    (hplain : IsPlain piece) : ∀ c ∈ piece, isCut c = false := by
  intro c hc
  by_contra hcut
  rw [Bool.not_eq_false] at hcut
  obtain rfl := piece_eq_singleton hpiece hc (not_word_of_isCut hcut)
  rcases delimiter_or_white hcut with ⟨token, htoken⟩ | ⟨-, hwhite⟩
  · exact Option.some_ne_none token (htoken.symm.trans hplain.1)
  · exact Bool.noConfusion (hwhite.symm.trans hplain.2)

lemma exists_pieces_of_mem_closedWord {read : List (List Char)} {word : List Char}
    (h : .word word ∈ closedWord read) :
    ∃ glued : List (List Char),
      glued ≠ [] ∧ glued.flatten = word ∧ ∀ piece ∈ glued, piece ∈ read := by
  rw [closedWord] at h
  split at h
  · cases h
  · rename_i hread
    rw [List.isEmpty_iff, ← List.reverse_eq_nil_iff] at hread
    obtain rfl := Lexeme.word.inj (List.mem_singleton.mp h)
    exact ⟨read.reverse, hread, rfl, fun _ => List.mem_reverse.mp⟩

/-- A word is glued of pieces that belong to one, and of at least one of them. -/
lemma exists_pieces_of_mem_lexemesFrom {read rest : List (List Char)} {word : List Char}
    (h : .word word ∈ lexemesFrom read rest) :
    ∃ glued : List (List Char), glued ≠ [] ∧ glued.flatten = word ∧
      ∀ piece ∈ glued, piece ∈ read ∨ piece ∈ rest ∧ IsPlain piece := by
  induction rest generalizing read with
  | nil =>
    obtain ⟨glued, hne, hword, hglued⟩ := exists_pieces_of_mem_closedWord h
    exact ⟨glued, hne, hword, fun piece hpiece => Or.inl (hglued piece hpiece)⟩
  | cons first rest ih =>
    -- what comes after a cut is glued of pieces behind it
    have hcut : .word word ∈ closedWord read ∨ .word word ∈ lexemesFrom [] rest →
        ∃ glued : List (List Char), glued ≠ [] ∧ glued.flatten = word ∧
          ∀ piece ∈ glued, piece ∈ read ∨ piece ∈ first :: rest ∧ IsPlain piece := by
      rintro (hclosed | hlater)
      · obtain ⟨glued, hne, hword, hglued⟩ := exists_pieces_of_mem_closedWord hclosed
        exact ⟨glued, hne, hword, fun piece hpiece => Or.inl (hglued piece hpiece)⟩
      · obtain ⟨glued, hne, hword, hglued⟩ := ih hlater
        refine ⟨glued, hne, hword, fun piece hpiece => Or.inr ?_⟩
        rcases hglued piece hpiece with hread | ⟨hrest, hplain⟩
        · cases hread
        · exact ⟨List.mem_cons_of_mem first hrest, hplain⟩
    rw [lexemesFrom] at h
    cases hfirst : delimiter? first with
    | some token =>
      rw [hfirst] at h
      apply hcut
      simpa using h
    | none =>
      simp only [hfirst] at h
      split at h
      · exact hcut (List.mem_append.mp h)
      · rename_i hwhite
        rw [Bool.not_eq_true] at hwhite
        obtain ⟨glued, hne, hword, hglued⟩ := ih h
        refine ⟨glued, hne, hword, fun piece hpiece => ?_⟩
        rcases hglued piece hpiece with hread | ⟨hrest, hplain⟩
        · rcases List.mem_cons.mp hread with rfl | hread
          · exact Or.inr ⟨List.mem_cons_self, hfirst, hwhite⟩
          · exact Or.inl hread
        · exact Or.inr ⟨List.mem_cons_of_mem first hrest, hplain⟩

/-- **What is read as a word is uncut.** -/
theorem uncut_of_mem_lexemes {text word : List Char} (h : .word word ∈ lexemes text) :
    ∀ c ∈ word, isCut c = false := by
  obtain ⟨glued, -, rfl, hglued⟩ := exists_pieces_of_mem_lexemesFrom h
  intro c hc
  obtain ⟨piece, hpiece, hmem⟩ := List.mem_flatten.mp hc
  rcases hglued piece hpiece with hread | ⟨hrest, hplain⟩
  · cases hread
  · exact uncut_of_isPlain hrest hplain c hmem

lemma ne_nil_of_mem_lexemes {text word : List Char} (h : .word word ∈ lexemes text) :
    word ≠ [] := by
  obtain ⟨glued, hne, rfl, hglued⟩ := exists_pieces_of_mem_lexemesFrom h
  obtain ⟨piece, hpiece⟩ := List.exists_mem_of_ne_nil glued hne
  rcases hglued piece hpiece with hread | ⟨hrest, -⟩
  · cases hread
  · exact List.flatten_ne_nil_iff.mpr ⟨piece, hpiece, piece_ne_nil hrest⟩

end Retrieval.Query
