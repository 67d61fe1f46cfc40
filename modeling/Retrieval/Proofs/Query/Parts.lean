import Mathlib.Data.List.SplitBy
import Mathlib.Tactic.Common
import Retrieval.Proofs.Query.Lexing
import Retrieval.Proofs.Query.Postfix

/-!
# The parts that the lexer makes of a query

The lexer drops blanks and does not say where a lexeme stood.  Here it is followed with both kept:
a `Part` of a query is a blank or a lexeme, and `parts` lists the parts that the lexer makes.  What
is read of them are the lexemes (`filterMap_parts`), and one behind the other they are the query
(`sourceOf_parts`).

Whether letters are glued together is decided at the pieces, before any delimiter is looked for.
What that comes to at a delimiter is told by its neighbours alone (`standsIn_parts`).  If it is
free, it is a piece of its own, and the parts before it and behind it are those of the two texts
around it (`pieces_append_written`, `partsFrom_append`).  If it stands among the parts, a piece
spells it, and a piece of letters ends where no letter follows (`exists_piece_of_standsIn`,
`free_of_pieces`).
-/

namespace Retrieval.Query

open Unicode

/-! ## Parts -/

/-- The characters of a token as it stands in a query. -/
def Token.written : Token → List Char
  | term value => value.toList
  | operator op => op.symbol.toList
  | leftParen => ['(']
  | rightParen => [')']

/-- The part of a query that a lexeme was read from. -/
def Lexeme.source : Lexeme → List Char
  | delimiter token => token.written
  | word text => text

/-- A part of a query: a blank, or one that is read. -/
inductive Part where
  | blank (c : Char)
  | read (lexeme : Lexeme)
  deriving Repr, DecidableEq

namespace Part

/-- The characters of a part. -/
def source : Part → List Char
  | blank c => [c]
  | read lexeme => lexeme.source

/-- What is read of a part. -/
def lexeme? : Part → Option Lexeme
  | blank _ => none
  | read lexeme => some lexeme

/-- Whether the part is a word. -/
def isWord : Part → Bool
  | read (.word _) => true
  | _ => false

/-- Whether the parts may stand side by side: two words would be one. -/
def Apart (a b : Part) : Prop :=
  a.isWord = true → b.isWord = false

end Part

/-- The characters of parts, one behind the other. -/
def sourceOf (parts : List Part) : List Char :=
  parts.flatMap Part.source

/-- Whether a delimiter between two texts is read as one.  A mark always is, an operator that is
spelled in letters if no word character stands beside it. -/
def IsFree (before : List Char) (token : Token) (after : List Char) : Prop :=
  token = .operator .and ∨ token = .operator .or →
    (∀ c ∈ before.getLast?, isWordCharacter c = false) ∧
      ∀ c ∈ after.head?, isWordCharacter c = false

/-- Whether among the parts a delimiter stands between two texts. -/
def StandsIn (parts : List Part) (before : List Char) (token : Token) (after : List Char) : Prop :=
  ∃ left right, parts = left ++ .read (.delimiter token) :: right ∧
    sourceOf left = before ∧ sourceOf right = after

/-! ## The parts that the lexer makes -/

/-- The word that the pieces read so far make up, as a part. -/
def closedPart (read : List (List Char)) : List Part :=
  (closedWord read).map .read

/-- The parts that pieces make up, after the pieces of a word that is not yet at its end. -/
def partsFrom (read : List (List Char)) : List (List Char) → List Part
  | [] => closedPart read
  | piece :: rest =>
    match delimiter? piece with
    | some token => closedPart read ++ .read (.delimiter token) :: partsFrom [] rest
    | none =>
      if piece.all isWhiteSpace then closedPart read ++ (piece.map .blank ++ partsFrom [] rest)
      else partsFrom (piece :: read) rest

/-- The parts of a query. -/
def parts (query : List Char) : List Part :=
  partsFrom [] (pieces query)

section PartsFrom

variable {read rest : List (List Char)} {piece : List Char} {token : Token}

lemma partsFrom_delimiter (h : delimiter? piece = some token) :
    partsFrom read (piece :: rest)
      = closedPart read ++ .read (.delimiter token) :: partsFrom [] rest := by
  rw [partsFrom, h]

lemma partsFrom_blank (h : delimiter? piece = none) (hwhite : piece.all isWhiteSpace = true) :
    partsFrom read (piece :: rest)
      = closedPart read ++ (piece.map .blank ++ partsFrom [] rest) := by
  rw [partsFrom, h]
  exact if_pos hwhite

lemma partsFrom_plain (h : IsPlain piece) :
    partsFrom read (piece :: rest) = partsFrom (piece :: read) rest := by
  rw [partsFrom, h.1]
  simp only [h.2, Bool.false_eq_true, if_false]

/-- A piece is a delimiter, or blank, or belongs to a word. -/
lemma piece_cases (piece : List Char) : (∃ token, delimiter? piece = some token) ∨
    (delimiter? piece = none ∧ piece.all isWhiteSpace = true) ∨ IsPlain piece := by
  cases hdelimiter : delimiter? piece with
  | some token => exact Or.inl ⟨token, rfl⟩
  | none =>
    cases hwhite : piece.all isWhiteSpace with
    | true => exact Or.inr (Or.inl ⟨rfl, rfl⟩)
    | false => exact Or.inr (Or.inr ⟨hdelimiter, hwhite⟩)

/-- What is read of the parts is what the lexer reads. -/
lemma filterMap_partsFrom (read rest : List (List Char)) :
    (partsFrom read rest).filterMap Part.lexeme? = lexemesFrom read rest := by
  have hclosed : ∀ read, (closedPart read).filterMap Part.lexeme? = closedWord read := by
    intro read
    rw [closedPart, List.filterMap_map]
    exact List.filterMap_some
  have hblank : ∀ piece : List Char, (piece.map Part.blank).filterMap Part.lexeme? = [] := by
    intro piece
    simp [Part.lexeme?]
  induction rest generalizing read with
  | nil => exact hclosed read
  | cons piece rest ih =>
    rcases piece_cases piece with ⟨token, htoken⟩ | ⟨hnone, hwhite⟩ | hplain
    · have hread : Part.lexeme? (.read (.delimiter token)) = some (.delimiter token) := rfl
      rw [partsFrom_delimiter htoken, List.filterMap_append, hclosed,
        List.filterMap_cons_some hread, ih, lexemesFrom, htoken]
    · rw [partsFrom_blank hnone hwhite, List.filterMap_append, List.filterMap_append, hclosed,
        hblank, ih, lexemesFrom, hnone]
      simp [hwhite]
    · rw [partsFrom_plain hplain, ih, lexemesFrom, hplain.1]
      simp [hplain.2]

lemma filterMap_parts (query : List Char) :
    (parts query).filterMap Part.lexeme? = lexemes query :=
  filterMap_partsFrom [] (pieces query)

lemma sourceOf_append (a b : List Part) : sourceOf (a ++ b) = sourceOf a ++ sourceOf b :=
  List.flatMap_append

lemma sourceOf_cons (part : Part) (rest : List Part) :
    sourceOf (part :: rest) = part.source ++ sourceOf rest :=
  List.flatMap_cons

lemma sourceOf_closedPart (read : List (List Char)) :
    sourceOf (closedPart read) = read.reverse.flatten := by
  cases read with
  | nil => rfl
  | cons piece rest => exact List.append_nil _

lemma sourceOf_blanks (piece : List Char) : sourceOf (piece.map .blank) = piece := by
  induction piece with
  | nil => rfl
  | cons c rest ih => rw [List.map_cons, sourceOf_cons, ih]; rfl

/-- A delimiter is written as the piece that spells it. -/
lemma delimiter?_eq_some : delimiter? piece = some token ↔
    token.term? = none ∧ token.written = piece := by
  constructor
  · intro h
    refine ⟨term?_delimiter? h, ?_⟩
    rw [delimiter?] at h
    split_ifs at h with hand hor hmark hleft hright <;> cases h
    · exact hand.symm
    · exact hor.symm
    · exact hmark.symm
    · exact hleft.symm
    · exact hright.symm
  · rintro ⟨hterm, rfl⟩
    cases token with
    | term value => cases hterm
    | operator op => cases op <;> rfl
    | leftParen => rfl
    | rightParen => rfl

/-- Delimiters are written, and without blanks. -/
lemma written_spec (h : token.term? = none) :
    token.written ≠ [] ∧ token.written.any isWhiteSpace = false := by
  cases token with
  | term value => cases h
  | operator op => cases op <;> decide
  | leftParen | rightParen => decide

lemma white_eq_false_of_uncut {c : Char} (h : isCut c = false) : isWhiteSpace c = false := by
  by_contra hwhite
  rw [Bool.not_eq_false] at hwhite
  rw [isCut, hwhite] at h
  cases h

/-- The parts are the pieces they are made of. -/
lemma sourceOf_partsFrom (read rest : List (List Char)) :
    sourceOf (partsFrom read rest) = read.reverse.flatten ++ rest.flatten := by
  induction rest generalizing read with
  | nil => rw [partsFrom, sourceOf_closedPart, List.flatten_nil, List.append_nil]
  | cons piece rest ih =>
    rcases piece_cases piece with ⟨token, htoken⟩ | ⟨hnone, hwhite⟩ | hplain
    · rw [partsFrom_delimiter htoken, sourceOf_append, sourceOf_cons, ih, sourceOf_closedPart]
      obtain ⟨-, hwritten⟩ := delimiter?_eq_some.mp htoken
      rw [Part.source, Lexeme.source, hwritten]
      rfl
    · rw [partsFrom_blank hnone hwhite, sourceOf_append, sourceOf_append, ih, sourceOf_closedPart,
        sourceOf_blanks]
      rfl
    · rw [partsFrom_plain hplain, ih, List.reverse_cons, List.flatten_append]
      simp

lemma sourceOf_parts (query : List Char) : sourceOf (parts query) = query := by
  rw [parts, sourceOf_partsFrom, pieces, List.flatten_splitBy]
  rfl

/-- Parts are cut at every piece that does not belong to a word. -/
lemma partsFrom_append (h : ¬ IsPlain piece) (read before rest : List (List Char)) :
    partsFrom read (before ++ piece :: rest)
      = partsFrom read before ++ partsFrom [] (piece :: rest) := by
  have hclosed : closedPart [] = [] := rfl
  induction before generalizing read with
  | nil =>
    rw [List.nil_append, partsFrom]
    rcases piece_cases piece with ⟨token, htoken⟩ | ⟨hnone, hwhite⟩ | hplain
    · rw [partsFrom_delimiter htoken, partsFrom_delimiter htoken, hclosed, List.nil_append]
    · rw [partsFrom_blank hnone hwhite, partsFrom_blank hnone hwhite, hclosed, List.nil_append]
    · exact absurd hplain h
  | cons first before ih =>
    rw [List.cons_append]
    rcases piece_cases first with ⟨token, htoken⟩ | ⟨hnone, hwhite⟩ | hplain
    · rw [partsFrom_delimiter htoken, partsFrom_delimiter htoken, ih, List.append_assoc,
        List.cons_append]
    · rw [partsFrom_blank hnone hwhite, partsFrom_blank hnone hwhite, ih, List.append_assoc,
        List.append_assoc]
    · rw [partsFrom_plain hplain, partsFrom_plain hplain, ih]

lemma eq_append_of_not_mem {α : Type} {a b left right : List α} {x : α}
    (h : a ++ b = left ++ x :: right) (hx : x ∉ a) : ∃ c, left = a ++ c ∧ b = c ++ x :: right := by
  rcases List.append_eq_append_iff.mp h with hlonger | ⟨c, rfl, hb⟩
  · exact hlonger
  · cases c with
    | nil => exact ⟨[], by simp, hb.symm⟩
    | cons y c =>
      obtain rfl := (List.cons.inj hb).1
      exact absurd (List.mem_append_right left List.mem_cons_self) hx

/-- What is closed is a word, so a delimiter comes behind it. -/
lemma delimiter_not_mem_closedPart (read : List (List Char)) :
    .read (.delimiter token) ∉ closedPart read := by
  intro hmem
  rw [closedPart, closedWord] at hmem
  split at hmem <;> simp at hmem

lemma delimiter_not_mem_blanks (read : List (List Char)) (white : List Char) :
    .read (.delimiter token) ∉ closedPart read ++ white.map .blank := by
  intro hmem
  rcases List.mem_append.mp hmem with hmem | hmem
  · exact delimiter_not_mem_closedPart read hmem
  · simp at hmem

/-- Where a delimiter stands among the parts, a piece spells it. -/
lemma exists_piece_of_standsIn {before after : List Char}
    (h : StandsIn (partsFrom read rest) before token after) :
    ∃ left right, rest = left ++ token.written :: right ∧
      read.reverse.flatten ++ left.flatten = before ∧ right.flatten = after := by
  obtain ⟨left, right, hparts, rfl, rfl⟩ := h
  induction rest generalizing read left with
  | nil =>
    have hmem : .read (.delimiter token) ∈ closedPart read := by
      rw [partsFrom] at hparts
      rw [hparts]
      exact List.mem_append_right _ List.mem_cons_self
    exact absurd hmem (delimiter_not_mem_closedPart read)
  | cons piece rest ih =>
    rcases piece_cases piece with ⟨found, hfound⟩ | ⟨hnone, hwhite⟩ | hplain
    · obtain ⟨-, hpiece⟩ := delimiter?_eq_some.mp hfound
      rw [partsFrom_delimiter hfound] at hparts
      obtain ⟨others, rfl, htail⟩ := eq_append_of_not_mem hparts
        (delimiter_not_mem_closedPart read)
      rw [sourceOf_append, sourceOf_closedPart]
      cases others with
      | nil =>
        -- this is the piece
        obtain ⟨hsame, rfl⟩ := List.cons.inj htail
        obtain rfl : found = token := by simpa using hsame
        refine ⟨[], rest, by rw [hpiece, List.nil_append], rfl, ?_⟩
        rw [sourceOf_partsFrom]
        rfl
      | cons first others =>
        obtain ⟨rfl, hrest⟩ := List.cons.inj htail
        obtain ⟨before, behind, rfl, hleft, hright⟩ := ih others hrest
        refine ⟨piece :: before, behind, rfl, ?_, hright⟩
        rw [sourceOf_cons, ← hleft, List.flatten_cons, ← hpiece]
        rfl
    · rw [partsFrom_blank hnone hwhite, ← List.append_assoc] at hparts
      obtain ⟨others, rfl, hrest⟩ := eq_append_of_not_mem hparts
        (delimiter_not_mem_blanks read piece)
      obtain ⟨before, behind, rfl, hleft, hright⟩ := ih others hrest
      refine ⟨piece :: before, behind, rfl, ?_, hright⟩
      rw [sourceOf_append, sourceOf_append, sourceOf_closedPart, sourceOf_blanks, ← hleft,
        List.flatten_cons, List.append_assoc]
      rfl
    · rw [partsFrom_plain hplain] at hparts
      obtain ⟨before, behind, rfl, hleft, hright⟩ := ih left hparts
      refine ⟨piece :: before, behind, rfl, ?_, hright⟩
      rw [← hleft, List.reverse_cons, List.flatten_append, List.flatten_cons]
      simp

/-- A piece of word characters stands apart from the word characters around it. -/
lemma free_of_pieces {text : List Char} {left right : List (List Char)}
    (h : pieces text = left ++ piece :: right) (hword : ∀ c ∈ piece, isWordCharacter c = true) :
    (∀ c ∈ left.flatten.getLast?, isWordCharacter c = false) ∧
      ∀ c ∈ right.flatten.head?, isWordCharacter c = false := by
  have hchain := List.isChain_getLast_head_splitBy
    (fun a b => isWordCharacter a && isWordCharacter b) text
  rw [show List.splitBy _ text = left ++ piece :: right from h, List.isChain_append,
    List.isChain_cons] at hchain
  obtain ⟨-, ⟨hright, -⟩, hleft⟩ := hchain
  constructor
  · intro c hc
    rcases List.eq_nil_or_concat' left with rfl | ⟨front, last, rfl⟩
    · cases hc
    obtain ⟨hlast, hpiece, hglue⟩ := hleft last (by simp) piece rfl
    rw [hword _ (List.head_mem hpiece), Bool.and_true] at hglue
    have hend : (front ++ [last]).flatten.getLast? = some (last.getLast hlast) := by
      rw [List.flatten_append, List.flatten_singleton, List.getLast?_append_of_ne_nil _ hlast,
        List.getLast?_eq_some_getLast hlast]
    rwa [← Option.some.inj (hend.symm.trans hc)]
  · intro c hc
    cases right with
    | nil => cases hc
    | cons next behind =>
      obtain ⟨hpiece, hnext, hglue⟩ := hright next rfl
      rw [hword _ (List.getLast_mem hpiece), Bool.true_and] at hglue
      have hstart : (next :: behind).flatten.head? = some (next.head hnext) := by
        rw [List.flatten_cons, List.head?_append_of_ne_nil _ hnext, List.head?_eq_some_head hnext]
      rwa [← Option.some.inj (hstart.symm.trans hc)]

/-- A delimiter that is free is a piece of its own. -/
lemma pieces_append_written {before after : List Char} (hterm : token.term? = none)
    (hfree : IsFree before token after) :
    pieces (before ++ token.written ++ after)
      = pieces before ++ token.written :: pieces after := by
  have hletters : ∀ letters : List Char, pieces letters = [letters] →
      (∀ c ∈ before.getLast?, isWordCharacter c = false) →
      (∀ c ∈ after.head?, isWordCharacter c = false) →
      pieces (before ++ letters ++ after) = pieces before ++ letters :: pieces after := by
    intro letters hpieces hbefore hafter
    have hend : pieces (before ++ letters ++ after) = pieces (before ++ letters) ++ pieces after :=
      List.splitBy_append fun x _ y hy => by rw [hafter y hy, Bool.and_false]
    have hstart : pieces (before ++ letters) = pieces before ++ pieces letters :=
      List.splitBy_append fun x hx y _ => by rw [hbefore x hx, Bool.false_and]
    rw [hend, hstart, hpieces, List.append_assoc, List.singleton_append]
  match token with
  | .term value => cases hterm
  | .operator .and =>
    obtain ⟨hbefore, hafter⟩ := hfree (Or.inl rfl)
    exact hletters ['A', 'N', 'D'] (by decide) hbefore hafter
  | .operator .or =>
    obtain ⟨hbefore, hafter⟩ := hfree (Or.inr rfl)
    exact hletters ['O', 'R'] (by decide) hbefore hafter
  | .operator .not | .leftParen | .rightParen =>
    rw [List.append_assoc]
    exact pieces_append_cons (by decide) before after

/-- **Delimiters stand among the parts** exactly where they are spelled and free. -/
lemma standsIn_parts {before after : List Char} (hterm : token.term? = none) :
    StandsIn (parts (before ++ token.written ++ after)) before token after ↔
      IsFree before token after := by
  constructor
  · intro h htoken
    obtain ⟨left, right, hpieces, hbefore, hafter⟩ := exists_piece_of_standsIn h
    have hword : token.written.all isWordCharacter = true := by
      rcases htoken with rfl | rfl
      · decide
      · decide
    rw [← hbefore, ← hafter]
    exact free_of_pieces hpieces (List.all_eq_true.mp hword)
  · intro hfree
    have hdelimiter : delimiter? token.written = some token :=
      delimiter?_eq_some.mpr ⟨hterm, rfl⟩
    have hcut : ¬ IsPlain token.written := fun hplain =>
      Option.some_ne_none token (hdelimiter.symm.trans hplain.1)
    refine ⟨parts before, parts after, ?_, sourceOf_parts before, sourceOf_parts after⟩
    rw [parts, pieces_append_written hterm hfree, partsFrom_append hcut,
      partsFrom_delimiter hdelimiter]
    rfl

lemma mem_lexemes_of_mem_parts {query : List Char} {lexeme : Lexeme}
    (h : .read lexeme ∈ parts query) : lexeme ∈ lexemes query := by
  rw [lexemes, ← filterMap_partsFrom]
  exact List.mem_filterMap.mpr ⟨_, h, rfl⟩

lemma white_of_mem_partsFrom {c : Char} (h : .blank c ∈ partsFrom read rest) :
    isWhiteSpace c = true := by
  have hclosed : ∀ read, .blank c ∉ closedPart read := by
    intro read hmem
    simp [closedPart] at hmem
  induction rest generalizing read with
  | nil => exact absurd h (hclosed read)
  | cons piece rest ih =>
    rcases piece_cases piece with ⟨token, htoken⟩ | ⟨hnone, hwhite⟩ | hplain
    · rw [partsFrom_delimiter htoken, List.mem_append, List.mem_cons] at h
      rcases h with hmem | hmem | hmem
      · exact absurd hmem (hclosed read)
      · cases hmem
      · exact ih hmem
    · rw [partsFrom_blank hnone hwhite, List.mem_append, List.mem_append] at h
      rcases h with hmem | hmem | hmem
      · exact absurd hmem (hclosed read)
      · obtain ⟨blank, hblank, hsame⟩ := List.mem_map.mp hmem
        obtain rfl := Part.blank.inj hsame
        exact List.all_eq_true.mp hwhite blank hblank
      · exact ih hmem
    · rw [partsFrom_plain hplain] at h
      exact ih h

/-- What is no word may stand beside any part. -/
lemma isChain_append {front behind : List Part} (hfront : ∀ part ∈ front, part.isWord = false)
    (hbehind : behind.IsChain Part.Apart) : (front ++ behind).IsChain Part.Apart := by
  induction front with
  | nil => exact hbehind
  | cons part front ih =>
    rw [List.forall_mem_cons] at hfront
    rw [List.cons_append, List.isChain_cons]
    refine ⟨fun _ _ hword => ?_, ih hfront.2⟩
    rw [hfront.1] at hword
    cases hword

lemma isChain_closedPart (read : List (List Char)) : (closedPart read).IsChain Part.Apart := by
  rw [closedPart, closedWord]
  split
  · exact List.isChain_nil
  · exact List.isChain_singleton _

lemma isChain_closedPart_append {part : Part} {behind : List Part} (hpart : part.isWord = false)
    (hbehind : (part :: behind).IsChain Part.Apart) :
    (closedPart read ++ part :: behind).IsChain Part.Apart := by
  rw [List.isChain_append]
  refine ⟨isChain_closedPart read, hbehind, fun last _ first hfirst _ => ?_⟩
  obtain rfl : part = first := Option.some.inj hfirst
  exact hpart

/-- Between two words there is a delimiter or a blank. -/
lemma isChain_partsFrom (hrest : ∀ piece ∈ rest, piece ≠ []) :
    (partsFrom read rest).IsChain Part.Apart := by
  induction rest generalizing read with
  | nil => exact isChain_closedPart read
  | cons piece rest ih =>
    rw [List.forall_mem_cons] at hrest
    have hbehind : (partsFrom [] rest).IsChain Part.Apart := ih hrest.2
    rcases piece_cases piece with ⟨token, htoken⟩ | ⟨hnone, hwhite⟩ | hplain
    · have hdelimiter : ∀ part ∈ [Part.read (.delimiter token)], part.isWord = false := by
        simp [Part.isWord]
      rw [partsFrom_delimiter htoken]
      apply isChain_closedPart_append rfl
      exact isChain_append hdelimiter hbehind
    · obtain ⟨c, others, rfl⟩ := List.exists_cons_of_ne_nil hrest.1
      have hblanks : ∀ part ∈ (c :: others).map Part.blank, part.isWord = false := by
        simp [Part.isWord]
      rw [partsFrom_blank hnone hwhite]
      apply isChain_closedPart_append rfl
      exact isChain_append hblanks hbehind
    · rw [partsFrom_plain hplain]
      exact ih hrest.2

end PartsFrom

end Retrieval.Query
