import Mathlib.Tactic.Common
import Retrieval.Proofs.Query.Parts

/-!
# A query is tiled by its parts

`Tiles` says which parts a query falls into, without following the lexer.  The parts are the query,
one behind the other; delimiters stand exactly where they are spelled and free; blanks are white
space; and what is left are words, which hold nothing that queries are cut at and never meet.

The lexer makes such parts of every query (`tiles_parts`), and a query is tiled in one way only
(`Tiles.unique`): two tilings that are alike up to some place go on alike.  For a delimiter that is
so because whether it stands at that place is a matter of the query, and a blank is no beginning of
a word.  Two words at the place end at the same one, since behind the shorter of them the query goes
on with a blank, or with a delimiter that would have to stand within the longer one
(`not_standsIn_word`).

So what is said of tilings is said of tokens, and nothing of a query is lost but its blanks.
-/

namespace Retrieval.Query

open Unicode

/-- The parts that a query falls into, in their order. -/
structure Tiles (query : List Char) (parts : List Part) : Prop where
  source : sourceOf parts = query
  /-- Wherever a delimiter is spelled, it is a part exactly if it is free. -/
  delimiters : ∀ {token before after}, token.term? = none →
    before ++ token.written ++ after = query →
      (StandsIn parts before token after ↔ IsFree before token after)
  delimiter : ∀ {token}, .read (.delimiter token) ∈ parts → token.term? = none
  blank : ∀ {c}, .blank c ∈ parts → isWhiteSpace c = true
  word : ∀ {text}, .read (.word text) ∈ parts → text ≠ [] ∧ ∀ c ∈ text, isCut c = false
  /-- A word goes on until something else begins. -/
  apart : parts.IsChain Part.Apart

/-- **The parts of a query** tile it. -/
theorem tiles_parts (query : List Char) : Tiles query (parts query) where
  source := sourceOf_parts query
  delimiters hterm hquery := by
    rw [← hquery]
    exact standsIn_parts hterm
  delimiter h := term?_of_delimiter_mem (mem_lexemes_of_mem_parts h)
  blank h := white_of_mem_partsFrom h
  word h := ⟨ne_nil_of_mem_lexemes (mem_lexemes_of_mem_parts h),
    uncut_of_mem_lexemes (mem_lexemes_of_mem_parts h)⟩
  apart := isChain_partsFrom fun _ => piece_ne_nil

/-! ## There is no other way to tile a query -/

namespace Tiles

variable {query : List Char} {a b : List Part}

lemma source_ne_nil (h : Tiles query a) {part : Part} (hpart : part ∈ a) : part.source ≠ [] := by
  match part, hpart with
  | .blank c, _ => exact List.cons_ne_nil c []
  | .read (.word text), hpart => exact (h.word hpart).1
  | .read (.delimiter token), hpart => exact (written_spec (h.delimiter hpart)).1

lemma eq_nil_of_sourceOf (h : Tiles query a) {chosen : List Part} (hchosen : chosen ⊆ a)
    (hsource : sourceOf chosen = []) : chosen = [] := by
  cases chosen with
  | nil => rfl
  | cons part others =>
    rw [sourceOf_cons, List.append_eq_nil_iff] at hsource
    exact absurd hsource.1 (h.source_ne_nil (hchosen List.mem_cons_self))

/-- Where parts begin is told by how much of the query lies before. -/
lemma eq_of_sourceOf_eq (h : Tiles query a) {done left rest right : List Part}
    (hdone : a = done ++ rest) (hleft : a = left ++ right)
    (hsource : sourceOf left = sourceOf done) : left = done ∧ right = rest := by
  rcases List.append_eq_append_iff.mp (hleft.symm.trans hdone) with
    ⟨between, rfl, rfl⟩ | ⟨between, rfl, rfl⟩
  · rw [sourceOf_append, List.self_eq_append_right] at hsource
    have hbetween : between = [] := h.eq_nil_of_sourceOf (by rw [hleft]; simp) hsource
    rw [hbetween, List.append_nil]
    exact ⟨rfl, rfl⟩
  · rw [sourceOf_append, List.append_right_eq_self] at hsource
    have hbetween : between = [] := h.eq_nil_of_sourceOf (by rw [hdone]; simp) hsource
    rw [hbetween, List.append_nil]
    exact ⟨rfl, rfl⟩

/-- Where one tiling has a delimiter, the other has it. -/
lemma delimiter_of_delimiter (ha : Tiles query a) (hb : Tiles query b) {before behind : List Part}
    {token : Token} (h : a = before ++ .read (.delimiter token) :: behind) :
    StandsIn b (sourceOf before) token (sourceOf behind) := by
  have hterm : token.term? = none := ha.delimiter (by rw [h]; simp)
  have hquery : sourceOf before ++ token.written ++ sourceOf behind = query := by
    rw [← ha.source, h, sourceOf_append, sourceOf_cons, List.append_assoc]
    rfl
  rw [hb.delimiters hterm hquery, ← ha.delimiters hterm hquery]
  exact ⟨before, behind, h, rfl, rfl⟩

variable {done x y : List Part} {p q : Part}

lemma first_eq_of_delimiter (ha : Tiles query a) (hb : Tiles query b) {token : Token}
    (hx : a = done ++ .read (.delimiter token) :: x) (hy : b = done ++ q :: y) :
    .read (.delimiter token) = q := by
  obtain ⟨left, right, hleft, hbefore, -⟩ := ha.delimiter_of_delimiter hb hx
  obtain ⟨-, hright⟩ := hb.eq_of_sourceOf_eq hy hleft hbefore
  exact (List.cons.inj hright).1

/-- No delimiter stands at a place within a word. -/
lemma not_standsIn_word {text more behind : List Char} {token : Token} (htext : text ≠ [])
    (hmore : more ≠ []) (hy : b = done ++ .read (.word (text ++ more)) :: y) :
    ¬ StandsIn b (sourceOf done ++ text) token behind := by
  rintro ⟨left, right, hleft, hbefore, -⟩
  have hlength := congrArg List.length hbefore
  have htext : 0 < text.length := List.length_pos_iff.mpr htext
  have hmore : 0 < more.length := List.length_pos_iff.mpr hmore
  rcases List.append_eq_append_iff.mp (hleft.symm.trans hy) with
    ⟨between, rfl, -⟩ | ⟨between, rfl, hbetween⟩
  · simp only [sourceOf_append, List.length_append] at hlength
    omega
  · cases between with
    | nil => cases hbetween
    | cons first between =>
      obtain ⟨rfl, -⟩ := List.cons.inj hbetween
      simp only [sourceOf_append, sourceOf_cons, Part.source, Lexeme.source,
        List.length_append] at hlength
      omega

/-- No blank begins an uncut text. -/
lemma blank_ne_uncut (ha : Tiles query a) {c : Char} {text rest rest' : List Char}
    (hc : .blank c ∈ a) (htext : text ≠ []) (huncut : ∀ c ∈ text, isCut c = false) :
    c :: rest ≠ text ++ rest' := by
  intro h
  obtain ⟨first, others, rfl⟩ := List.exists_cons_of_ne_nil htext
  obtain ⟨rfl, -⟩ := List.cons.inj h
  have hwhite := white_eq_false_of_uncut (huncut c List.mem_cons_self)
  exact Bool.noConfusion (hwhite.symm.trans (ha.blank hc))

/-- What follows equal parts of two tilings is equal. -/
lemma rest_source_eq (ha : Tiles query a) (hb : Tiles query b) (hx : a = done ++ x)
    (hy : b = done ++ y) : sourceOf x = sourceOf y := by
  have hsame := ha.source.trans hb.source.symm
  rw [hx, hy, sourceOf_append, sourceOf_append] at hsame
  exact List.append_cancel_left hsame

/-- No word of one tiling goes on where one of the other ends. -/
lemma word_not_longer (ha : Tiles query a) (hb : Tiles query b) {text more : List Char}
    (hx : a = done ++ .read (.word text) :: x)
    (hy : b = done ++ .read (.word (text ++ more)) :: y) : more = [] := by
  by_contra hmore
  have hword : text ≠ [] := (ha.word (by rw [hx]; simp)).1
  have huncut : ∀ c ∈ more, isCut c = false := fun c hc =>
    (hb.word (by rw [hy]; simp)).2 c (List.mem_append_right text hc)
  have hrest : sourceOf x = more ++ sourceOf y := by
    have hsame := ha.rest_source_eq hb hx hy
    simpa [sourceOf_cons, Part.source, Lexeme.source] using hsame
  cases x with
  | nil => exact hmore (List.append_eq_nil_iff.mp hrest.symm).1
  | cons next x =>
    cases next with
    | blank c => exact ha.blank_ne_uncut (by rw [hx]; simp) hmore huncut hrest
    | read lexeme =>
      cases lexeme with
      | word other =>
        have hchain := ha.apart
        rw [hx, List.isChain_append_cons_cons] at hchain
        cases hchain.2.1 rfl
      | delimiter token =>
        have hsplit : a = (done ++ [.read (.word text)]) ++ .read (.delimiter token) :: x := by
          rw [hx, List.append_assoc, List.singleton_append]
        have hstands := ha.delimiter_of_delimiter hb hsplit
        have hbefore : sourceOf [.read (.word text)] = text := List.append_nil text
        rw [sourceOf_append, hbefore] at hstands
        exact not_standsIn_word hword hmore hy hstands

/-- Two tilings go on alike. -/
lemma first_eq (ha : Tiles query a) (hb : Tiles query b) (hx : a = done ++ p :: x)
    (hy : b = done ++ q :: y) : p = q := by
  have hsource : p.source ++ sourceOf x = q.source ++ sourceOf y :=
    ha.rest_source_eq hb hx hy
  have hp : p ∈ a := by rw [hx]; simp
  have hq : q ∈ b := by rw [hy]; simp
  match p, q with
  | .read (.delimiter token), q => exact ha.first_eq_of_delimiter hb hx hy
  | p, .read (.delimiter token) => exact (hb.first_eq_of_delimiter ha hy hx).symm
  | .blank c, .blank d =>
    obtain ⟨rfl, -⟩ := List.cons.inj hsource
    rfl
  | .blank c, .read (.word text) =>
    exact absurd hsource (ha.blank_ne_uncut hp (hb.word hq).1 (hb.word hq).2)
  | .read (.word text), .blank c =>
    exact absurd hsource.symm (hb.blank_ne_uncut hq (ha.word hp).1 (ha.word hp).2)
  | .read (.word text), .read (.word other) =>
    rcases List.append_eq_append_iff.mp hsource with ⟨more, hlonger, -⟩ | ⟨more, hlonger, -⟩
    · obtain rfl : other = text ++ more := hlonger
      rw [ha.word_not_longer hb hx hy, List.append_nil]
    · obtain rfl : text = other ++ more := hlonger
      rw [hb.word_not_longer ha hy hx, List.append_nil]

/-- **A query is tiled in one way only.** -/
theorem unique (ha : Tiles query a) (hb : Tiles query b) : a = b := by
  have hfrom : ∀ x {done y : List Part}, a = done ++ x → b = done ++ y → x = y := by
    intro x
    induction x with
    | nil =>
      intro done y hx hy
      have hsource : sourceOf y = [] := (ha.rest_source_eq hb hx hy).symm
      exact (hb.eq_nil_of_sourceOf (by rw [hy]; simp) hsource).symm
    | cons p x ih =>
      intro done y hx hy
      cases y with
      | nil =>
        have hsource : sourceOf (p :: x) = [] := ha.rest_source_eq hb hx hy
        exact ha.eq_nil_of_sourceOf (by rw [hx]; simp) hsource
      | cons q y =>
        obtain rfl := ha.first_eq hb hx hy
        have hrest : x = y := ih (by rw [hx, List.append_cons]) (by rw [hy, List.append_cons])
        rw [hrest]
  exact hfrom a (List.nil_append a).symm (List.nil_append b).symm

end Tiles

/-! ## Tokens -/

/-- The token of a part that is read, if words are taken as they stand, in lower case. -/
def Lexeme.plainToken : Lexeme → Token
  | delimiter token => token
  | word text => .term (String.ofList (lowercase text))

lemma tokenize_identity (query : String) :
    tokenize .identity query
      = ((parts query.toList).filterMap Part.lexeme?).map Lexeme.plainToken := by
  rw [filterMap_parts, tokenize, ← List.filterMap_eq_map]
  refine List.filterMap_congr fun lexeme hlexeme => ?_
  cases lexeme with
  | delimiter token => rfl
  | word text =>
    have hne : lowercase text ≠ [] := lowercase_ne_nil (ne_nil_of_mem_lexemes hlexeme)
    simp [Lexeme.token?, termOf, Stem.Lemmatizer.identity, hne, Lexeme.plainToken]

/-- The parts that are read are the query without its blanks. -/
lemma Tiles.source_lexemes {query : List Char} {parts : List Part} (h : Tiles query parts) :
    (parts.filterMap Part.lexeme?).flatMap Lexeme.source
      = query.filter fun c => !isWhiteSpace c := by
  have hpart : ∀ part ∈ parts, part.lexeme?.toList.flatMap Lexeme.source
      = part.source.filter fun c => !isWhiteSpace c := by
    intro part hpart
    match part with
    | .blank c => simp [Part.lexeme?, Part.source, h.blank hpart]
    | .read lexeme =>
      have hread : ∀ c ∈ lexeme.source, isWhiteSpace c = false := by
        cases lexeme with
        | delimiter token =>
          have hwritten := List.any_eq_false.mp (written_spec (h.delimiter hpart)).2
          exact fun c hc => Bool.eq_false_iff.mpr (hwritten c hc)
        | word text => exact fun c hc => white_eq_false_of_uncut ((h.word hpart).2 c hc)
      have hkept : lexeme.source.filter (fun c => !isWhiteSpace c) = lexeme.source :=
        List.filter_eq_self.mpr fun c hc => by rw [hread c hc]; rfl
      exact (List.append_nil _).trans hkept.symm
  rw [← h.source, sourceOf, List.filter_flatMap, List.filterMap_eq_flatMap_toList,
    List.flatMap_assoc]
  exact List.flatMap_congr hpart

/-- A blank between two queries keeps them apart. -/
lemma lexemes_append (a b : List Char) : lexemes (a ++ ' ' :: b) = lexemes a ++ lexemes b := by
  have hcut : ¬ IsPlain [' '] := fun hplain => Bool.noConfusion hplain.2
  have hparts : parts (a ++ ' ' :: b) = parts a ++ .blank ' ' :: parts b := by
    rw [parts, pieces_append_cons (by decide), partsFrom_append hcut,
      partsFrom_blank rfl (by decide)]
    rfl
  rw [← filterMap_parts, hparts, List.filterMap_append, filterMap_parts, ← filterMap_parts b]
  rfl

lemma uncut_of_mem_tokenize {query value : String} (h : .term value ∈ tokenize .identity query) :
    ∀ c ∈ value.toList, isCut c = false := by
  rw [tokenize_identity, filterMap_parts, List.mem_map] at h
  obtain ⟨lexeme, hlexeme, hvalue⟩ := h
  cases lexeme with
  | delimiter token =>
    obtain rfl : token = .term value := hvalue
    cases term?_of_delimiter_mem hlexeme
  | word text =>
    obtain rfl : String.ofList (lowercase text) = value := Token.term.inj hvalue
    intro c hc
    rw [String.toList_ofList] at hc
    by_contra hcut
    rw [Bool.not_eq_false] at hcut
    have huncut := uncut_of_mem_lexemes hlexeme c (mem_of_isCut_lowercase hc hcut)
    exact Bool.noConfusion (huncut.symm.trans hcut)

/-- **A query is read without loss, and blank by blank.**  It falls into parts in one way only.  If
words are taken as they stand, each part that is no blank is one token, a word as a term in lower
case; no term is empty or holds white space, an exclamation mark or a parenthesis; and the parts of
the tokens are the query without its white space.  Whatever the lemmatizer, two queries with a blank
between them have the tokens of both. -/
theorem query_is_read_without_loss :
    (∀ query : String, ∃ parts, (∀ others, Tiles query.toList others ↔ others = parts) ∧
      tokenize .identity query = (parts.filterMap Part.lexeme?).map Lexeme.plainToken ∧
      (∀ value, .term value ∈ tokenize .identity query →
        value ≠ "" ∧ ∀ c ∈ value.toList, isCut c = false) ∧
      (parts.filterMap Part.lexeme?).flatMap Lexeme.source
        = query.toList.filter fun c => !isWhiteSpace c) ∧
    ∀ (lemmatizer : Stem.Lemmatizer) (a b : String),
      tokenize lemmatizer (a ++ " " ++ b) = tokenize lemmatizer a ++ tokenize lemmatizer b := by
  refine ⟨fun query => ?_, fun lemmatizer a b => ?_⟩
  · have htiles := tiles_parts query.toList
    refine ⟨parts query.toList, fun others => ⟨fun h => h.unique htiles, ?_⟩,
      tokenize_identity query, fun value hvalue => ?_, htiles.source_lexemes⟩
    · rintro rfl
      exact htiles
    · exact ⟨ne_empty_of_mem_tokenize hvalue, uncut_of_mem_tokenize hvalue⟩
  · have hquery : (a ++ " " ++ b).toList = a.toList ++ ' ' :: b.toList := by simp
    rw [tokenize, hquery, lexemes_append, List.filterMap_append]
    rfl

/-- An operator is none beside a letter, a mark or a digit of any script. -/
example : tokenize .identity "xAND AND\u0301 OR٣ (AND)" =
    [.term "xand", .term "and\u0301", .term "or٣", .leftParen, .operator .and, .rightParen] := by
  decide +kernel

end Retrieval.Query
