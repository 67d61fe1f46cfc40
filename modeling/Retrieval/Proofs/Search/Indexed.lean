import Mathlib.Tactic.Common
import Retrieval.Proofs.Query.Lexing
import Retrieval.Proofs.Search.Boolean
import Retrieval.Proofs.Stem.Tokens
import Retrieval.Proofs.Text.Tokens

/-!
# What is indexed can be found

A document is cut into tokens by one way of reading and a query by another: the first folds
compatibility variants, takes punctuation for blanks and lowers before anything is stemmed, the
second knows no punctuation but its delimiters and lowers last.  They meet on tokens.  A token that
is written as a query is read as one term, its lemma, and the search for it finds every document
that holds it (`indexed_tokens_are_found`).

They need not meet on the words of a document.  A word is read as one term as well, but as it
stands: lowered, and nothing else.  So it is found if lowering is all that makes a token of it, and
if it holds punctuation nothing is found at all (`words_are_read_as_they_stand`).
-/

namespace Retrieval

open Corpus (Document Fits Record accepted ids)
open Posting (Representation)
open Query (lexemes pieces tokenize)
open Text (IsToken isPunctuation normalizeChars)
open Unicode (IsSeparator compatibilityCompose isCut isWhiteSpace lowercase)

namespace Search

/-! ## Queries of one term -/

/-- The documents that have a stem. -/
def holders (analysis : Analysis) (records : List Record) (value : String) : List Document :=
  (accepted records).filter fun document => decide (value ∈ document.stems analysis)

lemma mem_holders {analysis : Analysis} {records : List Record} {value : String}
    {document : Document} : document ∈ holders analysis records value ↔
      document ∈ accepted records ∧ value ∈ document.stems analysis := by
  rw [holders, List.mem_filter, decide_eq_true_iff]

/-- A query of one term finds the documents that have it for a stem. -/
lemma exists_search_of_term {analysis : Analysis} {records : List Record}
    (hfits : Fits analysis records) {lemmatizer : Stem.Lemmatizer} {query value : String}
    (hquery : tokenize lemmatizer query = [.term value]) (hne : value ≠ "")
    (representation : Representation) :
    ∃ builder, (Builder.empty representation).addAll analysis records = .ok (ids records, builder) ∧
      builder.index.search lemmatizer query .boolean
        = .ok (.found ⟨(holders analysis records value).length,
            inOrder representation ((holders analysis records value).map reported)⟩) := by
  obtain ⟨builder, hadd, hbuilder⟩ := Builder.exists_addAll hfits representation
  have hparse : Query.Tree.parse? (tokenize lemmatizer query) = .ok (some (.term value)) := by
    rw [hquery]
    rfl
  have hleaves : ∀ leaf ∈ (Query.Tree.term value).leaves, leaf ≠ "" := by
    intro leaf hleaf
    rwa [List.mem_singleton.mp hleaf]
  refine ⟨builder, hadd, ?_⟩
  rw [search_of_parse? hparse, boolean_of_describes hbuilder hleaves]
  rfl

/-! ## Tokens -/

/-- A token is not cut. -/
lemma isCut_of_isToken {text : List Char} (h : IsToken text) : ∀ c ∈ text, isCut c = false := by
  intro c hc
  have hpunctuation := h.not_punctuation c hc
  rw [isCut, h.not_white c hc]
  by_contra hcut
  simp only [Bool.false_or, Bool.not_eq_false, Bool.or_eq_true, decide_eq_true_eq] at hcut
  rcases hcut with (rfl | rfl) | rfl <;> exact absurd hpunctuation (by decide)

/-- **A token is read as its lemma.** -/
theorem tokenize_token {lemmatizer : Stem.Lemmatizer} (hlemmatizer : lemmatizer.KeepsTokens)
    {text : List Char} (h : IsToken text) :
    tokenize lemmatizer (String.ofList text)
      = [.term (lemmatizer (String.ofList text))] := by
  obtain ⟨hne, hlower⟩ := hlemmatizer text h
  have hword : Query.IsWord text := Query.isWord_of_settled h.ne_nil
    fun c hc => ⟨h.settled c hc, isCut_of_isToken h c hc⟩
  rw [tokenize, String.toList_ofList, Query.lexemes_of_isWord hword]
  simp [Query.Lexeme.token?, Query.termOf, hlower, hne]

/-- **What is indexed can be found.**  Every token of an accepted document looks like a token and is
read as one term, its lemma, and in every layout the search for it lists the document. -/
theorem indexed_tokens_are_found {lemmatizer : Stem.Lemmatizer}
    (hlemmatizer : lemmatizer.KeepsTokens) {records : List Record}
    (hfits : Fits ⟨Text.normalize, lemmatizer⟩ records) {document : Document}
    (hdocument : document ∈ accepted records) {token : String}
    (htoken : token ∈ Text.normalize document.content) :
    IsToken token.toList ∧ tokenize lemmatizer token = [.term (lemmatizer token)] ∧
      ∀ representation, ∃ builder hits,
        (Builder.empty representation).addAll ⟨Text.normalize, lemmatizer⟩ records
            = .ok (ids records, builder) ∧
          builder.index.search lemmatizer token .boolean = .ok (.found hits) ∧
          reported document ∈ hits.hits := by
  obtain ⟨text, htext, rfl⟩ := List.mem_map.mp htoken
  have hlooks := Text.isToken_of_mem_normalizeChars htext
  have hread := tokenize_token hlemmatizer hlooks
  refine ⟨by rwa [String.toList_ofList], hread, fun representation => ?_⟩
  obtain ⟨builder, hadd, hsearch⟩ :=
    exists_search_of_term hfits hread (hlemmatizer text hlooks).1 representation
  refine ⟨builder, _, hadd, hsearch, ?_⟩
  rw [mem_inOrder]
  refine List.mem_map_of_mem (mem_holders.mpr ⟨hdocument, ?_⟩)
  exact List.mem_map_of_mem htoken

/-- Two tokens of one document have one lemma, and searching for either lists it. -/
theorem stemmed_tokens_are_found :
    let lemmatizer : Stem.Lemmatizer := .ofStem Stem.English.stem
    let analysis : Analysis := ⟨Text.normalize, lemmatizer⟩
    let records : List Record := [⟨"a", "Running, (Runs)!"⟩, ⟨"b", "The fox"⟩]
    let document : Document := ⟨1, "a", "Running, (Runs)!"⟩
    document ∈ accepted records ∧ lemmatizer "running" = "run" ∧ lemmatizer "runs" = "run" ∧
      ∀ token ∈ ["running", "runs"],
        IsToken token.toList ∧ tokenize lemmatizer token = [.term (lemmatizer token)] ∧
          ∀ representation, ∃ builder hits,
            (Builder.empty representation).addAll analysis records = .ok (ids records, builder) ∧
              builder.index.search lemmatizer token .boolean = .ok (.found hits) ∧
              reported document ∈ hits.hits := by
  intro lemmatizer analysis records document
  have hfits : Fits analysis records := ⟨by decide +kernel, by decide +kernel, by decide +kernel⟩
  have hdocument : document ∈ accepted records := by decide +kernel
  have htokens : ∀ token ∈ ["running", "runs"], token ∈ Text.normalize document.content := by
    decide +kernel
  exact ⟨hdocument, by decide +kernel, by decide +kernel, fun token htoken =>
    indexed_tokens_are_found Stem.Lemmatizer.keepsTokens_english hfits hdocument
      (htokens token htoken)⟩

/-! ## Words -/

/-- **A word is read as it stands**, in lower case, unless it is cut or spells an operator. -/
theorem tokenize_word {word : List Char} (hne : word ≠ []) (hcut : ∀ c ∈ word, isCut c = false)
    (hand : ['A', 'N', 'D'] ∉ pieces word) (hor : ['O', 'R'] ∉ pieces word) :
    tokenize .identity (String.ofList word) = [.term (String.ofList (lowercase word))] := by
  have hword := Query.isWord_of_uncut hne hcut hand hor
  have hlower := Unicode.lowercase_ne_nil hne
  rw [tokenize, String.toList_ofList, Query.lexemes_of_isWord hword]
  simp [Query.Lexeme.token?, Query.termOf, Stem.Lemmatizer.identity, hlower]

/-- A word that holds no punctuation and that normalization changes at most in case is one token,
its lower-case form. -/
lemma normalizeChars_of_plain {word : List Char} (hjoins : Text.JoinsNothing word) (hne : word ≠ [])
    (hwhite : ∀ c ∈ word, isWhiteSpace c = false)
    (hpunctuation : ∀ c ∈ word, isPunctuation c = false)
    (hcase : lowercase (compatibilityCompose word) = lowercase word) :
    normalizeChars word = [lowercase word] := by
  -- a separator in the normalized word would be one in the word
  have hback : ∀ c, IsSeparator c → c ∈ compatibilityCompose word → c ∈ word := by
    intro c hseparator hc
    have hmem := Unicode.mem_lowercase_of_settled (Unicode.isSettled_of_isSeparator hseparator) hc
    rw [hcase] at hmem
    exact Unicode.mem_of_isSeparator_lowercase hmem hseparator
  have hplain : ∀ c ∈ compatibilityCompose word, isPunctuation c = false := by
    intro c hc
    by_contra hpunct
    rw [Bool.not_eq_false] at hpunct
    have hmem := hback c (Text.isSeparator_of_isPunctuation hpunct) hc
    exact Bool.noConfusion ((hpunctuation c hmem).symm.trans hpunct)
  have hlower : ∀ c ∈ lowercase word, isWhiteSpace c = false := by
    intro c hc
    by_contra hblank
    rw [Bool.not_eq_false] at hblank
    have hmem := Unicode.mem_of_isSeparator_lowercase hc
      (Unicode.isSeparator_of_isWhiteSpace hblank)
    exact Bool.noConfusion ((hwhite c hmem).symm.trans hblank)
  rw [hjoins.normalizeChars_eq, Text.stripPunctuation_of_not hplain, hcase,
    Text.words_of_not_white (Unicode.lowercase_ne_nil hne) hlower]

/-- No document has a stem with punctuation in it. -/
lemma holders_of_punctuation {records : List Record} {value : String} {c : Char}
    (hc : c ∈ value.toList) (hpunctuation : isPunctuation c = true) :
    holders ⟨Text.normalize, .identity⟩ records value = [] := by
  rw [List.eq_nil_iff_forall_not_mem]
  intro document hdocument
  obtain ⟨-, hstem⟩ := mem_holders.mp hdocument
  obtain ⟨token, htoken, rfl⟩ := List.mem_map.mp hstem
  obtain ⟨text, htext, rfl⟩ := List.mem_map.mp htoken
  change c ∈ (String.ofList text).toList at hc
  rw [String.toList_ofList] at hc
  have hnone := (Text.isToken_of_mem_normalizeChars htext).not_punctuation c hc
  exact Bool.noConfusion (hnone.symm.trans hpunctuation)

/-- **Words are read as they stand.**  Let no digits be joined in a document, and let one of its
words hold no delimiter and spell no operator, and be normalized to one token.  The word is read as
one term, its lower-case form.  This is the token if the word holds no punctuation and normalization
changes nothing in it but case; and if it is the token, the search for the word lists the document
in every layout.  The search for a word with punctuation finds nothing. -/
theorem words_are_read_as_they_stand {records : List Record}
    (hfits : Fits ⟨Text.normalize, .identity⟩ records) {document : Document}
    (hdocument : document ∈ accepted records)
    (hjoins : Text.JoinsNothing document.content.toList) {word token : List Char}
    (hword : word ∈ Text.words document.content.toList)
    (hdelimiters : '!' ∉ word ∧ '(' ∉ word ∧ ')' ∉ word)
    (hand : ['A', 'N', 'D'] ∉ pieces word) (hor : ['O', 'R'] ∉ pieces word)
    (htoken : normalizeChars word = [token]) :
    tokenize .identity (String.ofList word) = [.term (String.ofList (lowercase word))] ∧
      ((∀ c ∈ word, isPunctuation c = false) →
        lowercase (compatibilityCompose word) = lowercase word → lowercase word = token) ∧
      ∀ representation, ∃ builder hits,
        (Builder.empty representation).addAll ⟨Text.normalize, .identity⟩ records
            = .ok (ids records, builder) ∧
          builder.index.search .identity (String.ofList word) .boolean = .ok (.found hits) ∧
          (lowercase word = token → reported document ∈ hits.hits) ∧
          ((∃ c ∈ word, isPunctuation c = true) → hits = ⟨0, []⟩) := by
  obtain ⟨hne, hchars⟩ := Text.mem_words hword
  have hcut : ∀ c ∈ word, isCut c = false := by
    intro c hc
    rw [isCut, (hchars c hc).1]
    by_contra hmark
    simp only [Bool.false_or, Bool.not_eq_false, Bool.or_eq_true, decide_eq_true_eq] at hmark
    rcases hmark with (rfl | rfl) | rfl
    · exact hdelimiters.1 hc
    · exact hdelimiters.2.1 hc
    · exact hdelimiters.2.2 hc
  have hread := tokenize_word hne hcut hand hor
  have hterm : String.ofList (lowercase word) ≠ "" := by
    simpa using Unicode.lowercase_ne_nil hne
  refine ⟨hread, fun hpunctuation hcase => ?_, fun representation => ?_⟩
  · have hplain := normalizeChars_of_plain (hjoins.of_mem_words hword) hne
      (fun c hc => (hchars c hc).1) hpunctuation hcase
    exact (List.singleton_inj.mp (htoken.symm.trans hplain)).symm
  · obtain ⟨builder, hadd, hsearch⟩ := exists_search_of_term hfits hread hterm representation
    refine ⟨builder, _, hadd, hsearch, ?_, ?_⟩
    · rintro rfl
      rw [mem_inOrder]
      refine List.mem_map_of_mem (mem_holders.mpr ⟨hdocument, ?_⟩)
      have hindexed : lowercase word ∈ normalizeChars document.content.toList := by
        rw [Text.normalizeChars_eq_flatMap hjoins]
        exact List.mem_flatMap.mpr ⟨word, hword, by simp [htoken]⟩
      exact List.mem_map_of_mem (List.mem_map_of_mem hindexed)
    · rintro ⟨c, hc, hpunctuation⟩
      have hkept := Unicode.mem_lowercase_of_settled (Unicode.isSettled_of_isSeparator
        (Text.isSeparator_of_isPunctuation hpunctuation)) hc
      rw [holders_of_punctuation (by rwa [String.toList_ofList]) hpunctuation]
      cases representation <;> rfl

/-- A capital is all that keeps this word from being a token. -/
theorem capital_word_is_found :
    let analysis : Analysis := ⟨Text.normalize, .identity⟩
    let records : List Record := [⟨"u", "Red fox, cat"⟩]
    let document : Document := ⟨1, "u", "Red fox, cat"⟩
    let word := "Red".toList
    document ∈ accepted records ∧ normalizeChars word = ["red".toList] ∧
      tokenize .identity (String.ofList word) = [.term (String.ofList (lowercase word))] ∧
      ((∀ c ∈ word, isPunctuation c = false) →
        lowercase (compatibilityCompose word) = lowercase word →
        lowercase word = "red".toList) ∧
      ∀ representation, ∃ builder hits,
        (Builder.empty representation).addAll analysis records = .ok (ids records, builder) ∧
          builder.index.search .identity (String.ofList word) .boolean = .ok (.found hits) ∧
          (lowercase word = "red".toList → reported document ∈ hits.hits) ∧
          ((∃ c ∈ word, isPunctuation c = true) → hits = ⟨0, []⟩) := by
  intro analysis records document word
  have hfits : Fits analysis records := ⟨by decide +kernel, by decide +kernel, by decide +kernel⟩
  have hdocument : document ∈ accepted records := by decide +kernel
  have htoken : normalizeChars word = ["red".toList] := by decide +kernel
  have hjoins : Text.JoinsNothing document.content.toList := by
    unfold Text.JoinsNothing
    decide +kernel
  exact ⟨hdocument, htoken, words_are_read_as_they_stand hfits hdocument hjoins (by decide +kernel)
    (by decide +kernel) (by decide +kernel) (by decide +kernel) htoken⟩

/-- A word with a comma behind it is read with its comma, and what is found is nothing, although the
word without the comma is a token of the document. -/
theorem comma_behind_word_hides_document :
    let analysis : Analysis := ⟨Text.normalize, .identity⟩
    let records : List Record := [⟨"u", "red fox, cat"⟩]
    let word := "fox,".toList
    Fits analysis records ∧ accepted records = [⟨1, "u", "red fox, cat"⟩] ∧
      Text.JoinsNothing "red fox, cat".toList ∧ word ∈ Text.words "red fox, cat".toList ∧
      ('!' ∉ word ∧ '(' ∉ word ∧ ')' ∉ word) ∧ ['A', 'N', 'D'] ∉ pieces word ∧
      ['O', 'R'] ∉ pieces word ∧ normalizeChars word = ["fox".toList] ∧
      tokenize .identity "fox," = [.term "fox,"] ∧
      ∀ representation, ∃ builder,
        (Builder.empty representation).addAll analysis records = .ok (ids records, builder) ∧
          builder.index.search .identity "fox," .boolean = .ok (.found ⟨0, []⟩) := by
  intro analysis records word
  have hfits : Fits analysis records := ⟨by decide +kernel, by decide +kernel, by decide +kernel⟩
  have hread : tokenize .identity "fox," = [.term "fox,"] := by decide +kernel
  have hnone : holders analysis records "fox," = [] := by decide +kernel
  have hjoins : Text.JoinsNothing "red fox, cat".toList := by
    unfold Text.JoinsNothing
    decide +kernel
  refine ⟨hfits, by decide +kernel, hjoins, by decide +kernel, by decide +kernel,
    by decide +kernel, by decide +kernel, by decide +kernel, hread, fun representation => ?_⟩
  obtain ⟨builder, hadd, hsearch⟩ :=
    exists_search_of_term hfits hread (by decide) representation
  rw [hnone] at hsearch
  refine ⟨builder, hadd, hsearch.trans ?_⟩
  cases representation <;> rfl

end Search

end Retrieval
