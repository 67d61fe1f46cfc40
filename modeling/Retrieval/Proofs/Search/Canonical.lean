import Mathlib.Tactic.Common
import Retrieval.Proofs.Query.Postfix
import Retrieval.Proofs.Query.Printing
import Retrieval.Proofs.Search.Boolean
import Retrieval.Proofs.Stem.Tokens

/-!
# The canonical form of a query

The canonical form is the text that the tree of a query is printed as.  It is read back as the tree
that leans to the left, and as that tree prints the same and finds the same documents, the canonical
form of a query is its own canonical form and answers the query itself.

All of it depends on the lemmatizer: a printed term goes through it a second time.  `Settles` is
what is asked of it.  A lemmatizer that changed its own lowered output, or put a blank into a word,
would be asked for another term than the one that was printed.
-/

namespace Retrieval

open Query (Tree canonical termOf tokenize)
open Unicode (isCut isSettled_lowercase lowercase_lowercase mem_of_isCut_lowercase)

namespace Stem.Lemmatizer

/-- What a lemmatizer must keep to: it leaves its own lowered output as it is, and it does not bring
characters that queries are cut at into a word without them. -/
structure Settles (lemmatizer : Lemmatizer) : Prop where
  settled : ∀ word, lemmatizer (String.ofList (termOf lemmatizer word))
    = String.ofList (termOf lemmatizer word)
  uncut : ∀ word : String, (∀ c ∈ word.toList, isCut c = false) →
    ∀ c ∈ (lemmatizer word).toList, isCut c = false

/-- The lemmatizer that changes nothing keeps to it. -/
lemma settles_identity : Settles identity where
  settled _ := rfl
  uncut _ h := h

end Stem.Lemmatizer

namespace Query

variable {lemmatizer : Stem.Lemmatizer}

/-- Each term of a query is one word, if the lemmatizer keeps words whole. -/
lemma isWord_of_mem_tokenize (h : lemmatizer.KeepsWhole) {query value : String}
    (hvalue : .term value ∈ tokenize lemmatizer query) : IsWord value.toList := by
  have hne := ne_empty_of_mem_tokenize hvalue
  obtain ⟨text, htext, -, rfl⟩ := exists_word_of_mem_tokenize hvalue
  have huncut : ∀ c ∈ (lemmatizer (String.ofList text)).toList, isCut c = false := by
    refine h _ fun c hc => uncut_of_mem_lexemes htext c ?_
    rwa [String.toList_ofList] at hc
  refine isWord_of_settled (by simpa using hne) fun c hc => ?_
  rw [String.toList_ofList] at hc
  refine ⟨isSettled_lowercase hc, Bool.eq_false_iff.mpr fun hcut => ?_⟩
  rw [huncut c (mem_of_isCut_lowercase hc hcut)] at hcut
  cases hcut

lemma isWord_of_mem_leaves (h : lemmatizer.KeepsWhole) {query : String} {tree : Tree}
    (htree : Tree.parse? (tokenize lemmatizer query) = .ok (some tree)) :
    ∀ value ∈ tree.leaves, IsWord value.toList := fun _ hvalue =>
  isWord_of_mem_tokenize h ((Tree.mem_leaves_of_parse? htree).mp hvalue)

/-- The terms of a query are read back from their text. -/
lemma legible_of_mem_tokenize (h : lemmatizer.Settles) {query value : String}
    (hvalue : .term value ∈ tokenize lemmatizer query) : Tree.Legible lemmatizer value := by
  refine ⟨isWord_of_mem_tokenize h.uncut hvalue, ?_⟩
  obtain ⟨text, -, -, rfl⟩ := exists_word_of_mem_tokenize hvalue
  rw [String.toList_ofList]
  conv_lhs => rw [termOf, h.settled, String.toList_ofList]
  exact lowercase_lowercase _

lemma legible_of_mem_leaves (h : lemmatizer.Settles) {query : String} {tree : Tree}
    (htree : Tree.parse? (tokenize lemmatizer query) = .ok (some tree)) :
    ∀ value ∈ tree.leaves, Tree.Legible lemmatizer value := fun _ hvalue =>
  legible_of_mem_tokenize h ((Tree.mem_leaves_of_parse? htree).mp hvalue)

/-- A tree with terms that are read back is read back, leaning to the left. -/
lemma parse?_text_of_legible {tree : Tree}
    (h : ∀ value ∈ tree.leaves, Tree.Legible lemmatizer value) :
    Tree.parse? (tokenize lemmatizer tree.text) = .ok (some tree.leftNested) := by
  rw [Tree.tokenize_text h, Tree.parse?_tokens]

/-- What is printed for a query is read as the query's tree, leaning to the left. -/
lemma parse?_text (h : lemmatizer.Settles) {query : String} {tree : Tree}
    (htree : Tree.parse? (tokenize lemmatizer query) = .ok (some tree)) :
    Tree.parse? (tokenize lemmatizer tree.text) = .ok (some tree.leftNested) :=
  parse?_text_of_legible (legible_of_mem_leaves h htree)

/-- The canonical form comes from the tree, if the query has one. -/
lemma canonical_eq_ok {query text : String} :
    canonical lemmatizer query = .ok text ↔
      ∃ found, Tree.parse? (tokenize lemmatizer query) = .ok found ∧
        (found.map Tree.text).getD "" = text := by
  rw [canonical, bind_eq_ok]
  constructor
  · rintro ⟨found, hfound, htext⟩
    refine ⟨found, hfound, ?_⟩
    cases found <;> exact Except.ok.inj htext
  · rintro ⟨found, hfound, rfl⟩
    refine ⟨found, hfound, ?_⟩
    cases found <;> rfl

/-- No tree of words prints as nothing. -/
lemma Tree.text_ne_empty_of_isWord {tree : Tree} (h : ∀ value ∈ tree.leaves, IsWord value.toList) :
    tree.text ≠ "" := by
  intro htext
  have htokens := lexemes_text h
  rw [htext, eq_comm, show lexemes "".toList = [] from rfl, List.map_eq_nil_iff] at htokens
  have hparse := tree.parse?_tokens
  rw [htokens] at hparse
  cases hparse

lemma Tree.text_ne_empty {tree : Tree} (h : ∀ value ∈ tree.leaves, Tree.Legible lemmatizer value) :
    tree.text ≠ "" :=
  text_ne_empty_of_isWord fun value hvalue => (h value hvalue).word

end Query

namespace Search

/-- The rows of all terms are as wide as there are documents, if they can be read. -/
lemma ofWidth_rowOf (index : Index) (rows : Posting.Bitset) (term : String) :
    Tree.OfWidth rows.documents.length (rowOf index rows term) := by
  intro row hrow
  rw [rowOf] at hrow
  cases hid : index.termId term with
  | none =>
    rw [hid] at hrow
    cases hrow
    exact Posting.BitRow.length_zeros _
  | some id =>
    rw [hid] at hrow
    exact Posting.Bitset.length_of_readRow hrow

lemma satisfying_leftNested (index : Index) (tree : Tree) :
    satisfying index tree.leftNested = satisfying index tree := by
  rw [satisfying, satisfying]
  split
  · rename_i rows hrows
    have hfull : rows.fullRow.length = rows.documents.length := Posting.BitRow.length_ones _
    rw [Tree.evalRows_leftNested (ofWidth_rowOf index rows) hfull]
  · rw [Tree.evalSet_leftNested]

/-- **The canonical form keeps the meaning of a query.**  Let a lemmatizer settle, and let a query
have a canonical form.  Then this form is its own canonical form, over every index it finds what the
query finds, in the same order, and it is empty exactly if the query asks for nothing. -/
theorem canonical_keeps_meaning {lemmatizer : Stem.Lemmatizer} (hsettles : lemmatizer.Settles)
    {query form : String} (hform : canonical lemmatizer query = .ok form) (index : Index) :
    canonical lemmatizer form = .ok form ∧
      index.search lemmatizer form .boolean = index.search lemmatizer query .boolean ∧
      (form = "" ↔ index.search lemmatizer query .boolean = .ok .emptyQuery) := by
  obtain ⟨found, hparse, rfl⟩ := Query.canonical_eq_ok.mp hform
  cases found with
  | none =>
    refine ⟨rfl, ?_, fun _ => search_of_parse?_none hparse, fun _ => rfl⟩
    rw [search_of_parse?_none hparse]
    rfl
  | some tree =>
    have hagain := Query.parse?_text hsettles hparse
    refine ⟨?_, ?_, fun hempty => ?_, fun hempty => ?_⟩
    · refine Query.canonical_eq_ok.mpr ⟨_, hagain, ?_⟩
      exact congrArg String.ofList tree.chars_leftNested
    · rw [Option.map_some, Option.getD_some, search_of_parse? hagain, search_of_parse? hparse,
        boolean, boolean, satisfying_leftNested]
    · exact absurd hempty (Query.Tree.text_ne_empty (Query.legible_of_mem_leaves hsettles hparse))
    · -- a query with a tree is answered with documents, or not at all
      rw [search_of_parse? hparse] at hempty
      cases hanswer : boolean index tree with
      | error fault =>
        rw [hanswer] at hempty
        cases hempty
      | ok hits =>
        rw [hanswer] at hempty
        cases hempty

/-- A query with parentheses that are not needed, and with chains on the right, over two records
that satisfy it and one that does not. -/
theorem canonical_keeps_right_chains :
    let query := "(Fox AND (red AND(Cat))) OR (!x OR y)"
    let form := "fox AND red AND cat OR !(x) OR y"
    let analysis : Analysis := ⟨Text.normalize, .identity⟩
    let records : List Corpus.Record := [⟨"u", "Red fox, cat: X"⟩, ⟨"v", "x"⟩, ⟨"w", "red"⟩]
    canonical .identity form = .ok form ∧
      ∀ representation, ∃ builder,
        (Builder.empty representation).addAll analysis records
          = .ok (Corpus.ids records, builder) ∧
        builder.index.search .identity query .boolean
          = .ok (.found ⟨2, inOrder representation [⟨1, "u", none⟩, ⟨3, "w", none⟩]⟩) ∧
        builder.index.search .identity form .boolean
          = builder.index.search .identity query .boolean ∧
        (form = "" ↔ builder.index.search .identity query .boolean = .ok .emptyQuery) := by
  intro query form analysis records
  have hform : canonical .identity query = .ok form := by decide +kernel
  refine ⟨(canonical_keeps_meaning Stem.Lemmatizer.settles_identity hform (.empty .bitset)).1,
    fun representation => ?_⟩
  have hfits : Corpus.Fits analysis records :=
    ⟨by decide +kernel, by decide +kernel, by decide +kernel⟩
  obtain ⟨builder, hadd, hbuilder⟩ := Builder.exists_addAll hfits representation
  obtain ⟨-, hsame, hempty⟩ :=
    canonical_keeps_meaning Stem.Lemmatizer.settles_identity hform builder.index
  refine ⟨builder, hadd, ?_, hsame, hempty⟩
  let tree : Tree :=
    .or (.and (.term "fox") (.and (.term "red") (.term "cat")))
      (.or (.not (.term "x")) (.term "y"))
  have htree : Tree.parse? (tokenize .identity query) = .ok (some tree) := by decide +kernel
  have hfound : ((Corpus.accepted records).filter (satisfies analysis tree)).map reported
      = [⟨1, "u", none⟩, ⟨3, "w", none⟩] := by decide +kernel
  have hlength := congrArg List.length hfound
  rw [List.length_map] at hlength
  rw [search_of_parse? htree, boolean_of_describes hbuilder fun _ hvalue =>
    Query.ne_empty_of_mem_leaves htree hvalue, hfound, hlength]
  rfl

end Search

end Retrieval
