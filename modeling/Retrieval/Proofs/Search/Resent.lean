import Mathlib.Tactic.Common
import Retrieval.Proofs.Query.Rereading
import Retrieval.Proofs.Search.Canonical
import Retrieval.Proofs.Search.Indexed

/-!
# Sending the canonical form back

A client that is shown the canonical form of a query may send it back as a query.  The terms in it
are lemmas already, and they are lemmatized once more.  As long as the stemmer brings no blank and
no delimiter into a word the form is always read as the terms it shows, and all depends on what the
lemmatizer makes of its own lemmas.

If it leaves them as they are the form is its own canonical form and finds what the query finds, and
with the language `none` it always does.  A stemmer may not: of `cheese` the English one makes
`chees`, and of that `chee`.  Then the form is not its own canonical form, and what it finds is what
the tree of the query finds with each term stemmed again.  If nothing is left of a term it finds
no documents (`canonical_form_is_stemmed_again`).  Nothing else of the stemmer matters: with any
that treats three words as the English one does, `cheese` is lost (`cheese_is_lost`).
-/

namespace Retrieval

open Corpus (Fits Record accepted ids)
open Query (Tree canonical restemmed tokenize)
open Stem.Lemmatizer (StemsWhole ofName? ofStem shippedNames)

namespace Query

variable {lemmatizer : Stem.Lemmatizer} {query form : String}

/-- Whether each term of a query is read as itself when its text is read once more. -/
def TermsStay (lemmatizer : Stem.Lemmatizer) (query : String) : Prop :=
  ∀ value, .term value ∈ tokenize lemmatizer query → restemmed lemmatizer value = value

/-- Where words are left alone lowering is all that happens to them, and it happens once. -/
lemma termsStay_identity (query : String) : TermsStay .identity query := by
  intro value hvalue
  obtain ⟨text, -, -, rfl⟩ := exists_word_of_mem_tokenize hvalue
  simp only [restemmed, termOf, Stem.Lemmatizer.identity, id, String.toList_ofList,
    Unicode.lowercase_lowercase]

/-- A query whose terms stay is read back from its canonical form. -/
lemma TermsStay.legible (hstay : TermsStay lemmatizer query) (hwhole : lemmatizer.KeepsWhole)
    {tree : Tree} (htree : Tree.parse? (tokenize lemmatizer query) = .ok (some tree)) :
    ∀ value ∈ tree.leaves, Tree.Legible lemmatizer value := by
  intro value hvalue
  refine ⟨isWord_of_mem_leaves hwhole htree value hvalue, ?_⟩
  rw [← String.toList_ofList (l := termOf lemmatizer value.toList)]
  exact congrArg String.toList (hstay value ((Tree.mem_leaves_of_parse? htree).mp hvalue))

/-- The canonical form of a query with a tree is the text of the tree. -/
lemma eq_text_of_canonical {tree : Tree}
    (htree : Tree.parse? (tokenize lemmatizer query) = .ok (some tree))
    (hform : canonical lemmatizer query = .ok form) : form = tree.text := by
  obtain ⟨found, hfound, rfl⟩ := canonical_eq_ok.mp hform
  rw [htree] at hfound
  obtain rfl := Except.ok.inj hfound
  rfl

/-- A tree that prints the same when its text is read again has terms that stay. -/
lemma restemmed_eq_of_canonical_text {tree : Tree}
    (hwords : ∀ value ∈ tree.leaves, IsWord value.toList) (hwhole : lemmatizer.KeepsWhole)
    (hagain : canonical lemmatizer tree.text = .ok tree.text) :
    ∀ value ∈ tree.leaves, restemmed lemmatizer value = value := by
  obtain ⟨found, hfound, htext⟩ := canonical_eq_ok.mp hagain
  by_cases hleft : ∀ value ∈ tree.leaves, restemmed lemmatizer value ≠ ""
  · have hread := Tree.parse?_text_of_left hwords hleft
    obtain rfl := Except.ok.inj (hread.symm.trans hfound)
    have hothers : ∀ value ∈ (tree.mapTerms (restemmed lemmatizer)).leaves,
        IsWord value.toList := by
      intro value hvalue
      rw [← Tree.leaves_leftNested] at hvalue
      exact isWord_of_mem_leaves hwhole hread value hvalue
    have hleaves := Tree.leaves_eq_of_text_eq hothers hwords
      ((Tree.text_leftNested _).symm.trans htext)
    rw [Tree.leaves_mapTerms, ← List.map_id tree.leaves, List.map_map, List.map_inj_left] at hleaves
    exact hleaves
  · -- without one of its terms the text is read as no tree, and no tree has the empty text
    push Not at hleft
    cases found with
    | none => exact absurd htext.symm (Tree.text_ne_empty_of_isWord hwords)
    | some other => exact absurd hfound (Tree.parse?_text_of_lost hwords hleft other)

/-- **The canonical form is canonical** exactly if each term of the query stays. -/
theorem canonical_canonical_iff (hwhole : lemmatizer.KeepsWhole)
    (hform : canonical lemmatizer query = .ok form) :
    canonical lemmatizer form = .ok form ↔ TermsStay lemmatizer query := by
  obtain ⟨found, hparse, rfl⟩ := canonical_eq_ok.mp hform
  cases found with
  | none =>
    exact ⟨fun _ value hvalue => absurd hvalue (Tree.not_mem_of_parse?_none hparse value),
      fun _ => rfl⟩
  | some tree =>
    constructor
    · intro hagain value hvalue
      exact restemmed_eq_of_canonical_text (isWord_of_mem_leaves hwhole hparse) hwhole hagain value
        ((Tree.mem_leaves_of_parse? hparse).mpr hvalue)
    · intro hstay
      refine canonical_eq_ok.mpr ⟨_, parse?_text_of_legible (hstay.legible hwhole hparse), ?_⟩
      exact tree.text_leftNested

end Query

namespace Search

lemma boolean_leftNested (index : Index) (tree : Tree) :
    boolean index tree.leftNested = boolean index tree := by
  rw [boolean, boolean, satisfying_leftNested]

/-- What becomes of the canonical form of a query when it is sent as a query. -/
structure Resent (lemmatizer : Stem.Lemmatizer) (query form : String) : Prop where
  /-- It is its own canonical form exactly if each term stays. -/
  canonical_iff : canonical lemmatizer form = .ok form ↔ Query.TermsStay lemmatizer query
  /-- If each term stays it finds what the query finds. -/
  same : Query.TermsStay lemmatizer query → ∀ index : Index,
    index.search lemmatizer form .boolean = index.search lemmatizer query .boolean
  /-- If something is left of each term it finds what the tree with the other terms finds. -/
  left : ∀ tree, Tree.parse? (tokenize lemmatizer query) = .ok (some tree) →
    (∀ value ∈ tree.leaves, restemmed lemmatizer value ≠ "") → ∀ index : Index,
      index.search lemmatizer form .boolean
        = (liftFault (boolean index (tree.mapTerms (restemmed lemmatizer)))).map .found
  /-- If nothing is left of a term it is not answered with documents. -/
  lost : ∀ tree, Tree.parse? (tokenize lemmatizer query) = .ok (some tree) →
    (∃ value ∈ tree.leaves, restemmed lemmatizer value = "") → ∀ (index : Index) (hits : Hits),
      index.search lemmatizer form .boolean ≠ .ok (.found hits)

/-- A query that is read as no tree is not answered with documents. -/
lemma search_ne_found {lemmatizer : Stem.Lemmatizer} {query : String}
    (h : ∀ tree, Tree.parse? (tokenize lemmatizer query) ≠ .ok (some tree)) (index : Index)
    (hits : Hits) : index.search lemmatizer query .boolean ≠ .ok (.found hits) := by
  intro hanswer
  cases hparse : Tree.parse? (tokenize lemmatizer query) with
  | error reason =>
    rw [search_of_parse?_error hparse] at hanswer
    cases hanswer
  | ok found =>
    cases found with
    | none =>
      rw [search_of_parse?_none hparse] at hanswer
      cases hanswer
    | some tree => exact h tree hparse

/-- All that becomes of a canonical form depends on what becomes of its terms. -/
lemma resent {lemmatizer : Stem.Lemmatizer} (hwhole : lemmatizer.KeepsWhole) {query form : String}
    (hform : canonical lemmatizer query = .ok form) : Resent lemmatizer query form where
  canonical_iff := Query.canonical_canonical_iff hwhole hform
  same hstay index := by
    obtain ⟨found, hfound, rfl⟩ := Query.canonical_eq_ok.mp hform
    cases found with
    | none =>
      rw [search_of_parse?_none hfound]
      rfl
    | some tree =>
      have hagain := Query.parse?_text_of_legible (hstay.legible hwhole hfound)
      rw [Option.map_some, Option.getD_some, search_of_parse? hagain, search_of_parse? hfound,
        boolean_leftNested]
  left tree htree hleft index := by
    have hagain := Tree.parse?_text_of_left (Query.isWord_of_mem_leaves hwhole htree) hleft
    rw [Query.eq_text_of_canonical htree hform, search_of_parse? hagain, boolean_leftNested]
  lost tree htree hlost := by
    have hagain := Tree.parse?_text_of_lost (Query.isWord_of_mem_leaves hwhole htree) hlost
    rw [Query.eq_text_of_canonical htree hform]
    exact search_ne_found hagain

/-- A stem of which nothing is left: all of it is taken for a possessive ending. -/
example : let lemmatizer := Stem.Lemmatizer.ofStem Stem.English.stem
    canonical lemmatizer "'''s''" = .ok "''s'" ∧ restemmed lemmatizer "''s'" = "" := by
  decide +kernel

/-- **The canonical form is stemmed again**, whatever the stemmers of English and Russian do to
words, as long as they bring in nothing that a query is cut at.  Every shipped name, in any case,
has a lemmatizer, and `none` leaves all terms as they are.  When the canonical form of a query is
sent as a query, it is its own canonical form exactly if each term of the query stays as it is when
it is lemmatized once more, and then it finds what the query finds.  In general it finds what the
tree of the query finds with each term lemmatized once more, or, if nothing is left of a term, no
documents. -/
theorem canonical_form_is_stemmed_again (stemmer : Stem.Stemmer)
    (henglish : StemsWhole (stemmer .english)) (hrussian : StemsWhole (stemmer .russian))
    {name shipped : String} (hshipped : shipped ∈ shippedNames)
    (hname : Stem.Language.sameName name shipped = true) :
    ∃ lemmatizer, ofName? stemmer name = some lemmatizer ∧
      (shipped = "none" → ∀ query, Query.TermsStay lemmatizer query) ∧
      ∀ query form, canonical lemmatizer query = .ok form → Resent lemmatizer query form := by
  obtain ⟨lemmatizer, hshippedName, hwhole⟩ :=
    Stem.Lemmatizer.exists_ofName? henglish hrussian hshipped
  have hfound := (Stem.Lemmatizer.ofName?_congr hname).trans hshippedName
  refine ⟨lemmatizer, hfound, ?_, fun query form hform => resent hwhole hform⟩
  rintro rfl
  obtain rfl := Option.some.inj (Stem.Lemmatizer.ofName?_none.symm.trans hshippedName)
  exact Query.termsStay_identity

/-- Stems that are their own stems are sent back. -/
theorem cat_and_run_are_sent_back :
    let stemmer : Stem.Stemmer := fun language =>
      if language = .russian then Stem.Russian.stem else Stem.English.stem
    let lemmatizer := ofStem Stem.English.stem
    StemsWhole (stemmer .english) ∧ StemsWhole (stemmer .russian) ∧
      "english" ∈ shippedNames ∧ Stem.Language.sameName "English" "english" = true ∧
      ofName? stemmer "English" = some lemmatizer ∧
      canonical lemmatizer "Cats AND Running" = .ok "cat AND run" ∧
      canonical lemmatizer "cat AND run" = .ok "cat AND run" ∧
      ∀ index : Index, index.search lemmatizer "cat AND run" .boolean
        = index.search lemmatizer "Cats AND Running" .boolean := by
  intro stemmer lemmatizer
  have henglish : StemsWhole (stemmer .english) := Stem.Lemmatizer.stemsWhole_english
  have hrussian : StemsWhole (stemmer .russian) := Stem.Lemmatizer.stemsWhole_russian
  have hshipped : "english" ∈ shippedNames := by decide
  have hname : Stem.Language.sameName "English" "english" = true := by decide +kernel
  have hform : canonical lemmatizer "Cats AND Running" = .ok "cat AND run" := by decide +kernel
  have hstay : Query.TermsStay lemmatizer "Cats AND Running" := by
    have htokens : tokenize lemmatizer "Cats AND Running"
        = [.term "cat", .operator .and, .term "run"] := by decide +kernel
    intro value hvalue
    rw [htokens] at hvalue
    have hvalues : value = "cat" ∨ value = "run" := by simpa using hvalue
    rcases hvalues with rfl | rfl <;> decide +kernel
  obtain ⟨found, hfound, -, hresent⟩ :=
    canonical_form_is_stemmed_again stemmer henglish hrussian hshipped hname
  obtain rfl : found = lemmatizer := Option.some.inj (hfound.symm.trans rfl)
  have hagain := hresent _ _ hform
  exact ⟨henglish, hrussian, hshipped, hname, hfound, hform, hagain.canonical_iff.mpr hstay,
    hagain.same hstay⟩

/-! ## A stem that is stemmed further -/

/-- What a stemmer makes of three words. -/
structure StemsCheese (stem : List Char → List Char) : Prop where
  red : stem "red".toList = "red".toList
  cheese : stem "cheese".toList = "chees".toList
  chees : stem "chees".toList = "chee".toList

/-- What becomes of a query for `cheese` and of its canonical form. -/
structure LosesCheese (lemmatizer : Stem.Lemmatizer) : Prop where
  form : canonical lemmatizer "cheese" = .ok "chees"
  again : canonical lemmatizer "chees" = .ok "chee"
  hits : ∀ representation, ∃ builder,
    (Builder.empty representation).addAll ⟨Text.normalize, lemmatizer⟩ [⟨"u", "red cheese"⟩]
        = .ok ([some 1], builder) ∧
      builder.index.search lemmatizer "cheese" .boolean = .ok (.found ⟨1, [⟨1, "u", none⟩]⟩) ∧
      builder.index.search lemmatizer "chees" .boolean = .ok (.found ⟨0, []⟩)

variable {stem : List Char → List Char}

/-- The lemma of a word of small letters is its stem. -/
lemma ofStem_eq {word stemmed : String} (hsmall : Unicode.lowercase word.toList = word.toList)
    (hstem : stem word.toList = stemmed.toList) : ofStem stem word = stemmed := by
  rw [ofStem, hsmall, hstem, String.ofList_toList]

/-- A query that is one word of small letters is read as its stem. -/
lemma tokenize_ofStem {word stemmed : String}
    (hread : Query.lexemes word.toList = [.word word.toList])
    (hsmall : Unicode.lowercase word.toList = word.toList)
    (hstem : stem word.toList = stemmed.toList)
    (hstemmed : Unicode.lowercase stemmed.toList = stemmed.toList) (hne : stemmed ≠ "") :
    tokenize (ofStem stem) word = [.term stemmed] := by
  rw [tokenize, hread]
  simp [Query.Lexeme.token?, Query.termOf, ofStem_eq hsmall hstem, hstemmed, hne]

lemma StemsCheese.stems (h : StemsCheese stem) :
    (⟨Text.normalize, ofStem stem⟩ : Analysis).stems "red cheese" = ["red", "chees"] := by
  have hnormal : Text.normalize "red cheese" = ["red", "cheese"] := by decide +kernel
  have hred : ofStem stem "red" = "red" := ofStem_eq (by decide +kernel) h.red
  have hcheese : ofStem stem "cheese" = "chees" := ofStem_eq (by decide +kernel) h.cheese
  simp only [Analysis.stems, hnormal, List.map_cons, List.map_nil, hred, hcheese]

lemma StemsCheese.fits (h : StemsCheese stem) :
    Fits ⟨Text.normalize, ofStem stem⟩ [⟨"u", "red cheese"⟩] where
  calls := by decide
  terms := by
    have hterms : Corpus.terms ⟨Text.normalize, ofStem stem⟩ [⟨"u", "red cheese"⟩]
        = Builder.Occurrences.kept ((⟨Text.normalize, ofStem stem⟩ : Analysis).stems "red cheese")
          ++ [] := rfl
    rw [hterms, h.stems]
    decide
  tokens document hdocument := by
    obtain rfl : document = ⟨1, "u", "red cheese"⟩ := List.mem_singleton.mp hdocument
    have htokens : (Text.normalize "red cheese").length < UInt32.size := by decide +kernel
    exact htokens

/-- The one document has the stem `chees`, and not the stem of this. -/
lemma StemsCheese.holders (h : StemsCheese stem) (value : String) :
    holders ⟨Text.normalize, ofStem stem⟩ [⟨"u", "red cheese"⟩] value
      = if value ∈ ["red", "chees"] then [⟨1, "u", "red cheese"⟩] else [] := by
  have haccepted : accepted [⟨"u", "red cheese"⟩] = [⟨1, "u", "red cheese"⟩] := rfl
  rw [← h.stems, Search.holders, haccepted, List.filter_singleton, Bool.cond_decide,
    Corpus.Document.stems]

/-- **Cheese is lost** with every stemmer that reduces `cheese` in two steps: the query finds the
document and its canonical form does not. -/
theorem cheese_is_lost (h : StemsCheese stem) : LosesCheese (ofStem stem) := by
  have hcheese : tokenize (ofStem stem) "cheese" = [.term "chees"] :=
    tokenize_ofStem (by decide +kernel) (by decide +kernel) h.cheese (by decide +kernel) (by decide)
  have hchees : tokenize (ofStem stem) "chees" = [.term "chee"] :=
    tokenize_ofStem (by decide +kernel) (by decide +kernel) h.chees (by decide +kernel) (by decide)
  refine ⟨by rw [canonical, hcheese]; rfl, by rw [canonical, hchees]; rfl,
    fun representation => ?_⟩
  obtain ⟨builder, hadd, hsearch⟩ :=
    exists_search_of_term h.fits hcheese (by decide) representation
  obtain ⟨other, hother, hagain⟩ :=
    exists_search_of_term h.fits hchees (by decide) representation
  obtain rfl : builder = other := congrArg Prod.snd (Except.ok.inj (hadd.symm.trans hother))
  rw [h.holders, if_pos (by decide)] at hsearch
  rw [h.holders, if_neg (by decide)] at hagain
  refine ⟨builder, hadd, hsearch.trans ?_, hagain.trans ?_⟩
  · cases representation <;> rfl
  · cases representation <;> rfl

/-- The stem of `cheese` is `chees`, and the stem of this is `chee`. -/
theorem canonical_cheese_finds_no_cheese :
    let stemmer : Stem.Stemmer := fun language =>
      if language = .russian then Stem.Russian.stem else Stem.English.stem
    let lemmatizer := ofStem Stem.English.stem
    let analysis : Analysis := ⟨Text.normalize, lemmatizer⟩
    let records : List Record := [⟨"u", "red cheese"⟩]
    ofName? stemmer "english" = some lemmatizer ∧
      canonical lemmatizer "cheese" = .ok "chees" ∧ canonical lemmatizer "chees" = .ok "chee" ∧
      ∀ representation, ∃ builder,
        (Builder.empty representation).addAll analysis records = .ok (ids records, builder) ∧
          builder.index.search lemmatizer "cheese" .boolean
            = .ok (.found ⟨1, [⟨1, "u", none⟩]⟩) ∧
          builder.index.search lemmatizer "chees" .boolean = .ok (.found ⟨0, []⟩) := by
  intro stemmer lemmatizer analysis records
  have hlost : LosesCheese lemmatizer :=
    cheese_is_lost ⟨by decide +kernel, by decide +kernel, by decide +kernel⟩
  exact ⟨rfl, hlost.form, hlost.again, hlost.hits⟩

end Search

end Retrieval
