import Mathlib.Tactic.Common
import Retrieval.Proofs.Search.Verdict
import Retrieval.Proofs.Shell.Remembering

/-!
# Sessions

A line of a session is answered by what would be printed for it alone, and the session goes on
behind it, whatever the answer was: over an index that can be searched and measured no query stops
the shell (`exists_answer`, `transcript_cons`).  So a session is its answers, each behind a prompt,
and a last prompt (`transcript_eq`).  The lines are those before the first one that says `quit`;
what follows it is not read, and need not even be text.

The theorem holds of a shell that remembers lemmas as well, with whatever it remembers at first.
-/

namespace Retrieval.Shell

open Stem (Memo)

variable {searcher : Searcher}

/-- Whether a line ends the session. -/
def isQuit (text : List Char) : Bool :=
  Text.trim text = ['q', 'u', 'i', 't']

/-- What is printed in a session: answers, each behind a prompt, and the last prompt, on a line of
its own if the input came to its end. -/
def printout (answers : List String) (quits : Bool) : String :=
  String.join (answers.map (prompt ++ ·)) ++ (prompt ++ if quits then "" else "\n")

lemma printout_cons (first : String) (rest : List String) (quits : Bool) :
    printout (first :: rest) quits = prompt ++ first ++ printout rest quits := by
  simp only [printout, List.map_cons, String.join_cons, String.append_assoc]

/-! ## Lines -/

/-- What a search that comes to no outcome prints, unless it stops: its error, since the query is to
blame. -/
lemma exists_printed {query : String} {reason : Error}
    (h : searcher.index.search searcher.lemmatizer query searcher.mode = .error (.error reason)) :
    ∃ text, reported reason = .ok text ∧ answer searcher query = .ok text := by
  refine ⟨_, if_pos (Search.isQueryError_of_search h), ?_⟩
  rw [answer, h, printed, reported, if_pos (Search.isQueryError_of_search h), liftError]

/-- **Every query is answered**, if only by what is wrong with it. -/
theorem exists_answer (searcher : Searcher) (hindex : searcher.index.Consistent)
    (hmeasurable : searcher.index.Measurable) (query : String) :
    ∃ text, answer searcher query = .ok text := by
  cases hsearch : searcher.index.search searcher.lemmatizer query searcher.mode with
  | ok outcome => exact ⟨outcomeText outcome, by rw [answer, hsearch, printed]⟩
  | error failure =>
    cases failure with
    | fault fault =>
      have hgoes := Search.search_ne_fault hindex hmeasurable
      exact absurd hsearch (hgoes searcher.lemmatizer query searcher.mode fault)
    | error reason =>
      obtain ⟨text, -, hanswer⟩ := exists_printed hsearch
      exact ⟨text, hanswer⟩

/-- What follows the line that ends the session is not read. -/
lemma transcript_quit {line : List UInt8} {text : List Char} (hline : Utf8.decode line = .ok text)
    (hquit : isQuit text = true) (rest : List (List UInt8)) :
    transcript searcher (line :: rest) = .ok prompt := by
  have htrim : Text.trim text = ['q', 'u', 'i', 't'] := of_decide_eq_true hquit
  simp only [transcript, react, hline, Except.mapError, liftError, ok_bind, if_pos htrim]
  rfl

/-- A line is answered as if it were alone, and the session goes on. -/
lemma transcript_cons {line : List UInt8} {text : List Char} {printed : String}
    (hline : Utf8.decode line = .ok text) (hquit : isQuit text = false)
    (hanswer : answer searcher (String.ofList text) = .ok printed) (rest : List (List UInt8)) :
    transcript searcher (line :: rest)
      = (transcript searcher rest).map (prompt ++ printed ++ ·) := by
  have htrim : Text.trim text ≠ ['q', 'u', 'i', 't'] := of_decide_eq_false hquit
  simp only [transcript, react, hline, Except.mapError, liftError, ok_bind, if_neg htrim, hanswer]
  cases transcript searcher rest <;> rfl

/-! ## Sessions -/

/-- Lines of which the last or none ends the session come to their answers. -/
lemma transcript_eq (hindex : searcher.index.Consistent) (hmeasurable : searcher.index.Measurable)
    {before after : List (List UInt8)} {texts : List (List Char)}
    (hbefore : before.map Utf8.decode = texts.map .ok)
    (hafter : after = [] ∨ texts.any isQuit = true) :
    ∃ answers : List String,
      (texts.takeWhile (!isQuit ·)).map (fun text => answer searcher (String.ofList text))
          = answers.map .ok ∧
        transcript searcher (before ++ after) = .ok (printout answers (texts.any isQuit)) := by
  induction before generalizing texts with
  | nil =>
    cases texts with
    | cons text others => cases hbefore
    | nil =>
      rcases hafter with rfl | hquit
      · exact ⟨[], rfl, rfl⟩
      · cases hquit
  | cons line rest ih =>
    cases texts with
    | nil => cases hbefore
    | cons text others =>
      rw [List.map_cons, List.map_cons, List.cons.injEq] at hbefore
      obtain ⟨hline, hrest⟩ := hbefore
      rw [List.cons_append, List.any_cons]
      cases hquit : isQuit text with
      | true =>
        refine ⟨[], ?_, transcript_quit hline hquit _⟩
        rw [List.takeWhile_cons_of_neg (by simp [hquit])]
        rfl
      | false =>
        rw [List.any_cons, hquit, Bool.false_or] at hafter
        obtain ⟨answers, hanswers, hsession⟩ := ih hrest hafter
        obtain ⟨printed, hprinted⟩ := exists_answer searcher hindex hmeasurable (String.ofList text)
        refine ⟨printed :: answers, ?_, ?_⟩
        · rw [List.takeWhile_cons_of_pos (by simp [hquit]), List.map_cons, hprinted, hanswers,
            List.map_cons]
        · rw [transcript_cons hline hquit hprinted, hsession, Bool.false_or, printout_cons]
          rfl

/-- What a search that comes to no outcome prints: its error, since the query is to blame. -/
lemma answer_of_error (hindex : searcher.index.Consistent)
    (hmeasurable : searcher.index.Measurable) {query : String} {failure : Failure Error}
    (h : searcher.index.search searcher.lemmatizer query searcher.mode = .error failure) :
    ∃ reason text, failure = .error reason ∧ reason.isQueryError = true ∧
      reported reason = .ok text ∧ answer searcher query = .ok text := by
  cases failure with
  | fault fault =>
    exact absurd h
      (Search.search_ne_fault hindex hmeasurable searcher.lemmatizer query searcher.mode fault)
  | error reason =>
    obtain ⟨text, hreported, hanswer⟩ := exists_printed h
    exact ⟨reason, text, rfl, Search.isQueryError_of_search h, hreported, hanswer⟩

/-- **A session is its answers.**  Each line before the one that ends the session is answered as if
it were alone, over every index and in every mode, and neither what came before it nor the lemmas
that were asked for before make a difference.  An error of a search does not end the session: it is
one that the query is to blame for, and is what is printed. -/
theorem session_is_its_answers (searcher : Searcher) (hindex : searcher.index.Obtained)
    (hmeasurable : searcher.index.Measurable) {input : List UInt8}
    {before after : List (List UInt8)} {texts : List (List Char)}
    (hinput : lines input = before ++ after)
    (hbefore : before.mapM Utf8.decode = .ok texts)
    (hafter : after = [] ∨ texts.any isQuit = true) (asked : List String) :
    (∀ query failure,
      searcher.index.search searcher.lemmatizer query searcher.mode = .error failure →
        ∃ reason text, failure = .error reason ∧ reason.isQueryError = true ∧
          reported reason = .ok text ∧ answer searcher query = .ok text) ∧
      ∃ answers : List String,
        (texts.takeWhile (!isQuit ·)).mapM (fun text => answer searcher (String.ofList text))
            = .ok answers ∧
          run searcher input = .ok (printout answers (texts.any isQuit)) ∧
          transcriptWith searcher (({} : Memo).afterAll searcher.lemmatizer asked) (lines input)
            = .ok (printout answers (texts.any isQuit)) := by
  refine ⟨fun query failure => answer_of_error hindex.consistent hmeasurable, ?_⟩
  obtain ⟨answers, hanswers, hsession⟩ :=
    transcript_eq hindex.consistent hmeasurable (mapM_eq_ok.mp hbefore) hafter
  have hmemo := (Memo.sound_empty searcher.lemmatizer).afterAll asked
  refine ⟨answers, mapM_eq_ok.mpr hanswers, ?_, ?_⟩
  · rw [run, hinput, hsession]
  · rw [transcriptWith_eq hmemo, hinput, hsession]

/-- A session in which a query that cannot be read comes before one that finds a document, and
octets that are no text follow the line that ends it. -/
theorem quitting_session_is_its_answers :
    let index : Index := ⟨.listed [("fox", 1)], .listed [("u", 1)],
      .positional ⟨[(1, ⟨[(1, [1])], by simp⟩)], by simp⟩⟩
    let searcher : Searcher := ⟨index, id, .boolean⟩
    let texts := ["(fox".toList, "Fox".toList, " quit".toList]
    let input := Utf8.encode "(fox\nFox\r\n quit\n".toList ++ [0xff]
    (Builder.empty .positional).addAll ⟨Text.normalize, id⟩ [⟨"u", "Fox"⟩]
        = .ok ([some 1], ⟨index, 2, 2, 0⟩) ∧
      lines input = texts.map Utf8.encode ++ [[0xff]] ∧
      (texts.map Utf8.encode).mapM Utf8.decode = .ok texts ∧ texts.any isQuit = true ∧
      ∃ answers : List String,
        (texts.takeWhile (!isQuit ·)).mapM (fun text => answer searcher (String.ofList text))
            = .ok answers ∧
          run searcher input = .ok (printout answers (texts.any isQuit)) ∧
          transcriptWith searcher (({} : Memo).afterAll searcher.lemmatizer ["foxes"]) (lines input)
            = .ok (printout answers (texts.any isQuit)) := by
  intro index searcher texts input
  have hbuild : (Builder.empty .positional).addAll ⟨Text.normalize, id⟩ [⟨"u", "Fox"⟩]
      = .ok ([some 1], ⟨index, 2, 2, 0⟩) := by decide +kernel
  have hinput : lines input = texts.map Utf8.encode ++ [[0xff]] := by decide +kernel
  have htexts : (texts.map Utf8.encode).mapM Utf8.decode = .ok texts := by decide +kernel
  have hquit : texts.any isQuit = true := by decide +kernel
  obtain ⟨-, hsession⟩ := session_is_its_answers searcher (.built hbuild)
    (Index.measurable_of_addAll hbuild) hinput htexts (Or.inr hquit) ["foxes"]
  exact ⟨hbuild, hinput, htexts, hquit, hsession⟩

end Retrieval.Shell
