import Mathlib.Tactic.Common
import Retrieval.Proofs.Fault
import Retrieval.Proofs.Stem.Memo
import Retrieval.Shell.Session

/-!
# A session with a memo

The lemmas that a shell asks for are remembered for the rest of its session, so a line may leave
something behind for the lines after it.  Here the memo is handed on, from word to word within a
query and from line to line.  What is printed does not depend on it: a session with a memo is the
session without (`transcriptWith_eq`).
-/

namespace Retrieval

open Stem (Memo)

namespace Query

/-- The tokens of the parts of a query, with lemmas out of a memo, and the memo after them. -/
def tokensWith (lemmatizer : Stem.Lemmatizer) (memo : Memo) : List Lexeme → List Token × Memo
  | [] => ([], memo)
  | .delimiter token :: rest =>
    let later := tokensWith lemmatizer memo rest
    (token :: later.1, later.2)
  | .word text :: rest =>
    let asked := memo.lemmatize lemmatizer (String.ofList text)
    let later := tokensWith lemmatizer asked.2 rest
    (((Lexeme.word text).token? fun _ => asked.1).toList ++ later.1, later.2)

/-- The tokens of a query, with lemmas out of a memo, and the memo after them. -/
def tokenizeWith (lemmatizer : Stem.Lemmatizer) (memo : Memo) (query : String) :
    List Token × Memo :=
  tokensWith lemmatizer memo (lexemes query.toList)

lemma tokensWith_spec {lemmatizer : Stem.Lemmatizer} {memo : Memo} (h : memo.Sound lemmatizer)
    (parts : List Lexeme) :
    (tokensWith lemmatizer memo parts).1 = parts.filterMap (Lexeme.token? lemmatizer) ∧
      (tokensWith lemmatizer memo parts).2.Sound lemmatizer := by
  induction parts generalizing memo with
  | nil => exact ⟨rfl, h⟩
  | cons part rest ih =>
    cases part with
    | delimiter token =>
      obtain ⟨htokens, hsound⟩ := ih h
      refine ⟨?_, hsound⟩
      simp only [tokensWith, htokens]
      rfl
    | word text =>
      obtain ⟨hstemmed, hmemo⟩ := h.lemmatize (String.ofList text)
      obtain ⟨htokens, hsound⟩ := ih hmemo
      refine ⟨?_, hsound⟩
      have hterm : (Lexeme.word text).token?
          (fun _ => (memo.lemmatize lemmatizer (String.ofList text)).1)
            = (Lexeme.word text).token? lemmatizer := by
        rw [hstemmed]
        rfl
      simp only [tokensWith, htokens, hterm, List.filterMap_cons]
      cases (Lexeme.word text).token? lemmatizer <;> rfl

/-- **Tokens do not depend on the memo.** -/
theorem tokenizeWith_spec {lemmatizer : Stem.Lemmatizer} {memo : Memo} (h : memo.Sound lemmatizer)
    (query : String) :
    (tokenizeWith lemmatizer memo query).1 = tokenize lemmatizer query ∧
      (tokenizeWith lemmatizer memo query).2.Sound lemmatizer :=
  tokensWith_spec h (lexemes query.toList)

end Query

namespace Shell

/-- What is printed for a query, and the memo after it. -/
def answerWith (searcher : Searcher) (memo : Memo) (query : String) :
    Except (Failure Error) String × Memo :=
  let read := Query.tokenizeWith searcher.lemmatizer memo query
  (printed (Search.answer searcher.index searcher.mode read.1), read.2)

/-- What the octets of a line call for, and the memo after them. -/
def reactWith (searcher : Searcher) (memo : Memo) (line : List UInt8) :
    Except (Failure SessionError) (Reaction × Memo) := do
  let text ← liftError ((Utf8.decode line).mapError .notText)
  if Text.trim text = ['q', 'u', 'i', 't'] then return (.quit, memo)
  else
    let answered := answerWith searcher memo (String.ofList text)
    return (.print (← answered.1.mapError searchFailure), answered.2)

/-- What the shell prints for lines of input when it remembers lemmas. -/
def transcriptWith (searcher : Searcher) (memo : Memo) :
    List (List UInt8) → Except (Failure SessionError) String
  | [] => .ok (prompt ++ "\n")
  | line :: rest => do
    match ← reactWith searcher memo line with
    | (.quit, _) => return prompt
    | (.print text, memo) => return prompt ++ text ++ (← transcriptWith searcher memo rest)

variable {searcher : Searcher} {memo : Memo}

lemma answerWith_spec (h : memo.Sound searcher.lemmatizer) (query : String) :
    (answerWith searcher memo query).1 = answer searcher query ∧
      (answerWith searcher memo query).2.Sound searcher.lemmatizer := by
  obtain ⟨htokens, hsound⟩ := Query.tokenizeWith_spec h query
  refine ⟨?_, hsound⟩
  simp only [answerWith, htokens]
  rfl

/-- A line calls for what it calls for without a memo. -/
lemma reactWith_spec (h : memo.Sound searcher.lemmatizer) (line : List UInt8) :
    ∃ later : Memo, later.Sound searcher.lemmatizer ∧
      reactWith searcher memo line
        = (react searcher line).map fun reaction => (reaction, later) := by
  rw [reactWith, react]
  cases Utf8.decode line with
  | error reason => exact ⟨memo, h, rfl⟩
  | ok text =>
    simp only [Except.mapError, liftError, ok_bind]
    split
    · exact ⟨memo, h, rfl⟩
    · obtain ⟨hanswer, hsound⟩ := answerWith_spec h (String.ofList text)
      refine ⟨_, hsound, ?_⟩
      rw [← hanswer]
      cases (answerWith searcher memo (String.ofList text)).1 <;> rfl

/-- **A session does not depend on the memo.** -/
theorem transcriptWith_eq (h : memo.Sound searcher.lemmatizer) (lines : List (List UInt8)) :
    transcriptWith searcher memo lines = transcript searcher lines := by
  induction lines generalizing memo with
  | nil => rfl
  | cons line rest ih =>
    obtain ⟨later, hlater, hreact⟩ := reactWith_spec h line
    rw [transcriptWith, transcript, hreact]
    cases react searcher line with
    | error reason => rfl
    | ok reaction =>
      cases reaction with
      | quit => rfl
      | print text =>
        simp only [Except.map, ok_bind, ih hlater]

end Shell

end Retrieval
