import Retrieval.Stem.Memo

/-!
# A memo that is shared

Several users may ask one memo at the same time.  What a call does under a lock cannot be divided, so
a call is a row of at most three steps, between which the steps of other calls may come: it looks
its token up; if the token is not remembered it computes the lemma, without a lock; and it inserts
what it has computed.  Two calls may both miss the same token, and then both insert its lemma.

A run is any list of events: a call begins, or a call that has begun takes its next step.  A user
who asks for one token after another begins a call when the last one has returned; runs of such
users are among these.
-/

namespace Retrieval.Stem

/-- How far a call has come. -/
inductive Stage where
  /-- Nothing is done; the token is looked up next. -/
  | begun
  /-- The token was not remembered; its lemma is computed next. -/
  | missed
  /-- The lemma is computed; it is inserted next. -/
  | computed (stemmed : String)
  /-- The call is at its end. -/
  | returned (stemmed : String)
  deriving Repr, DecidableEq

/-- A call for the lemma of a token. -/
structure Call where
  token : String
  stage : Stage := .begun
  deriving Repr, DecidableEq

/-- The call after its next step, and the memo after it. -/
def Call.step (lemmatizer : Lemmatizer) (memo : Memo) (call : Call) : Call × Memo :=
  match call.stage with
  | .begun =>
    match memo.get? call.token with
    | some known => ({ call with stage := .returned known }, memo)
    | none => ({ call with stage := .missed }, memo)
  | .missed => ({ call with stage := .computed (lemmatizer call.token) }, memo)
  | .computed stemmed =>
    ({ call with stage := .returned stemmed }, memo.insert call.token stemmed)
  | .returned _ => (call, memo)

/-- A memo and the calls that were made on it, in the order in which they began. -/
structure Sharing where
  memo : Memo := {}
  calls : List Call := []
  deriving Repr, DecidableEq

/-- What may happen to a memo that is shared. -/
inductive Event where
  /-- Somebody begins a call for a token. -/
  | ask (token : String)
  /-- The call of this place takes its next step. -/
  | go (place : Nat)
  deriving Repr, DecidableEq

/-- The token that is asked for. -/
def Event.token? : Event → Option String
  | ask token => some token
  | go _ => none

namespace Sharing

/-- What an event leaves. -/
def step (lemmatizer : Lemmatizer) (sharing : Sharing) : Event → Sharing
  | .ask token => { sharing with calls := sharing.calls ++ [⟨token, .begun⟩] }
  | .go place =>
    match sharing.calls[place]? with
    | none => sharing
    | some call =>
      let moved := call.step lemmatizer sharing.memo
      ⟨moved.2, sharing.calls.set place moved.1⟩

/-- What events leave, in their order. -/
def run (lemmatizer : Lemmatizer) (sharing : Sharing) (events : List Event) : Sharing :=
  events.foldl (step lemmatizer) sharing

end Sharing

/-- The tokens that are asked for, in their order. -/
def asked (events : List Event) : List String :=
  events.filterMap Event.token?

/-- The events of calls that do not overlap, after as many calls as `begun`. -/
def oneByOne (begun : Nat) : List String → List Event
  | [] => []
  | token :: rest => [.ask token, .go begun, .go begun, .go begun] ++ oneByOne (begun + 1) rest

end Retrieval.Stem
