import Mathlib.Data.Finset.Card
import Mathlib.Tactic.Common
import Retrieval.Proofs.Stem.Memo
import Retrieval.Stem.English
import Retrieval.Stem.Sharing

/-!
# Sharing a memo changes no answer

Between the lookup of a call and its insertion other calls may insert the same token.  That does not
matter, because all of them insert the same lemma: what a call carries from step to step is told by
its token alone (`Call.Truthful`), and so is what the memo holds (`Memo.Sound`).  How many tokens the
memo holds is told by two further facts, that the token of a call that has returned is in the memo
and that nothing is in the memo but tokens of calls.  All of it together is `Sharing.Sound`, which
every event preserves (`Sound.step`).

A call can always take its next step, whatever the other calls do, and the third is its last:
`Stage.remaining` is how many are left, and only steps of the call itself count it down.
-/

namespace Retrieval.Stem

variable {lemmatizer : Lemmatizer}

/-! ## What is remembered -/

namespace Memo

/-- The tokens that are remembered, in the order in which they were remembered first. -/
def tokens (memo : Memo) : List String :=
  memo.entries.map Prod.fst

lemma isSome_get? {memo : Memo} {token : String} :
    (memo.get? token).isSome = true ↔ token ∈ memo.tokens := by
  rw [get?, List.lookup_isSome_iff]
  simp [tokens]

/-- An insertion adds its token to the tokens, unless it is there. -/
lemma tokens_insert (memo : Memo) (token stemmed : String) :
    (memo.insert token stemmed).tokens
      = if token ∈ memo.tokens then memo.tokens else memo.tokens ++ [token] := by
  rw [insert]
  by_cases h : token ∈ memo.tokens
  · rw [if_pos (isSome_get?.mpr h), if_pos h]
    simp only [tokens, List.map_map]
    refine List.map_congr_left fun entry _ => ?_
    by_cases hentry : entry.1 = token
    · simp [hentry]
    · simp [hentry]
  · rw [if_neg (fun hsome => h (isSome_get?.mp hsome)), if_neg h]
    simp [tokens]

lemma mem_tokens_insert {memo : Memo} {token other stemmed : String} :
    other ∈ (memo.insert token stemmed).tokens ↔ other ∈ memo.tokens ∨ other = token := by
  rw [tokens_insert]
  by_cases h : token ∈ memo.tokens
  · rw [if_pos h]
    constructor
    · exact Or.inl
    · rintro (hmem | rfl)
      · exact hmem
      · exact h
  · simp [h]

lemma nodup_tokens_insert {memo : Memo} (h : memo.tokens.Nodup) (token stemmed : String) :
    (memo.insert token stemmed).tokens.Nodup := by
  rw [tokens_insert]
  by_cases hmem : token ∈ memo.tokens
  · rw [if_pos hmem]
    exact h
  · rw [if_neg hmem]
    simpa using h.concat hmem

end Memo

/-! ## The step of a call -/

/-- How many steps are left of a call. -/
def Stage.remaining : Stage → Nat
  | begun => 3
  | missed => 2
  | computed _ => 1
  | returned _ => 0

lemma Stage.remaining_eq_zero {stage : Stage} :
    stage.remaining = 0 ↔ ∃ stemmed, stage = .returned stemmed := by
  cases stage <;> simp [remaining]

namespace Call

/-- Whether what the call has computed or returned is the lemma of its token. -/
def Truthful (lemmatizer : Lemmatizer) (call : Call) : Prop :=
  ∀ stemmed, call.stage = .computed stemmed ∨ call.stage = .returned stemmed →
    stemmed = lemmatizer call.token

variable {memo : Memo} {call : Call}

@[simp]
lemma token_step : (call.step lemmatizer memo).1.token = call.token := by
  obtain ⟨token, stage⟩ := call
  cases stage with
  | begun =>
    rw [step]
    cases memo.get? token <;> rfl
  | missed => rfl
  | computed stemmed => rfl
  | returned stemmed => rfl

/-- A step counts down what is left. -/
lemma remaining_step :
    (call.step lemmatizer memo).1.stage.remaining ≤ call.stage.remaining - 1 := by
  obtain ⟨token, stage⟩ := call
  cases stage with
  | begun =>
    rw [step]
    cases memo.get? token <;> simp [Stage.remaining]
  | missed => simp [step, Stage.remaining]
  | computed stemmed => simp [step, Stage.remaining]
  | returned stemmed => simp [step, Stage.remaining]

/-- A step leaves the memo as it is, or inserts what the call has computed. -/
lemma memo_step (lemmatizer : Lemmatizer) (memo : Memo) (call : Call) :
    (call.step lemmatizer memo).2 = memo ∨
      ∃ stemmed, call.stage = .computed stemmed ∧
        (call.step lemmatizer memo).2 = memo.insert call.token stemmed := by
  obtain ⟨token, stage⟩ := call
  cases stage with
  | begun =>
    rw [step]
    cases memo.get? token <;> exact Or.inl rfl
  | missed => exact Or.inl rfl
  | computed stemmed => exact Or.inr ⟨stemmed, rfl, rfl⟩
  | returned stemmed => exact Or.inl rfl

lemma nodup_step (h : memo.tokens.Nodup) : (call.step lemmatizer memo).2.tokens.Nodup := by
  rcases memo_step lemmatizer memo call with hsame | ⟨stemmed, -, hinsert⟩
  · rw [hsame]
    exact h
  · rw [hinsert]
    exact Memo.nodup_tokens_insert h _ _

/-- What is remembered stays remembered. -/
lemma mem_tokens_step {token : String} (h : token ∈ memo.tokens) :
    token ∈ (call.step lemmatizer memo).2.tokens := by
  rcases memo_step lemmatizer memo call with hsame | ⟨stemmed, -, hinsert⟩
  · rw [hsame]
    exact h
  · rw [hinsert]
    exact Memo.mem_tokens_insert.mpr (Or.inl h)

/-- Nothing but the token of the call is remembered anew. -/
lemma of_mem_tokens_step {token : String} (h : token ∈ (call.step lemmatizer memo).2.tokens) :
    token ∈ memo.tokens ∨ token = call.token := by
  rcases memo_step lemmatizer memo call with hsame | ⟨stemmed, -, hinsert⟩
  · rw [hsame] at h
    exact Or.inl h
  · rw [hinsert] at h
    exact Memo.mem_tokens_insert.mp h

/-- The memo stays sound, since what is inserted is the lemma. -/
lemma Truthful.sound_step (h : call.Truthful lemmatizer) (hmemo : memo.Sound lemmatizer) :
    (call.step lemmatizer memo).2.Sound lemmatizer := by
  rcases memo_step lemmatizer memo call with hsame | ⟨stemmed, hstage, hinsert⟩
  · rw [hsame]
    exact hmemo
  · rw [hinsert, h stemmed (Or.inl hstage)]
    exact hmemo.insert call.token

/-- What a step looks up or computes is the lemma. -/
lemma Truthful.step (h : call.Truthful lemmatizer) (hmemo : memo.Sound lemmatizer) :
    (call.step lemmatizer memo).1.Truthful lemmatizer := by
  obtain ⟨token, stage⟩ := call
  intro stemmed hstemmed
  rw [token_step]
  cases stage with
  | begun =>
    rw [Call.step] at hstemmed
    cases hknown : memo.get? token with
    | some known =>
      have hsame : known = stemmed := by simpa [hknown] using hstemmed
      rw [← hsame]
      exact hmemo.eq_of_get? hknown
    | none => simp [hknown] at hstemmed
  | missed =>
    have hsame : lemmatizer token = stemmed := by simpa [Call.step] using hstemmed
    exact hsame.symm
  | computed carried =>
    have hsame : carried = stemmed := by simpa [Call.step] using hstemmed
    rw [← hsame]
    exact h carried (Or.inl rfl)
  | returned carried => exact h stemmed hstemmed

/-- A call returns when its token is remembered. -/
lemma mem_tokens_of_step (h : call.stage.remaining ≠ 0)
    (hstep : (call.step lemmatizer memo).1.stage.remaining = 0) :
    call.token ∈ (call.step lemmatizer memo).2.tokens := by
  obtain ⟨token, stage⟩ := call
  cases stage with
  | begun =>
    rw [step] at hstep ⊢
    cases hknown : memo.get? token with
    | some known => exact Memo.isSome_get?.mp (by simp [hknown])
    | none => simp [hknown, Stage.remaining] at hstep
  | missed => simp [step, Stage.remaining] at hstep
  | computed stemmed => exact Memo.mem_tokens_insert.mpr (Or.inr rfl)
  | returned stemmed => exact absurd rfl h

end Call

/-! ## What every event preserves -/

namespace Sharing

/-- The memo and the calls tell the truth, and the memo holds the tokens of the calls that have
returned and no others than those of calls, each once. -/
structure Sound (lemmatizer : Lemmatizer) (sharing : Sharing) : Prop where
  memo : sharing.memo.Sound lemmatizer
  nodup : sharing.memo.tokens.Nodup
  truthful : ∀ call ∈ sharing.calls, call.Truthful lemmatizer
  remembered : ∀ call ∈ sharing.calls, call.stage.remaining = 0 →
    call.token ∈ sharing.memo.tokens
  of_call : ∀ token ∈ sharing.memo.tokens, token ∈ sharing.calls.map Call.token

lemma sound_empty (lemmatizer : Lemmatizer) : Sound lemmatizer {} where
  memo := Memo.sound_empty lemmatizer
  nodup := List.nodup_nil
  truthful _ hcall := by cases hcall
  remembered _ hcall := by cases hcall
  of_call _ htoken := by cases htoken

variable {sharing : Sharing} {place : Nat} {call : Call}

lemma run_append (sharing : Sharing) (events more : List Event) :
    sharing.run lemmatizer (events ++ more)
      = (sharing.run lemmatizer events).run lemmatizer more :=
  List.foldl_append

lemma step_go (h : sharing.calls[place]? = some call) :
    sharing.step lemmatizer (.go place)
      = ⟨(call.step lemmatizer sharing.memo).2,
          sharing.calls.set place (call.step lemmatizer sharing.memo).1⟩ := by
  simp only [step, h]

/-- A call that goes on asks for the same token as before. -/
lemma map_token_set (h : sharing.calls[place]? = some call) {next : Call}
    (hnext : next.token = call.token) :
    (sharing.calls.set place next).map Call.token = sharing.calls.map Call.token := by
  obtain ⟨hplace, rfl⟩ := List.getElem?_eq_some_iff.mp h
  have hmapped : place < (sharing.calls.map Call.token).length := by rwa [List.length_map]
  have htoken : (sharing.calls.map Call.token)[place] = sharing.calls[place].token :=
    List.getElem_map Call.token
  rw [List.map_set, hnext, ← htoken, List.set_getElem_self]

/-- **A step of one call keeps everything sound.** -/
lemma Sound.go (h : sharing.Sound lemmatizer) (hcall : sharing.calls[place]? = some call) :
    Sound lemmatizer ⟨(call.step lemmatizer sharing.memo).2,
      sharing.calls.set place (call.step lemmatizer sharing.memo).1⟩ := by
  have hmem : call ∈ sharing.calls := List.mem_of_getElem? hcall
  have htruthful := h.truthful call hmem
  refine ⟨htruthful.sound_step h.memo, Call.nodup_step h.nodup, ?_, ?_, ?_⟩
  · intro other hother
    rcases List.mem_or_eq_of_mem_set hother with hold | rfl
    · exact h.truthful other hold
    · exact htruthful.step h.memo
  · intro other hother hreturned
    rcases List.mem_or_eq_of_mem_set hother with hold | rfl
    · exact Call.mem_tokens_step (h.remembered other hold hreturned)
    · rw [Call.token_step]
      by_cases hbefore : call.stage.remaining = 0
      · exact Call.mem_tokens_step (h.remembered call hmem hbefore)
      · exact Call.mem_tokens_of_step hbefore hreturned
  · intro token htoken
    rw [map_token_set hcall Call.token_step]
    rcases Call.of_mem_tokens_step htoken with hold | rfl
    · exact h.of_call token hold
    · exact List.mem_map_of_mem hmem

/-- A call that begins keeps everything sound. -/
lemma Sound.ask (h : sharing.Sound lemmatizer) (token : String) :
    Sound lemmatizer { sharing with calls := sharing.calls ++ [⟨token, .begun⟩] } where
  memo := h.memo
  nodup := h.nodup
  truthful call hcall := by
    rcases List.mem_append.mp hcall with hold | hnew
    · exact h.truthful call hold
    · rw [List.mem_singleton.mp hnew]
      rintro stemmed (hstage | hstage) <;> cases hstage
  remembered call hcall hreturned := by
    rcases List.mem_append.mp hcall with hold | hnew
    · exact h.remembered call hold hreturned
    · rw [List.mem_singleton.mp hnew] at hreturned
      cases hreturned
  of_call other hother := by
    rw [List.map_append]
    exact List.mem_append_left _ (h.of_call other hother)

/-- **Every event keeps everything sound.** -/
theorem Sound.step (h : sharing.Sound lemmatizer) (event : Event) :
    (sharing.step lemmatizer event).Sound lemmatizer := by
  cases event with
  | ask token => exact h.ask token
  | go place =>
    cases hcall : sharing.calls[place]? with
    | none =>
      simp only [Sharing.step, hcall]
      exact h
    | some call =>
      rw [step_go hcall]
      exact h.go hcall

/-- **Every run keeps everything sound.** -/
theorem Sound.run (h : sharing.Sound lemmatizer) (events : List Event) :
    (sharing.run lemmatizer events).Sound lemmatizer := by
  induction events generalizing sharing with
  | nil => exact h
  | cons event rest ih => exact ih (h.step event)

/-! ## Who asked -/

lemma tokens_step (event : Event) :
    (sharing.step lemmatizer event).calls.map Call.token
      = sharing.calls.map Call.token ++ event.token?.toList := by
  cases event with
  | ask token =>
    rw [step, List.map_append]
    rfl
  | go place =>
    rw [Event.token?, Option.toList_none, List.append_nil]
    cases hcall : sharing.calls[place]? with
    | none => simp only [step, hcall]
    | some call =>
      rw [step_go hcall]
      exact map_token_set hcall Call.token_step

/-- The calls are those that were begun, in their order. -/
lemma tokens_run (events : List Event) :
    (sharing.run lemmatizer events).calls.map Call.token
      = sharing.calls.map Call.token ++ asked events := by
  induction events generalizing sharing with
  | nil => exact (List.append_nil _).symm
  | cons event rest ih =>
    have hasked : asked (event :: rest) = event.token?.toList ++ asked rest := by
      cases event <;> rfl
    rw [hasked, ← List.append_assoc, ← tokens_step]
    exact ih

/-- The memo of a sharing in which every call has returned holds each token that was asked for, and
each once. -/
lemma Sound.size_eq (h : sharing.Sound lemmatizer)
    (hreturned : ∀ call ∈ sharing.calls, call.stage.remaining = 0) :
    sharing.memo.size = (sharing.calls.map Call.token).toFinset.card := by
  have hsame : sharing.memo.tokens.toFinset = (sharing.calls.map Call.token).toFinset := by
    ext token
    rw [List.mem_toFinset, List.mem_toFinset]
    constructor
    · exact h.of_call token
    · intro htoken
      obtain ⟨call, hcall, rfl⟩ := List.mem_map.mp htoken
      exact h.remembered call hcall (hreturned call hcall)
  rw [← hsame, List.toFinset_card_of_nodup h.nodup, Memo.tokens, List.length_map, Memo.size]

/-! ## Calls return -/

/-- An event counts down what is left of a call if it is a step of this call. -/
lemma exists_call_step (h : sharing.calls[place]? = some call) (event : Event) :
    ∃ next, (sharing.step lemmatizer event).calls[place]? = some next ∧
      next.token = call.token ∧
      next.stage.remaining ≤ call.stage.remaining - [event].count (.go place) := by
  have hplace : place < sharing.calls.length := (List.getElem?_eq_some_iff.mp h).1
  cases event with
  | ask token =>
    refine ⟨call, ?_, rfl, Nat.le_refl _⟩
    rw [step, List.getElem?_append_left hplace, h]
  | go other =>
    by_cases hother : other = place
    · subst hother
      refine ⟨(call.step lemmatizer sharing.memo).1, ?_, Call.token_step, ?_⟩
      · rw [step_go h, List.getElem?_set_self hplace]
      · simpa using Call.remaining_step
    · have hstays : (sharing.step lemmatizer (.go other)).calls[place]? = some call := by
        cases hmoved : sharing.calls[other]? with
        | none => simpa only [step, hmoved] using h
        | some moved => rw [step_go hmoved, List.getElem?_set_ne hother, h]
      exact ⟨call, hstays, rfl, by simp [hother]⟩

/-- **Only its own steps count a call down**, and all of them do. -/
lemma exists_call_run (h : sharing.calls[place]? = some call) (events : List Event) :
    ∃ later, (sharing.run lemmatizer events).calls[place]? = some later ∧
      later.token = call.token ∧
      later.stage.remaining ≤ call.stage.remaining - events.count (.go place) := by
  induction events generalizing sharing call with
  | nil => exact ⟨call, h, rfl, Nat.le_refl _⟩
  | cons event rest ih =>
    obtain ⟨next, hnext, htoken, hleft⟩ := exists_call_step h event
    obtain ⟨later, hlater, hsame, hend⟩ := ih hnext
    refine ⟨later, hlater, hsame.trans htoken, ?_⟩
    rw [← List.singleton_append, List.count_append]
    omega

/-- A call that took three steps has returned the lemma of its token. -/
lemma Sound.returned_of_three_steps (h : sharing.Sound lemmatizer)
    (hcall : sharing.calls[place]? = some call) {events : List Event}
    (hsteps : 3 ≤ events.count (.go place)) :
    (sharing.run lemmatizer events).calls[place]?
      = some ⟨call.token, .returned (lemmatizer call.token)⟩ := by
  obtain ⟨later, hlater, htoken, hleft⟩ := exists_call_run hcall events
  have hbound : call.stage.remaining ≤ 3 := by
    cases call.stage <;> simp [Stage.remaining]
  have hdone : later.stage.remaining = 0 := by omega
  obtain ⟨stemmed, hstage⟩ := Stage.remaining_eq_zero.mp hdone
  have htruthful := (h.run events).truthful later (List.mem_of_getElem? hlater)
  rw [hlater, ← htoken, ← htruthful stemmed (Or.inr hstage), ← hstage]

/-! ## Calls one after the other -/

/-- **A call that nobody interrupts** is the memo's own. -/
theorem run_call (lemmatizer : Lemmatizer) (sharing : Sharing) (token : String) :
    sharing.run lemmatizer [.ask token, .go sharing.calls.length, .go sharing.calls.length,
        .go sharing.calls.length]
      = ⟨(sharing.memo.lemmatize lemmatizer token).2,
          sharing.calls
            ++ [⟨token, .returned (sharing.memo.lemmatize lemmatizer token).1⟩]⟩ := by
  have hgo : ∀ (memo : Memo) (stage : Stage),
      Sharing.step lemmatizer ⟨memo, sharing.calls ++ [⟨token, stage⟩]⟩
          (.go sharing.calls.length)
        = ⟨((⟨token, stage⟩ : Call).step lemmatizer memo).2,
            sharing.calls ++ [((⟨token, stage⟩ : Call).step lemmatizer memo).1]⟩ := by
    intro memo stage
    rw [step_go List.getElem?_concat_length]
    simp
  rw [run, List.foldl_cons, step, List.foldl_cons, hgo, List.foldl_cons, List.foldl_cons,
    List.foldl_nil, Memo.lemmatize]
  cases hknown : sharing.memo.get? token with
  | some known => simp only [Call.step, hknown, hgo]
  | none => simp only [Call.step, hknown, hgo]

/-- Calls that do not overlap leave the memo that asking for their tokens one after the other
leaves. -/
theorem Sound.run_oneByOne (h : sharing.Sound lemmatizer) (tokens : List String) :
    sharing.run lemmatizer (oneByOne sharing.calls.length tokens)
      = ⟨sharing.memo.afterAll lemmatizer tokens,
          sharing.calls
            ++ tokens.map fun token => ⟨token, .returned (lemmatizer token)⟩⟩ := by
  induction tokens generalizing sharing with
  | nil => simp [oneByOne, Sharing.run, Memo.afterAll]
  | cons token rest ih =>
    obtain ⟨hlemma, hsound⟩ := h.memo.lemmatize token
    have hfirst := run_call lemmatizer sharing token
    rw [hlemma] at hfirst
    have hnext := h.run [.ask token, .go sharing.calls.length, .go sharing.calls.length,
      .go sharing.calls.length]
    rw [hfirst] at hnext
    have hrest := ih hnext
    rw [List.length_append, List.length_singleton] at hrest
    rw [oneByOne, run_append, hfirst, hrest, List.map_cons, List.append_assoc]
    rfl

/-- **A memo that is shared is transparent**, however the calls on it overlap.  Take any run of a
memo that holds nothing at first, over any function that stems words:

* the calls are those for the tokens that were asked for;
* what a call returned is the stem of its token in lower case, and what is remembered of a token is
  that as well;
* a call that has begun has returned after three steps of its own, whatever happens between them;
* when every call has returned, the memo holds as many entries as different tokens were asked for;
* a run in which no call overlaps another one leaves what asking one token after the other leaves. -/
theorem shared_memo_is_transparent (stem : List Char → List Char) (events : List Event) :
    let lemmatizer := Lemmatizer.ofStem stem
    let sharing := run lemmatizer {} events
    sharing.calls.map Call.token = asked events ∧
      (∀ token stemmed, ⟨token, .returned stemmed⟩ ∈ sharing.calls →
        stemmed = lemmatizer token) ∧
      (∀ entry ∈ sharing.memo.entries, entry.2 = lemmatizer entry.1) ∧
      (∀ more place token, (asked events)[place]? = some token →
        3 ≤ more.count (.go place) →
          (run lemmatizer {} (events ++ more)).calls[place]?
            = some ⟨token, .returned (lemmatizer token)⟩) ∧
      ((∀ call ∈ sharing.calls, ∃ stemmed, call.stage = .returned stemmed) →
        sharing.memo.size = (asked events).toFinset.card) ∧
      ∀ tokens, run lemmatizer {} (oneByOne 0 tokens)
        = ⟨({} : Memo).afterAll lemmatizer tokens,
            tokens.map fun token => ⟨token, .returned (lemmatizer token)⟩⟩ := by
  intro lemmatizer sharing
  have hsound : sharing.Sound lemmatizer := (sound_empty lemmatizer).run events
  have htokens : sharing.calls.map Call.token = asked events := tokens_run events
  refine ⟨htokens, ?_, hsound.memo, ?_, ?_, (sound_empty lemmatizer).run_oneByOne⟩
  · intro token stemmed hcall
    exact hsound.truthful _ hcall stemmed (Or.inr rfl)
  · intro more place token hplace hsteps
    rw [← htokens, List.getElem?_map, Option.map_eq_some_iff] at hplace
    obtain ⟨call, hcall, rfl⟩ := hplace
    rw [run_append]
    exact hsound.returned_of_three_steps hcall hsteps
  · intro hreturned
    rw [← htokens]
    exact hsound.size_eq fun call hcall => Stage.remaining_eq_zero.mpr (hreturned call hcall)

/-- Two calls miss the same token, and a third asks for it in another case; all of them return its
stem, and two entries are left. -/
theorem calls_that_miss_together_return :
    let lemmatizer := Lemmatizer.ofStem English.stem
    let events : List Event := [.ask "Running", .ask "Running", .go 0, .go 1, .ask "running"]
    let more : List Event := [.go 2, .go 1, .go 0, .go 1, .go 2, .go 0, .go 2, .go 1, .go 0]
    let sharing := run lemmatizer {} (events ++ more)
    (run lemmatizer {} events).calls
        = [⟨"Running", .missed⟩, ⟨"Running", .missed⟩, ⟨"running", .begun⟩] ∧
      (asked events)[1]? = some "Running" ∧ 3 ≤ more.count (.go 1) ∧
      sharing.calls[1]? = some ⟨"Running", .returned "run"⟩ ∧
      (∀ call ∈ sharing.calls, ∃ stemmed, call.stage = .returned stemmed) ∧
      sharing.memo.size = 2 := by
  intro lemmatizer events more sharing
  have hstem : lemmatizer "Running" = "run" := by decide +kernel
  have hsteps : 3 ≤ more.count (.go 1) := by decide
  have hcalls : sharing.calls = [⟨"Running", .returned "run"⟩, ⟨"Running", .returned "run"⟩,
      ⟨"running", .returned "run"⟩] := by decide +kernel
  have hreturned : ∀ call ∈ sharing.calls, ∃ stemmed, call.stage = .returned stemmed := by
    rw [hcalls]
    simp
  have hasked : (asked (events ++ more)).toFinset.card = 2 := by decide
  obtain ⟨-, -, -, hreturns, -, -⟩ := shared_memo_is_transparent English.stem events
  obtain ⟨-, -, -, -, hsize, -⟩ :=
    shared_memo_is_transparent English.stem (events ++ more)
  refine ⟨rfl, rfl, hsteps, ?_, hreturned, (hsize hreturned).trans hasked⟩
  rw [← hstem]
  exact hreturns more 1 "Running" rfl hsteps

end Sharing

end Retrieval.Stem
