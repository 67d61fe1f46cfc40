import Mathlib.Tactic.Common
import Retrieval.Proofs.Search.Verdict
import Retrieval.Proofs.Shell.Session
import Retrieval.Server.Router

/-!
# Who asks is answered

The service and the shell both pass a query on to a search and tell its outcome.  For an error they
ask whether the query is to blame: the service answers any other with the status 500, and the shell
ends with it.  But the verdict on a search depends on the query alone, and is never that something
stored is to blame.  So the service answers every request for a search with the status 200, or with
400 where the query is refused (`respond_of_asksFor`), and the shell prints something and goes on.
-/

namespace Retrieval.Server

open Query (Balanced Tree tokenize)
open Search (Mode Verdict due verdict)

/-- Whether a request is a well-formed one for a search: it reads, and the parameters are there. -/
structure Request.AsksFor (request : Request) (params : SearchParams) : Prop where
  method : request.method = "GET" ∨ request.method = "HEAD"
  route : Route.ofPath? (Url.Target.parse request.target.toList).path = some .search
  parsed : SearchParams.parse? (Url.formPairs (Url.Target.parse request.target.toList).query)
    = some params

/-- The status of an answer that tells of a verdict. -/
def statusOf : Verdict → Nat
  | .emptyQuery | .found => 200
  | .refused kind => if kind = .malformedQuery ∨ kind = .unsupported then 400 else 500
  | .stopped _ => 500

lemma statusOf_due (representation : Posting.Representation) (tokens : List Query.Token)
    (mode : Mode) : statusOf (due representation tokens mode) ∈ [200, 400] := by
  have hmem := Search.due_mem representation tokens mode
  generalize due representation tokens mode = told at hmem
  simp only [List.mem_cons, List.not_mem_nil, or_false] at hmem
  rcases hmem with rfl | rfl | rfl | rfl <;> decide

/-- An error is answered by whether its kind is one that the query is to blame for. -/
lemma status_errorReply (error : Error) :
    (errorReply error).status = statusOf (.refused error.kind) := by
  simp only [errorReply, statusOf, Error.isQueryError, Bool.or_eq_true, decide_eq_true_eq]

variable {service : Service}

/-- A search is answered, with the status that tells of it. -/
lemma exists_searchReply (hindex : service.index.Consistent)
    (hmeasurable : service.index.Measurable) (params : SearchParams) :
    ∃ reply, searchReply service params = .ok reply ∧
      reply.status
        = statusOf (verdict
          (service.index.search service.lemmatizer params.query params.mode)) := by
  have hgoes :=
    Search.search_ne_fault hindex hmeasurable service.lemmatizer params.query params.mode
  rw [searchReply]
  generalize service.index.search service.lemmatizer params.query params.mode = answered at hgoes
  match answered, hgoes with
  | .ok .emptyQuery, _ => exact ⟨_, rfl, rfl⟩
  | .ok (.found hits), _ => exact ⟨_, rfl, rfl⟩
  | .error (.error reason), _ => exact ⟨_, rfl, status_errorReply reason⟩
  | .error (.fault fault), hgoes => exact absurd rfl (hgoes fault)

/-- A request for a search reaches the search. -/
lemma reply_of_asksFor (service : Service) {request : Request} {params : SearchParams}
    (h : request.AsksFor params) :
    reply service request.method (.parse request.target.toList) = searchReply service params ∨
      reply service request.method (.parse request.target.toList)
        = (searchReply service params).map fun reply => { reply with body := .text "" } := by
  rcases h.method with hmethod | hmethod
  · refine Or.inl ?_
    simp [reply, hmethod, h.route, routeReply, h.parsed]
  · refine Or.inr ?_
    simp [reply, hmethod, h.route, routeReply, h.parsed]

/-- **A request for a search is answered with the status that is due.** -/
theorem respond_of_asksFor (service : Service) (hindex : service.index.Consistent)
    (hmeasurable : service.index.Measurable) {request : Request} {params : SearchParams}
    (h : request.AsksFor params) :
    ∃ response, respond service request = .ok response ∧
      response.reply.status = statusOf (due service.index.postings.representation
        (tokenize service.lemmatizer params.query) params.mode) := by
  obtain ⟨found, hfound, hstatus⟩ := exists_searchReply hindex hmeasurable params
  rw [Search.verdict_search hindex hmeasurable] at hstatus
  rcases reply_of_asksFor service h with hreply | hreply
  · refine ⟨⟨found, service.origins.allowed? request.origin?⟩, ?_, hstatus⟩
    simp only [respond, hreply, hfound, ok_bind]
    rfl
  · refine ⟨⟨{ found with body := .text "" }, service.origins.allowed? request.origin?⟩, ?_,
      hstatus⟩
    simp only [respond, hreply, hfound, Except.map, ok_bind]
    rfl

/-- **A query comes to what its tokens call for**, over every index that is measurable.  Where it
comes to no outcome, the query itself is to blame: in the boolean mode exactly the queries are
malformed that the parser refuses.  So a request for the search is answered with the status 200 or
400, and the shell prints something for the query and goes on with the lines behind it. -/
theorem every_query_comes_to_what_is_due {index : Index} (hindex : index.Obtained)
    (hmeasurable : index.Measurable) (lemmatizer : Stem.Lemmatizer) (query : String) :
    let tokens := tokenize lemmatizer query
    let layout := index.postings.representation
    (∀ mode, verdict (index.search lemmatizer query mode) = due layout tokens mode) ∧
      (due layout tokens .boolean = .refused .malformedQuery ↔
        ∃ reason, Tree.parse? tokens = .error reason) ∧
      (∀ mode failure, index.search lemmatizer query mode = .error failure →
        ∃ reason, failure = .error reason ∧ reason.isQueryError = true) ∧
      (∀ mode origins request, request.AsksFor ⟨query, mode⟩ →
        ∃ response, respond ⟨index, lemmatizer, origins⟩ request = .ok response ∧
          response.reply.status = statusOf (due layout tokens mode) ∧
          response.reply.status ∈ [200, 400]) ∧
      ∀ mode line, Utf8.decode line = .ok query.toList → Shell.isQuit query.toList = false →
        ∃ printed, ∀ rest,
          Shell.transcript ⟨index, lemmatizer, mode⟩ (line :: rest)
            = (Shell.transcript ⟨index, lemmatizer, mode⟩ rest).map
                (Shell.prompt ++ printed ++ ·) := by
  intro tokens layout
  have hconsistent := hindex.consistent
  refine ⟨Search.verdict_search hconsistent hmeasurable lemmatizer query,
    Search.due_boolean_eq_refused, ?_, ?_, ?_⟩
  · rintro mode (fault | reason) hfailure
    · exact absurd hfailure
        (Search.search_ne_fault hconsistent hmeasurable lemmatizer query mode fault)
    · exact ⟨reason, rfl, Search.isQueryError_of_search hfailure⟩
  · intro mode origins request hasks
    obtain ⟨response, hresponse, hstatus⟩ :=
      respond_of_asksFor ⟨index, lemmatizer, origins⟩ hconsistent hmeasurable hasks
    refine ⟨response, hresponse, hstatus, ?_⟩
    rw [hstatus]
    exact statusOf_due _ _ _
  · intro mode line hline hquit
    obtain ⟨printed, hprinted⟩ :=
      Shell.exists_answer ⟨index, lemmatizer, mode⟩ hconsistent hmeasurable query
    refine ⟨printed, fun rest => Shell.transcript_cons hline hquit ?_ rest⟩
    rw [String.ofList_toList, hprinted]

/-- Over an index without positions a ranked query of one term is refused, and a boolean query finds
something or cannot be read. -/
theorem queries_over_document_sets_come_to_what_is_due :
    let index : Index := ⟨.listed [("fox", 1)], .listed [("u", 1)],
      .docSet ⟨[(1, ⟨[1], by simp⟩)], by simp⟩⟩
    let request : Request := ⟨"GET", "/search?q=fox&mode=ranked", none⟩
    (Builder.empty .docSet).addAll ⟨Text.normalize, id⟩ [⟨"u", "Fox"⟩]
        = .ok ([some 1], ⟨index, 2, 2, 0⟩) ∧
      (∀ mode, verdict (index.search id "fox" mode)
        = due .docSet (tokenize id "fox") mode) ∧
      due .docSet (tokenize id "fox") .ranked = .refused .unsupported ∧
      request.AsksFor ⟨"fox", .ranked⟩ ∧
      ∃ response, respond ⟨index, id, .any⟩ request = .ok response ∧
        response.reply.status = statusOf (due .docSet (tokenize id "fox") .ranked) ∧
        response.reply.status ∈ [200, 400] := by
  intro index request
  have hbuild : (Builder.empty .docSet).addAll ⟨Text.normalize, id⟩ [⟨"u", "Fox"⟩]
      = .ok ([some 1], ⟨index, 2, 2, 0⟩) := by decide +kernel
  have hasks : request.AsksFor ⟨"fox", .ranked⟩ :=
    ⟨Or.inl rfl, by decide +kernel, by decide +kernel⟩
  have htokens : tokenize id "fox" = [.term "fox"] := by decide +kernel
  obtain ⟨hverdict, -, -, hserved, -⟩ := every_query_comes_to_what_is_due (.built hbuild)
    (Index.measurable_of_addAll hbuild) id "fox"
  refine ⟨hbuild, hverdict, ?_, hasks, hserved .ranked .any request hasks⟩
  rw [htokens]
  rfl

end Retrieval.Server
