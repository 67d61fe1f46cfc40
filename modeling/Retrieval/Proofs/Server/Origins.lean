import Mathlib.Tactic.Common
import Retrieval.Proofs.Fault
import Retrieval.Proofs.Text.Parts
import Retrieval.Proofs.Utf8
import Retrieval.Server.Router

/-!
# Which origins a setting allows

The setting of the allowed origins is free text.  Its entries are what stands between its commas,
without the white space around it (`IsEntry`), and an entry counts if its octets may be the value of
a header (`IsHeader`).  With no setting, or with one of which no entry counts, every origin is
allowed; otherwise an origin is allowed if it is an entry that counts.  All that is `IsDue`, which
also says that an entry `*` allows every origin.

The service does all this but the last: with an entry `*` it does not come up.  Nothing else in a
setting keeps it from coming up.
-/

namespace Retrieval.Server

open Text (Separated Trims)

/-! ## Entries -/

/-- Whether a text stands between commas of the setting, or at one of its ends, but for white space
around it. -/
def IsEntry (setting : String) (entry : List Char) : Prop :=
  ∃ parts, Separated ',' setting.toList parts ∧ ∃ part ∈ parts, Trims part entry

/-- Whether a text may be the value of a header: of the octets below 32 it has only the tab, and 127
it does not have. -/
def IsHeader (entry : List Char) : Prop :=
  ∀ octet ∈ Utf8.encode entry,
    octet.toNat = 0x09 ∨ 0x20 ≤ octet.toNat ∧ octet.toNat ≠ 0x7F

lemma isEntry_iff {setting : String} {entry : List Char} :
    IsEntry setting entry ↔ entry ∈ (Url.splitAt ',' setting.toList).map Text.trim := by
  rw [List.mem_map]
  constructor
  · rintro ⟨parts, hparts, part, hpart, htrims⟩
    rw [Text.splitAt_eq_iff.mpr hparts]
    exact ⟨part, hpart, Text.trim_eq_iff.mpr htrims⟩
  · rintro ⟨part, hpart, htrim⟩
    exact ⟨_, Text.splitAt_eq_iff.mp rfl, part, hpart, Text.trim_eq_iff.mp htrim⟩

/-- The octets of a character may stand in a header unless it is a control character other than the
tab. -/
lemma header_encodeChar {c : Char} :
    (∀ octet ∈ Utf8.encodeChar c,
      octet.toNat = 0x09 ∨ 0x20 ≤ octet.toNat ∧ octet.toNat ≠ 0x7F) ↔
        0x20 ≤ c.toNat ∧ c.toNat ≠ 0x7F ∨ c = '\t' := by
  by_cases hc : c.toNat < 0x80
  · have hoctet : (UInt8.ofNat c.toNat).toNat = c.toNat :=
      UInt8.toNat_ofNat_of_lt' (by change _ < 256; omega)
    have hone : Utf8.encodeChar c = [UInt8.ofNat c.toNat] := by
      rw [Utf8.encodeChar]
      exact if_pos hc
    have htab : c = '\t' ↔ c.toNat = 9 := by
      rw [← Char.toNat_inj]
      rfl
    rw [hone, List.forall_mem_singleton, hoctet, htab]
    exact or_comm
  · refine iff_of_true (fun octet hoctet => Or.inr ?_) (Or.inl (by omega))
    have hle := Utf8.le_toNat_of_mem_encodeChar hc hoctet
    omega

lemma isHeaderValue_iff {entry : List Char} :
    Origins.isHeaderValue entry = true ↔ IsHeader entry := by
  rw [Origins.isHeaderValue, List.all_eq_true, IsHeader, Utf8.encode, List.forall_mem_flatMap]
  refine forall₂_congr fun c _ => ?_
  rw [header_encodeChar]
  simp

lemma isHeader_wildcard : IsHeader Origins.wildcard :=
  isHeaderValue_iff.mp (by decide)

/-! ## What becomes of a setting -/

/-- The origins that a setting should allow. -/
def IsDue (setting? : Option String) (origin : String) : Prop :=
  ∀ setting ∈ setting?, (∀ entry, IsEntry setting entry → ¬ IsHeader entry) ∨
    IsEntry setting Origins.wildcard ∨ IsEntry setting origin.toList ∧ IsHeader origin.toList

/-- What a setting may become: every origin is allowed, the wildcard stops the service, or the
entries that count are listed. -/
lemma ofSetting?_cases (setting : String) :
    ((∀ entry, IsEntry setting entry → ¬ IsHeader entry) ∧
        Origins.ofSetting? (some setting) = .ok .any) ∨
      (IsEntry setting Origins.wildcard ∧
        Origins.ofSetting? (some setting) = .error .wildcardOrigin) ∨
      ¬ IsEntry setting Origins.wildcard ∧ (∃ entry, IsEntry setting entry ∧ IsHeader entry) ∧
        ∃ listed, Origins.ofSetting? (some setting) = .ok (.listed listed) ∧
          ∀ origin, origin ∈ listed ↔ IsEntry setting origin.toList ∧ IsHeader origin.toList := by
  rw [Origins.ofSetting?]
  generalize hcounted :
    ((Url.splitAt ',' setting.toList).map Text.trim).filter Origins.isHeaderValue = counted
  have hmem : ∀ entry, entry ∈ counted ↔ IsEntry setting entry ∧ IsHeader entry := by
    intro entry
    rw [← hcounted, List.mem_filter, isEntry_iff, isHeaderValue_iff]
  by_cases hempty : counted = []
  · refine Or.inl ⟨fun entry hentry hheader => ?_, by simp [hempty]⟩
    have hnone := (hmem entry).mpr ⟨hentry, hheader⟩
    rw [hempty] at hnone
    cases hnone
  obtain ⟨first, hfirst⟩ := List.exists_mem_of_ne_nil counted hempty
  by_cases hwildcard : Origins.wildcard ∈ counted
  · exact Or.inr (Or.inl ⟨((hmem _).mp hwildcard).1, by simp [hempty, hwildcard]⟩)
  · refine Or.inr (Or.inr ⟨fun hentry => hwildcard ((hmem _).mpr ⟨hentry, isHeader_wildcard⟩),
      ⟨first, (hmem first).mp hfirst⟩, counted.map String.ofList, by simp [hempty, hwildcard], ?_⟩)
    intro origin
    rw [← hmem, List.mem_map]
    constructor
    · rintro ⟨entry, hentry, rfl⟩
      rwa [String.toList_ofList]
    · intro horigin
      exact ⟨origin.toList, horigin, String.ofList_toList⟩

/-- **The wildcard among the entries stops the service**, and nothing else does. -/
lemma ofSetting?_eq_error {setting? : Option String} {fault : Fault} :
    Origins.ofSetting? setting? = .error fault ↔
      fault = .wildcardOrigin ∧ ∃ setting ∈ setting?, IsEntry setting Origins.wildcard := by
  cases setting? with
  | none => simp [Origins.ofSetting?]
  | some setting =>
    rcases ofSetting?_cases setting with ⟨hnone, h⟩ | ⟨hwildcard, h⟩ | ⟨hnot, -, listed, h, -⟩
    · have hnot : ¬ IsEntry setting Origins.wildcard := fun hentry =>
        hnone _ hentry isHeader_wildcard
      simp [h, hnot]
    · simp [h, hwildcard, eq_comm]
    · simp [h, hnot]

/-! ## What is answered -/

/-- Whether an answer lets the pages of an origin read it: it names every origin, or this one. -/
def Allows (response : Response) (origin : String) : Prop :=
  ∃ named ∈ response.allowOrigin?, named = "*" ∨ named = origin

lemma allowOrigin?_of_respond {service : Service} {request : Request} {response : Response}
    (h : respond service request = .ok response) :
    response.allowOrigin? = service.origins.allowed? request.origin? := by
  obtain ⟨reply, -, hresponse⟩ := bind_eq_ok.mp h
  cases hresponse
  rfl

/-- **The origins that are due are allowed**, and no others. -/
lemma allows_iff {setting? : Option String} {origins : Origins}
    (horigins : Origins.ofSetting? setting? = .ok origins) {index : Index}
    {lemmatizer : Stem.Lemmatizer} {request : Request} {response : Response}
    (hresponse : respond ⟨index, lemmatizer, origins⟩ request = .ok response) {origin : String}
    (hrequest : request.origin? = some origin) :
    Allows response origin ↔ IsDue setting? origin := by
  rw [Allows, allowOrigin?_of_respond hresponse, hrequest]
  cases setting? with
  | none =>
    cases horigins
    simp [Origins.allowed?, Origins.wildcard, IsDue]
  | some setting =>
    rcases ofSetting?_cases setting with
      ⟨hnone, h⟩ | ⟨hwildcard, h⟩ | ⟨hnot, ⟨entry, hentry, hheader⟩, listed, h, hlisted⟩
    · cases h.symm.trans horigins
      have hdue : IsDue (some setting) origin := fun found hfound => by
        cases hfound
        exact Or.inl hnone
      simp [Origins.allowed?, Origins.wildcard, hdue]
    · cases h.symm.trans horigins
    · cases h.symm.trans horigins
      have hsome : ¬ ∀ entry, IsEntry setting entry → ¬ IsHeader entry := fun hnone =>
        hnone entry hentry hheader
      simp [Origins.allowed?, IsDue, hnot, hsome, ← hlisted]

/-- **A setting keeps the service from coming up only by an entry `*`.**  With any other setting, or
with none, it comes up, and every answer it gives allows the origin that asked exactly if that
origin is due: if there is no setting, if no entry of the setting may be the value of a header, or
if the origin is an entry that may. -/
theorem service_stops_only_for_a_wildcard (setting? : Option String) :
    (∀ fault, Origins.ofSetting? setting? = .error fault ↔
        fault = .wildcardOrigin ∧ ∃ setting ∈ setting?, IsEntry setting Origins.wildcard) ∧
      ((∀ setting ∈ setting?, ¬ IsEntry setting Origins.wildcard) →
        ∃ origins, Origins.ofSetting? setting? = .ok origins ∧
          ∀ index lemmatizer request response origin,
            respond ⟨index, lemmatizer, origins⟩ request = .ok response →
              request.origin? = some origin →
                (Allows response origin ↔ IsDue setting? origin)) := by
  refine ⟨fun fault => ofSetting?_eq_error, fun hnot => ?_⟩
  cases horigins : Origins.ofSetting? setting? with
  | error fault =>
    obtain ⟨-, setting, hsetting, hwildcard⟩ := ofSetting?_eq_error.mp horigins
    exact absurd hwildcard (hnot setting hsetting)
  | ok origins =>
    exact ⟨origins, rfl, fun index lemmatizer request response origin hresponse hrequest =>
      allows_iff horigins hresponse hrequest⟩

/-- Blanks, an empty part, two stars and a part with a control character do not stop the service; the
entries beside them are allowed, and nothing else is. -/
theorem strange_entries_do_not_stop_the_service :
    let setting := " http://a ,, **,\u007F\tb"
    let index := Index.empty .docSet
    let request : Request := ⟨"GET", "/health", some "http://a"⟩
    let stranger : Request := ⟨"GET", "/health", some "*"⟩
    (∀ known ∈ some setting, ¬ IsEntry known Origins.wildcard) ∧
      ∃ origins, Origins.ofSetting? (some setting) = .ok origins ∧
        (∃ response, respond ⟨index, id, origins⟩ request = .ok response ∧
          Allows response "http://a" ∧ IsDue (some setting) "http://a") ∧
        ∃ response, respond ⟨index, id, origins⟩ stranger = .ok response ∧
          ¬ Allows response "*" ∧ ¬ IsDue (some setting) "*" := by
  intro setting index request stranger
  have hnot : ∀ known ∈ some setting, ¬ IsEntry known Origins.wildcard := by
    intro known hknown
    cases hknown
    rw [isEntry_iff]
    decide +kernel
  obtain ⟨origins, horigins, hallows⟩ :=
    (service_stops_only_for_a_wildcard (some setting)).2 hnot
  have hlisted : Origins.ofSetting? (some setting) = .ok (.listed ["http://a", "", "**"]) := by
    decide +kernel
  cases hlisted.symm.trans horigins
  have hknown : respond ⟨index, id, .listed ["http://a", "", "**"]⟩ request
      = .ok ⟨⟨200, .text "ok"⟩, some "http://a"⟩ := by decide +kernel
  have hstranger : respond ⟨index, id, .listed ["http://a", "", "**"]⟩ stranger
      = .ok ⟨⟨200, .text "ok"⟩, none⟩ := by decide +kernel
  have hallowed : Allows ⟨⟨200, .text "ok"⟩, some "http://a"⟩ "http://a" :=
    ⟨"http://a", rfl, Or.inr rfl⟩
  have hrefused : ¬ Allows ⟨⟨200, .text "ok"⟩, none⟩ "*" := by
    rintro ⟨named, hnamed, -⟩
    cases hnamed
  refine ⟨hnot, _, horigins, ⟨_, hknown, hallowed, ?_⟩, ⟨_, hstranger, hrefused, ?_⟩⟩
  · exact (hallows index id request _ "http://a" hknown rfl).mp hallowed
  · exact fun hdue => hrefused ((hallows index id stranger _ "*" hstranger rfl).mpr hdue)

/-- The wildcard by itself stops the service, though it is there to allow every origin. -/
theorem wildcard_setting_stops_the_service :
    (∀ origin, IsDue (some "*") origin) ∧
      ¬ ∃ origins, Origins.ofSetting? (some "*") = .ok origins := by
  have hentry : IsEntry "*" Origins.wildcard := isEntry_iff.mpr (by decide +kernel)
  refine ⟨fun origin setting hsetting => ?_, ?_⟩
  · cases hsetting
    exact Or.inr (Or.inl hentry)
  · rintro ⟨origins, horigins⟩
    have hstops : Origins.ofSetting? (some "*") = .error .wildcardOrigin := by decide +kernel
    rw [hstops] at horigins
    cases horigins

end Retrieval.Server
