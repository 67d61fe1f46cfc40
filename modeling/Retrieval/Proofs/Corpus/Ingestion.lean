import Mathlib.Tactic.Common
import Retrieval.Corpus.Build
import Retrieval.Proofs.Corpus.Lines
import Retrieval.Proofs.Index.Build

/-!
# Ingestion is a fold over records

Reading a corpus into a builder mixes three things: lines are read until one is refused, their
records are added, and the added ones are counted.  They come apart.  `recordsOf` lists the records
in front of the first refused line and `outcomeOf` says what is reported, both from the lines alone;
in between `Builder.addAll` adds those records, and nothing else touches the builder.  This holds of
every builder, also where a number runs out (`ingestLines_eq`).

Lines behind others are therefore read by the builder that the others left, and the count starts
where theirs ended (`ingestLines_append`).  With what a line feed between octets does to their lines
it follows that a corpus may be cut into files anywhere between lines: octets that were read to
their end, and then more, come to the same as both at once with a line feed between them
(`ingest_append`), and so do any number of files (`ingestAll_eq_ok`).

The last theorem puts this together with what a builder holds after records that fit.
-/

namespace Retrieval

open Posting (Representation)

namespace Builder

/-! ## Skipped documents -/

/-- A document is skipped exactly if it gets no id. -/
lemma skipped_addDocument {analysis : Analysis} {builder later : Builder} {url content : String}
    {id? : Option UInt32}
    (h : builder.addDocument analysis url content = .ok (id?, later)) :
    later.skipped = builder.skipped + if id?.isNone then 1 else 0 := by
  obtain ⟨nextDoc, -, h⟩ := bind_eq_ok.mp h
  dsimp only at h
  split at h
  · cases h
    rfl
  · obtain ⟨inserted, -, h⟩ := bind_eq_ok.mp h
    obtain ⟨seen, -, h⟩ := bind_eq_ok.mp h
    cases h
    rfl

lemma skipped_addAll {analysis : Analysis} {builder later : Builder}
    {records : List Corpus.Record} {ids : List (Option UInt32)}
    (h : builder.addAll analysis records = .ok (ids, later)) :
    later.skipped = builder.skipped + ids.countP Option.isNone := by
  induction records generalizing builder ids with
  | nil =>
    cases h
    rfl
  | cons record rest ih =>
    rw [addAll_cons] at h
    obtain ⟨⟨id?, between⟩, hfirst, h⟩ := bind_eq_ok.mp h
    obtain ⟨⟨others, last⟩, hrest, h⟩ := bind_eq_ok.mp h
    cases h
    rw [ih hrest, skipped_addDocument hfirst, List.countP_cons]
    dsimp only
    omega

end Builder

namespace Corpus

/-! ## What lines come to -/

/-- The record that a line holds, if it holds one. -/
def recordOn? (line : List UInt8) : Option Record :=
  match record? line with
  | .ok found => found
  | .error _ => none

/-- Why a line is refused, if it is. -/
def refusal? (line : List UInt8) : Option CorpusError :=
  match record? line with
  | .ok _ => none
  | .error reason => some reason

/-- The records on lines, up to the first line that is refused. -/
def recordsOf (lines : List (List UInt8)) : List Record :=
  (lines.takeWhile fun line => (refusal? line).isNone).filterMap recordOn?

/-- What is reported of lines from which `count` documents were added. -/
def outcomeOf (lines : List (List UInt8)) (count : Nat) : Except CorpusError Nat :=
  match lines.findSome? refusal? with
  | none => .ok count
  | some reason => .error reason

section Lines

variable {line : List UInt8} {found : Option Record} {reason : CorpusError}

lemma recordsOf_cons_ok (h : record? line = .ok found) (rest : List (List UInt8)) :
    recordsOf (line :: rest) = found.toList ++ recordsOf rest := by
  have hread : (refusal? line).isNone = true := by rw [refusal?, h]; rfl
  have hrecord : recordOn? line = found := by rw [recordOn?, h]
  rw [recordsOf, List.takeWhile_cons, if_pos hread, List.filterMap_cons, hrecord, ← recordsOf]
  cases found <;> rfl

lemma recordsOf_cons_error (h : record? line = .error reason) (rest : List (List UInt8)) :
    recordsOf (line :: rest) = [] := by
  have hrefused : ¬ (refusal? line).isNone = true := by rw [refusal?, h]; simp
  rw [recordsOf, List.takeWhile_cons, if_neg hrefused, List.filterMap_nil]

lemma outcomeOf_cons_ok (h : record? line = .ok found) (rest : List (List UInt8)) (count : Nat) :
    outcomeOf (line :: rest) count = outcomeOf rest count := by
  rw [outcomeOf, outcomeOf, List.findSome?_cons, refusal?, h]

lemma outcomeOf_cons_error (h : record? line = .error reason) (rest : List (List UInt8))
    (count : Nat) : outcomeOf (line :: rest) count = .error reason := by
  rw [outcomeOf, List.findSome?_cons, refusal?, h]

end Lines

/-! ## The fold -/

variable {analysis : Analysis} {builder : Builder}

/-- **Reading lines adds their records** up to the first that is refused, and counts the added
ones. -/
theorem ingestLines_eq (builder : Builder) (added : Nat) (lines : List (List UInt8)) :
    ingestLines analysis builder added lines
      = (builder.addAll analysis (recordsOf lines)).map fun (ids, later) =>
          ⟨outcomeOf lines (added + ids.countP Option.isSome), later⟩ := by
  induction lines generalizing builder added with
  | nil => rfl
  | cons line rest ih =>
    rw [ingestLines]
    cases hline : record? line with
    | error reason =>
      rw [recordsOf_cons_error hline]
      simp only [outcomeOf_cons_error hline]
      rfl
    | ok found =>
      rw [recordsOf_cons_ok hline]
      simp only [outcomeOf_cons_ok hline]
      cases found with
      | none => exact ih builder added
      | some record =>
        rw [Option.toList_some, List.singleton_append, Builder.addAll_cons]
        dsimp only
        cases builder.addDocument analysis record.url record.content with
        | error fault => rfl
        | ok first =>
          obtain ⟨id?, between⟩ := first
          rw [ok_bind, ok_bind, ih]
          dsimp only
          cases between.addAll analysis (recordsOf rest) with
          | error fault => rfl
          | ok others =>
            have hcount : (if id?.isSome then added + 1 else added)
                  + others.1.countP Option.isSome
                = added + (id? :: others.1).countP Option.isSome := by
              rw [List.countP_cons]
              split <;> omega
            rw [ok_bind]
            simp only [Except.map, hcount]

/-- A corpus read after `count` documents were added. -/
def Ingested.after (count : Nat) (ingested : Ingested) : Ingested :=
  ⟨ingested.outcome.map (count + ·), ingested.builder⟩

lemma after_outcomeOf (added count : Nat) (lines : List (List UInt8)) (builder : Builder) :
    Ingested.after added ⟨outcomeOf lines count, builder⟩
      = ⟨outcomeOf lines (added + count), builder⟩ := by
  rw [Ingested.after, outcomeOf, outcomeOf]
  cases lines.findSome? refusal? <;> rfl

/-- The count goes on where it stood. -/
lemma ingestLines_after (builder : Builder) (added : Nat) (lines : List (List UInt8)) :
    ingestLines analysis builder added lines
      = (ingestLines analysis builder 0 lines).map (Ingested.after added) := by
  rw [ingestLines_eq, ingestLines_eq, map_map]
  simp only [Function.comp_def, after_outcomeOf, Nat.zero_add]

/-- Lines behind others are read if the others were read to their end. -/
lemma ingestLines_append (builder : Builder) (added : Nat) (first second : List (List UInt8)) :
    ingestLines analysis builder added (first ++ second)
      = ingestLines analysis builder added first >>= fun before =>
          match before.outcome with
          | .ok count => ingestLines analysis before.builder count second
          | .error _ => .ok before := by
  induction first generalizing builder added with
  | nil => rfl
  | cons line rest ih =>
    rw [List.cons_append, ingestLines, ingestLines]
    cases record? line with
    | error reason => rfl
    | ok found =>
      cases found with
      | none => exact ih builder added
      | some record =>
        dsimp only
        cases builder.addDocument analysis record.url record.content with
        | error fault => rfl
        | ok first => exact ih first.2 _

lemma ingestLines_append_eq_ok {added total : Nat} {first second : List (List UInt8)}
    {later : Builder} :
    ingestLines analysis builder added (first ++ second) = .ok ⟨.ok total, later⟩ ↔
      ∃ count between, ingestLines analysis builder added first = .ok ⟨.ok count, between⟩ ∧
        ingestLines analysis between count second = .ok ⟨.ok total, later⟩ := by
  rw [ingestLines_append, bind_eq_ok]
  constructor
  · rintro ⟨⟨outcome, between⟩, hfirst, hsecond⟩
    cases outcome with
    | error reason => cases hsecond
    | ok count => exact ⟨count, between, hfirst, hsecond⟩
  · rintro ⟨count, between, hfirst, hsecond⟩
    exact ⟨_, hfirst, hsecond⟩

/-! ## Octets and files -/

/-- Whether the last line is ended makes no difference to reading it to its end. -/
lemma ingestLines_withoutReturn {added count : Nat} {rest : List UInt8} {later : Builder} :
    ingestLines analysis builder added [withoutReturn rest] = .ok ⟨.ok count, later⟩ ↔
      ingestLines analysis builder added (if rest = [] then [] else [rest])
        = .ok ⟨.ok count, later⟩ := by
  by_cases hempty : rest = []
  · rw [hempty, if_pos rfl]
    rfl
  · rw [if_neg hempty]
    cases hrest : record? rest with
    | ok found => simp only [ingestLines, hrest, record?_withoutReturn.mpr hrest]
    | error reason =>
      cases hended : record? (withoutReturn rest) with
      | ok found =>
        rw [record?_withoutReturn.mp hended] at hrest
        cases hrest
      | error other => simp [ingestLines, hrest, hended]

lemma ingest_eq_ok_iff_ended {octets rest : List UInt8} {ended : List (List UInt8)}
    (h : Lined octets ended rest) {count : Nat} {later : Builder} :
    ingest analysis builder octets = .ok ⟨.ok count, later⟩ ↔
      ingestLines analysis builder 0 (ended.map withoutReturn ++ [withoutReturn rest])
        = .ok ⟨.ok count, later⟩ := by
  rw [ingest, h.lines_eq, ingestLines_append_eq_ok, ingestLines_append_eq_ok]
  simp only [ingestLines_withoutReturn]

/-- **Two files.**  What is read after octets that were read to their end comes to the same as if a
line feed had joined it to them. -/
theorem ingest_append {first second : List UInt8} {count : Nat} {between : Builder}
    (h : ingest analysis builder first = .ok ⟨.ok count, between⟩) :
    ingest analysis builder (first ++ lineFeed :: second)
      = (ingest analysis between second).map (Ingested.after count) := by
  obtain ⟨ended, rest, hlined⟩ := exists_lined first
  rw [ingest, hlined.lines_append, List.append_cons, ingestLines_append,
    (ingest_eq_ok_iff_ended hlined).mp h, ok_bind]
  exact ingestLines_after between count (lines second)

/-- Octets that a line feed joins to others were read to their end if all were. -/
lemma exists_of_ingest_append {first second : List UInt8} {total : Nat} {later : Builder}
    (h : ingest analysis builder (first ++ lineFeed :: second) = .ok ⟨.ok total, later⟩) :
    ∃ count between, ingest analysis builder first = .ok ⟨.ok count, between⟩ := by
  obtain ⟨ended, rest, hlined⟩ := exists_lined first
  rw [ingest, hlined.lines_append, List.append_cons, ingestLines_append_eq_ok] at h
  obtain ⟨count, between, hfirst, -⟩ := h
  exact ⟨count, between, (ingest_eq_ok_iff_ended hlined).mpr hfirst⟩

lemma map_after_eq_ok {computation : Except Fault Ingested} {count total : Nat}
    {later : Builder} :
    computation.map (Ingested.after count) = .ok ⟨.ok total, later⟩ ↔
      ∃ others, computation = .ok ⟨.ok others, later⟩ ∧ count + others = total := by
  rw [map_eq_ok]
  constructor
  · rintro ⟨⟨outcome, last⟩, hcomputation, hafter⟩
    cases outcome with
    | error reason => cases hafter
    | ok others =>
      cases hafter
      exact ⟨others, hcomputation, rfl⟩
  · rintro ⟨others, hcomputation, rfl⟩
    exact ⟨_, hcomputation, rfl⟩

lemma ingestAll_cons_eq_ok {octets : List UInt8} {rest : List (List UInt8)} {later : Builder} :
    ingestAll analysis builder (octets :: rest) = .ok later ↔
      ∃ count between, ingest analysis builder octets = .ok ⟨.ok count, between⟩ ∧
        ingestAll analysis between rest = .ok later := by
  rw [ingestAll, bind_eq_ok]
  constructor
  · rintro ⟨⟨outcome, between⟩, hfirst, hrest⟩
    rw [liftFault_eq_ok] at hfirst
    cases outcome with
    | error reason => cases hrest
    | ok count => exact ⟨count, between, hfirst, hrest⟩
  · rintro ⟨count, between, hfirst, hrest⟩
    exact ⟨_, liftFault_eq_ok.mpr hfirst, hrest⟩

/-- **Any number of files** are read to their end exactly if all of them are when line feeds join
them, and leave the same builder. -/
theorem ingestAll_eq_ok {files : List (List UInt8)} {later : Builder} :
    ingestAll analysis builder files = .ok later ↔
      ∃ count, ingest analysis builder ([lineFeed].intercalate files)
        = .ok ⟨.ok count, later⟩ := by
  induction files generalizing builder with
  | nil =>
    constructor
    · intro h
      cases h
      exact ⟨0, rfl⟩
    · rintro ⟨count, h⟩
      cases h
      rfl
  | cons first others ih =>
    rw [ingestAll_cons_eq_ok]
    simp only [ih]
    cases others with
    | nil =>
      rw [List.intercalate_singleton]
      constructor
      · rintro ⟨count, between, hfirst, _, hnothing⟩
        cases hnothing
        exact ⟨count, hfirst⟩
      · rintro ⟨count, hfirst⟩
        exact ⟨count, later, hfirst, 0, rfl⟩
    | cons second others =>
      have hjoined : [lineFeed].intercalate (first :: second :: others)
          = first ++ lineFeed :: [lineFeed].intercalate (second :: others) := by
        simp [List.intercalate]
      rw [hjoined]
      constructor
      · rintro ⟨count, between, hfirst, more, hmore⟩
        rw [ingest_append hfirst]
        exact ⟨count + more, map_after_eq_ok.mpr ⟨more, hmore, rfl⟩⟩
      · rintro ⟨total, hall⟩
        obtain ⟨count, between, hfirst⟩ := exists_of_ingest_append hall
        rw [ingest_append hfirst, map_after_eq_ok] at hall
        obtain ⟨more, hmore, -⟩ := hall
        exact ⟨count, between, hfirst, more, hmore⟩

/-! ## Reachable builders -/

/-- A known address leaves the tables and the postings as they are. -/
lemma eq_of_addDocument_known {representation : Representation} {history : List Record}
    (h : builder.Describes analysis representation history) {record : Record}
    (hknown : record.url ∈ history.map (·.url)) {id? : Option UInt32} {later : Builder}
    (hadd : builder.addDocument analysis record.url record.content = .ok (id?, later)) :
    id? = none ∧
      later = { builder with nextDoc := builder.nextDoc + 1, skipped := builder.skipped + 1 } := by
  rw [h.addDocument_known hknown] at hadd
  obtain ⟨nextDoc, hnext, hadd⟩ := bind_eq_ok.mp hadd
  obtain ⟨-, rfl⟩ := checkedAdd_eq_ok.mp hnext
  cases hadd
  exact ⟨rfl, rfl⟩

/-- **Ingestion adds the records in their order**, whatever the files.  Let a builder come from any
records.  Octets whose records fit are read up to the first line that is refused: the records before
it are added, each with the id that the corpus alone determines, and what is reported is the number
of those that got one, or else why that line was refused.  A record with a known address changes two
counters and nothing else.  Octets that are read to their end, and more after them, come to the same
as all of them with a line feed between, and so do any number of files. -/
theorem ingestion_adds_the_records_in_order {representation : Representation}
    {history : List Record} {answers : List (Option UInt32)}
    (hbuilder : (Builder.empty representation).addAll analysis history = .ok (answers, builder)) :
    (∀ octets, Fits analysis (history ++ recordsOf (lines octets)) →
      ∃ ids later, builder.addAll analysis (recordsOf (lines octets)) = .ok (ids, later) ∧
        ids = idsAfter history (recordsOf (lines octets)) ∧
        later.skipped = builder.skipped + ids.countP Option.isNone ∧
        ingest analysis builder octets
          = .ok ⟨outcomeOf (lines octets) (ids.countP Option.isSome), later⟩) ∧
    (∀ (record : Record) id? later, record.url ∈ history.map (·.url) →
      builder.addDocument analysis record.url record.content = .ok (id?, later) →
      id? = none ∧ later = { builder with
        nextDoc := builder.nextDoc + 1, skipped := builder.skipped + 1 }) ∧
    (∀ first second count between,
      ingest analysis builder first = .ok ⟨.ok count, between⟩ →
      ingest analysis builder (first ++ lineFeed :: second)
        = (ingest analysis between second).map (Ingested.after count)) ∧
    ∀ files later, ingestAll analysis builder files = .ok later ↔
      ∃ count, ingest analysis builder ([lineFeed].intercalate files)
        = .ok ⟨.ok count, later⟩ := by
  obtain ⟨-, hdescribes⟩ := (Builder.Describes.empty analysis representation).addAll hbuilder
  rw [List.nil_append] at hdescribes
  refine ⟨fun octets hfits => ?_, fun record id? later hknown hadd => ?_,
    fun first second count between hfirst => ingest_append hfirst,
    fun files later => ingestAll_eq_ok⟩
  · obtain ⟨ids, later, hadd⟩ := hdescribes.exists_addAll hfits
    refine ⟨ids, later, hadd, (hdescribes.addAll hadd).1, Builder.skipped_addAll hadd, ?_⟩
    rw [ingest, ingestLines_eq, hadd]
    simp only [Except.map, Nat.zero_add]
  · exact eq_of_addDocument_known hdescribes hknown hadd

/-- Two files behind a document: the first repeats the address, holds a blank line and ends in a
carriage return, the second is no record. -/
theorem known_address_takes_an_id :
    let analysis : Analysis := ⟨fun text => [text], id⟩
    let first := "[\"a\",\"y\"]\r\n \n[\"b\",\"x\"]\r".toUTF8.toList
    let second := "b".toUTF8.toList
    ∃ builder between : Builder,
      (Builder.empty .positional).addAll analysis [⟨"a", "x"⟩] = .ok ([some 1], builder) ∧
      builder.addAll analysis [⟨"a", "y"⟩, ⟨"b", "x"⟩] = .ok ([none, some 3], between) ∧
      ingest analysis builder first = .ok ⟨.ok 1, between⟩ ∧
      ingest analysis builder (first ++ lineFeed :: second)
        = .ok ⟨.error .notRecord, between⟩ := by
  intro analysis first second
  have hfits : Fits analysis [⟨"a", "x"⟩] :=
    ⟨by decide +kernel, by decide +kernel, by decide +kernel⟩
  have hboth : Fits analysis ([⟨"a", "x"⟩] ++ recordsOf (lines first)) :=
    ⟨by decide +kernel, by decide +kernel, by decide +kernel⟩
  have hrecords : recordsOf (lines first) = [⟨"a", "y"⟩, ⟨"b", "x"⟩] := by decide +kernel
  have hread : (lines first).findSome? refusal? = none := by decide +kernel
  have hrefused : (lines second).findSome? refusal? = some .notRecord := by decide +kernel
  have hnothing : recordsOf (lines second) = [] := by decide +kernel
  obtain ⟨builder, hbuilder, -⟩ := Builder.exists_addAll hfits .positional
  obtain ⟨hingest, -, hcut, -⟩ := ingestion_adds_the_records_in_order hbuilder
  obtain ⟨ids, between, hadd, hids, -, hfirst⟩ := hingest first hboth
  rw [hrecords] at hadd hids
  obtain rfl : ids = [none, some 3] := hids.trans (by decide)
  rw [outcomeOf, hread] at hfirst
  refine ⟨builder, between, hbuilder, hadd, hfirst, ?_⟩
  rw [hcut first second 1 between hfirst, ingest, ingestLines_eq, hnothing]
  simp only [outcomeOf, hrefused]
  rfl

end Corpus

end Retrieval
