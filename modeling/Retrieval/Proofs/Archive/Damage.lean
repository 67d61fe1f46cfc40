import Mathlib.Tactic.Common
import Retrieval.Error
import Retrieval.Proofs.Archive.Outcome
import Retrieval.Proofs.Archive.Reported
import Retrieval.Proofs.Archive.RoundTrip
import Retrieval.Proofs.Posting.Damage
import Retrieval.Proofs.Symbol.Damage

/-!
# Damaged artifacts are not loaded

A file that lost some of its last octets, or got some behind them, is refused by the decoder of its
artifact.  Loading comes to it, since whatever is read before it is as it was saved: so an index one
of whose files is damaged is not loaded, and what is reported is a decode error.  Metadata is only
refused if octets are missing, as blanks may follow a record.

`damaged_artifact_never_loads` says this of every index that was built and saved, to whatever paths.
If a save lost an artifact itself then nothing is loaded either.
-/

namespace Retrieval.Archive

open FileSystem
open Posting (Store)
open Retrieval.Frame (Damaged)
open Retrieval.Symbol (Table)

/-! ## Loading from artifacts of which one is damaged -/

/-- Whether one of the binary artifacts is damaged and those that are read before it are not. -/
inductive Artifacts.DamagedTo (artifacts found : Artifacts) : Prop
  | words (h : Damaged artifacts.words found.words)
  | docs (hwords : found.words = artifacts.words) (h : Damaged artifacts.docs found.docs)
  | postings (hwords : found.words = artifacts.words) (hdocs : found.docs = artifacts.docs)
    (h : Damaged artifacts.postings found.postings)

section

variable {index : Index} {info : Meta} {artifacts found : Artifacts} {paths : Paths}
  {read : Path → Except FileError (List UInt8)}

/-- **Loading from a damaged artifact ends with a decode error.** -/
theorem load_of_damaged (h : index.Loadable) (hencode : Artifacts.encode index info = .ok artifacts)
    (hinfo : found.info = artifacts.info) (hdamaged : artifacts.DamagedTo found)
    (hread : ∀ placed ∈ found.placed paths, read placed.1 = .ok placed.2) :
    ∃ reason, load read paths = .error (.error reason) ∧ (Error.load reason).kind = .decode := by
  obtain ⟨hwords, hdocs, hpostings, hmeta⟩ := encode_eq_ok.mp hencode
  simp only [Artifacts.placed, List.forall_mem_cons] at hread
  obtain ⟨hreadWords, hreadDocs, hreadPostings, hreadInfo, -⟩ := hread
  rw [hinfo, ← hmeta] at hreadInfo
  by_cases hversion : info.version = Meta.formatVersion
  · have hinfoRead := Meta.read_encode hversion
    cases hdamaged with
    | words hfound =>
      obtain ⟨reason, hreason⟩ := Table.decode_of_damaged (h.decode_terms hwords) hfound
      refine ⟨.table reason, ?_, rfl⟩
      simp only [load, hreadInfo, hinfoRead, hreadWords, hreason, Except.mapError, liftError,
        tableFailure, ok_bind, error_bind]
    | docs hsame hfound =>
      obtain ⟨reason, hreason⟩ := Table.decode_of_damaged (h.decode_docs hdocs) hfound
      refine ⟨.table reason, ?_, rfl⟩
      rw [hsame] at hreadWords
      simp only [load, hreadInfo, hinfoRead, hreadWords, h.decode_terms hwords, hreadDocs, hreason,
        Except.mapError, liftError, tableFailure, ok_bind, error_bind]
    | postings hsameWords hsameDocs hfound =>
      -- whatever layout the metadata names, it is read like positions
      have hpositions := Store.decode_encode hpostings (fun hother => absurd rfl hother) []
      obtain ⟨reason, hreason⟩ :=
        Store.decode_of_damaged hpositions hfound info.representation index.docs.ids
      refine ⟨.postings reason, ?_, rfl⟩
      rw [hsameWords] at hreadWords
      rw [hsameDocs] at hreadDocs
      simp only [load, hreadInfo, hinfoRead, hreadWords, h.decode_terms hwords, hreadDocs,
        h.decode_docs hdocs, hreadPostings, hreason, Except.mapError, liftError, ok_bind,
        error_bind]
  · refine ⟨.info (.version info.version), ?_, rfl⟩
    simp only [load, hreadInfo, Meta.read_encode_of_version_ne hversion, Except.mapError, liftError,
      ok_bind, error_bind]

lemma load_of_info {octets : List UInt8} {reason : MetaError} (hread : read paths.info = .ok octets)
    (hreason : Meta.read octets = .error reason) :
    load read paths = .error (.error (.info reason)) := by
  simp only [load, hread, hreason, Except.mapError, liftError, ok_bind, error_bind]

/-- An index is only loaded if all its artifacts are there. -/
lemma exists_read_of_load {loaded : Index × Meta} (h : load read paths = .ok loaded) :
    ∀ path ∈ paths.all, ∃ octets, read path = .ok octets := by
  obtain ⟨terms, docs, postings, hfrom, -⟩ := load_eq_ok h
  obtain ⟨infoOctets, hinfo, -⟩ := hfrom.readsInfo
  obtain ⟨termOctets, hterms, -⟩ := hfrom.readsTerms
  obtain ⟨docOctets, hdocs, -⟩ := hfrom.readsDocs
  obtain ⟨postingOctets, hpostings, -⟩ := hfrom.readsPostings
  simp only [Paths.all, List.forall_mem_cons]
  exact ⟨⟨_, hterms⟩, ⟨_, hdocs⟩, ⟨_, hpostings⟩, ⟨_, hinfo⟩, fun _ hpath => by cases hpath⟩

end

/-! ## Replacing one file -/

/-- A file that is there can be replaced, and files that are apart from it stay. -/
lemma exists_replaced {fs : FileSystem} {placed : List (Path × List UInt8)}
    (hapart : fs.Apart placed)
    (hfetch : ∀ entry ∈ placed, fs.fetch entry.1 = .ok entry.2)
    {before after : List (Path × List UInt8)} {path : Path} {octets : List UInt8}
    (hplaced : placed = before ++ (path, octets) :: after) (found : List UInt8) :
    ∃ later, fs.perform (.write path found) = (later, .ok ()) ∧
      ∀ entry ∈ before ++ (path, found) :: after, later.fetch entry.1 = .ok entry.2 := by
  subst hplaced
  obtain ⟨later, hwrite, -⟩ := exists_perform_write
    (locateFile_of_fetch (hfetch (path, octets) List.mem_append_cons_self)) found
  refine ⟨later, hwrite, ?_⟩
  have hother : ∀ entry ∈ before ++ after, fs.placeOf path ≠ fs.placeOf entry.1 := by
    have hplaces := hapart.imp fun h => h.2.2
    exact (List.pairwise_cons.mp ((List.pairwise_middle Ne.symm).mp hplaces)).1
  have hstays : ∀ entry ∈ before ++ after, later.fetch entry.1 = .ok entry.2 := by
    intro entry hentry
    have hplace : fs.placeOf entry.1 ∉ fs.touched (.write path found) :=
      fun htouched => hother entry hentry (List.mem_singleton.mp htouched).symm
    refine fetch_of_undisturbed (keepsDirectories_of_perform hwrite)
      (undisturbed_of_perform hwrite hplace) (hfetch entry ?_)
    rw [List.mem_append, List.mem_cons]
    exact (List.mem_append.mp hentry).imp_right Or.inr
  rw [List.forall_mem_append] at hstays ⊢
  exact ⟨hstays.1, List.forall_mem_cons.mpr ⟨fetch_of_write hwrite, hstays.2⟩⟩

/-- Where nothing was, nothing is after a file was replaced. -/
lemma fetch_ne_ok_of_write {fs later : FileSystem} {path lost : Path} {octets found : List UInt8}
    (hfetch : fs.fetch path = .ok octets) (hlost : fs.node? (fs.placeOf lost) = none)
    (hwrite : fs.perform (.write path found) = (later, .ok ())) (other : List UInt8) :
    later.fetch lost ≠ .ok other := by
  have hplaceOf := (keepsDirectories_of_perform hwrite).placeOf_eq
  obtain ⟨-, rfl⟩ := write_eq_ok hwrite
  have hplace : fs.placeOf lost ≠ fs.placeOf path := by
    intro hsame
    rw [hsame, (fetch_eq_ok.mp hfetch).2.1] at hlost
    cases hlost
  intro hread
  have hfile := (fetch_eq_ok.mp hread).2.1
  rw [hplaceOf, node?_put_of_ne hplace, hlost] at hfile
  cases hfile

/-! ## The saved index -/

/-- Whether an index whose file at a path is replaced is no longer loaded: if all its artifacts are
there, an error is reported that is as expected. -/
def RefusedAfter (fs : FileSystem) (paths : Paths) (path : Path) (found : List UInt8)
    (expected : LoadError → Prop) : Prop :=
  ∃ later, fs.perform (.write path found) = (later, .ok ()) ∧
    (∀ loaded, load later.fetch paths ≠ .ok loaded) ∧
    (isSaved fs paths = true →
      ∃ reason, load later.fetch paths = .error (.error reason) ∧ expected reason)

section

variable {fs fs' : FileSystem} {paths : Paths} {index : Index} {info : Meta}
  {expected : LoadError → Prop}

/-- After a save that lost an artifact nothing is loaded, whichever file is replaced. -/
lemma refusedAfter_of_not_clear (hsave : save fs paths index info = (fs', .ok ()))
    (hclear : ¬ paths.ClearIn fs) {path : Path} {octets : List UInt8}
    (hfetch : fs'.fetch path = .ok octets) (found : List UInt8) :
    RefusedAfter fs' paths path found expected := by
  obtain ⟨lost, hlost, -, hnone⟩ := exists_lost_of_save hsave hclear
  obtain ⟨later, hwrite, -⟩ := exists_perform_write (locateFile_of_fetch hfetch) found
  refine ⟨later, hwrite, fun loaded hload => ?_, fun hsaved => ?_⟩
  · obtain ⟨other, hother⟩ := exists_read_of_load hload lost hlost
    exact fetch_ne_ok_of_write hfetch hnone hwrite other hother
  · exact absurd ((isSaved_iff_clear hsave).mp hsaved) hclear

/-- If loading reports an error then nothing is loaded. -/
lemma refusedAfter_of_load {later : FileSystem} {path : Path} {found : List UInt8}
    (hwrite : fs.perform (.write path found) = (later, .ok ())) {reason : LoadError}
    (hload : load later.fetch paths = .error (.error reason)) (hreason : expected reason) :
    RefusedAfter fs paths path found expected := by
  refine ⟨later, hwrite, fun loaded hloaded => ?_, fun _ => ⟨reason, hload, hreason⟩⟩
  rw [hload] at hloaded
  cases hloaded

/-- Replacing one artifact leaves artifacts of which one is damaged. -/
lemma refusedAfter_of_damaged (h : index.Loadable) {artifacts damaged : Artifacts}
    (hencode : Artifacts.encode index info = .ok artifacts)
    (hapart : fs.Apart (artifacts.placed paths))
    (hfetch : ∀ entry ∈ artifacts.placed paths, fs.fetch entry.1 = .ok entry.2)
    {before after : List (Path × List UInt8)} {path : Path} {octets found : List UInt8}
    (hplaced : artifacts.placed paths = before ++ (path, octets) :: after)
    (hreplaced : damaged.placed paths = before ++ (path, found) :: after)
    (hinfo : damaged.info = artifacts.info) (hdamaged : artifacts.DamagedTo damaged) :
    RefusedAfter fs paths path found fun reason => (Error.load reason).kind = .decode := by
  obtain ⟨later, hwrite, hread⟩ := exists_replaced hapart hfetch hplaced found
  rw [← hreplaced] at hread
  obtain ⟨reason, hload, hkind⟩ := load_of_damaged h hencode hinfo hdamaged hread
  exact refusedAfter_of_load hwrite hload hkind

/-- After a save to clear paths a damaged binary artifact is refused. -/
lemma refusedAfter_of_binary (h : index.Loadable) (hsave : save fs paths index info = (fs', .ok ()))
    (hclear : paths.ClearIn fs) :
    ∀ path ∈ [paths.words, paths.docs, paths.postings], ∀ octets found,
      fs'.fetch path = .ok octets → Damaged octets found →
        RefusedAfter fs' paths path found fun reason => (Error.load reason).kind = .decode := by
  obtain ⟨artifacts, hencode, hapart, hfetch⟩ := fetch_of_save_of_clear hsave hclear
  have hplaced := hfetch
  simp only [Artifacts.placed, List.forall_mem_cons] at hplaced
  obtain ⟨hwords, hdocs, hpostings, -, -⟩ := hplaced
  simp only [List.forall_mem_cons]
  refine ⟨?words, ?docs, ?postings, fun _ hpath => by cases hpath⟩
  case words =>
    intro octets found hoctets hfound
    obtain rfl := Except.ok.inj (hwords.symm.trans hoctets)
    have hreplaced : { artifacts with words := found }.placed paths
        = [] ++ (paths.words, found) :: (artifacts.placed paths).drop 1 := rfl
    exact refusedAfter_of_damaged h hencode hapart hfetch rfl hreplaced rfl (.words hfound)
  case docs =>
    intro octets found hoctets hfound
    obtain rfl := Except.ok.inj (hdocs.symm.trans hoctets)
    have hreplaced : { artifacts with docs := found }.placed paths
        = (artifacts.placed paths).take 1
          ++ (paths.docs, found) :: (artifacts.placed paths).drop 2 := rfl
    exact refusedAfter_of_damaged h hencode hapart hfetch rfl hreplaced rfl (.docs rfl hfound)
  case postings =>
    intro octets found hoctets hfound
    obtain rfl := Except.ok.inj (hpostings.symm.trans hoctets)
    have hreplaced : { artifacts with postings := found }.placed paths
        = (artifacts.placed paths).take 2
          ++ (paths.postings, found) :: (artifacts.placed paths).drop 3 := rfl
    exact refusedAfter_of_damaged h hencode hapart hfetch rfl hreplaced rfl
      (.postings rfl rfl hfound)

/-- After a save to clear paths metadata with octets missing is refused. -/
lemma refusedAfter_of_info (hsave : save fs paths index info = (fs', .ok ()))
    (hclear : paths.ClearIn fs) {found more : List UInt8}
    (hinfo : fs'.fetch paths.info = .ok (found ++ more)) (hmore : more ≠ []) :
    RefusedAfter fs' paths paths.info found fun _ => True := by
  obtain ⟨artifacts, hencode, hapart, hfetch⟩ := fetch_of_save_of_clear hsave hclear
  have hplaced : artifacts.placed paths
      = (artifacts.placed paths).take 3 ++ (paths.info, artifacts.info) :: [] := rfl
  have hfile := hfetch (paths.info, artifacts.info) (hplaced ▸ List.mem_append_cons_self)
  have hoctets : Utf8.encode info.text = found ++ more :=
    (encode_eq_ok.mp hencode).2.2.2.trans (Except.ok.inj (hfile.symm.trans hinfo))
  obtain ⟨reason, hreason⟩ := Meta.read_of_truncated hoctets hmore
  obtain ⟨later, hwrite, hread⟩ := exists_replaced hapart hfetch hplaced found
  have hload := load_of_info (hread (paths.info, found) List.mem_append_cons_self) hreason
  exact refusedAfter_of_load hwrite hload trivial

end

/-- **A damaged artifact never loads.**  Let an index be built from records and saved to any paths,
with any metadata.  It is loaded if all its artifacts are there and the metadata describes it.  If
one of its three binary artifacts is replaced by a part of it from its start or by itself with
octets behind it then the index is not loaded, and a decode error is reported.  If the metadata is
replaced by a part of it from its start then the index is not loaded, and an error is reported. -/
theorem damaged_artifact_never_loads {analysis : Analysis} {representation : Posting.Representation}
    {records : List Corpus.Record} {answers : List (Option UInt32)} {builder : Builder}
    (hbuild : (Builder.empty representation).addAll analysis records = .ok (answers, builder))
    {fs fs' : FileSystem} {paths : Paths} {info : Meta}
    (hsave : save fs paths builder.index info = (fs', .ok ())) :
    (isSaved fs' paths = true → builder.index.DescribedBy info →
      load fs'.fetch paths = .ok (builder.index.forward, info)) ∧
    (∀ path ∈ [paths.words, paths.docs, paths.postings], ∀ octets found,
      fs'.fetch path = .ok octets → Damaged octets found →
        RefusedAfter fs' paths path found fun reason => (Error.load reason).kind = .decode) ∧
    ∀ octets found more, fs'.fetch paths.info = .ok octets → octets = found ++ more → more ≠ [] →
      RefusedAfter fs' paths paths.info found fun _ => True := by
  obtain ⟨-, hbuilt⟩ := (Builder.Describes.empty analysis representation).addAll hbuild
  have hindex := hbuilt.loadable
  by_cases hclear : paths.ClearIn fs
  · refine ⟨fun _ hdescribed => ?_, refusedAfter_of_binary hindex hsave hclear, ?_⟩
    · obtain ⟨artifacts, hencode, -, hfetch⟩ := fetch_of_save_of_clear hsave hclear
      exact load_encode hindex hdescribed hencode hfetch
    · rintro _ found more hinfo rfl hmore
      exact refusedAfter_of_info hsave hclear hinfo hmore
  · exact ⟨fun hsaved _ => absurd ((isSaved_iff_clear hsave).mp hsaved) hclear,
      fun path _ octets found hfetch _ => refusedAfter_of_not_clear hsave hclear hfetch found,
      fun octets found more hfetch _ _ => refusedAfter_of_not_clear hsave hclear hfetch found⟩

/-- The postings of one word in one document without their last octet, the same with a zero behind
them, and metadata without its closing mark. -/
theorem cut_postings_are_refused :
    let analysis : Analysis := ⟨Text.normalize, id⟩
    let records : List Corpus.Record := [⟨"a", "Fox"⟩]
    let index : Index := ⟨Table.listed [("fox", 1)], Table.listed [("a", 1)],
      .positional ⟨[(1, ⟨[(1, [1])], by simp⟩)], by simp⟩⟩
    let info := Meta.describe index "2024-05-01" "english"
    let paths := Paths.ofRoot "out"
    let fs' := (save {} paths index info).1
    let postings := [1, 0, 0, 0, 1, 0, 0, 0, 1, 0, 0, 0, 1, 0, 0, 0, 1, 0, 0, 0]
    let cut := (Utf8.encode info.text).dropLast
    (Builder.empty .positional).addAll analysis records = .ok ([some 1], ⟨index, 2, 2, 0⟩) ∧
      save {} paths index info = (fs', .ok ()) ∧ isSaved fs' paths = true ∧
      load fs'.fetch paths = .ok (index.forward, info) ∧
      fs'.fetch paths.postings = .ok (postings ++ [1, 0, 0, 0]) ∧
      RefusedAfter fs' paths paths.postings (postings ++ [1, 0, 0])
        (fun reason => (Error.load reason).kind = .decode) ∧
      RefusedAfter fs' paths paths.postings (postings ++ [1, 0, 0, 0, 0])
        (fun reason => (Error.load reason).kind = .decode) ∧
      RefusedAfter fs' paths paths.info cut fun _ => True := by
  intro analysis records index info paths fs' postings cut
  have hbuild : (Builder.empty .positional).addAll analysis records
      = .ok ([some 1], ⟨index, 2, 2, 0⟩) := by decide +kernel
  have hsave : save {} paths index info = (fs', .ok ()) := by decide +kernel
  have hpostings : fs'.fetch paths.postings = .ok (postings ++ [1, 0, 0, 0]) := by decide +kernel
  have hinfo : fs'.fetch paths.info = .ok (cut ++ [0x7d]) := by decide +kernel
  have hsaved : isSaved fs' paths = true := by decide +kernel
  have hdescribed : index.DescribedBy info :=
    Index.describedBy_describe (by decide) (by decide) "2024-05-01" "english"
  obtain ⟨hloads, hbinary, hmeta⟩ := damaged_artifact_never_loads hbuild hsave
  refine ⟨hbuild, hsave, hsaved, hloads hsaved hdescribed, hpostings, ?_, ?_, ?_⟩
  · exact hbinary paths.postings (by decide) _ _ hpostings ⟨[0], by decide, Or.inl rfl⟩
  · exact hbinary paths.postings (by decide) _ _ hpostings ⟨[0], by decide, Or.inr rfl⟩
  · exact hmeta _ cut [0x7d] hinfo rfl (by decide)

end Retrieval.Archive
