import Mathlib.Tactic.Common
import Retrieval.Proofs.Archive.Places

/-!
# What is saved can be read

To save is to act in two phases: every artifact is written beside its place, and then all of them
are moved.  Neither phase disturbs what it has done before, since no place is named twice:
`fetch_of_stageAll` for the first phase and `fetch_of_moveAll` for the second.  After both,
every artifact is read at its path (`fetch_of_save`).
-/

namespace Retrieval.Archive

open FileSystem

/-- The actions that write artifacts beside their places. -/
def stageAll (placed : List (Path × List UInt8)) : List Action :=
  placed.flatMap fun (path, octets) => stage path octets

/-- The actions that move artifacts into their places. -/
def moveAll (placed : List (Path × List UInt8)) : List Action :=
  placed.map fun (path, _) => .rename path.staging path

lemma savePlan_eq (artifacts : Artifacts) (paths : Paths) :
    artifacts.savePlan paths
      = stageAll (artifacts.placed paths) ++ moveAll (artifacts.placed paths) := rfl

lemma touched_stage (fs : FileSystem) (path : Path) (octets : List UInt8) :
    (stage path octets).flatMap fs.touched = [fs.placeOf path.staging] := by
  rw [stage]
  split
  · split
    · rfl
    · rfl
  · rfl

/-- The first phase names the places beside those of the artifacts. -/
lemma touched_stageAll (fs : FileSystem) (placed : List (Path × List UInt8)) :
    (stageAll placed).flatMap fs.touched = placed.map fun entry => fs.placeOf entry.1.staging := by
  induction placed with
  | nil => rfl
  | cons entry rest ih =>
    have hsplit : stageAll (entry :: rest) = stage entry.1 entry.2 ++ stageAll rest := rfl
    rw [hsplit, List.flatMap_append, touched_stage, ih]
    rfl

/-- The second phase names all places. -/
lemma touched_moveAll (fs : FileSystem) (placed : List (Path × List UInt8)) :
    (moveAll placed).flatMap fs.touched = fs.places placed := by
  induction placed with
  | nil => rfl
  | cons entry rest ih =>
    have hsplit : moveAll (entry :: rest) = .rename entry.1.staging entry.1 :: moveAll rest := rfl
    rw [hsplit, List.flatMap_cons, ih]
    rfl

/-- What is staged is read beside its place. -/
lemma fetch_of_stage {fs fs' : FileSystem} {path : Path} {octets : List UInt8}
    (h : fs.performAll (stage path octets) = (fs', .ok ())) :
    fs'.fetch path.staging = .ok octets := by
  rw [stage, performAll_append_eq_ok] at h
  obtain ⟨between, -, hwrite⟩ := h
  obtain ⟨written, hwrite, hnil⟩ := performAll_cons_eq_ok.mp hwrite
  cases hnil
  exact fetch_of_write hwrite

/-- **The first phase**: every artifact is read beside its place. -/
theorem fetch_of_stageAll {placed : List (Path × List UInt8)} {fs fs' : FileSystem}
    (hapart : fs.Apart placed) (h : fs.performAll (stageAll placed) = (fs', .ok ())) :
    ∀ entry ∈ placed, fs'.fetch entry.1.staging = .ok entry.2 := by
  induction placed generalizing fs with
  | nil => exact fun _ hentry => absurd hentry List.not_mem_nil
  | cons entry rest ih =>
    obtain ⟨between, hfirst, hrest⟩ := performAll_append_eq_ok.mp h
    obtain ⟨hentry, hapart⟩ :=
      List.pairwise_cons.mp ((directory_of_performAll hfirst).apart_iff.mpr hapart)
    have hstays : between.placeOf entry.1.staging ∉ (stageAll rest).flatMap between.touched := by
      rw [touched_stageAll, List.mem_map]
      rintro ⟨other, hother, hsame⟩
      exact (hentry other hother).1 hsame.symm
    rw [List.forall_mem_cons]
    exact ⟨fetch_of_performAll hrest (fetch_of_stage hfirst) hstays, ih hapart hrest⟩

/-- Moving one artifact does not touch what is still beside the place of another. -/
lemma fetch_staging_of_rename {entry : Path × List UInt8} {rest : List (Path × List UInt8)}
    {fs fs' : FileSystem} (hapart : fs.Apart (entry :: rest))
    (h : fs.perform (.rename entry.1.staging entry.1) = (fs', .ok ()))
    {other : Path × List UInt8} (hother : other ∈ rest)
    (hfetch : fs.fetch other.1.staging = .ok other.2) :
    fs'.fetch other.1.staging = .ok other.2 := by
  have hall : fs.performAll [.rename entry.1.staging entry.1] = (fs', .ok ()) :=
    performAll_cons_eq_ok.mpr ⟨fs', h, rfl⟩
  obtain ⟨hstaged, hplaced, -⟩ := (List.pairwise_cons.mp hapart).1 other hother
  refine fetch_of_performAll hall hfetch ?_
  simpa [touched] using And.intro hstaged.symm hplaced.symm

/-- **The second phase**: every artifact is read at its path. -/
theorem fetch_of_moveAll {placed : List (Path × List UInt8)} {fs fs' : FileSystem}
    (hapart : fs.Apart placed)
    (hstaged : ∀ entry ∈ placed, fs.fetch entry.1.staging = .ok entry.2)
    (h : fs.performAll (moveAll placed) = (fs', .ok ())) :
    ∀ entry ∈ placed, fs'.fetch entry.1 = .ok entry.2 := by
  induction placed generalizing fs with
  | nil => exact fun _ hentry => absurd hentry List.not_mem_nil
  | cons entry rest ih =>
    obtain ⟨between, hfirst, hrest⟩ := performAll_cons_eq_ok.mp h
    rw [List.forall_mem_cons] at hstaged ⊢
    have hbeside := fun other hother =>
      fetch_staging_of_rename hapart hfirst hother (hstaged.2 other hother)
    obtain ⟨hentry, hapart⟩ :=
      List.pairwise_cons.mp ((keepsDirectories_of_perform hfirst).apart_iff.mpr hapart)
    have hmoved : between.placeOf entry.1 ∉ (moveAll rest).flatMap between.touched := by
      rw [touched_moveAll, places, List.mem_flatMap]
      rintro ⟨other, hother, hsame⟩
      obtain ⟨-, hstaging, hplace⟩ := hentry other hother
      rw [List.mem_cons, List.mem_singleton] at hsame
      exact hsame.elim hstaging hplace
    exact ⟨fetch_of_performAll hrest (fetch_of_rename hfirst hstaged.1) hmoved,
      ih hapart hbeside hrest⟩

/-- If artifacts are apart and both phases succeed then every artifact is read at its path. -/
lemma fetch_of_savePlan {fs fs' : FileSystem} {artifacts : Artifacts} {paths : Paths}
    (hapart : fs.Apart (artifacts.placed paths))
    (h : fs.performAll (artifacts.savePlan paths) = (fs', .ok ())) :
    ∀ entry ∈ artifacts.placed paths, fs'.fetch entry.1 = .ok entry.2 := by
  rw [savePlan_eq, performAll_append_eq_ok] at h
  obtain ⟨between, hstage, hmove⟩ := h
  exact fetch_of_moveAll ((directory_of_performAll hstage).apart_iff.mpr hapart)
    (fetch_of_stageAll hapart hstage) hmove

/-- How an index is saved. -/
lemma save_eq_ok {fs fs' : FileSystem} {paths : Paths} {index : Index} {info : Meta} :
    save fs paths index info = (fs', .ok ()) ↔
      ∃ artifacts, Artifacts.encode index info = .ok artifacts ∧
        fs.performAll (artifacts.savePlan paths) = (fs', .ok ()) := by
  rw [save]
  cases hencode : Artifacts.encode index info with
  | error reason =>
    constructor
    · intro h
      cases h
    · rintro ⟨artifacts, h, -⟩
      cases h
  | ok artifacts =>
    constructor
    · intro h
      refine ⟨artifacts, rfl, ?_⟩
      dsimp only at h
      cases hperform : fs.performAll (artifacts.savePlan paths) with
      | mk after outcome =>
        rw [hperform] at h
        cases outcome with
        | error reason => cases h
        | ok done =>
          cases h
          rfl
    · rintro ⟨found, hfound, hperform⟩
      obtain rfl := Except.ok.inj hfound
      dsimp only
      rw [hperform]
      rfl

/-- A save that succeeds is one in which nothing was refused or broken off. -/
lemma save_of_rulings {fs fs' : FileSystem} {paths : Paths} {index : Index} {info : Meta}
    {rulings : List Ruling} (h : save fs paths index info rulings = (fs', .ok ())) :
    save fs paths index info = (fs', .ok ()) := by
  rw [save] at h ⊢
  cases hencode : Artifacts.encode index info with
  | error reason =>
    rw [hencode] at h
    cases h
  | ok artifacts =>
    rw [hencode] at h
    dsimp only at h ⊢
    cases hperform : fs.performAll (artifacts.savePlan paths) rulings with
    | mk after outcome =>
      rw [hperform] at h
      cases outcome with
      | error reason => cases h
      | ok done => rwa [performAll_of_rulings hperform]

/-- **After saving, every artifact is read at its path.** -/
theorem fetch_of_save {fs fs' : FileSystem} {root : Path} {index : Index} {info : Meta}
    (h : save fs (.ofRoot root) index info = (fs', .ok ())) :
    ∃ artifacts, Artifacts.encode index info = .ok artifacts ∧
      ∀ entry ∈ artifacts.placed (.ofRoot root), fs'.fetch entry.1 = .ok entry.2 := by
  obtain ⟨artifacts, hencode, hperform⟩ := save_eq_ok.mp h
  have hapart := apart_of_nodup_places (nodup_places fs artifacts root)
  exact ⟨artifacts, hencode, fetch_of_savePlan hapart hperform⟩

end Retrieval.Archive
