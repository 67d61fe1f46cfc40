import Mathlib.Tactic.Common
import Retrieval.Proofs.Archive.Saving

/-!
# What was saved can be saved again

Whether a save succeeds depends on directories alone: those above an artifact must be there, or must
be free to be made, and no directory may stand where a file is to be put.  After a save all of this
is so for every artifact: each path is `Ready`.  Writing and moving files neither makes nor removes
a directory (`SameDirectories`), so paths stay ready while artifacts are saved, and a second save to
the same paths succeeds whatever the artifacts are (`exists_performAll_savePlan`).
-/

namespace Retrieval.Archive

namespace FileSystem

/-! ## File systems with the same directories -/

/-- Whether two file systems have their directories at the same places, and the same working
directory. -/
structure SameDirectories (fs fs' : FileSystem) : Prop where
  workingDirectory : fs'.workingDirectory = fs.workingDirectory
  directory : ∀ place, fs.node? place = some .directory ↔ fs'.node? place = some .directory

lemma SameDirectories.refl (fs : FileSystem) : fs.SameDirectories fs :=
  ⟨rfl, fun _ => Iff.rfl⟩

lemma SameDirectories.trans {a b c : FileSystem} (hab : a.SameDirectories b)
    (hbc : b.SameDirectories c) : a.SameDirectories c :=
  ⟨hbc.workingDirectory.trans hab.workingDirectory,
    fun place => (hab.directory place).trans (hbc.directory place)⟩

lemma SameDirectories.keeps {fs fs' : FileSystem} (h : fs.SameDirectories fs') :
    fs.KeepsDirectories fs' :=
  ⟨h.workingDirectory, fun place => (h.directory place).mp⟩

/-- A file may be put under a path as long as directories are the same. -/
lemma locateFile_of_sameDirectories {fs fs' : FileSystem} (h : fs.SameDirectories fs') {path : Path}
    {place : Place} (hlocate : fs.locateFile path = .ok place) :
    fs'.locateFile path = .ok place := by
  obtain ⟨hplace, hat, hname⟩ := locateFile_eq_ok.mp hlocate
  have hplace' := locate_of_keepsDirectories h.keeps hplace
  exact locateFile_eq_ok.mpr ⟨hplace', fun hdirectory => hat ((h.directory place).mpr hdirectory), hname⟩

/-- A file that can be read can be replaced. -/
lemma locateFile_of_fetch {fs : FileSystem} {path : Path} {octets : List UInt8}
    (h : fs.fetch path = .ok octets) : fs.locateFile path = .ok (fs.placeOf path) := by
  obtain ⟨hlocate, hat, hname⟩ := fetch_eq_ok.mp h
  refine locateFile_eq_ok.mpr ⟨hlocate, ?_, hname⟩
  rw [hat]
  exact fun hdirectory => by cases hdirectory

/-- A file that takes the place of what is no directory changes no directory. -/
lemma sameDirectories_put {fs : FileSystem} {place : Place} (h : fs.node? place ≠ some .directory)
    (octets : List UInt8) : fs.SameDirectories (fs.put place (.file octets)) := by
  refine ⟨rfl, fun other => ?_⟩
  by_cases hother : other = place
  · subst hother
    rw [node?_put_self h]
    exact iff_of_false h fun hfile => by cases hfile
  · rw [node?_put_of_ne hother]

/-- Removing what is no directory changes no directory. -/
lemma sameDirectories_remove {fs : FileSystem} {place : Place}
    (h : fs.node? place ≠ some .directory) : fs.SameDirectories (fs.remove place) := by
  refine ⟨rfl, fun other => ?_⟩
  by_cases hother : other = place
  · subst hother
    refine iff_of_false h ?_
    rw [node?_remove]
    split
    · rename_i hfixed
      rw [node?, if_pos hfixed] at h
      exact fun _ => h rfl
    · rw [if_pos rfl]
      exact fun hnone => by cases hnone
  · rw [node?_remove_of_ne hother]

/-! ## Actions that succeed -/

/-- Directories that were made once are there. -/
lemma makeDirectoriesFrom_again {fs fs' later : FileSystem} {path : Path} {place : Place}
    {names : List (List Char)} (h : makeDirectoriesFrom path place names fs = (fs', .ok ()))
    (hkeeps : fs'.KeepsDirectories later) :
    makeDirectoriesFrom path place names later = (later, .ok ()) := by
  induction names generalizing fs place with
  | nil => rfl
  | cons name rest ih =>
    rw [makeDirectoriesFrom] at h ⊢
    split at h
    · rename_i hdirectory
      rw [hkeeps.directory _ ((undisturbed_of_makeDirectoriesFrom h _).node? hdirectory)]
      exact ih h
    · cases h
    · rename_i hfree
      split at h
      · cases h
      · have hmade : (fs.put (enter place name) .directory).node? (enter place name)
            = some .directory := by
          refine node?_put_self ?_
          rw [hfree]
          exact fun hnone => by cases hnone
        rw [hkeeps.directory _ ((undisturbed_of_makeDirectoriesFrom h _).node? hmade)]
        exact ih h

lemma perform_makeDirectories_again {fs fs' later : FileSystem} {path : Path}
    (h : fs.perform (.makeDirectories path) = (fs', .ok ()))
    (hkeeps : fs'.KeepsDirectories later) :
    later.perform (.makeDirectories path) = (later, .ok ()) := by
  have horigin := ((keepsDirectories_of_perform h).trans hkeeps).origin_eq
  rw [perform] at h ⊢
  split at h
  · cases h
  · rw [horigin]
    exact makeDirectoriesFrom_again h hkeeps

/-- Where a file may be put it is written. -/
lemma exists_perform_write {fs : FileSystem} {path : Path}
    (h : fs.locateFile path = .ok (fs.placeOf path)) (octets : List UInt8) :
    ∃ fs', fs.perform (.write path octets) = (fs', .ok ()) ∧ fs.SameDirectories fs' := by
  refine ⟨fs.put (fs.placeOf path) (.file octets), ?_, ?_⟩
  · rw [perform, h]
  · exact sameDirectories_put (locateFile_eq_ok.mp h).2.1 octets

/-- Moving a file changes no directory. -/
lemma sameDirectories_of_rename {fs fs' : FileSystem} {source target : Path}
    (h : fs.perform (.rename source target) = (fs', .ok ())) : fs.SameDirectories fs' := by
  obtain ⟨octets, hsource, htarget, rfl⟩ := rename_eq_ok h
  have hremoved := sameDirectories_remove
    (locateFile_eq_ok.mp (locateFile_of_fetch hsource)).2.1
  refine hremoved.trans (sameDirectories_put (fun hdirectory => ?_) octets)
  exact (locateFile_eq_ok.mp htarget).2.1 ((hremoved.directory _).mpr hdirectory)

/-- A file that can be read is moved to where a file may be put. -/
lemma exists_perform_rename {fs : FileSystem} {source target : Path} {octets : List UInt8}
    (hsource : fs.fetch source = .ok octets)
    (htarget : fs.locateFile target = .ok (fs.placeOf target)) :
    ∃ fs', fs.perform (.rename source target) = (fs', .ok ()) :=
  ⟨_, by rw [perform, hsource, (fetch_eq_ok.mp hsource).1, htarget]⟩

end FileSystem

open FileSystem

/-! ## Paths that an artifact can be saved to -/

/-- The actions that make the directories above an artifact. -/
def directoriesAbove (path : Path) : List Action :=
  match path.parent? with
  | some parent => if parent.isEmpty then [] else [.makeDirectories parent]
  | none => []

/-- What is done for one artifact in the first phase. -/
lemma stageAll_cons (entry : Path × List UInt8) (rest : List (Path × List UInt8)) :
    stageAll (entry :: rest)
      = directoriesAbove entry.1 ++ [.write entry.1.staging entry.2] ++ stageAll rest := rfl

/-- Whether the directories above a path are there and no directory is in the way of an artifact or
of the file beside it. -/
structure Ready (fs : FileSystem) (path : Path) : Prop where
  above : ∀ later, fs.KeepsDirectories later →
    later.performAll (directoriesAbove path) = (later, .ok ())
  staging : fs.locateFile path.staging = .ok (fs.placeOf path.staging)
  target : fs.locateFile path = .ok (fs.placeOf path)

lemma Ready.of_sameDirectories {fs fs' : FileSystem} {path : Path} (h : Ready fs path)
    (hsame : fs.SameDirectories fs') : Ready fs' path where
  above later hkeeps := h.above later (hsame.keeps.trans hkeeps)
  staging := by
    rw [hsame.keeps.placeOf_eq]
    exact locateFile_of_sameDirectories hsame h.staging
  target := by
    rw [hsame.keeps.placeOf_eq]
    exact locateFile_of_sameDirectories hsame h.target

/-- **The first phase succeeds** if all paths are ready. -/
lemma exists_performAll_stageAll {fs : FileSystem} {placed : List (Path × List UInt8)}
    (h : ∀ entry ∈ placed, Ready fs entry.1) :
    ∃ fs', fs.performAll (stageAll placed) = (fs', .ok ()) ∧ fs.SameDirectories fs' := by
  induction placed generalizing fs with
  | nil => exact ⟨fs, rfl, SameDirectories.refl fs⟩
  | cons entry rest ih =>
    rw [List.forall_mem_cons] at h
    obtain ⟨written, hwrite, hsame⟩ := exists_perform_write h.1.staging entry.2
    obtain ⟨fs', hrest, hlater⟩ := ih fun other hother =>
      (h.2 other hother).of_sameDirectories hsame
    refine ⟨fs', ?_, hsame.trans hlater⟩
    rw [stageAll_cons, performAll_append_eq_ok]
    refine ⟨written, performAll_append_eq_ok.mpr ⟨fs, h.1.above fs (.refl fs), ?_⟩, hrest⟩
    exact performAll_cons_eq_ok.mpr ⟨written, hwrite, rfl⟩

/-- **The second phase succeeds** if all artifacts are staged and all paths are ready. -/
lemma exists_performAll_moveAll {fs : FileSystem} {placed : List (Path × List UInt8)}
    (hapart : fs.Apart placed) (h : ∀ entry ∈ placed, Ready fs entry.1)
    (hstaged : ∀ entry ∈ placed, fs.fetch entry.1.staging = .ok entry.2) :
    ∃ fs', fs.performAll (moveAll placed) = (fs', .ok ()) := by
  induction placed generalizing fs with
  | nil => exact ⟨fs, rfl⟩
  | cons entry rest ih =>
    rw [List.forall_mem_cons] at h hstaged
    obtain ⟨moved, hmove⟩ := exists_perform_rename hstaged.1 h.1.target
    have hbeside := fun other hother =>
      fetch_staging_of_rename hapart hmove hother (hstaged.2 other hother)
    have hready := fun other hother =>
      (h.2 other hother).of_sameDirectories (sameDirectories_of_rename hmove)
    have hlater := (keepsDirectories_of_perform hmove).apart_iff.mpr (List.pairwise_cons.mp hapart).2
    obtain ⟨fs', hmoves⟩ := ih hlater hready hbeside
    exact ⟨fs', performAll_cons_eq_ok.mpr ⟨moved, hmove, hmoves⟩⟩

/-- **Artifacts are saved** to paths under a root that are ready. -/
theorem exists_performAll_savePlan {fs : FileSystem} {artifacts : Artifacts} {root : Path}
    (h : ∀ entry ∈ artifacts.placed (.ofRoot root), Ready fs entry.1) :
    ∃ fs', fs.performAll (artifacts.savePlan (.ofRoot root)) = (fs', .ok ()) := by
  obtain ⟨between, hstage, hsame⟩ := exists_performAll_stageAll h
  have hapart := apart_of_nodup_places (nodup_places fs artifacts root)
  obtain ⟨fs', hmove⟩ := exists_performAll_moveAll (hsame.keeps.apart_iff.mpr hapart)
    (fun entry hentry => (h entry hentry).of_sameDirectories hsame)
    (fetch_of_stageAll hapart hstage)
  exact ⟨fs', performAll_append_eq_ok.mpr ⟨between, hstage, hmove⟩⟩

/-! ## Paths after a save -/

lemma sameDirectories_of_moveAll {fs fs' : FileSystem} {placed : List (Path × List UInt8)}
    (h : fs.performAll (moveAll placed) = (fs', .ok ())) : fs.SameDirectories fs' := by
  induction placed generalizing fs with
  | nil =>
    cases h
    exact SameDirectories.refl _
  | cons entry rest ih =>
    obtain ⟨moved, hmove, hrest⟩ := performAll_cons_eq_ok.mp h
    exact (sameDirectories_of_rename hmove).trans (ih hrest)

/-- Directories above an artifact that were made once are there. -/
lemma directoriesAbove_again {fs fs' later : FileSystem} {path : Path}
    (h : fs.performAll (directoriesAbove path) = (fs', .ok ()))
    (hkeeps : fs'.KeepsDirectories later) :
    later.performAll (directoriesAbove path) = (later, .ok ()) := by
  rw [directoriesAbove] at h ⊢
  split
  · rename_i parent hparent
    rw [hparent] at h
    dsimp only at h
    split
    · rfl
    · rename_i hne
      rw [if_neg hne] at h
      obtain ⟨made, hmake, hnil⟩ := performAll_cons_eq_ok.mp h
      cases hnil
      exact performAll_cons_eq_ok.mpr ⟨later, perform_makeDirectories_again hmake hkeeps, rfl⟩
  · rfl

/-- After the first phase the directories above every artifact are there. -/
lemma directoriesAbove_of_stageAll {fs fs' : FileSystem} {placed : List (Path × List UInt8)}
    (h : fs.performAll (stageAll placed) = (fs', .ok ())) :
    ∀ entry ∈ placed, ∀ later, fs'.KeepsDirectories later →
      later.performAll (directoriesAbove entry.1) = (later, .ok ()) := by
  induction placed generalizing fs with
  | nil => exact fun _ hentry => absurd hentry List.not_mem_nil
  | cons entry rest ih =>
    rw [stageAll_cons] at h
    obtain ⟨between, hfirst, hrest⟩ := performAll_append_eq_ok.mp h
    obtain ⟨made, hmake, hwrite⟩ := performAll_append_eq_ok.mp hfirst
    have hkept : made.KeepsDirectories fs' :=
      (directory_of_performAll hwrite).trans (directory_of_performAll hrest)
    rw [List.forall_mem_cons]
    exact ⟨fun later hkeeps => directoriesAbove_again hmake (hkept.trans hkeeps), ih hrest⟩

/-- **After a save all paths are ready.** -/
theorem ready_of_savePlan {fs fs' : FileSystem} {artifacts : Artifacts} {root : Path}
    (h : fs.performAll (artifacts.savePlan (.ofRoot root)) = (fs', .ok ())) :
    ∀ entry ∈ artifacts.placed (.ofRoot root), Ready fs' entry.1 := by
  rw [savePlan_eq, performAll_append_eq_ok] at h
  obtain ⟨between, hstage, hmove⟩ := h
  have hapart := apart_of_nodup_places (nodup_places fs artifacts root)
  have hstaged := fetch_of_stageAll hapart hstage
  have hmoved :=
    fetch_of_moveAll ((directory_of_performAll hstage).apart_iff.mpr hapart) hstaged hmove
  have hsame := sameDirectories_of_moveAll hmove
  intro entry hentry
  refine ⟨fun later hkeeps => ?_, ?_, locateFile_of_fetch (hmoved entry hentry)⟩
  · exact directoriesAbove_of_stageAll hstage entry hentry later (hsame.keeps.trans hkeeps)
  · rw [hsame.keeps.placeOf_eq]
    exact locateFile_of_sameDirectories hsame (locateFile_of_fetch (hstaged entry hentry))

end Retrieval.Archive
