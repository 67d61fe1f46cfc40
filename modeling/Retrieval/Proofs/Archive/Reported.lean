import Mathlib.Tactic.Common
import Retrieval.Proofs.Archive.Beside
import Retrieval.Proofs.Archive.Resaving

/-!
# A save that is reported

A save that comes to its end has written and moved four files, and still it may have lost one: an
artifact that lies where a later one is staged is taken away when that one is moved.  Nothing else
goes wrong.  Two artifacts with one place, or staged at one, do not come through both phases, since
there is nothing left to be moved for the second (`apart_of_moveAll`).  So after a save that is
reported either every artifact is read as it was encoded, or the paths were not clear
(`Paths.ClearIn`) and one of them leads nowhere (`reported_save_keeps_all_iff_clear`).  Whether all
four artifacts are there tells which (`isSaved_iff_clear`).

Paths are compared by the places that they lead to, which for relative ones depends on the working
directory.  All of this is about file systems without links: with a link, paths that lead to
different places may still lead to one file.
-/

namespace Retrieval.Archive

open FileSystem

/-- Whether no artifact lies where a later one is staged. -/
def Paths.ClearIn (fs : FileSystem) (paths : Paths) : Prop :=
  paths.all.Pairwise fun earlier later => fs.placeOf earlier ≠ fs.placeOf later.staging

instance (fs : FileSystem) (paths : Paths) : Decidable (paths.ClearIn fs) :=
  inferInstanceAs (Decidable (List.Pairwise _ _))

/-- Whether no artifact lies where a later one is staged, of artifacts with their paths. -/
def IsClear (fs : FileSystem) (placed : List (Path × List UInt8)) : Prop :=
  placed.Pairwise fun earlier later => fs.placeOf earlier.1 ≠ fs.placeOf later.1.staging

lemma isClear_placed {fs : FileSystem} {artifacts : Artifacts} {paths : Paths} :
    IsClear fs (artifacts.placed paths) ↔ paths.ClearIn fs := by
  rw [Paths.ClearIn, ← map_fst_placed artifacts, List.pairwise_map, IsClear]

lemma isClear_of_keepsDirectories {fs fs' : FileSystem} (hkeeps : fs.KeepsDirectories fs')
    {placed : List (Path × List UInt8)} : IsClear fs' placed ↔ IsClear fs placed := by
  rw [IsClear, hkeeps.placeOf_eq, IsClear]

/-! ## One move -/

/-- What a place other than the target holds after a file was moved. -/
lemma node?_of_rename {fs fs' : FileSystem} {source target : Path}
    (h : fs.perform (.rename source target) = (fs', .ok ())) {place : Place}
    (hplace : place ≠ fs.placeOf target) :
    fs'.node? place = if place = fs.placeOf source then none else fs.node? place := by
  obtain ⟨octets, hsource, -, rfl⟩ := rename_eq_ok h
  rw [node?_put_of_ne hplace]
  by_cases hsame : place = fs.placeOf source
  · have hfree : ¬ place <+: fs.workingDirectory := by
      intro hfixed
      have hfile := (fetch_eq_ok.mp hsource).2.1
      rw [← hsame, node?, if_pos hfixed] at hfile
      cases hfile
    rw [node?_remove, if_neg hfree]
  · rw [node?_remove_of_ne hsame, if_neg hsame]

/-- A file that was moved is staged beside its place. -/
lemma staging_of_rename {fs fs' : FileSystem} {path : Path}
    (h : fs.perform (.rename path.staging path) = (fs', .ok ())) :
    fs.placeOf path.staging = beside (fs.placeOf path) := by
  obtain ⟨octets, -, htarget, -⟩ := rename_eq_ok h
  obtain ⟨name, hname⟩ := exists_name_of_locateFile htarget
  exact placeOf_staging fs hname

/-! ## The second phase, if it succeeds -/

section

variable {placed : List (Path × List UInt8)} {fs fs' : FileSystem}

lemma staging_of_moveAll (h : fs.performAll (moveAll placed) = (fs', .ok ())) :
    ∀ entry ∈ placed, fs.placeOf entry.1.staging = beside (fs.placeOf entry.1) := by
  induction placed generalizing fs with
  | nil => exact fun _ hentry => absurd hentry List.not_mem_nil
  | cons entry rest ih =>
    obtain ⟨between, hfirst, hrest⟩ := performAll_cons_eq_ok.mp h
    have hbeside := ih hrest
    rw [(keepsDirectories_of_perform hfirst).placeOf_eq] at hbeside
    rw [List.forall_mem_cons]
    exact ⟨staging_of_rename hfirst, hbeside⟩

/-- If no artifact is moved to where a later one is staged, then each was staged before. -/
lemma file_of_moveAll (hclear : IsClear fs placed)
    (h : fs.performAll (moveAll placed) = (fs', .ok ())) :
    ∀ entry ∈ placed, ∃ octets, fs.node? (fs.placeOf entry.1.staging) = some (.file octets) := by
  induction placed generalizing fs with
  | nil => exact fun _ hentry => absurd hentry List.not_mem_nil
  | cons entry rest ih =>
    obtain ⟨between, hfirst, hrest⟩ := performAll_cons_eq_ok.mp h
    have hkeeps := keepsDirectories_of_perform hfirst
    obtain ⟨hentry, hlater⟩ := List.pairwise_cons.mp hclear
    rw [List.forall_mem_cons]
    constructor
    · obtain ⟨octets, hsource, -⟩ := rename_eq_ok hfirst
      exact ⟨octets, (fetch_eq_ok.mp hsource).2.1⟩
    · intro other hother
      obtain ⟨octets, hfile⟩ :=
        ih ((isClear_of_keepsDirectories hkeeps).mpr hlater) hrest other hother
      rw [hkeeps.placeOf_eq, node?_of_rename hfirst (hentry other hother).symm] at hfile
      split at hfile
      · cases hfile
      · exact ⟨octets, hfile⟩

/-- What is staged for an artifact is there after another was moved away, and so was staged
elsewhere. -/
lemma staging_ne_of_moveAll {entry : Path × List UInt8} {between : FileSystem}
    (hclear : IsClear fs (entry :: placed))
    (hfirst : fs.perform (.rename entry.1.staging entry.1) = (between, .ok ()))
    (hrest : between.performAll (moveAll placed) = (fs', .ok ())) :
    ∀ other ∈ placed, fs.placeOf entry.1.staging ≠ fs.placeOf other.1.staging := by
  intro other hother hsame
  have hkeeps := keepsDirectories_of_perform hfirst
  obtain ⟨hentry, hlater⟩ := List.pairwise_cons.mp hclear
  obtain ⟨octets, hfile⟩ :=
    file_of_moveAll ((isClear_of_keepsDirectories hkeeps).mpr hlater) hrest other hother
  rw [hkeeps.placeOf_eq, node?_of_rename hfirst (hentry other hother).symm, if_pos hsame.symm]
    at hfile
  cases hfile

/-- **Artifacts that are clear and come through the second phase are apart.** -/
lemma apart_of_moveAll (hclear : IsClear fs placed)
    (h : fs.performAll (moveAll placed) = (fs', .ok ())) : fs.Apart placed := by
  induction placed generalizing fs with
  | nil => exact List.Pairwise.nil
  | cons entry rest ih =>
    have hbeside := staging_of_moveAll h
    obtain ⟨between, hfirst, hrest⟩ := performAll_cons_eq_ok.mp h
    have hkeeps := keepsDirectories_of_perform hfirst
    have hstaging := staging_ne_of_moveAll hclear hfirst hrest
    obtain ⟨hentry, hlater⟩ := List.pairwise_cons.mp hclear
    have hapart := ih ((isClear_of_keepsDirectories hkeeps).mpr hlater) hrest
    refine List.pairwise_cons.mpr ⟨fun other hother => ?_, hkeeps.apart_iff.mp hapart⟩
    refine ⟨hstaging other hother, hentry other hother, fun hsame => hstaging other hother ?_⟩
    rw [hbeside entry List.mem_cons_self, hbeside other (List.mem_cons_of_mem _ hother), hsame]

/-- Where nothing is and nothing is moved to, nothing is afterwards. -/
lemma absent_of_moveAll (h : fs.performAll (moveAll placed) = (fs', .ok ())) {place : Place}
    (hnone : fs.node? place = none) (hplace : ∀ entry ∈ placed, place ≠ fs.placeOf entry.1) :
    fs'.node? place = none := by
  induction placed generalizing fs with
  | nil =>
    cases h
    exact hnone
  | cons entry rest ih =>
    obtain ⟨between, hfirst, hrest⟩ := performAll_cons_eq_ok.mp h
    rw [List.forall_mem_cons] at hplace
    refine ih hrest ?_ ?_
    · rw [node?_of_rename hfirst hplace.1, hnone, ite_self]
    · rw [(keepsDirectories_of_perform hfirst).placeOf_eq]
      exact hplace.2

/-- Where an artifact was staged nothing is afterwards, unless another lies there. -/
lemma absent_staging_of_moveAll (h : fs.performAll (moveAll placed) = (fs', .ok ()))
    {staged : Path × List UInt8} (hstaged : staged ∈ placed)
    (hplace : ∀ entry ∈ placed, fs.placeOf staged.1.staging ≠ fs.placeOf entry.1) :
    fs'.node? (fs.placeOf staged.1.staging) = none := by
  induction placed generalizing fs with
  | nil => cases hstaged
  | cons entry rest ih =>
    obtain ⟨between, hfirst, hrest⟩ := performAll_cons_eq_ok.mp h
    rw [List.forall_mem_cons] at hplace
    have hplaceOf := (keepsDirectories_of_perform hfirst).placeOf_eq
    have hlater := hplace.2
    rw [← hplaceOf] at hlater ⊢
    rcases List.mem_cons.mp hstaged with rfl | hmem
    · refine absent_of_moveAll hrest ?_ hlater
      rw [hplaceOf, node?_of_rename hfirst hplace.1, if_pos rfl]
    · exact ih hrest hmem hlater

/-- **Artifacts that are not clear lose one**: it is moved away as if it were staged, and none that
is moved later comes to its place. -/
lemma exists_lost_of_moveAll (hclear : ¬ IsClear fs placed)
    (h : fs.performAll (moveAll placed) = (fs', .ok ())) :
    ∃ entry ∈ placed, fs'.node? (fs.placeOf entry.1) = none := by
  induction placed generalizing fs with
  | nil => exact absurd List.Pairwise.nil hclear
  | cons entry rest ih =>
    have hbeside := staging_of_moveAll h
    obtain ⟨between, hfirst, hrest⟩ := performAll_cons_eq_ok.mp h
    have hkeeps := keepsDirectories_of_perform hfirst
    by_cases hlater : IsClear fs rest
    · obtain ⟨other, hother, hsame⟩ :
          ∃ other ∈ rest, fs.placeOf entry.1 = fs.placeOf other.1.staging := by
        by_contra hnone
        refine hclear (List.pairwise_cons.mpr ⟨fun other hother hsame => ?_, hlater⟩)
        exact hnone ⟨other, hother, hsame⟩
      have hstaged := (isClear_of_keepsDirectories hkeeps).mpr hlater
      refine ⟨entry, List.mem_cons_self, ?_⟩
      rw [hsame, ← hkeeps.placeOf_eq]
      refine absent_staging_of_moveAll hrest hother fun last hlast hback => ?_
      -- what comes back to the place of the first was staged where the first was
      obtain ⟨octets, hfile⟩ := file_of_moveAll hstaged hrest last hlast
      rw [hkeeps.placeOf_eq] at hback hfile
      have hplace : fs.placeOf last.1.staging = fs.placeOf entry.1.staging := by
        rw [hbeside entry List.mem_cons_self, hbeside last (List.mem_cons_of_mem _ hlast), hsame,
          hback]
      have hne : fs.placeOf last.1.staging ≠ fs.placeOf entry.1 := by
        rw [hplace, hbeside entry List.mem_cons_self]
        exact beside_ne _
      rw [node?_of_rename hfirst hne, if_pos hplace] at hfile
      cases hfile
    · have hlost := ih (mt (isClear_of_keepsDirectories hkeeps).mp hlater) hrest
      rw [hkeeps.placeOf_eq] at hlost
      obtain ⟨lost, hlost, hnone⟩ := hlost
      exact ⟨lost, List.mem_cons_of_mem _ hlost, hnone⟩

/-- Every path leads somewhere after its artifact was moved. -/
lemma locate_of_moveAll (h : fs.performAll (moveAll placed) = (fs', .ok ())) :
    ∀ entry ∈ placed, fs'.locate entry.1 = .ok (fs'.placeOf entry.1) := by
  induction placed generalizing fs with
  | nil => exact fun _ hentry => absurd hentry List.not_mem_nil
  | cons entry rest ih =>
    obtain ⟨between, hfirst, hrest⟩ := performAll_cons_eq_ok.mp h
    obtain ⟨octets, -, htarget, -⟩ := rename_eq_ok hfirst
    have hkeeps := directory_of_performAll h
    rw [List.forall_mem_cons]
    refine ⟨?_, ih hrest⟩
    rw [hkeeps.placeOf_eq]
    exact locate_of_keepsDirectories hkeeps (locateFile_eq_ok.mp htarget).1

end

lemma fetch_eq_missing {fs : FileSystem} {path : Path}
    (hlocate : fs.locate path = .ok (fs.placeOf path)) (hnone : fs.node? (fs.placeOf path) = none) :
    fs.fetch path = .error (.missing path) := by
  rw [fetch, find, hlocate, ok_bind, hnone]
  rfl

lemma contains_eq_false {fs : FileSystem} {path : Path}
    (hlocate : fs.locate path = .ok (fs.placeOf path)) (hnone : fs.node? (fs.placeOf path) = none) :
    fs.contains path = false := by
  rw [contains, find, hlocate, ok_bind, hnone]
  rfl

lemma contains_of_fetch {fs : FileSystem} {path : Path} {octets : List UInt8}
    (h : fs.fetch path = .ok octets) : fs.contains path = true := by
  obtain ⟨node, hnode, -⟩ := bind_eq_ok.mp h
  rw [contains, hnode]
  rfl

/-! ## The save -/

/-- How a save that is reported moved its artifacts. -/
lemma exists_moveAll_of_save {fs fs' : FileSystem} {paths : Paths} {index : Index} {info : Meta}
    (h : save fs paths index info = (fs', .ok ())) :
    ∃ artifacts between, Artifacts.encode index info = .ok artifacts ∧
      fs.performAll (artifacts.savePlan paths) = (fs', .ok ()) ∧
      fs.KeepsDirectories between ∧
      between.performAll (moveAll (artifacts.placed paths)) = (fs', .ok ()) := by
  obtain ⟨artifacts, hencode, hperform⟩ := save_eq_ok.mp h
  obtain ⟨between, hstage, hmove⟩ :=
    performAll_append_eq_ok.mp (savePlan_eq artifacts paths ▸ hperform)
  exact ⟨artifacts, between, hencode, hperform, directory_of_performAll hstage, hmove⟩

/-- After a save to clear paths every artifact is read as it was encoded. -/
lemma fetch_of_save_of_clear {fs fs' : FileSystem} {paths : Paths} {index : Index} {info : Meta}
    (h : save fs paths index info = (fs', .ok ())) (hpaths : paths.ClearIn fs) :
    ∃ artifacts, Artifacts.encode index info = .ok artifacts ∧
      fs'.Apart (artifacts.placed paths) ∧
      ∀ entry ∈ artifacts.placed paths, fs'.fetch entry.1 = .ok entry.2 := by
  obtain ⟨artifacts, between, hencode, hperform, hkeeps, hmove⟩ := exists_moveAll_of_save h
  have hclear : IsClear between (artifacts.placed paths) :=
    (isClear_of_keepsDirectories hkeeps).mpr (isClear_placed.mpr hpaths)
  have hbefore := hkeeps.apart_iff.mp (apart_of_moveAll hclear hmove)
  exact ⟨artifacts, hencode, (directory_of_performAll hperform).apart_iff.mpr hbefore,
    fetch_of_savePlan hbefore hperform⟩

/-- After a save to paths that are not clear nothing is at one of them. -/
lemma exists_lost_of_save {fs fs' : FileSystem} {paths : Paths} {index : Index} {info : Meta}
    (h : save fs paths index info = (fs', .ok ())) (hpaths : ¬ paths.ClearIn fs) :
    ∃ path ∈ paths.all, fs'.locate path = .ok (fs'.placeOf path) ∧
      fs'.node? (fs'.placeOf path) = none := by
  obtain ⟨artifacts, between, -, -, hkeeps, hmove⟩ := exists_moveAll_of_save h
  have hclear : ¬ IsClear between (artifacts.placed paths) := fun hclear =>
    hpaths (isClear_placed.mp ((isClear_of_keepsDirectories hkeeps).mp hclear))
  obtain ⟨lost, hlost, hnone⟩ := exists_lost_of_moveAll hclear hmove
  rw [← (directory_of_performAll hmove).placeOf_eq] at hnone
  refine ⟨lost.1, ?_, locate_of_moveAll hmove lost hlost, hnone⟩
  rw [← map_fst_placed artifacts]
  exact List.mem_map_of_mem hlost

/-- After a save all artifacts are there exactly if the paths are clear. -/
theorem isSaved_iff_clear {fs fs' : FileSystem} {paths : Paths} {index : Index} {info : Meta}
    (h : save fs paths index info = (fs', .ok ())) :
    isSaved fs' paths = true ↔ paths.ClearIn fs := by
  constructor
  · intro hsaved
    by_contra hpaths
    obtain ⟨path, hpath, hlocate, hnone⟩ := exists_lost_of_save h hpaths
    have hcontains := List.all_eq_true.mp hsaved path hpath
    rw [contains_eq_false hlocate hnone] at hcontains
    cases hcontains
  · intro hpaths
    obtain ⟨artifacts, -, -, hfetch⟩ := fetch_of_save_of_clear h hpaths
    refine List.all_eq_true.mpr fun path (hpath : path ∈ paths.all) => ?_
    obtain ⟨octets, hplaced⟩ := exists_placed artifacts hpath
    exact contains_of_fetch (hfetch _ hplaced)

/-- **What a save that is reported has kept**, in a file system without links.  If the paths are
clear then every artifact is read at its path as it was encoded; if they are not then nothing is at
one of the paths.  Actions that are refused or broken off do not matter, since a save that meets one
is not reported. -/
theorem reported_save_keeps_all_iff_clear {fs fs' : FileSystem} {paths : Paths} {index : Index}
    {info : Meta} {rulings : List Ruling}
    (hsave : save fs paths index info rulings = (fs', .ok ())) :
    ∃ artifacts, Artifacts.encode index info = .ok artifacts ∧
      (paths.ClearIn fs → ∀ entry ∈ artifacts.placed paths, fs'.fetch entry.1 = .ok entry.2) ∧
      (¬ paths.ClearIn fs → ∃ path ∈ paths.all, fs'.fetch path = .error (.missing path)) := by
  have h := save_of_rulings hsave
  obtain ⟨artifacts, hencode, -⟩ := save_eq_ok.mp h
  refine ⟨artifacts, hencode, fun hpaths => ?_, fun hpaths => ?_⟩
  · obtain ⟨found, hfound, -, hfetch⟩ := fetch_of_save_of_clear h hpaths
    obtain rfl := Except.ok.inj (hencode.symm.trans hfound)
    exact hfetch
  · obtain ⟨path, hpath, hlocate, hnone⟩ := exists_lost_of_save h hpaths
    exact ⟨path, hpath, fetch_eq_missing hlocate hnone⟩

/-- An index of one document with one term. -/
def oneTermIndex (term : String) : Index :=
  ⟨⟨.forward, [(term, 1)], []⟩, ⟨.reversible, [("u", 1)], [(1, "u")]⟩,
    .docSet ⟨[(1, .ofList [1])], by simp⟩⟩

/-- The terms lie where the documents are staged: the save is reported, the terms are lost, and the
file of the documents holds the terms. -/
theorem terms_under_staged_documents_are_lost :
    let paths : Paths := { Paths.ofRoot "out" with words := "out/docs.dic.tmp" }
    let index := oneTermIndex "fox"
    let info := Meta.describe index "2024-05-01" "english"
    let fs' := (save {} paths index info).1
    paths.all.Nodup ∧ save {} paths index info = (fs', .ok ()) ∧
      fs'.fetch paths.words = .error (.missing paths.words) ∧
      (fs'.fetch paths.docs).toOption = index.terms.encode.toOption ∧
      index.docs.encode.toOption ≠ index.terms.encode.toOption := by
  decide +kernel

/-- Whether a path is in the way of another may depend on the working directory. -/
example :
    let fs : FileSystem := { workingDirectory := ["home".toList] }
    let pathsWith (words : Path) : Paths := { Paths.ofRoot "out" with words }
    ¬ (pathsWith "/home/out/docs.dic.tmp").ClearIn fs ∧
      (pathsWith "/out/docs.dic.tmp").ClearIn fs ∧
      ¬ (pathsWith "../home/out/docs.dic.tmp").ClearIn fs := by
  decide +kernel

/-- The same name in another directory is not in the way. -/
theorem terms_in_another_directory_are_kept :
    let paths : Paths := { Paths.ofRoot "out" with words := "words/docs.dic.tmp" }
    let index := oneTermIndex "fox"
    let info := Meta.describe index "2024-05-01" "english"
    let fs' := (save {} paths index info).1
    save {} paths index info = (fs', .ok ()) ∧ paths.ClearIn {} ∧
      ∃ artifacts, Artifacts.encode index info = .ok artifacts ∧
        (paths.ClearIn {} → ∀ entry ∈ artifacts.placed paths, fs'.fetch entry.1 = .ok entry.2) ∧
        (¬ paths.ClearIn {} → ∃ path ∈ paths.all, fs'.fetch path = .error (.missing path)) := by
  intro paths index info fs'
  have hsave : save {} paths index info = (fs', .ok ()) := by decide +kernel
  exact ⟨hsave, by decide +kernel, reported_save_keeps_all_iff_clear hsave⟩

end Retrieval.Archive
