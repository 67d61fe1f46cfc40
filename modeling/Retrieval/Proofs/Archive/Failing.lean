import Mathlib.Tactic.Common
import Retrieval.Corpus.Build
import Retrieval.Proofs.Archive.Reported

/-!
# A save that fails

A save is not one action but many, and there is no way back from the middle of them.  Any of them
may fail, because of what there is in the file system or because it is refused or broken off.  While
artifacts are staged nothing is touched but the files beside them.  When they are moved, those that
were moved before the one that fails are replaced and the others are not: such a save is
`Interrupted`, and between different places it is `Settled` which artifacts are the new ones
(`failed_save_keeps_what_was_not_moved`).

A move that is not refused fails only if no file can be put at its target.  So as long as nothing is
refused a save over four files replaces all of them or none (`Settled.fetch_eq`).  Without the files
a directory may stand in the way of a later artifact, and a refusal may come at any time.
-/

namespace Retrieval.Archive

open FileSystem

/-- How a save that fails ends: no directory is lost, and nothing is disturbed but the files beside
the artifacts and the artifacts that were moved, which are not all. -/
structure Interrupted (fs fs' : FileSystem) (moved left : List (Path × List UInt8)) : Prop where
  unfinished : left ≠ []
  directories : fs.KeepsDirectories fs'
  undisturbed : ∀ place, (∀ entry ∈ moved ++ left, place ≠ fs.placeOf entry.1.staging) →
    (∀ entry ∈ moved, place ≠ fs.placeOf entry.1) → fs.Undisturbed fs' place

/-- What an interrupted save to different places leaves: the artifacts that were moved and what
there was at the other paths.  If any was moved then something is in the way of the next artifact,
or not all actions were to be carried out. -/
structure Settled (fs fs' : FileSystem) (rulings : List Ruling)
    (moved left : List (Path × List UInt8)) : Prop where
  replaced : ∀ entry ∈ moved, fs'.fetch entry.1 = .ok entry.2
  kept : ∀ entry ∈ left, fs.Undisturbed fs' (fs.placeOf entry.1)
  blocked : moved ≠ [] → (∃ ruling ∈ rulings, ruling ≠ .carryOut) ∨
    ∃ next ∈ left.head?, ∃ why, fs'.locateFile next.1 = .error why

/-! ## The phases, whether they succeed or fail -/

section

variable {placed : List (Path × List UInt8)} {fs fs' : FileSystem} {rulings : List Ruling}
  {outcome : Except FileError Unit}

lemma undisturbed_of_stageAll (h : fs.performAll (stageAll placed) rulings = (fs', outcome))
    {place : Place} (hplace : ∀ entry ∈ placed, place ≠ fs.placeOf entry.1.staging) :
    fs.Undisturbed fs' place := by
  refine undisturbed_of_performAll h ?_
  rw [touched_stageAll, List.mem_map]
  rintro ⟨entry, hentry, hsame⟩
  exact hplace entry hentry hsame.symm

lemma undisturbed_of_moveAll (h : fs.performAll (moveAll placed) rulings = (fs', outcome))
    {place : Place} (hstaging : ∀ entry ∈ placed, place ≠ fs.placeOf entry.1.staging)
    (hplace : ∀ entry ∈ placed, place ≠ fs.placeOf entry.1) : fs.Undisturbed fs' place := by
  refine undisturbed_of_performAll h ?_
  rw [touched_moveAll, places, List.mem_flatMap]
  rintro ⟨entry, hentry, hsame⟩
  rw [List.mem_cons, List.mem_singleton] at hsame
  exact hsame.elim (hstaging entry hentry) (hplace entry hentry)

lemma mem_of_headD_ne (h : rulings.headD .carryOut ≠ .carryOut) :
    rulings.headD .carryOut ∈ rulings := by
  cases rulings with
  | nil => exact absurd rfl h
  | cons ruling rest => exact List.mem_cons_self

lemma exists_ne_carryOut_of_subset {others : List Ruling} (hsubset : rulings ⊆ others) :
    (∃ ruling ∈ rulings, ruling ≠ .carryOut) → ∃ ruling ∈ others, ruling ≠ .carryOut := by
  rintro ⟨ruling, hruling, hne⟩
  exact ⟨ruling, hsubset hruling, hne⟩

/-- The second phase fails at a move that changes nothing, after those before it. -/
lemma moveAll_eq_error {reason : FileError}
    (h : fs.performAll (moveAll placed) rulings = (fs', .error reason)) :
    ∃ moved next left, placed = moved ++ next :: left ∧
      fs.performAll (moveAll moved) = (fs', .ok ()) ∧
      ((∃ ruling ∈ rulings, ruling ≠ .carryOut) ∨
        fs'.perform (.rename next.1.staging next.1) = (fs', .error reason)) := by
  induction placed generalizing fs rulings with
  | nil => cases h
  | cons entry rest ih =>
    rcases performAll_cons_cases h with ⟨between, hfirst, hrest⟩ | ⟨met, hmet, hfirst⟩
    · obtain ⟨moved, next, left, rfl, hmoved, hnext⟩ := ih hrest
      have hmoves := performAll_cons_eq_ok.mpr ⟨between, (attempt_eq_ok hfirst).2, hmoved⟩
      exact ⟨entry :: moved, next, left, rfl, hmoves,
        hnext.imp_left (exists_ne_carryOut_of_subset (List.tail_sublist rulings).subset)⟩
    · cases hmet
      obtain ⟨rfl, hwhy⟩ := attempt_rename_eq_error hfirst
      exact ⟨[], entry, rest, rfl, rfl, hwhy.imp_left fun hne => ⟨_, mem_of_headD_ne hne, hne⟩⟩

end

/-- A file that is staged is not moved if no file can be put at its target. -/
lemma locateFile_of_rename_eq_error {fs fs' : FileSystem} {source target : Path}
    {octets : List UInt8} {reason : FileError} (hsource : fs.fetch source = .ok octets)
    (h : fs.perform (.rename source target) = (fs', .error reason)) :
    ∃ why, fs.locateFile target = .error why := by
  cases htarget : fs.locateFile target with
  | error why => exact ⟨why, rfl⟩
  | ok place =>
    obtain rfl := locate_eq (locateFile_eq_ok.mp htarget).1
    obtain ⟨moved, hmoved⟩ := exists_perform_rename hsource htarget
    rw [hmoved] at h
    cases h

/-! ## Where a save fails -/

/-- **Where a save fails**: at the encoding, in the first phase, or at a move in the second. -/
lemma save_eq_error {fs fs' : FileSystem} {paths : Paths} {index : Index} {info : Meta}
    {rulings : List Ruling} {reason : SaveError}
    (h : save fs paths index info rulings = (fs', .error reason)) :
    (∃ why, Artifacts.encode index info = .error why ∧ fs' = fs) ∨
      ∃ artifacts, Artifacts.encode index info = .ok artifacts ∧
        ((∃ why, fs.performAll (stageAll (artifacts.placed paths)) rulings = (fs', .error why)) ∨
          ∃ between moved next left why,
            fs.performAll (stageAll (artifacts.placed paths)) = (between, .ok ()) ∧
            artifacts.placed paths = moved ++ next :: left ∧
            between.performAll (moveAll moved) = (fs', .ok ()) ∧
            ((∃ ruling ∈ rulings, ruling ≠ .carryOut) ∨
              fs'.perform (.rename next.1.staging next.1) = (fs', .error why))) := by
  rw [save] at h
  cases hencode : Artifacts.encode index info with
  | error why =>
    rw [hencode] at h
    cases h
    exact Or.inl ⟨why, rfl, rfl⟩
  | ok artifacts =>
    rw [hencode] at h
    refine Or.inr ⟨artifacts, rfl, ?_⟩
    cases hperform : fs.performAll (artifacts.savePlan paths) rulings with
    | mk after outcome =>
      dsimp only at h
      rw [hperform, Prod.mk.injEq] at h
      obtain ⟨rfl, houtcome⟩ := h
      rw [savePlan_eq] at hperform
      rcases performAll_append_cases hperform with ⟨between, hstage, hmove⟩ | ⟨why, -, hstage⟩
      · cases outcome with
        | ok done => cases houtcome
        | error why =>
          obtain ⟨moved, next, left, hsplit, hmoved, hnext⟩ := moveAll_eq_error hmove
          exact Or.inr ⟨between, moved, next, left, why, performAll_of_rulings hstage, hsplit,
            hmoved, hnext.imp_left (exists_ne_carryOut_of_subset (List.drop_subset _ rulings))⟩
      · exact Or.inl ⟨why, hstage⟩

/-! ## What is left -/

/-- A first phase that fails moves nothing. -/
lemma interrupted_of_stageAll {fs fs' : FileSystem} {placed : List (Path × List UInt8)}
    {rulings : List Ruling} {why : FileError}
    (h : fs.performAll (stageAll placed) rulings = (fs', .error why)) :
    Interrupted fs fs' [] placed where
  unfinished := by
    rintro rfl
    cases h
  directories := directory_of_performAll h
  undisturbed _ hstaging _ := undisturbed_of_stageAll h hstaging

/-- A second phase that fails has moved what was before the move that fails. -/
lemma interrupted_of_moveAll {fs between fs' : FileSystem} {moved left : List (Path × List UInt8)}
    {next : Path × List UInt8}
    (hstage : fs.performAll (stageAll (moved ++ next :: left)) = (between, .ok ()))
    (hmove : between.performAll (moveAll moved) = (fs', .ok ())) :
    Interrupted fs fs' moved (next :: left) where
  unfinished := List.cons_ne_nil next left
  directories := (directory_of_performAll hstage).trans (directory_of_performAll hmove)
  undisturbed _ hstaging hplace := by
    have hplaceOf := (directory_of_performAll hstage).placeOf_eq
    have hmoved := fun entry hentry => hstaging entry (List.mem_append_left _ hentry)
    refine (undisturbed_of_stageAll hstage hstaging).trans (undisturbed_of_moveAll hmove ?_ ?_)
    · rwa [hplaceOf]
    · rwa [hplaceOf]

/-- What is left of artifacts with different places is not disturbed. -/
lemma Interrupted.kept {fs fs' : FileSystem} {moved left : List (Path × List UInt8)}
    (h : Interrupted fs fs' moved left) (hnodup : (fs.places (moved ++ left)).Nodup) :
    ∀ entry ∈ left, fs.Undisturbed fs' (fs.placeOf entry.1) := by
  intro entry hentry
  refine h.undisturbed _ (placeOf_ne_staging hnodup entry (List.mem_append_right _ hentry)) ?_
  intro other hother
  have hapart := (List.pairwise_append.mp (apart_of_nodup_places hnodup)).2.2
  exact (hapart other hother entry hentry).2.2.symm

/-- **A save that fails is interrupted**, unless it fails at the encoding. -/
lemma interrupted_of_save {fs fs' : FileSystem} {paths : Paths} {index : Index} {info : Meta}
    {rulings : List Ruling} {reason : SaveError}
    (h : save fs paths index info rulings = (fs', .error reason)) :
    fs' = fs ∨ ∃ artifacts moved left, Artifacts.encode index info = .ok artifacts ∧
      artifacts.placed paths = moved ++ left ∧ Interrupted fs fs' moved left ∧
      ((fs.placesOf paths).Nodup → Settled fs fs' rulings moved left) := by
  rcases save_eq_error h with ⟨-, -, hsame⟩ | ⟨artifacts, hencode, ⟨why, hstage⟩ | hmoves⟩
  · exact Or.inl hsame
  · have hinterrupted := interrupted_of_stageAll hstage
    refine Or.inr ⟨artifacts, [], _, hencode, rfl, hinterrupted, fun hnodup => ?_⟩
    exact ⟨fun _ hentry => absurd hentry List.not_mem_nil, hinterrupted.kept hnodup,
      fun hnone => absurd rfl hnone⟩
  · obtain ⟨between, moved, next, left, why, hstage, hsplit, hmove, hnext⟩ := hmoves
    refine Or.inr ⟨artifacts, moved, next :: left, hencode, hsplit, ?_, fun hnodup => ?_⟩
    · rw [hsplit] at hstage
      exact interrupted_of_moveAll hstage hmove
    · rw [← places_placed fs artifacts, hsplit] at hnodup
      rw [hsplit] at hstage
      have hapart := apart_of_nodup_places hnodup
      have hstaged := fetch_of_stageAll hapart hstage
      obtain ⟨hmoved, hleft, hacross⟩ :=
        List.pairwise_append.mp ((directory_of_performAll hstage).apart_iff.mpr hapart)
      refine ⟨?_, (interrupted_of_moveAll hstage hmove).kept hnodup, fun _ => ?_⟩
      · exact fetch_of_moveAll hmoved
          (fun entry hentry => hstaged entry (List.mem_append_left _ hentry)) hmove
      · -- the next artifact still lies where it was staged
        have hbeside : fs'.fetch next.1.staging = .ok next.2 := by
          refine fetch_of_performAll hmove
            (hstaged next (List.mem_append_right _ List.mem_cons_self)) ?_
          rw [touched_moveAll, places, List.mem_flatMap]
          rintro ⟨entry, hentry, hsame⟩
          obtain ⟨hstaging, hplace, -⟩ := hacross entry hentry next List.mem_cons_self
          rw [List.mem_cons, List.mem_singleton] at hsame
          exact hsame.elim (fun h => hstaging h.symm) fun h => hplace h.symm
        exact hnext.imp_right fun hfails =>
          ⟨next, rfl, locateFile_of_rename_eq_error hbeside hfails⟩

/-- Over files, nothing is in the way of an artifact, so none is moved by a save that fails without
a refusal. -/
lemma Settled.eq_nil {fs fs' : FileSystem} {rulings : List Ruling}
    {moved left : List (Path × List UInt8)} (h : Settled fs fs' rulings moved left)
    (hrulings : ∀ ruling ∈ rulings, ruling = .carryOut) (hdirectories : fs.KeepsDirectories fs')
    (hfiles : ∀ entry ∈ left, ∃ octets, fs.fetch entry.1 = .ok octets) : moved = [] := by
  by_contra hne
  obtain ⟨next, hhead, why, hblocked⟩ := (h.blocked hne).resolve_left
    fun ⟨ruling, hruling, hother⟩ => hother (hrulings ruling hruling)
  have hnext : next ∈ left := List.mem_of_mem_head? hhead
  obtain ⟨octets, hfetch⟩ := hfiles next hnext
  have hstays := fetch_of_undisturbed hdirectories (h.kept next hnext) hfetch
  rw [locateFile_of_fetch hstays] at hblocked
  cases hblocked

/-- Over files at different places, a save that is interrupted without a refusal leaves every
artifact as it was. -/
lemma Settled.fetch_eq {fs fs' : FileSystem} {artifacts : Artifacts} {paths : Paths}
    {rulings : List Ruling} {moved left : List (Path × List UInt8)}
    (h : Settled fs fs' rulings moved left) (hrulings : ∀ ruling ∈ rulings, ruling = .carryOut)
    (hdirectories : fs.KeepsDirectories fs') (hsplit : artifacts.placed paths = moved ++ left)
    (hfiles : ∀ path ∈ paths.all, ∃ octets, fs.fetch path = .ok octets) :
    ∀ path ∈ paths.all, fs'.fetch path = fs.fetch path := by
  intro path hpath
  have hleft : ∀ entry ∈ left, entry.1 ∈ paths.all := by
    intro entry hentry
    rw [← map_fst_placed artifacts, hsplit]
    exact List.mem_map_of_mem (List.mem_append_right _ hentry)
  obtain rfl := h.eq_nil hrulings hdirectories fun entry hentry =>
    hfiles entry.1 (hleft entry hentry)
  -- as nothing was moved, the artifact at the path is one of those that are left
  obtain ⟨octets, hplaced⟩ := exists_placed artifacts hpath
  rw [hsplit] at hplaced
  obtain ⟨held, hheld⟩ := hfiles path hpath
  rw [hheld]
  exact fetch_of_undisturbed hdirectories (h.kept _ hplaced) hheld

/-- A build fails before its save, which changes nothing, or its save fails. -/
lemma build_eq_error {stemmer : Stem.Stemmer} {fs fs' : FileSystem}
    {settings : Corpus.BuildSettings} {createdAt : String} {rulings : List Ruling}
    {failure : Failure Corpus.BuildError}
    (h : Corpus.build stemmer fs settings createdAt rulings = (fs', .error failure)) :
    (Corpus.gather stemmer fs settings = .error failure ∧ fs' = fs) ∨
      ∃ index reason, Corpus.gather stemmer fs settings = .ok index ∧
        failure = .error (.stopped (.save reason)) ∧
        save fs settings.paths index (.describe index createdAt settings.language) rulings
          = (fs', .error reason) := by
  rw [Corpus.build] at h
  cases hgather : Corpus.gather stemmer fs settings with
  | error met =>
    rw [hgather] at h
    cases h
    exact Or.inl ⟨rfl, rfl⟩
  | ok index =>
    rw [hgather] at h
    dsimp only at h
    cases hsave : save fs settings.paths index (.describe index createdAt settings.language)
        rulings with
    | mk after outcome =>
      rw [hsave] at h
      cases outcome with
      | ok done => cases h
      | error reason =>
        cases h
        exact Or.inr ⟨index, reason, rfl, rfl, hsave⟩

/-- **What a save that fails has kept**, whatever is refused or broken off.  It has changed nothing,
or it is interrupted: the first artifacts are moved and those that are left are not, where the
places differ.  Over four files at different places a save that fails although nothing is refused
changes none of them.  A build that fails has changed nothing, unless it fails at the save. -/
theorem failed_save_keeps_what_was_not_moved (fs : FileSystem) (rulings : List Ruling) :
    (∀ {fs' : FileSystem} {paths : Paths} {index : Index} {info : Meta} {reason : SaveError},
      save fs paths index info rulings = (fs', .error reason) →
        fs' = fs ∨ ∃ artifacts moved left, Artifacts.encode index info = .ok artifacts ∧
          artifacts.placed paths = moved ++ left ∧ Interrupted fs fs' moved left ∧
          ((fs.placesOf paths).Nodup → Settled fs fs' rulings moved left ∧
            ((∀ ruling ∈ rulings, ruling = .carryOut) →
              (∀ path ∈ paths.all, ∃ octets, fs.fetch path = .ok octets) →
                ∀ path ∈ paths.all, fs'.fetch path = fs.fetch path))) ∧
    ∀ {stemmer : Stem.Stemmer} {fs' : FileSystem} {settings : Corpus.BuildSettings}
      {createdAt : String} {failure : Failure Corpus.BuildError},
      Corpus.build stemmer fs settings createdAt rulings = (fs', .error failure) →
        (Corpus.gather stemmer fs settings = .error failure ∧ fs' = fs) ∨
          ∃ index reason, Corpus.gather stemmer fs settings = .ok index ∧
            failure = .error (.stopped (.save reason)) ∧
            save fs settings.paths index (.describe index createdAt settings.language) rulings
              = (fs', .error reason) := by
  constructor
  · intro fs' paths index info reason h
    rcases interrupted_of_save h with hsame | ⟨artifacts, moved, left, hencode, hsplit, hleft⟩
    · exact Or.inl hsame
    · obtain ⟨hinterrupted, hsettled⟩ := hleft
      refine Or.inr ⟨artifacts, moved, left, hencode, hsplit, hinterrupted, fun hnodup => ?_⟩
      exact ⟨hsettled hnodup, fun hrulings =>
        (hsettled hnodup).fetch_eq hrulings hinterrupted.directories hsplit⟩
  · intro stemmer fs' settings createdAt failure h
    exact build_eq_error h

/-- The second move of a save over an index is refused: the terms are replaced and the documents are
not. -/
example :
    let info := Meta.describe (oneTermIndex "fox") "2024-05-01" "english"
    let paths := Paths.ofRoot "out"
    let fs := (save {} paths (oneTermIndex "fox") info).1
    let rulings := List.replicate 9 .carryOut ++ [.refuse]
    let fs' := (save fs paths (oneTermIndex "cat") info rulings).1
    save fs paths (oneTermIndex "cat") info rulings
        = (fs', .error (.file (.refused paths.docs.staging))) ∧
      (fs'.fetch paths.words).toOption = (oneTermIndex "cat").terms.encode.toOption ∧
      fs'.fetch paths.docs = fs.fetch paths.docs := by
  decide +kernel

/-- A directory stands where the documents are to be saved: the save fails, and the terms that were
saved before are replaced. -/
theorem terms_are_replaced_before_documents_fail :
    let info := Meta.describe (oneTermIndex "fox") "2024-05-01" "english"
    let saved := (save {} (.ofRoot "out") (oneTermIndex "fox") info).1
    let fs := (saved.perform (.makeDirectories "in")).1
    let paths : Paths := { Paths.ofRoot "out" with docs := "in" }
    let fs' := (save fs paths (oneTermIndex "cat") info).1
    save fs paths (oneTermIndex "cat") info = (fs', .error (.file (.isDirectory "in"))) ∧
      (fs.fetch paths.words).toOption = (oneTermIndex "fox").terms.encode.toOption ∧
      (fs'.fetch paths.words).toOption = (oneTermIndex "cat").terms.encode.toOption ∧
      fs.fetch paths.words ≠ fs'.fetch paths.words := by
  decide +kernel

/-- A directory stands where the metadata is staged: a save over an index changes none of its
artifacts, and a build in an unknown language changes nothing. -/
theorem save_over_an_index_fails_as_a_whole :
    let info := Meta.describe (oneTermIndex "fox") "2024-05-01" "english"
    let saved := (save {} (.ofRoot "out") (oneTermIndex "fox") info).1
    let fs := (saved.perform (.makeDirectories "out/meta.json.tmp")).1
    let paths := Paths.ofRoot "out"
    let fs' := (save fs paths (oneTermIndex "cat") info).1
    let settings : Corpus.BuildSettings := ⟨"in", "out", .bitset, none, none, none, "klingon"⟩
    let stemmer : Stem.Stemmer := fun _ word => word
    save fs paths (oneTermIndex "cat") info
        = (fs', .error (.file (.isDirectory "out/meta.json.tmp"))) ∧
      (∀ path ∈ paths.all, fs'.fetch path = fs.fetch path) ∧
      Corpus.build stemmer fs settings "2024-05-02"
        = (fs, .error (.error (.unknownLanguage "klingon"))) ∧
      Corpus.gather stemmer fs settings = .error (.error (.unknownLanguage "klingon")) := by
  intro info saved fs paths fs' settings stemmer
  have hsave : save fs paths (oneTermIndex "cat") info
      = (fs', .error (.file (.isDirectory "out/meta.json.tmp"))) := by decide +kernel
  have hbuild : Corpus.build stemmer fs settings "2024-05-02"
      = (fs, .error (.error (.unknownLanguage "klingon"))) := by decide +kernel
  have hfiles : ∀ path ∈ paths.all, (fs.fetch path).toOption ≠ none := by decide +kernel
  refine ⟨hsave, fun path hpath => ?_, hbuild, ?_⟩
  · rcases (failed_save_keeps_what_was_not_moved fs []).1 hsave with
      hsame | ⟨_, _, _, -, -, -, hkept⟩
    · rw [hsame]
    · refine (hkept (by decide +kernel)).2 (List.forall_mem_nil _) (fun other hother => ?_) path
        hpath
      cases hfetch : fs.fetch other with
      | ok octets => exact ⟨octets, rfl⟩
      | error reason =>
        have hnone := hfiles other hother
        rw [hfetch] at hnone
        exact absurd rfl hnone
  · rcases (failed_save_keeps_what_was_not_moved fs []).2 hbuild with
      ⟨hgather, -⟩ | ⟨_, _, -, h, -⟩
    · exact hgather
    · cases h

end Retrieval.Archive
