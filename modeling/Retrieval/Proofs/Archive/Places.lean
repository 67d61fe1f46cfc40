import Mathlib.Data.List.Nodup
import Mathlib.Tactic.Common
import Retrieval.Archive.Storage
import Retrieval.Proofs.Archive.Files

/-!
# The places of the artifacts

The four artifacts and the four files that are written beside them lie at eight places.  Whatever
the root is, a plain name is the last on the path that it makes (`names_join`), and so the last of
its place.  The eight names differ, and with them the places: `nodup_places`.
-/

namespace Retrieval.Archive

namespace Path

/-! ## Names on a joined path -/

/-- A name that leads into a directory: not empty, without slashes, and not a row of dots that leads
elsewhere. -/
structure IsPlain (name : List Char) : Prop where
  ne_nil : name ≠ []
  noSlash : '/' ∉ name
  ne_dot : name ≠ ['.']
  ne_dots : name ≠ ['.', '.']

lemma partsFrom_of_noSlash {name : List Char} (h : '/' ∉ name) (read : List Char) :
    partsFrom read name = [read.reverse ++ name] := by
  induction name generalizing read with
  | nil => rw [partsFrom, List.append_nil]
  | cons c rest ih =>
    rw [List.mem_cons, not_or] at h
    rw [partsFrom, if_neg (Ne.symm h.1), ih h.2, List.reverse_cons, List.append_assoc]
    rfl

lemma partsFrom_append_slash (read text rest : List Char) :
    partsFrom read (text ++ '/' :: rest) = partsFrom read text ++ partsFrom [] rest := by
  induction text generalizing read with
  | nil => rfl
  | cons c others ih =>
    rw [List.cons_append, partsFrom, partsFrom]
    by_cases hc : c = '/'
    · rw [if_pos hc, if_pos hc, ih, List.cons_append]
    · rw [if_neg hc, if_neg hc, ih]

lemma exists_partsFrom (read text : List Char) :
    ∃ first rest, partsFrom read text = first :: rest := by
  induction text generalizing read with
  | nil => exact ⟨_, _, rfl⟩
  | cons c others ih =>
    rw [partsFrom]
    by_cases hc : c = '/'
    · exact ⟨_, _, if_pos hc⟩
    · rw [if_neg hc]
      exact ih _

/-- A slash begins another name. -/
lemma names_of_toList {path parent : Path} {name : List Char} (h : IsPlain name)
    (htext : path.toList = parent.toList ++ '/' :: name) : path.names = parent.names ++ [name] := by
  obtain ⟨first, rest, hparts⟩ := exists_partsFrom [] parent.toList
  have hname : (!name.isEmpty && name != ['.']) = true := by simp [h.ne_nil, h.ne_dot]
  rw [names, names, htext, partsFrom_append_slash, partsFrom_of_noSlash h.noSlash, hparts]
  simp [hname]

/-- **A plain name that is joined to a path is the last of its names.** -/
theorem names_join {root name : Path} (h : IsPlain name.toList) :
    (root.join name).names = root.names ++ [name.toList] := by
  have hrelative : name.isAbsolute = false := by
    rw [isAbsolute, decide_eq_false_iff_not]
    intro hhead
    exact h.noSlash (List.mem_of_head? hhead)
  rw [join, hrelative]
  simp only [Bool.false_eq_true, if_false]
  split
  · rename_i hend
    rw [Bool.or_eq_true, decide_eq_true_eq] at hend
    rcases hend with hempty | hslash
    · obtain rfl := String.isEmpty_iff.mp hempty
      have hparts := partsFrom_of_noSlash h.noSlash []
      simp [names, hparts, h.ne_nil, partsFrom]
    · -- the root brings the slash itself, and with it an empty part that is no name
      obtain ⟨before, hbefore⟩ : ∃ before, root.toList = before ++ ['/'] :=
        List.getLast?_eq_some_iff.mp hslash
      have hroot : root.names = Path.names (String.ofList before) := by
        obtain ⟨first, rest, hparts⟩ := exists_partsFrom [] before
        rw [names, names, hbefore, String.toList_ofList, partsFrom_append_slash, hparts]
        simp [partsFrom]
      rw [hroot]
      refine names_of_toList h ?_
      rw [String.toList_append, hbefore, String.toList_ofList, List.append_assoc]
      rfl
  · refine names_of_toList h ?_
    rw [String.toList_append, String.toList_append, List.append_assoc]
    rfl

lemma name?_join {root name : Path} (h : IsPlain name.toList) :
    (root.join name).name? = some name.toList := by
  rw [name?, names_join h, List.getLast?_concat]
  simp [h.ne_dot, h.ne_dots]

end Path

/-- The paths of the four artifacts. -/
def Paths.all (paths : Paths) : List Path :=
  [paths.words, paths.docs, paths.postings, paths.info]

lemma map_fst_placed (artifacts : Artifacts) (paths : Paths) :
    (artifacts.placed paths).map Prod.fst = paths.all := rfl

lemma exists_placed (artifacts : Artifacts) {paths : Paths} {path : Path} (h : path ∈ paths.all) :
    ∃ octets, (path, octets) ∈ artifacts.placed paths := by
  rw [← map_fst_placed artifacts] at h
  obtain ⟨⟨_, octets⟩, hentry, rfl⟩ := List.mem_map.mp h
  exact ⟨octets, hentry⟩

namespace FileSystem

/-! ## The last name of a place -/

variable {fs : FileSystem}

/-- A plain name that is joined to a path is the last of its place. -/
lemma getLast?_placeOf_join {root name : Path} (h : Path.IsPlain name.toList) :
    (fs.placeOf (root.join name)).getLast? = some name.toList := by
  rw [placeOf, Path.names_join h, List.foldl_append, List.foldl_cons, List.foldl_nil, enter,
    if_neg h.ne_dot, if_neg h.ne_dots, List.getLast?_concat]

/-- The file that is written beside a place has its name with an ending. -/
lemma getLast?_placeOf_staging {root name : Path} (h : Path.IsPlain name.toList)
    (hstaged : Path.IsPlain (name.toList ++ ['.', 't', 'm', 'p'])) :
    (fs.placeOf (root.join name).staging).getLast? = some (name.toList ++ ['.', 't', 'm', 'p']) := by
  rw [Path.staging, Path.name?_join h]
  dsimp only
  rw [getLast?_placeOf_join (by rwa [String.toList_ofList]), String.toList_ofList]

/-- The places that saving names: of every artifact its own, and that of the file beside it. -/
def places (fs : FileSystem) (placed : List (Path × List UInt8)) : List Place :=
  placed.flatMap fun entry => [fs.placeOf entry.1.staging, fs.placeOf entry.1]

/-- The places that saving to paths names. -/
def placesOf (fs : FileSystem) (paths : Paths) : List Place :=
  paths.all.flatMap fun path => [fs.placeOf path.staging, fs.placeOf path]

lemma places_placed (fs : FileSystem) (artifacts : Artifacts) (paths : Paths) :
    fs.places (artifacts.placed paths) = fs.placesOf paths := rfl

/-- **The eight places of an index differ**, wherever its root is. -/
theorem nodup_places (fs : FileSystem) (artifacts : Artifacts) (root : Path) :
    (fs.places (artifacts.placed (.ofRoot root))).Nodup := by
  have hplain : ∀ name ∈ (["words.dic", "docs.dic", "idx.idx", "meta.json"] : List Path),
      (fs.placeOf (root.join name)).getLast? = some name.toList ∧
        (fs.placeOf (root.join name).staging).getLast?
          = some (name.toList ++ ['.', 't', 'm', 'p']) := by
    intro name hname
    have hboth : Path.IsPlain name.toList ∧ Path.IsPlain (name.toList ++ ['.', 't', 'm', 'p']) := by
      simp only [List.mem_cons, List.not_mem_nil, or_false] at hname
      rcases hname with rfl | rfl | rfl | rfl <;>
        exact ⟨⟨by decide, by decide, by decide, by decide⟩,
          ⟨by decide, by decide, by decide, by decide⟩⟩
    exact ⟨getLast?_placeOf_join hboth.1, getLast?_placeOf_staging hboth.1 hboth.2⟩
  simp only [List.forall_mem_cons] at hplain
  obtain ⟨hwords, hdocs, hpostings, hinfo, -⟩ := hplain
  refine List.Nodup.of_map List.getLast? ?_
  simp only [places, Artifacts.placed, Paths.ofRoot, List.flatMap_cons, List.flatMap_nil,
    List.cons_append, List.nil_append, List.map_cons, List.map_nil, hwords, hdocs, hpostings, hinfo]
  decide

/-- Whether artifacts do not get in the way of each other: no two are staged at one place or lie at
one, and none lies where a later one is staged. -/
def Apart (fs : FileSystem) (placed : List (Path × List UInt8)) : Prop :=
  placed.Pairwise fun earlier later =>
    fs.placeOf earlier.1.staging ≠ fs.placeOf later.1.staging ∧
      fs.placeOf earlier.1 ≠ fs.placeOf later.1.staging ∧
        fs.placeOf earlier.1 ≠ fs.placeOf later.1

lemma KeepsDirectories.apart_iff {fs fs' : FileSystem} (h : fs.KeepsDirectories fs')
    {placed : List (Path × List UInt8)} : fs'.Apart placed ↔ fs.Apart placed := by
  rw [Apart, h.placeOf_eq, Apart]

/-- Artifacts with different places are apart. -/
lemma apart_of_nodup_places {placed : List (Path × List UInt8)} (h : (fs.places placed).Nodup) :
    fs.Apart placed := by
  rw [places, List.nodup_flatMap] at h
  refine h.2.imp fun {earlier later} hdisjoint => ?_
  simp only [Function.onFun, List.disjoint_cons_left, List.mem_cons, List.not_mem_nil, or_false,
    not_or] at hdisjoint
  exact ⟨hdisjoint.1.1, hdisjoint.2.1.1, hdisjoint.2.1.2⟩

/-- Where all places differ, no artifact lies where one is staged. -/
lemma placeOf_ne_staging {placed : List (Path × List UInt8)} (h : (fs.places placed).Nodup) :
    ∀ entry ∈ placed, ∀ other ∈ placed, fs.placeOf entry.1 ≠ fs.placeOf other.1.staging := by
  induction placed with
  | nil => exact fun _ hentry => absurd hentry List.not_mem_nil
  | cons first rest ih =>
    rw [places, List.flatMap_cons, List.nodup_append] at h
    obtain ⟨hfirst, hrest, hdisjoint⟩ := h
    have hlater : ∀ other ∈ rest, fs.placeOf other.1.staging ∈ fs.places rest ∧
        fs.placeOf other.1 ∈ fs.places rest := fun other hother =>
      ⟨List.mem_flatMap.mpr ⟨other, hother, List.mem_cons_self⟩,
        List.mem_flatMap.mpr ⟨other, hother, List.mem_cons_of_mem _ List.mem_cons_self⟩⟩
    rw [List.forall_mem_cons, List.forall_mem_cons]
    refine ⟨⟨?_, fun other hother => ?_⟩, fun entry hentry => ?_⟩
    · simpa [eq_comm] using hfirst
    · exact hdisjoint _ (by simp) _ (hlater other hother).1
    · rw [List.forall_mem_cons]
      refine ⟨?_, ih hrest entry hentry⟩
      exact (hdisjoint _ List.mem_cons_self _ (hlater entry hentry).2).symm

end FileSystem

end Retrieval.Archive
