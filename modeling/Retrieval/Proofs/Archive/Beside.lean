import Mathlib.Tactic.Common
import Retrieval.Proofs.Archive.Places

/-!
# The file beside an artifact

Before a file takes its place it is written under another path, which is made from the text of the
first: the path without its last name, and the name with an ending.  What matters is where that
leads.  If a file may be put under a path at all then the path ends in a name
(`exists_name_of_locateFile`), and the other path leads to the same directory and there to the name
with the ending (`placeOf_staging`).  So paths that lead to one place are staged at one place.
-/

namespace Retrieval.Archive

namespace Path

/-! ## Names of a path and paths of names -/

/-- A name between slashes. -/
def IsName (name : List Char) : Prop :=
  name ≠ [] ∧ '/' ∉ name

lemma noSlash_of_mem_partsFrom {read text part : List Char} (hread : '/' ∉ read)
    (h : part ∈ partsFrom read text) : '/' ∉ part := by
  induction text generalizing read with
  | nil =>
    rw [partsFrom, List.mem_singleton] at h
    rwa [h, List.mem_reverse]
  | cons c rest ih =>
    rw [partsFrom] at h
    split at h
    · rcases List.mem_cons.mp h with rfl | hrest
      · rwa [List.mem_reverse]
      · exact ih List.not_mem_nil hrest
    · rename_i hc
      refine ih ?_ h
      rw [List.mem_cons, not_or]
      exact ⟨Ne.symm hc, hread⟩

/-- Whether names stand on a path: each is a name, and only the first of a relative path is a
dot. -/
structure AreNames (absolute : Bool) (names : List (List Char)) : Prop where
  each : ∀ name ∈ names, IsName name
  noDot : ['.'] ∉ if absolute then names else names.tail

lemma mem_filter_names {parts : List (List Char)} {name : List Char} :
    name ∈ parts.filter (fun part => !part.isEmpty && part != ['.']) ↔
      name ∈ parts ∧ name ≠ [] ∧ name ≠ ['.'] := by
  rw [List.mem_filter, Bool.and_eq_true, Bool.not_eq_true', List.isEmpty_eq_false_iff, bne_iff_ne]

/-- The names of a path stand on a path. -/
lemma areNames_names (path : Path) : AreNames path.isAbsolute path.names := by
  obtain ⟨first, rest, hparts⟩ := exists_partsFrom [] path.toList
  have hnoSlash : ∀ part ∈ first :: rest, '/' ∉ part := by
    intro part hpart
    rw [← hparts] at hpart
    exact noSlash_of_mem_partsFrom List.not_mem_nil hpart
  have hnames : path.names = (if first.isEmpty then [] else [first]) ++
      rest.filter fun part => !part.isEmpty && part != ['.'] := by
    rw [names, hparts]
  have hrest : ['.'] ∉ rest.filter fun part => !part.isEmpty && part != ['.'] :=
    fun hdot => (mem_filter_names.mp hdot).2.2 rfl
  rw [List.forall_mem_cons] at hnoSlash
  constructor
  · intro name hname
    rw [hnames] at hname
    rcases List.mem_append.mp hname with hfirst | hlater
    · split at hfirst
      · cases hfirst
      · rename_i hne
        rw [List.mem_singleton.mp hfirst]
        exact ⟨fun hnil => hne (List.isEmpty_iff.mpr hnil), hnoSlash.1⟩
    · obtain ⟨hmem, hne, -⟩ := mem_filter_names.mp hlater
      exact ⟨hne, hnoSlash.2 name hmem⟩
  · by_cases hempty : first.isEmpty = true
    · rw [hnames, if_pos hempty, List.nil_append]
      split
      · exact hrest
      · exact fun hdot => hrest (List.mem_of_mem_tail hdot)
    · -- only a relative path has a first part
      have hrelative : path.isAbsolute = false := by
        rw [isAbsolute, decide_eq_false_iff_not]
        intro hhead
        obtain ⟨others, hothers⟩ := List.head?_eq_some_iff.mp hhead
        rw [hothers, partsFrom, if_pos rfl] at hparts
        exact hempty (by rw [← (List.cons.inj hparts).1]; rfl)
      rw [hnames, if_neg hempty, hrelative]
      exact hrest

lemma AreNames.dropLast {absolute : Bool} {names : List (List Char)} (h : AreNames absolute names) :
    AreNames absolute names.dropLast where
  each name hname := h.each name (List.dropLast_subset names hname)
  noDot := by
    cases absolute with
    | true => exact fun hdot => h.noDot (List.dropLast_subset names hdot)
    | false => exact fun hdot => h.noDot (List.dropLast_subset _ (List.tail_dropLast ▸ hdot))

/-- Joined names are parted again. -/
lemma partsFrom_intercalate {first : List Char} {rest : List (List Char)}
    (h : ∀ name ∈ first :: rest, '/' ∉ name) :
    partsFrom [] (['/'].intercalate (first :: rest)) = first :: rest := by
  induction rest generalizing first with
  | nil => simpa using partsFrom_of_noSlash (h first List.mem_cons_self) []
  | cons next others ih =>
    rw [List.forall_mem_cons] at h
    have hsplit : ['/'].intercalate (first :: next :: others)
        = first ++ '/' :: ['/'].intercalate (next :: others) := by
      simp [List.intercalate]
    rw [hsplit, partsFrom_append_slash, partsFrom_of_noSlash h.1, ih h.2]
    rfl

/-- **A path of names has these names**, and starts where it should. -/
lemma names_ofNames {absolute : Bool} {names : List (List Char)} (h : AreNames absolute names) :
    (ofNames absolute names).names = names ∧ (ofNames absolute names).isAbsolute = absolute := by
  cases names with
  | nil => cases absolute <;> decide
  | cons first rest =>
    have hparts := partsFrom_intercalate fun name hname => (h.each name hname).2
    have hkept : ∀ {others : List (List Char)}, (∀ name ∈ others, IsName name) → ['.'] ∉ others →
        others.filter (fun part => !part.isEmpty && part != ['.']) = others := by
      intro others hnames hdot
      rw [List.filter_eq_self]
      intro name hname
      rw [Bool.and_eq_true, Bool.not_eq_true', List.isEmpty_eq_false_iff, bne_iff_ne]
      exact ⟨(hnames name hname).1, fun hsame => hdot (hsame ▸ hname)⟩
    cases absolute with
    | true =>
      have htext : (ofNames true (first :: rest)).toList
          = '/' :: ['/'].intercalate (first :: rest) := by
        rw [ofNames, String.toList_ofList]
        rfl
      rw [Path.names, isAbsolute, htext, partsFrom, if_pos rfl, hparts]
      exact ⟨hkept h.each h.noDot, rfl⟩
    | false =>
      have htext : (ofNames false (first :: rest)).toList
          = ['/'].intercalate (first :: rest) := by
        rw [ofNames, String.toList_ofList]
        rfl
      obtain ⟨hfirst, hrest⟩ := List.forall_mem_cons.mp h.each
      obtain ⟨c, others, rfl⟩ := List.exists_cons_of_ne_nil hfirst.1
      have hhead : (['/'].intercalate ((c :: others) :: rest)).head? = some c := by
        cases rest <;> simp [List.intercalate]
      have hc : c ≠ '/' := fun hslash => hfirst.2 (hslash ▸ List.mem_cons_self)
      rw [Path.names, isAbsolute, htext, hparts, hhead]
      exact ⟨congrArg ((c :: others) :: ·) (hkept hrest h.noDot), by simpa using hc⟩

/-- A plain name is appended below where the path starts. -/
lemma isAbsolute_join {root name : Path} (h : IsPlain name.toList) :
    (root.join name).isAbsolute = root.isAbsolute := by
  have hrelative : name.isAbsolute = false := by
    rw [isAbsolute, decide_eq_false_iff_not]
    exact fun hhead => h.noSlash (List.mem_of_head? hhead)
  rw [join, hrelative]
  by_cases hroot : root = ""
  · subst hroot
    exact hrelative
  · have hne : root.toList ≠ [] := fun hnil => hroot (String.toList_eq_nil_iff.mp hnil)
    have hhead : ∀ text : List Char, (root.toList ++ text).head? = root.toList.head? := by
      intro text
      rw [List.head?_append_of_ne_nil _ hne]
    simp only [Bool.false_eq_true, if_false, isAbsolute]
    split
    · rw [String.toList_append, hhead]
    · rw [String.toList_append, String.toList_append, List.append_assoc, hhead]

end Path

namespace FileSystem

/-! ## A path under which a file may be put -/

/-- Whether all places on the way to a place hold directories. -/
def IsReached (fs : FileSystem) (place : Place) : Prop :=
  ∀ above, above <+: place → above ≠ place → fs.node? above = some .directory

/-- The working directory and those above it are there. -/
lemma directory_of_above {fs : FileSystem} {place : Place} (h : place <+: fs.workingDirectory) :
    fs.node? place = some .directory := by
  rw [node?, if_pos h]

lemma origin_above (fs : FileSystem) (path : Path) : fs.origin path <+: fs.workingDirectory := by
  rw [origin]
  split
  · exact List.nil_prefix
  · exact List.prefix_rfl

lemma isReached_origin (fs : FileSystem) (path : Path) : fs.IsReached (fs.origin path) :=
  fun _ hway _ => directory_of_above (hway.trans (fs.origin_above path))

/-- A step from a directory reaches a place, and a directory if it goes up or stays. -/
lemma IsReached.enter {fs : FileSystem} {place : Place} (h : fs.IsReached place)
    (hdirectory : fs.node? place = some .directory) (name : List Char) :
    fs.IsReached (enter place name) ∧
      (name = ['.'] ∨ name = ['.', '.'] →
        fs.node? (FileSystem.enter place name) = some .directory) := by
  have hbelow : ∀ above, above <+: place → fs.node? above = some .directory := by
    intro above hway
    by_cases hsame : above = place
    · rw [hsame, hdirectory]
    · exact h above hway hsame
  rw [FileSystem.enter]
  split
  · exact ⟨h, fun _ => hdirectory⟩
  · rename_i hdot
    split
    · have hup := List.dropLast_prefix place
      exact ⟨fun above hway _ => hbelow above (hway.trans hup), fun _ => hbelow _ hup⟩
    · rename_i hdots
      refine ⟨fun above hway hne => hbelow above ?_, fun hname => absurd hname ?_⟩
      · rcases List.prefix_concat_iff.mp hway with hsame | hbelow
        · exact absurd hsame hne
        · exact hbelow
      · exact not_or.mpr ⟨hdot, hdots⟩

/-- A walk whose last step goes up or stays ends at a directory. -/
lemma directory_of_walk {fs : FileSystem} {path : Path} {place found : Place}
    {names : List (List Char)} {name : List Char} (hreached : fs.IsReached place)
    (h : fs.walk path place (names ++ [name]) = .ok found)
    (hname : name = ['.'] ∨ name = ['.', '.']) : fs.node? found = some .directory := by
  induction names generalizing place with
  | nil =>
    rw [List.nil_append, walk] at h
    split at h
    · rename_i hdirectory
      split at h
      · cases h
      · cases h
        exact (hreached.enter hdirectory name).2 hname
    · cases h
    · cases h
  | cons first rest ih =>
    rw [List.cons_append, walk] at h
    split at h
    · rename_i hdirectory
      split at h
      · cases h
      · exact ih (hreached.enter hdirectory first).1 h
    · cases h
    · cases h

/-- **A path under which a file may be put ends in a name.** -/
theorem exists_name_of_locateFile {fs : FileSystem} {path : Path} {place : Place}
    (h : fs.locateFile path = .ok place) : ∃ name, path.name? = some name := by
  obtain ⟨hlocate, hat, -⟩ := locateFile_eq_ok.mp h
  have hwalk : fs.walk path (fs.origin path) path.names = .ok place := by
    rw [locate] at hlocate
    split at hlocate
    · cases hlocate
    · split at hlocate
      · cases hlocate
      · exact hlocate
  rcases List.eq_nil_or_concat' path.names with hnames | ⟨above, name, hnames⟩
  · rw [hnames] at hwalk
    cases hwalk
    exact absurd (directory_of_above (fs.origin_above path)) hat
  · refine ⟨name, ?_⟩
    have hplain : ¬ (name = ['.'] ∨ name = ['.', '.']) := by
      rw [hnames] at hwalk
      exact fun hdots => hat (directory_of_walk (isReached_origin fs path) hwalk hdots)
    rw [Path.name?, hnames, List.getLast?_concat]
    simp only [if_neg hplain]

/-! ## The place beside a place -/

/-- The place in the same directory whose name has the ending of a staged file. -/
def beside (place : Place) : Place :=
  place.dropLast ++ [place.getLast?.getD [] ++ ['.', 't', 'm', 'p']]

lemma beside_concat (place : Place) (name : List Char) :
    beside (place ++ [name]) = place ++ [name ++ ['.', 't', 'm', 'p']] := by
  rw [beside, List.dropLast_concat, List.getLast?_concat]
  rfl

/-- Nothing lies beside itself. -/
lemma beside_ne (place : Place) : beside place ≠ place := by
  rcases List.eq_nil_or_concat' place with rfl | ⟨above, name, rfl⟩
  · decide
  · rw [beside_concat]
    intro hsame
    have hlength := congrArg (fun names => (List.flatten names).length) hsame
    simp at hlength

/-- **A file is staged beside its place.** -/
theorem placeOf_staging (fs : FileSystem) {path : Path} {name : List Char}
    (h : path.name? = some name) : fs.placeOf path.staging = beside (fs.placeOf path) := by
  obtain ⟨hlast, hdot, hdots⟩ : path.names.getLast? = some name ∧ name ≠ ['.'] ∧
      name ≠ ['.', '.'] := by
    rw [Path.name?] at h
    split at h
    · rename_i found hfound
      split at h
      · cases h
      · rename_i hplain
        cases h
        exact ⟨hfound, not_or.mp hplain⟩
    · cases h
  obtain ⟨above, habove⟩ := List.getLast?_eq_some_iff.mp hlast
  have hareNames := Path.areNames_names path
  have hname := hareNames.each name (by rw [habove]; exact List.mem_concat_self)
  have hlength : (name ++ ['.', 't', 'm', 'p']).length = name.length + 4 := List.length_append
  have hplain : Path.IsPlain (name ++ ['.', 't', 'm', 'p']) := by
    refine ⟨by simp, by simpa using hname.2, ?_, ?_⟩ <;>
    · intro hsame
      rw [hsame] at hlength
      simp at hlength
  have hparent : path.parent? = some (Path.ofNames path.isAbsolute above) := by
    rw [Path.parent?, habove, List.dropLast_concat]
    simp
  have hparentNames := hareNames.dropLast
  rw [habove, List.dropLast_concat] at hparentNames
  obtain ⟨hnames, habsolute⟩ := Path.names_ofNames hparentNames
  rw [Path.staging, h, hparent]
  have hstaged : Path.IsPlain (String.ofList (name ++ ['.', 't', 'm', 'p'])).toList := by
    rwa [String.toList_ofList]
  have horigin : fs.origin ((Path.ofNames path.isAbsolute above).join
      (String.ofList (name ++ ['.', 't', 'm', 'p']))) = fs.origin path := by
    rw [origin, origin, Path.isAbsolute_join hstaged, habsolute]
  dsimp only [Option.getD_some]
  rw [placeOf, placeOf, horigin, Path.names_join hstaged, hnames, habove, List.foldl_append,
    List.foldl_append, List.foldl_cons, List.foldl_cons, List.foldl_nil, List.foldl_nil,
    String.toList_ofList, enter, enter, if_neg hplain.ne_dot, if_neg hplain.ne_dots, if_neg hdot,
    if_neg hdots, beside_concat]

end FileSystem

end Retrieval.Archive
