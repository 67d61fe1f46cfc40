import Mathlib.Tactic.Common
import Retrieval.Archive.FileSystem
import Retrieval.Proofs.Fault

/-!
# What actions leave alone

An action changes little: it makes directories where nothing was, and puts a file at the place of a
path or takes one away from there.  So no directory is ever lost (`directory_of_performAll`), and a
place is not disturbed as long as no action names it (`undisturbed_of_performAll`).  That holds as
well of an action that is refused or broken off.  If all actions succeed then they were carried out
(`performAll_of_rulings`).

The place of a path does not depend on what the file system holds but only on the working directory,
which no action changes; what it holds matters for whether the place can be reached (`locate_eq`).
As directories stay, a place that could be reached can be reached later, so what is read at a path
stays with the file (`fetch_of_performAll`).
-/

namespace Retrieval.Archive

namespace FileSystem

/-! ## Nodes -/

lemma lookup_filter_ne (nodes : List (Place × Node)) (place other : Place) :
    (nodes.filter (·.1 ≠ place)).lookup other
      = if other = place then none else nodes.lookup other := by
  induction nodes with
  | nil => simp
  | cons entry rest ih =>
    obtain ⟨first, node⟩ := entry
    by_cases hfirst : first = place
    · subst hfirst
      rw [List.filter_cons_of_neg (by simp), ih, List.lookup_cons]
      by_cases hother : other = first
      · simp [hother]
      · have hne : (other == first) = false := by simpa using hother
        simp [hother, hne]
    · rw [List.filter_cons_of_pos (by simpa using hfirst), List.lookup_cons, List.lookup_cons, ih]
      by_cases hother : other = first
      · subst hother
        simp [hfirst]
      · have hne : (other == first) = false := by simpa using hother
        simp [hne]

lemma node?_put (fs : FileSystem) (place other : Place) (node : Node) :
    (fs.put place node).node? other
      = if other <+: fs.workingDirectory then some .directory
        else if other = place then some node else fs.node? other := by
  rw [node?, node?, put]
  split
  · rfl
  · by_cases hother : other = place
    · simp [hother]
    · have hne : (other == place) = false := by simpa using hother
      rw [List.lookup_cons, hne, if_neg hother]
      simp only [lookup_filter_ne, if_neg hother]

lemma node?_remove (fs : FileSystem) (place other : Place) :
    (fs.remove place).node? other
      = if other <+: fs.workingDirectory then some .directory
        else if other = place then none else fs.node? other := by
  rw [node?, node?, remove]
  split
  · rfl
  · rw [lookup_filter_ne]

lemma node?_put_of_ne {fs : FileSystem} {place other : Place} {node : Node} (h : other ≠ place) :
    (fs.put place node).node? other = fs.node? other := by
  rw [node?_put, if_neg h]
  split
  · rename_i hfixed
    rw [node?, if_pos hfixed]
  · rfl

lemma node?_remove_of_ne {fs : FileSystem} {place other : Place} (h : other ≠ place) :
    (fs.remove place).node? other = fs.node? other := by
  rw [node?_remove, if_neg h]
  split
  · rename_i hfixed
    rw [node?, if_pos hfixed]
  · rfl

/-- What is put at a place that is no directory is there. -/
lemma node?_put_self {fs : FileSystem} {place : Place} {node : Node}
    (h : fs.node? place ≠ some .directory) : (fs.put place node).node? place = some node := by
  have hfree : ¬ place <+: fs.workingDirectory := fun hfixed => h (by rw [node?, if_pos hfixed])
  rw [node?_put, if_neg hfree, if_pos rfl]

/-! ## Places -/

/-- The place that the names of a path lead to. -/
def placeOf (fs : FileSystem) (path : Path) : Place :=
  path.names.foldl enter (fs.origin path)

/-- Whether the directories of one file system are in another, with the same working directory. -/
structure KeepsDirectories (fs fs' : FileSystem) : Prop where
  workingDirectory : fs'.workingDirectory = fs.workingDirectory
  directory : ∀ place, fs.node? place = some .directory → fs'.node? place = some .directory

namespace KeepsDirectories

variable {fs between fs' : FileSystem}

lemma refl (fs : FileSystem) : fs.KeepsDirectories fs :=
  ⟨rfl, fun _ hdirectory => hdirectory⟩

lemma trans (h : fs.KeepsDirectories between) (h' : between.KeepsDirectories fs') :
    fs.KeepsDirectories fs' :=
  ⟨h'.workingDirectory.trans h.workingDirectory,
    fun place hdirectory => h'.directory place (h.directory place hdirectory)⟩

lemma origin_eq (h : fs.KeepsDirectories fs') : fs'.origin = fs.origin := by
  funext path
  rw [origin, origin, h.workingDirectory]

/-- Every path leads to the same place. -/
lemma placeOf_eq (h : fs.KeepsDirectories fs') : fs'.placeOf = fs.placeOf := by
  funext path
  rw [placeOf, placeOf, h.origin_eq]

end KeepsDirectories

lemma walk_eq {fs : FileSystem} {path : Path} {place found : Place} {names : List (List Char)}
    (h : fs.walk path place names = .ok found) : found = names.foldl enter place := by
  induction names generalizing place with
  | nil => exact (Except.ok.inj h).symm
  | cons name rest ih =>
    rw [walk] at h
    split at h
    · split at h
      · cases h
      · exact ih h
    · cases h
    · cases h

lemma walk_of_keepsDirectories {fs fs' : FileSystem} (hkeeps : fs.KeepsDirectories fs')
    {path : Path} {place found : Place} {names : List (List Char)}
    (h : fs.walk path place names = .ok found) :
    fs'.walk path place names = .ok found := by
  induction names generalizing place with
  | nil => exact h
  | cons name rest ih =>
    rw [walk] at h ⊢
    split at h
    · rename_i hdirectory
      rw [hkeeps.directory place hdirectory]
      split at h
      · cases h
      · rename_i hshort
        simp only [if_neg hshort]
        exact ih h
    · cases h
    · cases h

/-- A path that is located leads to its place. -/
lemma locate_eq {fs : FileSystem} {path : Path} {place : Place} (h : fs.locate path = .ok place) :
    place = fs.placeOf path := by
  rw [locate] at h
  split at h
  · cases h
  · split at h
    · cases h
    · exact walk_eq h

/-- A path that was located is located as long as directories stay. -/
lemma locate_of_keepsDirectories {fs fs' : FileSystem} (hkeeps : fs.KeepsDirectories fs')
    {path : Path} {place : Place} (h : fs.locate path = .ok place) :
    fs'.locate path = .ok place := by
  rw [locate] at h ⊢
  split at h
  · cases h
  · rename_i hne
    rw [if_neg hne]
    split at h
    · cases h
    · rw [hkeeps.origin_eq]
      exact walk_of_keepsDirectories hkeeps h

lemma fetch_eq_ok {fs : FileSystem} {path : Path} {octets : List UInt8} :
    fs.fetch path = .ok octets ↔
      fs.locate path = .ok (fs.placeOf path) ∧ fs.node? (fs.placeOf path) = some (.file octets) ∧
        namesDirectory path = false := by
  rw [fetch, bind_eq_ok]
  constructor
  · rintro ⟨node, hnode, h⟩
    rw [find] at hnode
    obtain ⟨place, hplace, hnode⟩ := bind_eq_ok.mp hnode
    obtain rfl := locate_eq hplace
    cases hat : fs.node? (fs.placeOf path) with
    | none =>
      rw [hat] at hnode
      cases hnode
    | some found =>
      rw [hat] at hnode
      cases found with
      | directory =>
        cases hnode
        cases h
      | file held =>
        cases hname : namesDirectory path with
        | true =>
          simp only [hname, if_true] at hnode
          cases hnode
        | false =>
          simp only [hname, Bool.false_eq_true, if_false] at hnode
          cases hnode
          cases h
          exact ⟨hplace, rfl, rfl⟩
  · rintro ⟨hplace, hat, hname⟩
    refine ⟨.file octets, ?_, rfl⟩
    rw [find, hplace, ok_bind, hat]
    simp only [hname]
    rfl

/-- A file at the place that a path leads to is read. -/
lemma fetch_of_locate {fs : FileSystem} {path : Path} {place : Place} {octets : List UInt8}
    (hlocate : fs.locate path = .ok place) (hat : fs.node? place = some (.file octets))
    (hname : namesDirectory path = false) : fs.fetch path = .ok octets := by
  obtain rfl := locate_eq hlocate
  exact fetch_eq_ok.mpr ⟨hlocate, hat, hname⟩

lemma locateFile_eq_ok {fs : FileSystem} {path : Path} {place : Place} :
    fs.locateFile path = .ok place ↔
      fs.locate path = .ok place ∧ fs.node? place ≠ some .directory ∧
        namesDirectory path = false := by
  rw [locateFile, bind_eq_ok]
  constructor
  · rintro ⟨found, hfound, h⟩
    split at h
    · cases h
    · rename_i hat
      split at h
      · cases h
      · rename_i hname
        cases h
        exact ⟨hfound, hat, Bool.eq_false_iff.mpr hname⟩
  · rintro ⟨hplace, hat, hname⟩
    refine ⟨place, hplace, ?_⟩
    split
    · contradiction
    · simp only [hname]
      rfl

/-! ## One action -/

/-- The places at which an action may change a file. -/
def touched (fs : FileSystem) : Action → List Place
  | .makeDirectories _ => []
  | .write path _ => [fs.placeOf path]
  | .rename source target => [fs.placeOf source, fs.placeOf target]

lemma KeepsDirectories.touched_eq {fs fs' : FileSystem} (h : fs.KeepsDirectories fs') :
    fs'.touched = fs.touched := by
  funext action
  cases action <;> simp only [touched, h.placeOf_eq]

/-- Whether a place holds what it held, or a directory where nothing was. -/
def Undisturbed (fs fs' : FileSystem) (place : Place) : Prop :=
  fs'.node? place = fs.node? place ∨
    (fs.node? place = none ∧ fs'.node? place = some .directory)

namespace Undisturbed

variable {fs between fs' : FileSystem} {place : Place}

lemma refl (fs : FileSystem) (place : Place) : fs.Undisturbed fs place :=
  Or.inl rfl

lemma trans (h : fs.Undisturbed between place) (h' : between.Undisturbed fs' place) :
    fs.Undisturbed fs' place := by
  rcases h with hsame | ⟨hnone, hmade⟩
  · rwa [Undisturbed, hsame] at h'
  · refine Or.inr ⟨hnone, ?_⟩
    rcases h' with hsame | ⟨hnone', -⟩
    · rw [hsame, hmade]
    · rw [hmade] at hnone'
      cases hnone'

/-- What is there stays. -/
lemma node? (h : fs.Undisturbed fs' place) {node : Node} (hnode : fs.node? place = some node) :
    fs'.node? place = some node := by
  rcases h with hsame | ⟨hnone, -⟩
  · rw [hsame, hnode]
  · rw [hnode] at hnone
    cases hnone

end Undisturbed

/-- Making directories replaces nothing. -/
lemma undisturbed_of_makeDirectoriesFrom {fs fs' : FileSystem} {path : Path} {place : Place}
    {names : List (List Char)} {outcome : Except FileError Unit}
    (h : makeDirectoriesFrom path place names fs = (fs', outcome)) (other : Place) :
    fs.Undisturbed fs' other := by
  induction names generalizing fs place with
  | nil =>
    cases h
    exact Undisturbed.refl _ other
  | cons name rest ih =>
    rw [makeDirectoriesFrom] at h
    split at h
    · exact ih h
    · cases h
      exact Undisturbed.refl _ other
    · rename_i hfree
      split at h
      · cases h
        exact Undisturbed.refl _ other
      · refine Undisturbed.trans ?_ (ih h)
        by_cases hother : other = enter place name
        · rw [hother]
          exact Or.inr ⟨hfree, node?_put_self (by rw [hfree]; exact nofun)⟩
        · exact Or.inl (node?_put_of_ne hother)

/-- What a file is written to, and what it is after that. -/
lemma write_eq_ok {fs fs' : FileSystem} {path : Path} {octets : List UInt8}
    (h : fs.perform (.write path octets) = (fs', .ok ())) :
    fs.locateFile path = .ok (fs.placeOf path) ∧ fs' = fs.put (fs.placeOf path) (.file octets) := by
  rw [perform] at h
  split at h
  · rename_i place hplace
    cases h
    obtain rfl := locate_eq (locateFile_eq_ok.mp hplace).1
    exact ⟨hplace, rfl⟩
  · cases h

/-- What a file is moved from and to, and what it is after that. -/
lemma rename_eq_ok {fs fs' : FileSystem} {source target : Path}
    (h : fs.perform (.rename source target) = (fs', .ok ())) :
    ∃ octets, fs.fetch source = .ok octets ∧ fs.locateFile target = .ok (fs.placeOf target) ∧
      fs' = (fs.remove (fs.placeOf source)).put (fs.placeOf target) (.file octets) := by
  rw [perform] at h
  split at h
  · rename_i octets sourcePlace targetPlace hfetch hsource htarget
    cases h
    obtain rfl := locate_eq hsource
    obtain rfl := locate_eq (locateFile_eq_ok.mp htarget).1
    exact ⟨octets, hfetch, htarget, rfl⟩
  · cases h
  · cases h
  · cases h

/-- A write that fails changes nothing. -/
lemma write_eq_error {fs fs' : FileSystem} {path : Path} {octets : List UInt8} {reason : FileError}
    (h : fs.perform (.write path octets) = (fs', .error reason)) : fs' = fs := by
  rw [perform] at h
  split at h <;> cases h
  rfl

/-- A move that fails changes nothing. -/
lemma rename_eq_error {fs fs' : FileSystem} {source target : Path} {reason : FileError}
    (h : fs.perform (.rename source target) = (fs', .error reason)) : fs' = fs := by
  rw [perform] at h
  split at h <;> cases h <;> rfl

lemma workingDirectory_makeDirectoriesFrom (path : Path) (place : Place)
    (names : List (List Char)) (fs : FileSystem) :
    (makeDirectoriesFrom path place names fs).1.workingDirectory = fs.workingDirectory := by
  induction names generalizing fs place with
  | nil => rfl
  | cons name rest ih =>
    rw [makeDirectoriesFrom]
    split
    · exact ih _ _
    · rfl
    · split
      · rfl
      · exact ih _ _

/-- No action changes the working directory. -/
lemma workingDirectory_perform (fs : FileSystem) (action : Action) :
    (fs.perform action).1.workingDirectory = fs.workingDirectory := by
  cases action with
  | makeDirectories path =>
    rw [perform]
    split
    · rfl
    · exact workingDirectory_makeDirectoriesFrom path _ _ fs
  | write path octets =>
    rw [perform]
    split <;> rfl
  | rename source target =>
    rw [perform]
    split <;> rfl

/-- An action disturbs no place at which it does not touch a file, whether it succeeds or fails. -/
lemma undisturbed_of_perform {fs fs' : FileSystem} {action : Action}
    {outcome : Except FileError Unit} (h : fs.perform action = (fs', outcome)) {place : Place}
    (hplace : place ∉ fs.touched action) : fs.Undisturbed fs' place := by
  cases action with
  | makeDirectories path =>
    rw [perform] at h
    split at h
    · cases h
      exact Undisturbed.refl _ place
    · exact undisturbed_of_makeDirectoriesFrom h place
  | write path octets =>
    cases outcome with
    | error reason =>
      rw [write_eq_error h]
      exact Undisturbed.refl _ place
    | ok done =>
      obtain ⟨-, rfl⟩ := write_eq_ok h
      rw [touched, List.mem_singleton] at hplace
      exact Or.inl (node?_put_of_ne hplace)
  | rename source target =>
    cases outcome with
    | error reason =>
      rw [rename_eq_error h]
      exact Undisturbed.refl _ place
    | ok done =>
      obtain ⟨octets, -, -, rfl⟩ := rename_eq_ok h
      rw [touched, List.mem_cons, List.mem_singleton, not_or] at hplace
      exact Or.inl ((node?_put_of_ne hplace.2).trans (node?_remove_of_ne hplace.1))

/-- An action that succeeds touches no directory. -/
lemma not_mem_touched_of_directory {fs fs' : FileSystem} {action : Action}
    (h : fs.perform action = (fs', .ok ())) {place : Place}
    (hdirectory : fs.node? place = some .directory) : place ∉ fs.touched action := by
  cases action with
  | makeDirectories path => simp [touched]
  | write path octets =>
    obtain ⟨hlocate, -⟩ := write_eq_ok h
    rw [touched, List.mem_singleton]
    rintro rfl
    exact (locateFile_eq_ok.mp hlocate).2.1 hdirectory
  | rename source target =>
    obtain ⟨octets, hfetch, hlocate, -⟩ := rename_eq_ok h
    rw [touched, List.mem_cons, List.mem_singleton, not_or]
    constructor
    · rintro rfl
      rw [(fetch_eq_ok.mp hfetch).2.1] at hdirectory
      cases hdirectory
    · rintro rfl
      exact (locateFile_eq_ok.mp hlocate).2.1 hdirectory

/-- No action loses a directory. -/
lemma keepsDirectories_of_perform {fs fs' : FileSystem} {action : Action}
    {outcome : Except FileError Unit} (h : fs.perform action = (fs', outcome)) :
    fs.KeepsDirectories fs' := by
  refine ⟨by rw [← workingDirectory_perform fs action, h], fun place hdirectory => ?_⟩
  cases outcome with
  | ok done =>
    have huntouched := not_mem_touched_of_directory h hdirectory
    exact (undisturbed_of_perform h huntouched).node? hdirectory
  | error reason =>
    cases action with
    | makeDirectories path =>
      exact (undisturbed_of_perform h (by simp [touched])).node? hdirectory
    | write path octets => rwa [write_eq_error h]
    | rename source target => rwa [rename_eq_error h]

/-! ## Rulings -/

/-- An action that succeeds was carried out. -/
lemma attempt_eq_ok {fs fs' : FileSystem} {action : Action} {ruling : Ruling}
    (h : fs.attempt action ruling = (fs', .ok ())) :
    ruling = .carryOut ∧ fs.perform action = (fs', .ok ()) := by
  cases ruling with
  | carryOut => exact ⟨rfl, h⟩
  | refuse => cases h
  | breakOff part =>
    rw [attempt] at h
    split at h <;> cases h

/-- What an action that is broken off leaves is what is done of it. -/
lemma attempt_breakOff {fs fs' : FileSystem} {action : Action} {part : Nat}
    {outcome : Except FileError Unit} (h : fs.attempt action (.breakOff part) = (fs', outcome)) :
    fs' = (fs.performPart part action).1 := by
  rw [attempt] at h
  split at h <;> rename_i hpart <;> cases h <;> rw [hpart]

/-- A part of an action disturbs no more than the action. -/
lemma undisturbed_of_performPart (fs : FileSystem) (part : Nat) {action : Action} {place : Place}
    (hplace : place ∉ fs.touched action) : fs.Undisturbed (fs.performPart part action).1 place := by
  cases action with
  | makeDirectories path =>
    rw [performPart]
    split
    · exact Undisturbed.refl fs place
    · exact undisturbed_of_makeDirectoriesFrom rfl place
  | write path octets =>
    exact undisturbed_of_perform (rfl : fs.perform (.write path (octets.take part)) = _) hplace
  | rename source target => exact Undisturbed.refl fs place

lemma keepsDirectories_of_performPart (fs : FileSystem) (part : Nat) (action : Action) :
    fs.KeepsDirectories (fs.performPart part action).1 := by
  cases action with
  | makeDirectories path =>
    refine ⟨?_, fun place hdirectory =>
      (undisturbed_of_performPart fs part (by simp [touched])).node? hdirectory⟩
    rw [performPart]
    split
    · rfl
    · exact workingDirectory_makeDirectoriesFrom path _ _ fs
  | write path octets =>
    exact keepsDirectories_of_perform (rfl : fs.perform (.write path (octets.take part)) = _)
  | rename source target => exact KeepsDirectories.refl fs

/-- An action disturbs no place at which it does not touch a file, whatever is ruled about it. -/
lemma undisturbed_of_attempt {fs fs' : FileSystem} {action : Action} {ruling : Ruling}
    {outcome : Except FileError Unit} (h : fs.attempt action ruling = (fs', outcome))
    {place : Place} (hplace : place ∉ fs.touched action) : fs.Undisturbed fs' place := by
  cases ruling with
  | carryOut => exact undisturbed_of_perform h hplace
  | refuse =>
    cases h
    exact Undisturbed.refl fs place
  | breakOff part =>
    rw [attempt_breakOff h]
    exact undisturbed_of_performPart fs part hplace

/-- No action loses a directory, whatever is ruled about it. -/
lemma keepsDirectories_of_attempt {fs fs' : FileSystem} {action : Action} {ruling : Ruling}
    {outcome : Except FileError Unit} (h : fs.attempt action ruling = (fs', outcome)) :
    fs.KeepsDirectories fs' := by
  cases ruling with
  | carryOut => exact keepsDirectories_of_perform h
  | refuse =>
    cases h
    exact KeepsDirectories.refl fs
  | breakOff part =>
    rw [attempt_breakOff h]
    exact keepsDirectories_of_performPart fs part action

/-- A move that fails changes nothing, and it fails by itself unless it is not carried out. -/
lemma attempt_rename_eq_error {fs fs' : FileSystem} {source target : Path} {ruling : Ruling}
    {reason : FileError} (h : fs.attempt (.rename source target) ruling = (fs', .error reason)) :
    fs' = fs ∧
      (ruling ≠ .carryOut ∨ fs.perform (.rename source target) = (fs, .error reason)) := by
  cases ruling with
  | carryOut =>
    obtain rfl := rename_eq_error h
    exact ⟨rfl, Or.inr h⟩
  | refuse =>
    cases h
    exact ⟨rfl, Or.inl (by simp)⟩
  | breakOff part =>
    cases h
    exact ⟨rfl, Or.inl (by simp)⟩

/-! ## Actions in a row -/

/-- A row of actions ends with the first that fails. -/
lemma performAll_cons_cases {fs fs' : FileSystem} {action : Action} {rest : List Action}
    {rulings : List Ruling} {outcome : Except FileError Unit}
    (h : fs.performAll (action :: rest) rulings = (fs', outcome)) :
    (∃ between, fs.attempt action (rulings.headD .carryOut) = (between, .ok ()) ∧
        between.performAll rest rulings.tail = (fs', outcome)) ∨
      ∃ reason, outcome = .error reason ∧
        fs.attempt action (rulings.headD .carryOut) = (fs', .error reason) := by
  rw [performAll] at h
  split at h
  · rename_i between hfirst
    exact Or.inl ⟨between, hfirst, h⟩
  · rename_i after reason hfirst
    cases h
    exact Or.inr ⟨reason, rfl, hfirst⟩

lemma performAll_append_cases {fs fs' : FileSystem} {first rest : List Action}
    {rulings : List Ruling} {outcome : Except FileError Unit}
    (h : fs.performAll (first ++ rest) rulings = (fs', outcome)) :
    (∃ between, fs.performAll first rulings = (between, .ok ()) ∧
        between.performAll rest (rulings.drop first.length) = (fs', outcome)) ∨
      ∃ reason, outcome = .error reason ∧ fs.performAll first rulings = (fs', .error reason) := by
  induction first generalizing fs rulings with
  | nil => exact Or.inl ⟨fs, rfl, h⟩
  | cons action others ih =>
    rcases performAll_cons_cases h with ⟨next, hnext, h⟩ | ⟨reason, houtcome, hfirst⟩
    · rcases ih h with ⟨between, hothers, hrest⟩ | ⟨reason, houtcome, hothers⟩
      · refine Or.inl ⟨between, ?_, ?_⟩
        · rw [performAll, hnext]
          exact hothers
        · rwa [List.length_cons, ← List.drop_tail]
      · refine Or.inr ⟨reason, houtcome, ?_⟩
        rw [performAll, hnext]
        exact hothers
    · refine Or.inr ⟨reason, houtcome, ?_⟩
      rw [performAll, hfirst]

lemma performAll_cons_eq_ok {fs fs' : FileSystem} {action : Action} {rest : List Action} :
    fs.performAll (action :: rest) = (fs', .ok ()) ↔
      ∃ between, fs.perform action = (between, .ok ()) ∧
        between.performAll rest = (fs', .ok ()) := by
  constructor
  · intro h
    rcases performAll_cons_cases h with ⟨between, hfirst, hrest⟩ | ⟨reason, houtcome, -⟩
    · exact ⟨between, hfirst, hrest⟩
    · cases houtcome
  · rintro ⟨between, hfirst, hrest⟩
    have hattempt : fs.attempt action .carryOut = (between, .ok ()) := hfirst
    rw [performAll, List.headD_nil, hattempt]
    exact hrest

/-- **Actions that all succeed were all carried out.** -/
theorem performAll_of_rulings {fs fs' : FileSystem} {actions : List Action} {rulings : List Ruling}
    (h : fs.performAll actions rulings = (fs', .ok ())) :
    fs.performAll actions = (fs', .ok ()) := by
  induction actions generalizing fs rulings with
  | nil => exact h
  | cons action rest ih =>
    rcases performAll_cons_cases h with ⟨between, hfirst, hrest⟩ | ⟨reason, houtcome, -⟩
    · exact performAll_cons_eq_ok.mpr ⟨between, (attempt_eq_ok hfirst).2, ih hrest⟩
    · cases houtcome

lemma performAll_append_eq_ok {fs fs' : FileSystem} {first rest : List Action} :
    fs.performAll (first ++ rest) = (fs', .ok ()) ↔
      ∃ between, fs.performAll first = (between, .ok ()) ∧
        between.performAll rest = (fs', .ok ()) := by
  induction first generalizing fs with
  | nil =>
    constructor
    · exact fun h => ⟨fs, rfl, h⟩
    · rintro ⟨between, hfirst, h⟩
      cases hfirst
      exact h
  | cons action others ih =>
    rw [List.cons_append, performAll_cons_eq_ok]
    constructor
    · rintro ⟨next, hnext, h⟩
      obtain ⟨between, hothers, hrest⟩ := ih.mp h
      exact ⟨between, performAll_cons_eq_ok.mpr ⟨next, hnext, hothers⟩, hrest⟩
    · rintro ⟨between, hfirst, hrest⟩
      obtain ⟨next, hnext, hothers⟩ := performAll_cons_eq_ok.mp hfirst
      exact ⟨next, hnext, ih.mpr ⟨between, hothers, hrest⟩⟩

/-- **No directory is lost**, whether the actions succeed or one of them fails. -/
theorem directory_of_performAll {fs fs' : FileSystem} {actions : List Action}
    {rulings : List Ruling} {outcome : Except FileError Unit}
    (h : fs.performAll actions rulings = (fs', outcome)) : fs.KeepsDirectories fs' := by
  induction actions generalizing fs rulings with
  | nil =>
    cases h
    exact KeepsDirectories.refl _
  | cons action rest ih =>
    rcases performAll_cons_cases h with ⟨between, hfirst, hrest⟩ | ⟨reason, -, hfirst⟩
    · exact (keepsDirectories_of_attempt hfirst).trans (ih hrest)
    · exact keepsDirectories_of_attempt hfirst

/-- **A place is not disturbed** unless an action names it. -/
theorem undisturbed_of_performAll {fs fs' : FileSystem} {actions : List Action}
    {rulings : List Ruling} {outcome : Except FileError Unit}
    (h : fs.performAll actions rulings = (fs', outcome)) {place : Place}
    (hplace : place ∉ actions.flatMap fs.touched) : fs.Undisturbed fs' place := by
  induction actions generalizing fs rulings with
  | nil =>
    cases h
    exact Undisturbed.refl _ place
  | cons action rest ih =>
    rw [List.flatMap_cons, List.mem_append, not_or] at hplace
    rcases performAll_cons_cases h with ⟨between, hfirst, hrest⟩ | ⟨reason, -, hfirst⟩
    · rw [← (keepsDirectories_of_attempt hfirst).touched_eq] at hplace
      refine (undisturbed_of_attempt hfirst ?_).trans (ih hrest hplace.2)
      rw [← (keepsDirectories_of_attempt hfirst).touched_eq]
      exact hplace.1
    · exact undisturbed_of_attempt hfirst hplace.1

/-! ## What is read afterwards -/

/-- What was written is read. -/
lemma fetch_of_write {fs fs' : FileSystem} {path : Path} {octets : List UInt8}
    (h : fs.perform (.write path octets) = (fs', .ok ())) : fs'.fetch path = .ok octets := by
  have hkeeps := keepsDirectories_of_perform h
  obtain ⟨hlocate, rfl⟩ := write_eq_ok h
  obtain ⟨hplace, hat, hname⟩ := locateFile_eq_ok.mp hlocate
  exact fetch_of_locate (locate_of_keepsDirectories hkeeps hplace) (node?_put_self hat) hname

/-- What was moved is read where it was moved to. -/
lemma fetch_of_rename {fs fs' : FileSystem} {source target : Path} {octets : List UInt8}
    (h : fs.perform (.rename source target) = (fs', .ok ()))
    (hfetch : fs.fetch source = .ok octets) : fs'.fetch target = .ok octets := by
  have hkeeps := keepsDirectories_of_perform h
  obtain ⟨moved, hmoved, hlocate, rfl⟩ := rename_eq_ok h
  obtain rfl : octets = moved := by
    rw [hfetch] at hmoved
    exact Except.ok.inj hmoved
  obtain ⟨hplace, hat, hname⟩ := locateFile_eq_ok.mp hlocate
  have hfree : (fs.remove (fs.placeOf source)).node? (fs.placeOf target) ≠ some .directory := by
    intro hdirectory
    by_cases hsame : fs.placeOf target = fs.placeOf source
    · rw [fetch_eq_ok, ← hsame] at hfetch
      rw [node?_remove, if_pos hsame] at hdirectory
      split at hdirectory
      · rename_i hfixed
        rw [node?, if_pos hfixed] at hat
        exact hat rfl
      · cases hdirectory
    · rw [node?_remove_of_ne hsame] at hdirectory
      exact hat hdirectory
  exact fetch_of_locate (locate_of_keepsDirectories hkeeps hplace) (node?_put_self hfree) hname

/-- What is read at a path stays as long as directories do and the place is not disturbed. -/
lemma fetch_of_undisturbed {fs fs' : FileSystem} (hkeeps : fs.KeepsDirectories fs') {path : Path}
    (hplace : fs.Undisturbed fs' (fs.placeOf path)) {octets : List UInt8}
    (hfetch : fs.fetch path = .ok octets) : fs'.fetch path = .ok octets := by
  obtain ⟨hlocate, hat, hname⟩ := fetch_eq_ok.mp hfetch
  exact fetch_of_locate (locate_of_keepsDirectories hkeeps hlocate) (hplace.node? hat) hname

/-- **What is read at a path stays** unless an action names its place. -/
theorem fetch_of_performAll {fs fs' : FileSystem} {actions : List Action} {rulings : List Ruling}
    {outcome : Except FileError Unit} (h : fs.performAll actions rulings = (fs', outcome))
    {path : Path} {octets : List UInt8} (hfetch : fs.fetch path = .ok octets)
    (hplace : fs.placeOf path ∉ actions.flatMap fs.touched) :
    fs'.fetch path = .ok octets :=
  fetch_of_undisturbed (directory_of_performAll h) (undisturbed_of_performAll h hplace) hfetch

end FileSystem

end Retrieval.Archive
