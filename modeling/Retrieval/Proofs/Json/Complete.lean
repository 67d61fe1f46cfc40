import Mathlib.Tactic.Common
import Retrieval.Proofs.Json.Scanning

/-!
# A complete object cannot be continued

A text that begins as an object is parsed only if its last lexeme closes that object: until then
something is open (`Progress.IsOpen`), and afterwards no lexeme is taken.  A closing mark ends where
it stands, so the scan is not within a lexeme there, and what follows is scanned by itself.  Hence
of two texts that are both parsed, one of which continues the other, the longer one only has blanks
more (`isBlank_of_parse?`).  Numbers are not like that: `1` and `12` are both parsed.

Conversely a blank at the end of a text makes no difference to what it is parsed as, not even where
the text ends within a string or an atom (`parse?_append_blank`).
-/

namespace Retrieval.Json

/-! ## Lexemes of a part -/

/-- The scan of a text goes through any part at its start: the lexemes that end in it come first,
and the others follow from where the scan stands behind it. -/
lemma exists_lexemesFrom_append {scan : Scan} {text rest : List Char} {lexemes : List Lexeme}
    (h : lexemesFrom scan (text ++ rest) = some lexemes) :
    ∃ ended last others, lexemes = ended ++ others ∧ lexemesFrom last rest = some others ∧
      lexemesFrom scan text = (lexemesFrom last []).map (ended ++ ·) := by
  induction text generalizing scan lexemes with
  | nil => exact ⟨[], scan, lexemes, rfl, h, by simp⟩
  | cons c text ih =>
    rw [List.cons_append, lexemesFrom_cons, Option.bind_eq_some_iff] at h
    obtain ⟨first, hstep, h⟩ := h
    obtain ⟨tail, htail, rfl⟩ := Option.map_eq_some_iff.mp h
    obtain ⟨ended, last, others, rfl, hothers, htext⟩ := ih htail
    refine ⟨first.1 ++ ended, last, others, (List.append_assoc ..).symm, hothers, ?_⟩
    rw [lexemesFrom_cons, hstep, Option.bind_some, htext]
    simp [Function.comp_def]

/-- Only a blank between lexemes neither ends a lexeme nor leads into one. -/
lemma isBlank_of_step? {scan : Scan} {c : Char} (h : scan.step? c = some ([], .between)) :
    scan = .between ∧ isBlank c = true := by
  cases scan with
  | between =>
    rw [Scan.step?, Scan.begin?] at h
    split at h
    · rename_i hc
      exact ⟨rfl, hc⟩
    · split at h
      · cases h
      · split at h
        · cases h
        · obtain ⟨lexeme, -, hlexeme⟩ := Option.map_eq_some_iff.mp h
          cases hlexeme
  | atom read =>
    rw [Scan.step?] at h
    split at h
    · cases h
    · obtain ⟨lexeme, -, hlexeme⟩ := Option.bind_eq_some_iff.mp h
      obtain ⟨begun, -, hbegun⟩ := Option.bind_eq_some_iff.mp hlexeme
      cases hbegun
  | string content =>
    rw [Scan.step?] at h
    split_ifs at h <;> cases h
  | escape content =>
    rw [Scan.step?] at h
    split at h
    · cases h
    · obtain ⟨letter, -, hletter⟩ := Option.map_eq_some_iff.mp h
      cases hletter
  | unit content missing value =>
    obtain ⟨digit, -, hdigit⟩ := Option.bind_eq_some_iff.mp h
    dsimp only at hdigit
    split at hdigit <;> cases hdigit

/-- A text without lexemes is blank. -/
lemma isBlank_of_lexemesFrom {scan : Scan} {text : List Char}
    (h : lexemesFrom scan text = some []) : scan = .between ∧ ∀ c ∈ text, isBlank c = true := by
  induction text generalizing scan with
  | nil =>
    cases scan with
    | between => exact ⟨rfl, fun c hc => absurd hc List.not_mem_nil⟩
    | atom read => simp [lexemesFrom] at h
    | string content => cases h
    | escape content => cases h
    | unit content missing value => cases h
  | cons c rest ih =>
    rw [lexemesFrom_cons, Option.bind_eq_some_iff] at h
    obtain ⟨⟨ended, next⟩, hstep, h⟩ := h
    obtain ⟨others, hothers, h⟩ := Option.map_eq_some_iff.mp h
    obtain ⟨rfl, rfl⟩ := List.append_eq_nil_iff.mp h
    obtain ⟨rfl, hblank⟩ := ih hothers
    obtain ⟨rfl, hc⟩ := isBlank_of_step? hstep
    exact ⟨rfl, List.forall_mem_cons.mpr ⟨hc, hblank⟩⟩

/-- A blank at the end of a text is no part of a lexeme: it ends an atom, and within a string it
leaves the string without an end. -/
lemma lexemesFrom_append_blank {c : Char} (hc : isBlank c = true) (scan : Scan)
    (text : List Char) : lexemesFrom scan (text ++ [c]) = lexemesFrom scan text := by
  induction text generalizing scan with
  | nil =>
    rw [List.nil_append, lexemesFrom_cons]
    have hblank : c = ' ' ∨ c = '\n' ∨ c = '\t' ∨ c = '\r' := by simpa [isBlank, or_assoc] using hc
    cases scan with
    | between => simp [Scan.step?, Scan.begin?, hc, lexemesFrom]
    | atom read =>
      have hatomic : isAtomic c = false := by rcases hblank with rfl | rfl | rfl | rfl <;> rfl
      cases hread : atom? read.reverse <;>
        simp [Scan.step?, Scan.begin?, hc, hatomic, hread, lexemesFrom]
    | string content => rcases hblank with rfl | rfl | rfl | rfl <;> rfl
    | escape content => rcases hblank with rfl | rfl | rfl | rfl <;> rfl
    | unit content missing value => rcases hblank with rfl | rfl | rfl | rfl <;> rfl
  | cons first rest ih => simp only [List.cons_append, lexemesFrom_cons, ih]

/-! ## The end of what is open -/

/-- Whether a lexeme ends an array or an object. -/
def Lexeme.IsClosing (lexeme : Lexeme) : Prop :=
  lexeme = .closeArray ∨ lexeme = .closeObject

/-- At the end of a text the scan stands between lexemes or in an atom. -/
lemma lexemesFrom_nil {scan : Scan} {lexemes : List Lexeme}
    (h : lexemesFrom scan [] = some lexemes) :
    scan = .between ∧ lexemes = [] ∨ ∃ lexeme, lexemes = [lexeme] ∧ ¬ lexeme.IsClosing := by
  cases scan with
  | between =>
    cases h
    exact Or.inl ⟨rfl, rfl⟩
  | atom read =>
    obtain ⟨lexeme, hatom, rfl⟩ := Option.map_eq_some_iff.mp h
    refine Or.inr ⟨lexeme, rfl, ?_⟩
    rw [atom?] at hatom
    split_ifs at hatom <;> cases hatom <;> simp [Lexeme.IsClosing]
  | string content => cases h
  | escape content => cases h
  | unit content missing value => cases h

namespace Progress

/-- Whether something is open that has to be closed. -/
structure IsOpen (progress : Progress) : Prop where
  opened : progress.opened ≠ []
  result : progress.result? = none

lemma isOpen_complete {opened : List Container} (h : opened ≠ []) (value : Json) :
    (complete opened value).IsOpen := by
  cases opened with
  | nil => exact absurd rfl h
  | cons container rest =>
    cases container with
    | array items => exact ⟨List.cons_ne_nil _ _, rfl⟩
    | object members key? => exact ⟨List.cons_ne_nil _ _, rfl⟩

lemma isOpen_of_begin? {opened : List Container} (h : opened ≠ []) {lexeme : Lexeme}
    {next : Progress} (hbegin : begin? opened lexeme = some next) : next.IsOpen := by
  cases lexeme with
  | openArray | openObject =>
    cases hbegin
    exact ⟨List.cons_ne_nil _ _, rfl⟩
  | null | bool | number | string =>
    cases hbegin
    exact isOpen_complete h _
  | closeArray | closeObject | comma | colon => cases hbegin

/-- What is closed leaves something open, or is the value of the text. -/
lemma complete_cases (opened : List Container) (value : Json) :
    (complete opened value).IsOpen ∨ ∃ result, complete opened value = complete [] result := by
  by_cases h : opened = []
  · exact Or.inr ⟨value, by rw [h]⟩
  · exact Or.inl (isOpen_complete h value)

/-- **One lexeme**: where something is open, something stays open, or the lexeme closes the last
that is. -/
lemma isOpen_or_complete_of_step? {progress next : Progress} {lexeme : Lexeme}
    (h : progress.IsOpen) (hstep : progress.step? lexeme = some next) :
    next.IsOpen ∨ lexeme.IsClosing ∧ ∃ value, next = complete [] value := by
  obtain ⟨due, opened, result?⟩ := progress
  have hopened : opened ≠ [] := h.opened
  unfold step? at hstep
  -- one case for each arm of the step, in their order
  split at hstep
  all_goals dsimp only at *
  · exact Or.inl (isOpen_of_begin? hopened hstep)
  · cases hstep
    exact (complete_cases _ _).imp_right fun hlast => ⟨Or.inl rfl, hlast⟩
  · exact Or.inl (isOpen_of_begin? hopened hstep)
  · cases hstep
    exact (complete_cases _ _).imp_right fun hlast => ⟨Or.inr rfl, hlast⟩
  · cases hstep
    exact Or.inl ⟨List.cons_ne_nil _ _, rfl⟩
  · cases hstep
    exact Or.inl ⟨List.cons_ne_nil _ _, rfl⟩
  · cases hstep
    exact Or.inl ⟨hopened, rfl⟩
  · cases hstep
    exact Or.inl ⟨List.cons_ne_nil _ _, rfl⟩
  · cases hstep
    exact (complete_cases _ _).imp_right fun hlast => ⟨Or.inl rfl, hlast⟩
  · cases hstep
    exact Or.inl ⟨List.cons_ne_nil _ _, rfl⟩
  · cases hstep
    exact (complete_cases _ _).imp_right fun hlast => ⟨Or.inr rfl, hlast⟩
  · cases hstep

/-- Behind the value of a text no lexeme is taken. -/
lemma step?_complete (value : Json) (lexeme : Lexeme) :
    (complete [] value).step? lexeme = none := rfl

/-- **A run of lexemes** leaves something open unless it ends where the last that is open is
closed. -/
lemma isOpen_or_complete_of_foldlM {progress last : Progress} {lexemes : List Lexeme}
    (h : progress.IsOpen) (hrun : lexemes.foldlM step? progress = some last) :
    last.IsOpen ∨ ∃ before closing value, lexemes = before ++ [closing] ∧ closing.IsClosing ∧
      last = complete [] value := by
  induction lexemes generalizing progress with
  | nil =>
    cases hrun
    exact Or.inl h
  | cons lexeme rest ih =>
    rw [List.foldlM_cons, Option.bind_eq_bind, Option.bind_eq_some_iff] at hrun
    obtain ⟨next, hstep, hrest⟩ := hrun
    rcases isOpen_or_complete_of_step? h hstep with hopen | ⟨hclosing, value, rfl⟩
    · refine (ih hopen hrest).imp_right ?_
      rintro ⟨before, closing, value, rfl, hclosing, rfl⟩
      exact ⟨lexeme :: before, closing, value, rfl, hclosing, rfl⟩
    · cases rest with
      | nil =>
        cases hrest
        exact Or.inr ⟨[], lexeme, value, rfl, hclosing, rfl⟩
      | cons other others =>
        rw [List.foldlM_cons, step?_complete] at hrest
        cases hrest

end Progress

/-! ## Texts that begin as an object -/

lemma parse?_eq_some {text : List Char} {value : Json} :
    parse? text = some value ↔ ∃ lexemes, lexemesFrom .between text = some lexemes ∧
      ∃ last, lexemes.foldlM Progress.step? {} = some last ∧ last.result? = some value := by
  simp only [parse?, ofLexemes?, Json.lexemes, Option.bind_eq_bind, Option.bind_eq_some_iff]

/-- A text is parsed as it is with a blank behind it. -/
lemma parse?_append_blank {c : Char} (hc : isBlank c = true) (text : List Char) :
    parse? (text ++ [c]) = parse? text := by
  rw [parse?, lexemes, lexemesFrom_append_blank hc, ← lexemes, ← parse?]

/-- An object that is parsed is closed by its last lexeme. -/
lemma exists_closing {lexemes : List Lexeme} {last : Progress} {value : Json}
    (hrun : (Lexeme.openObject :: lexemes).foldlM Progress.step? {} = some last)
    (hvalue : last.result? = some value) :
    ∃ before closing result, Lexeme.openObject :: lexemes = before ++ [closing] ∧
      closing.IsClosing ∧ last = .complete [] result := by
  rw [List.foldlM_cons, Option.bind_eq_bind, Option.bind_eq_some_iff] at hrun
  obtain ⟨next, hstep, hrest⟩ := hrun
  cases hstep
  rcases Progress.isOpen_or_complete_of_foldlM ⟨List.cons_ne_nil _ _, rfl⟩ hrest with hopen | hlast
  · rw [hopen.result] at hvalue
    cases hvalue
  · obtain ⟨before, closing, result, rfl, hclosing, rfl⟩ := hlast
    exact ⟨.openObject :: before, closing, result, rfl, hclosing, rfl⟩

/-- **What follows an object that is parsed is blank**, if all of it is parsed too. -/
theorem isBlank_of_parse? {text rest : List Char} {value other : Json}
    (h : parse? ('{' :: text) = some value) (hmore : parse? ('{' :: text ++ rest) = some other) :
    ∀ c ∈ rest, isBlank c = true := by
  obtain ⟨lexemes, hlexemes, last, hrun, hvalue⟩ := parse?_eq_some.mp h
  obtain ⟨all, hall, final, hfinal, -⟩ := parse?_eq_some.mp hmore
  obtain ⟨ended, scan, others, rfl, hothers, htext⟩ := exists_lexemesFrom_append hall
  rw [hlexemes] at htext
  obtain ⟨left, hleft, rfl⟩ := Option.map_eq_some_iff.mp htext.symm
  have hopen : Scan.between.step? '{' = some ([.openObject], .between) := rfl
  rw [lexemesFrom_end hopen] at hlexemes
  obtain ⟨inner, -, hinner⟩ := Option.map_eq_some_iff.mp hlexemes
  rw [← hinner] at hrun
  obtain ⟨before, closing, result, hbefore, hclosing, rfl⟩ := exists_closing hrun hvalue
  rw [hinner] at hrun hbefore
  rcases lexemesFrom_nil hleft with ⟨rfl, rfl⟩ | ⟨lexeme, rfl, hlexeme⟩
  · -- the reader has its value, so there are no lexemes behind it
    rw [List.append_nil] at hrun
    rw [List.foldlM_append, hrun, Option.bind_eq_bind, Option.bind_some] at hfinal
    cases others with
    | nil => exact (isBlank_of_lexemesFrom hothers).2
    | cons lexeme others =>
      rw [List.foldlM_cons, Progress.step?_complete] at hfinal
      cases hfinal
  · obtain ⟨-, hsame⟩ := List.append_inj' hbefore rfl
    cases hsame
    exact absurd hclosing hlexeme

end Retrieval.Json
