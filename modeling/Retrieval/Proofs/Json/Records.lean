import Mathlib.Data.List.Forall2
import Mathlib.Tactic.Common
import Retrieval.Proofs.Json.Scanning

/-!
# Written records are parsed

The text of a record whose values are strings and numbers is parsed to the object with the same
members (`parse?_record`).  Scanning and parsing are two passes, but lexeme by lexeme they go
together: `advance` is what is left to do at some place of a text, and `advance_lexeme` moves it
past one lexeme.  A member is then read in four such moves, and the members by induction.
-/

namespace Retrieval.Json

/-- How far the lexemes of a text bring a reader. -/
def advance (progress : Progress) (text : List Char) : Option Progress :=
  (lexemesFrom .between text).bind (List.foldlM Progress.step? progress)

lemma parse?_eq (text : List Char) : parse? text = (advance {} text).bind Progress.result? := by
  rw [parse?, lexemes, advance]
  cases lexemesFrom .between text <;> rfl

/-- One lexeme at the start of a text moves the reader past it. -/
lemma advance_lexeme {progress next : Progress} {text rest : List Char} {lexeme : Lexeme}
    (hscan : lexemesFrom .between text = (lexemesFrom .between rest).map (lexeme :: ·))
    (hstep : progress.step? lexeme = some next) : advance progress text = advance next rest := by
  rw [advance, advance, hscan]
  cases lexemesFrom .between rest with
  | none => rfl
  | some lexemes =>
    rw [Option.map_some, Option.bind_some, Option.bind_some, List.foldlM_cons, hstep]
    rfl

lemma advance_blank {c : Char} (hc : isBlank c = true) (progress : Progress) (rest : List Char) :
    advance progress (c :: rest) = advance progress rest := by
  have hstep : Scan.between.step? c = some ([], .between) := by
    rw [Scan.step?, Scan.begin?, if_pos hc]
  rw [advance, advance, lexemesFrom_step hstep]

lemma advance_mark {c : Char} {lexeme : Lexeme}
    (hc : Scan.between.step? c = some ([lexeme], .between)) {progress next : Progress}
    (hstep : progress.step? lexeme = some next) (rest : List Char) :
    advance progress (c :: rest) = advance next rest :=
  advance_lexeme (lexemesFrom_end hc rest) hstep

lemma advance_quote {progress next : Progress} {text : List Char}
    (hstep : progress.step? (.string (some (String.ofList text))) = some next)
    (rest : List Char) : advance progress (quote text ++ rest) = advance next rest :=
  advance_lexeme (lexemesFrom_quote text rest) hstep

/-! ## Members -/

/-- A written value that is a single lexeme. -/
inductive Scalar : List Char → Json → Prop
  | string (text : List Char) : Scalar (quote text) (.string (some (String.ofList text)))
  | number (n : Nat) : Scalar (whole n) (.number (whole n))

/-- A scalar completes a value, if something follows that cannot belong to a number. -/
lemma Scalar.advance {value : List Char} {json : Json} (h : Scalar value json)
    (opened : List Container) {c : Char} (hc : isAtomic c = false) (rest : List Char) :
    Json.advance ⟨.value, opened, none⟩ (value ++ c :: rest)
      = Json.advance (.complete opened json) (c :: rest) := by
  cases h with
  | string text => exact advance_quote rfl (c :: rest)
  | number n => exact advance_lexeme (lexemesFrom_whole n hc rest) rfl

/-- A member that was read. -/
lemma advance_field {due : Due} (hdue : due = .firstKey ∨ due = .key) {name : String}
    {value : List Char} {json : Json} (hvalue : Scalar value json)
    (members : List (Option String × Json)) {c : Char} (hc : isAtomic c = false)
    (rest : List Char) :
    advance ⟨due, [.object members none], none⟩ (field name value ++ c :: rest)
      = advance ⟨.separator, [.object ((some name, json) :: members) none], none⟩ (c :: rest) := by
  have hkey : (⟨due, [.object members none], none⟩ : Progress).step?
      (.string (some (String.ofList name.toList)))
        = some ⟨.colon, [.object members (some name)], none⟩ := by
    rw [String.ofList_toList]
    rcases hdue with rfl | rfl <;> rfl
  have htext : field name value ++ c :: rest
      = ' ' :: ' ' :: (quote name.toList ++ ':' :: ' ' :: (value ++ c :: rest)) := by
    simp [field]
  have hcolon : Scan.between.step? ':' = some ([.colon], .between) := rfl
  rw [htext, advance_blank rfl, advance_blank rfl, advance_quote hkey,
    advance_mark hcolon rfl, advance_blank rfl, hvalue.advance _ hc]
  rfl

/-! ## Records -/

/-- The fields of a record and the members that they are written for. -/
abbrev Written : List (String × List Char) → List (Option String × Json) → Prop :=
  List.Forall₂ fun field member => member.1 = some field.1 ∧ Scalar field.2 member.2

lemma intercalate_cons {α : Type} (separator first : List α) (others : List (List α)) :
    separator.intercalate (first :: others)
      = first ++ others.flatMap (separator ++ ·) := by
  induction others generalizing first with
  | nil => simp [List.intercalate]
  | cons second others ih =>
    rw [List.flatMap_cons, List.append_assoc, ← ih]
    simp [List.intercalate]

/-- The text of a record behind its first field. -/
def behind (fields : List (String × List Char)) : List Char :=
  (fields.map fun f => field f.1 f.2).flatMap ([',', '\n'] ++ ·) ++ ['\n', '\x7d']

lemma behind_cons (first : String × List Char) (others : List (String × List Char)) :
    behind (first :: others) = ',' :: '\n' :: (field first.1 first.2 ++ behind others) := by
  simp [behind]

/-- What follows a value in a record cannot belong to a number. -/
lemma exists_behind (fields : List (String × List Char)) :
    ∃ c rest, behind fields = c :: rest ∧ isAtomic c = false := by
  cases fields with
  | nil => exact ⟨'\n', ['\x7d'], rfl, by decide⟩
  | cons first others => exact ⟨',', _, behind_cons first others, by decide⟩

/-- A field is read in front of what is behind it. -/
lemma advance_field_behind {due : Due} (hdue : due = .firstKey ∨ due = .key) {name : String}
    {value : List Char} {json : Json} (hvalue : Scalar value json)
    (members : List (Option String × Json)) (others : List (String × List Char)) :
    advance ⟨due, [.object members none], none⟩ (field name value ++ behind others)
      = advance ⟨.separator, [.object ((some name, json) :: members) none], none⟩
          (behind others) := by
  obtain ⟨c, rest, hrest, hc⟩ := exists_behind others
  rw [hrest, advance_field hdue hvalue members hc]

/-- The members behind the first one, and the end of the record. -/
lemma advance_behind {fields : List (String × List Char)} {members : List (Option String × Json)}
    (h : Written fields members) (before : List (Option String × Json)) :
    advance ⟨.separator, [.object before none], none⟩ (behind fields)
      = some ⟨.separator, [], some (.object (before.reverse ++ members))⟩ := by
  induction h generalizing before with
  | nil =>
    rw [List.append_nil]
    rfl
  | cons hfirst hothers ih =>
    rename_i first member others members
    obtain ⟨key, json⟩ := member
    obtain ⟨rfl, hvalue⟩ := hfirst
    have hcomma : Scan.between.step? ',' = some ([.comma], .between) := rfl
    rw [behind_cons, advance_mark hcomma rfl, advance_blank rfl,
      advance_field_behind (Or.inr rfl) hvalue, ih, List.reverse_cons, List.append_assoc,
      List.singleton_append]

/-- **A written record is parsed to its members.** -/
theorem parse?_record {fields : List (String × List Char)} {members : List (Option String × Json)}
    (hne : fields ≠ []) (h : Written fields members) :
    parse? (record fields) = some (.object members) := by
  cases h with
  | nil => exact absurd rfl hne
  | cons hfirst hothers =>
    rename_i first member others members
    obtain ⟨key, json⟩ := member
    obtain ⟨rfl, hvalue⟩ := hfirst
    have htext : record (first :: others)
        = '{' :: '\n' :: (field first.1 first.2 ++ behind others) := by
      rw [record, List.map_cons, intercalate_cons, behind]
      simp only [List.cons_append, List.nil_append, List.append_assoc]
    have hopen : Scan.between.step? '{' = some ([.openObject], .between) := rfl
    rw [parse?_eq, htext, advance_mark hopen rfl, advance_blank rfl,
      advance_field_behind (Or.inl rfl) hvalue, advance_behind hothers]
    rfl

end Retrieval.Json
