import Mathlib.Tactic.Common
import Retrieval.Corpus.Ingest
import Retrieval.Proofs.Json.Complete
import Retrieval.Proofs.Utf8

/-!
# Lines, and what they hold

Octets are lines that line feeds end, one after the other, and a rest without a line feed behind
them; `Lined octets ended rest` says so.  All octets can be taken apart in this way
(`exists_lined`), and then their lines are known: the ended ones lose a carriage return, and the
rest is a line of its own unless it is empty (`Lined.lines_eq`).

A line feed between two pieces therefore parts their lines, and changes one of them at most: it ends
the rest of the first piece, which loses a carriage return, or is an empty line more
(`Lined.lines_append`).  Neither makes a difference to the records.  An empty line holds none, and a
line holds the same with and without a carriage return at its end, because that is a character by
itself in UTF-8, white space to the test for blank lines, and a blank to JSON
(`record?_withoutReturn`).
-/

namespace Retrieval

/-! ## Taking octets apart -/

/-- A line that a line feed ends, without the carriage return before it. -/
def withoutReturn (line : List UInt8) : List UInt8 :=
  endedLine line.reverse

/-- Octets as lines that are ended and what stands behind the last of them. -/
structure Lined (octets : List UInt8) (ended : List (List UInt8)) (rest : List UInt8) :
    Prop where
  octets_eq : octets = ended.flatMap (· ++ [lineFeed]) ++ rest
  notMem_ended : ∀ line ∈ ended, lineFeed ∉ line
  notMem_rest : lineFeed ∉ rest

/-- All octets can be taken apart. -/
theorem exists_lined (octets : List UInt8) : ∃ ended rest, Lined octets ended rest := by
  induction octets with
  | nil => exact ⟨[], [], rfl, fun _ h => absurd h List.not_mem_nil, List.not_mem_nil⟩
  | cons octet others ih =>
    obtain ⟨ended, rest, hothers, hended, hrest⟩ := ih
    by_cases hfeed : octet = lineFeed
    · refine ⟨[] :: ended, rest, ?_, List.forall_mem_cons.mpr ⟨List.not_mem_nil, hended⟩, hrest⟩
      rw [hfeed, hothers]
      rfl
    · have hfront : ∀ line, lineFeed ∉ line → lineFeed ∉ octet :: line := fun line hline h =>
        (List.mem_cons.mp h).elim (fun heq => hfeed heq.symm) hline
      cases ended with
      | nil => exact ⟨[], octet :: rest, by rw [hothers]; rfl, hended, hfront rest hrest⟩
      | cons first ended =>
        obtain ⟨hfirst, hended⟩ := List.forall_mem_cons.mp hended
        exact ⟨(octet :: first) :: ended, rest, by rw [hothers]; rfl,
          List.forall_mem_cons.mpr ⟨hfront first hfirst, hended⟩, hrest⟩

/-! ## The lines -/

lemma linesFrom_append {line : List UInt8} (h : lineFeed ∉ line) (read more : List UInt8) :
    linesFrom read (line ++ more) = linesFrom (line.reverse ++ read) more := by
  induction line generalizing read with
  | nil => rfl
  | cons octet rest ih =>
    obtain ⟨hoctet, hrest⟩ := List.ne_and_not_mem_of_not_mem_cons h
    rw [List.cons_append, linesFrom, if_neg (Ne.symm hoctet), ih hrest, List.reverse_cons,
      List.append_assoc, List.singleton_append]

/-- A line that a line feed ends comes first. -/
lemma lines_append_cons {line : List UInt8} (h : lineFeed ∉ line) (more : List UInt8) :
    lines (line ++ lineFeed :: more) = withoutReturn line :: lines more := by
  rw [lines, linesFrom_append h, linesFrom, if_pos rfl, List.append_nil]
  rfl

/-- Octets without a line feed are one line, or none. -/
lemma lines_of_notMem {rest : List UInt8} (h : lineFeed ∉ rest) :
    lines rest = if rest = [] then [] else [rest] := by
  have hrun := linesFrom_append h [] []
  rw [List.append_nil, List.append_nil] at hrun
  rw [lines, hrun, linesFrom]
  simp

lemma lines_ended {ended : List (List UInt8)} (h : ∀ line ∈ ended, lineFeed ∉ line)
    (more : List UInt8) :
    lines (ended.flatMap (· ++ [lineFeed]) ++ more)
      = ended.map withoutReturn ++ lines more := by
  induction ended with
  | nil => rfl
  | cons first others ih =>
    obtain ⟨hfirst, hothers⟩ := List.forall_mem_cons.mp h
    rw [List.flatMap_cons, List.append_assoc, List.append_assoc, List.singleton_append,
      lines_append_cons hfirst, ih hothers, List.map_cons, List.cons_append]

namespace Lined

variable {octets rest : List UInt8} {ended : List (List UInt8)}

/-- **The lines of octets.** -/
theorem lines_eq (h : Lined octets ended rest) :
    lines octets = ended.map withoutReturn ++ if rest = [] then [] else [rest] := by
  rw [h.octets_eq, lines_ended h.notMem_ended, lines_of_notMem h.notMem_rest]

/-- **A line feed between octets** ends the last line of the first ones. -/
theorem lines_append (h : Lined octets ended rest) (more : List UInt8) :
    lines (octets ++ lineFeed :: more)
      = ended.map withoutReturn ++ withoutReturn rest :: lines more := by
  rw [h.octets_eq, List.append_assoc, lines_ended h.notMem_ended,
    lines_append_cons h.notMem_rest]

end Lined

example : lines "a\r\n\nb\r".toUTF8.toList
    = ["a".toUTF8.toList, [], "b\r".toUTF8.toList] := by decide +kernel

/-! ## What a line holds -/

/-- A line that is ended stays what it is or loses a carriage return. -/
lemma withoutReturn_cases (line : List UInt8) :
    withoutReturn line = line ∨ line = withoutReturn line ++ [carriageReturn] := by
  rcases List.eq_nil_or_concat line with rfl | ⟨before, last, rfl⟩
  · exact Or.inl rfl
  · rw [List.concat_eq_append, withoutReturn, List.reverse_append, List.reverse_singleton,
      List.singleton_append, endedLine]
    split
    · rename_i hreturn
      rw [hreturn, List.reverse_reverse]
      exact Or.inr rfl
    · rw [List.reverse_cons, List.reverse_reverse]
      exact Or.inl rfl

namespace Corpus

lemma record?_eq_ok {line : List UInt8} {found : Option Record} :
    record? line = .ok found ↔ ∃ text, Utf8.decode line = .ok text ∧
      (if Text.isBlank text then some none else (Record.parse? text).map some) = some found := by
  rw [record?]
  cases Utf8.decode line with
  | error reason => simp
  | ok text =>
    cases hblank : Text.isBlank text <;> cases hrecord : Record.parse? text <;>
      simp [hblank, hrecord]

/-- A record is read from a line with a JSON blank behind it as from the line. -/
lemma Record.parse?_append_blank {c : Char} (hc : Json.isBlank c = true) (text : List Char) :
    Record.parse? (text ++ [c]) = Record.parse? text := by
  rw [Record.parse?, Json.parse?_append_blank hc, ← Record.parse?]

lemma record?_append_return {line : List UInt8} {found : Option Record} :
    record? (line ++ [carriageReturn]) = .ok found ↔ record? line = .ok found := by
  have hdecode : ∀ text, Utf8.decode (line ++ [carriageReturn]) = .ok text ↔
      ∃ before, Utf8.decode line = .ok before ∧ text = before ++ ['\r'] := fun text =>
    Utf8.decode_append_ascii (by decide)
  have hblank : ∀ text, Text.isBlank (text ++ ['\r']) = Text.isBlank text := by
    intro text
    rw [Text.isBlank, List.all_append]
    exact Bool.and_true _
  simp only [record?_eq_ok, hdecode]
  constructor
  · rintro ⟨_, ⟨text, htext, rfl⟩, hfound⟩
    rw [hblank, Record.parse?_append_blank rfl] at hfound
    exact ⟨text, htext, hfound⟩
  · rintro ⟨text, htext, hfound⟩
    refine ⟨_, ⟨text, htext, rfl⟩, ?_⟩
    rw [hblank, Record.parse?_append_blank rfl]
    exact hfound

/-- **The carriage return makes no difference** to whether a line can be read, and to what it
holds. -/
theorem record?_withoutReturn {line : List UInt8} {found : Option Record} :
    record? (withoutReturn line) = .ok found ↔ record? line = .ok found := by
  rcases withoutReturn_cases line with hsame | hreturn
  · rw [hsame]
  · conv_rhs => rw [hreturn]
    exact record?_append_return.symm

end Corpus

end Retrieval
