import Mathlib.Tactic.Common
import Retrieval.Proofs.Rank.Ranking

/-!
# When the window scan overflows

A window is measured in 32 bits, and there is one whose size does not fit: the window of all
positions, from 0 to the last one.  Positions that are counted from 1 never give it, but a store
that is read from a file may hold any.  The scan stops exactly if it comes to that window
(`coveringWindow?_eq_error`): if it stands at an occurrence at the last position, every term has
occurred, and some term so far only at position 0.  That the term may still follow at the last
position does not help, so the order of the terms counts.

A ranking stops exactly if the scan over some document does (`rank_eq_error`).
-/

namespace Retrieval.Rank

/-- The greatest number that a position can be. -/
def lastPosition : UInt32 := 0xFFFFFFFF

/-! ## One window -/

/-- Only the window of all positions has a size that does not fit. -/
lemma span_eq_error {start stop : UInt32} (hle : start ≤ stop) {fault : Fault} :
    span start stop = .error fault ↔
      fault = .additionOverflow ∧ start = 0 ∧ stop = lastPosition := by
  have hdiff : (stop - start).toNat = stop.toNat - start.toNat := UInt32.toNat_sub_of_le _ _ hle
  have hstop := stop.toNat_lt
  have hsize : UInt32.size = 2 ^ 32 := rfl
  have hlast : lastPosition.toNat = 2 ^ 32 - 1 := rfl
  rw [span_eq_checkedAdd hle, checkedAdd_eq_error, hdiff, UInt32.toNat_one, ← UInt32.toNat_inj,
    ← UInt32.toNat_inj, UInt32.toNat_zero, hlast]
  refine and_congr_right fun _ => ?_
  omega

/-! ## The scan -/

/-- Whether every term occurs, and some term only at position 0.  Then every cover of the
occurrences starts at 0. -/
def FromZero (visited : List Occurrence) (count : Nat) : Prop :=
  (∀ term < count, ∃ o ∈ visited, o.term = term) ∧
    ∃ term < count, ∀ o ∈ visited, o.term = term → o.position = 0

/-- The greatest start of a cover is 0 if every cover starts there. -/
lemma coverStart?_eq_zero {visited : List Occurrence} {last : List (Option UInt32)}
    (h : Latest visited last) : coverStart? last = some 0 ↔ FromZero visited last.length := by
  constructor
  · intro hzero
    obtain ⟨hoccurs, -, -⟩ := coverStart?_spec h hzero
    refine ⟨fun term hterm => ?_, ?_⟩
    · obtain ⟨o, ho, hsame, -⟩ := hoccurs term hterm
      exact ⟨o, ho, hsame⟩
    · obtain ⟨positions, rfl, hmem, -⟩ := coverStart?_eq_some.mp hzero
      obtain ⟨term, hterm⟩ := List.mem_iff_getElem?.mp hmem
      have hheld : (positions.map some)[term]? = some (some 0) := by
        rw [List.getElem?_map, hterm]
        rfl
      obtain ⟨hbelow, -⟩ := List.getElem?_eq_some_iff.mp hheld
      exact ⟨term, hbelow, fun o ho hsame => UInt32.le_zero_iff.mp (h.greatest hheld o ho hsame)⟩
  · rintro ⟨hoccurs, term, hterm, hzero⟩
    have hlast : last ≠ [] := List.length_pos_iff.mp (Nat.zero_lt_of_lt hterm)
    cases hstart : coverStart? last with
    | none =>
      obtain ⟨missing, hmissing⟩ := List.mem_iff_getElem?.mp (none_mem_of_coverStart? hlast hstart)
      obtain ⟨hbelow, -⟩ := List.getElem?_eq_some_iff.mp hmissing
      obtain ⟨o, ho, hsame⟩ := hoccurs missing hbelow
      exact absurd hsame (h.absent hmissing o ho)
    | some start =>
      obtain ⟨o, ho, hsame, hle⟩ := (coverStart?_spec h hstart).1 term hterm
      rw [hzero o ho hsame, UInt32.le_zero_iff] at hle
      rw [hle]

/-- A place in a list is its front or a place behind it. -/
lemma exists_split_cons {α : Type} {first : α} {rest : List α} {P : List α → α → Prop} :
    (∃ before item after, first :: rest = before ++ item :: after ∧ P before item) ↔
      P [] first ∨
        ∃ before item after, rest = before ++ item :: after ∧ P (first :: before) item := by
  constructor
  · rintro ⟨before, item, after, hsplit, h⟩
    cases before with
    | nil =>
      obtain ⟨rfl, rfl⟩ := List.cons.inj hsplit
      exact Or.inl h
    | cons head before =>
      obtain ⟨rfl, rfl⟩ := List.cons.inj hsplit
      exact Or.inr ⟨before, item, after, rfl, h⟩
  · rintro (h | ⟨before, item, after, rfl, h⟩)
    · exact ⟨[], first, rest, rfl, h⟩
    · exact ⟨first :: before, item, after, rfl, h⟩

/-- **When the scan stops**: at an occurrence at the last position, with every cover of what was
visited up to it starting at 0. -/
lemma visit_eq_error {visited rest : List Occurrence} {last : List (Option UInt32)}
    {best? : Option Window} (hlatest : Latest visited last)
    (hascending : (visited ++ rest).Pairwise (·.position ≤ ·.position)) {fault : Fault} :
    visit last best? rest = .error fault ↔ fault = .additionOverflow ∧
      ∃ before o after, rest = before ++ o :: after ∧ o.position = lastPosition ∧
        FromZero (visited ++ before ++ [o]) last.length := by
  induction rest generalizing visited last best? with
  | nil => simp [visit]
  | cons o rest ih =>
    rw [← List.singleton_append, ← List.append_assoc] at hascending
    have ho := position_le_of_ascending hascending
    have hlatest' := hlatest.visit ho
    have hlength : (last.set o.term (some o.position)).length = last.length := List.length_set
    have hzero := coverStart?_eq_zero hlatest'
    rw [hlength] at hzero
    have hrest : ∀ best? : Option Window,
        visit (last.set o.term (some o.position)) best? rest = .error fault ↔
          fault = .additionOverflow ∧ ∃ before other after, rest = before ++ other :: after ∧
            other.position = lastPosition ∧
            FromZero (visited ++ [o] ++ before ++ [other]) last.length := by
      intro best?
      rw [ih hlatest' hascending, hlength]
    have hshift : ∀ before other,
        visited ++ o :: before ++ [other] = visited ++ [o] ++ before ++ [other] := by simp
    -- the scan stops here, or it stops over the rest
    rw [exists_split_cons, visit, List.append_nil]
    simp only [hshift]
    cases hstart : coverStart? (last.set o.term (some o.position)) with
    | none =>
      have hnot : ¬ FromZero (visited ++ [o]) last.length := by
        rw [← hzero, hstart]
        exact fun hsome => by cases hsome
      simp only [hrest, hnot, and_false, false_or]
    | some start =>
      have hle := coverStart?_le hlatest' ho hstart
      have hfrom : FromZero (visited ++ [o]) last.length ↔ start = 0 := by
        rw [← hzero, hstart, Option.some.injEq]
      dsimp only
      rw [hfrom, bind_eq_error, span_eq_error hle]
      constructor
      · rintro (⟨rfl, hfirst, hlast⟩ | ⟨size, -, hlater⟩)
        · exact ⟨rfl, Or.inl ⟨hlast, hfirst⟩⟩
        · obtain ⟨hfault, hfound⟩ := (hrest _).mp hlater
          exact ⟨hfault, Or.inr hfound⟩
      · rintro ⟨rfl, ⟨hlast, hfirst⟩ | hlater⟩
        · exact Or.inl ⟨rfl, hfirst, hlast⟩
        · cases hspan : span start o.position with
          | error fault =>
            exact Or.inl ⟨rfl, ((span_eq_error hle).mp hspan).2⟩
          | ok size => exact Or.inr ⟨size, rfl, (hrest _).mpr ⟨rfl, hlater⟩⟩

/-! ## All occurrences -/

/-- The positions of each term that are visited when the scan stands at the last position of the
term `now`.  A term behind it is not yet visited there. -/
def seenAt (positions : List (List UInt32)) (now : Nat) : List (List UInt32) :=
  positions.mapIdx fun term own => own.filter fun p => p < lastPosition || term ≤ now

/-- Whether the scan comes to the window of all positions: when it stands at the last position of
some term, every term was seen, and some term only at position 0. -/
def Overflows (positions : List (List UInt32)) : Prop :=
  ∃ now own, positions[now]? = some own ∧ lastPosition ∈ own ∧
    [] ∉ seenAt positions now ∧ ∃ seen ∈ seenAt positions now, ∀ p ∈ seen, p = 0

/-- What is visited up to an occurrence is what is not greater. -/
lemma mem_visited_iff {positions : List (List UInt32)} {before after : List Occurrence}
    {o : Occurrence} (h : merged positions = before ++ o :: after) (other : Occurrence) :
    other ∈ before ++ [o] ↔ other ∈ merged positions ∧ other.le o = true := by
  have hpairwise := pairwise_merged positions
  rw [h, List.pairwise_append, List.pairwise_cons] at hpairwise
  obtain ⟨-, ⟨hafter, -⟩, hbefore⟩ := hpairwise
  rw [h, List.mem_append, List.mem_singleton, List.mem_append, List.mem_cons]
  constructor
  · rintro (hearlier | rfl)
    · exact ⟨Or.inl hearlier, hbefore other hearlier o List.mem_cons_self⟩
    · exact ⟨Or.inr (Or.inl rfl), Occurrence.le_iff_toNat.mpr (by omega)⟩
  · rintro ⟨hearlier | hsame | hlater, hle⟩
    · exact Or.inl hearlier
    · exact Or.inr hsame
    · -- what follows and is not greater is the same
      have hge := Occurrence.le_iff_toNat.mp (hafter other hlater)
      rw [Occurrence.le_iff_toNat] at hle
      have hposition : other.position = o.position := UInt32.toNat_inj.mp (by omega)
      have hterm : other.term = o.term := by omega
      cases other
      cases o
      rw [Occurrence.mk.injEq]
      exact Or.inr ⟨hposition, hterm⟩

/-- What was visited is what was seen of each term. -/
lemma exists_seenAt {positions : List (List UInt32)} {visited : List Occurrence} {now : Nat}
    (h : ∀ o, o ∈ visited ↔ o ∈ merged positions ∧ o.le ⟨lastPosition, now⟩ = true)
    {term : Nat} {seen : List UInt32} (hseen : (seenAt positions now)[term]? = some seen)
    (p : UInt32) : p ∈ seen ↔ ⟨p, term⟩ ∈ visited := by
  rw [seenAt, List.getElem?_mapIdx, Option.map_eq_some_iff] at hseen
  obtain ⟨own, hown, rfl⟩ := hseen
  have hlast : p.toNat ≤ lastPosition.toNat := by
    have := p.toNat_lt
    have hlast : lastPosition.toNat = 2 ^ 32 - 1 := rfl
    omega
  rw [h, mem_merged, Occurrence.le_iff_toNat, List.mem_filter, Bool.or_eq_true, decide_eq_true_iff,
    decide_eq_true_iff, UInt32.lt_iff_toNat_lt]
  simp only [hown, Option.some.injEq, exists_eq_left']
  refine and_congr_right fun _ => ?_
  omega

/-- Every cover of what was visited starts at 0 if every term was seen, and some only there. -/
lemma fromZero_iff {positions : List (List UInt32)} {visited : List Occurrence} {now : Nat}
    (h : ∀ o, o ∈ visited ↔ o ∈ merged positions ∧ o.le ⟨lastPosition, now⟩ = true) :
    FromZero visited positions.length ↔
      [] ∉ seenAt positions now ∧ ∃ seen ∈ seenAt positions now, ∀ p ∈ seen, p = 0 := by
  have hlength : (seenAt positions now).length = positions.length := List.length_mapIdx
  have hoccurrence : ∀ {o : Occurrence} {term}, o.term = term → o = ⟨o.position, term⟩ := by
    rintro o term rfl
    rfl
  rw [FromZero, ← hlength]
  refine and_congr ?_ ?_
  · constructor
    · intro hoccurs hempty
      obtain ⟨term, hterm⟩ := List.mem_iff_getElem?.mp hempty
      obtain ⟨hbelow, -⟩ := List.getElem?_eq_some_iff.mp hterm
      obtain ⟨o, ho, hsame⟩ := hoccurs term hbelow
      rw [hoccurrence hsame, ← exists_seenAt h hterm] at ho
      cases ho
    · intro hempty term hbelow
      have hterm := List.getElem?_eq_getElem hbelow
      obtain ⟨p, hp⟩ := List.exists_mem_of_ne_nil (seenAt positions now)[term]
        (fun hnil => hempty (hnil ▸ List.getElem_mem hbelow))
      exact ⟨⟨p, term⟩, (exists_seenAt h hterm p).mp hp, rfl⟩
  · constructor
    · rintro ⟨term, hbelow, hzero⟩
      have hterm := List.getElem?_eq_getElem hbelow
      refine ⟨(seenAt positions now)[term], List.getElem_mem hbelow, fun p hp => ?_⟩
      exact hzero ⟨p, term⟩ ((exists_seenAt h hterm p).mp hp) rfl
    · rintro ⟨seen, hseen, hzero⟩
      obtain ⟨term, hterm⟩ := List.mem_iff_getElem?.mp hseen
      obtain ⟨hbelow, -⟩ := List.getElem?_eq_some_iff.mp hterm
      refine ⟨term, hbelow, fun o ho hsame => hzero o.position ?_⟩
      rw [exists_seenAt h hterm, ← hoccurrence hsame]
      exact ho

/-- A scan that comes to the window of all positions has lists of positions, and none is empty. -/
lemma Overflows.ne_nil {positions : List (List UInt32)} (h : Overflows positions) :
    positions ≠ [] ∧ [] ∉ positions := by
  obtain ⟨now, own, hown, -, hseen, -⟩ := h
  refine ⟨List.ne_nil_of_mem (List.mem_of_getElem? hown), fun hempty => hseen ?_⟩
  obtain ⟨missing, hmissing⟩ := List.mem_iff_getElem?.mp hempty
  apply List.mem_of_getElem? (i := missing)
  rw [seenAt, List.getElem?_mapIdx, hmissing]
  rfl

/-- **When looking for a window stops**: exactly if the scan comes to the window of all
positions. -/
theorem coveringWindow?_eq_error {positions : List (List UInt32)} {fault : Fault} :
    coveringWindow? positions = .error fault ↔
      fault = .additionOverflow ∧ Overflows positions := by
  by_cases hnone : positions = [] ∨ [] ∈ positions
  · rw [coveringWindow?_eq_none hnone]
    constructor
    · intro herror
      cases herror
    · rintro ⟨-, h⟩
      exact absurd hnone (not_or.mpr h.ne_nil)
  · have hscan : ¬ (positions.isEmpty || positions.any List.isEmpty) = true := by
      rw [Bool.or_eq_true, List.isEmpty_iff, List.any_eq_true]
      rintro (hempty | ⟨own, hown, hempty⟩)
      · exact hnone (Or.inl hempty)
      · rw [List.isEmpty_iff.mp hempty] at hown
        exact hnone (Or.inr hown)
    have hstart := latest_nil positions.length
    have hascending : List.Pairwise (fun a b : Occurrence => a.position ≤ b.position)
        ([] ++ merged positions) := ascending_merged positions
    rw [coveringWindow?_eq_visit, if_neg hscan, visit_eq_error hstart hascending,
      List.length_replicate]
    refine and_congr_right fun _ => ?_
    constructor
    · rintro ⟨before, ⟨position, now⟩, after, hmerged, rfl, hfrom⟩
      have ho : ⟨lastPosition, now⟩ ∈ merged positions := by simp [hmerged]
      obtain ⟨own, hown, hlast⟩ := mem_merged.mp ho
      exact ⟨now, own, hown, hlast, (fromZero_iff (mem_visited_iff hmerged)).mp hfrom⟩
    · rintro ⟨now, own, hown, hlast, hseen⟩
      have ho : ⟨lastPosition, now⟩ ∈ merged positions := mem_merged.mpr ⟨own, hown, hlast⟩
      obtain ⟨before, after, hmerged⟩ := List.append_of_mem ho
      exact ⟨before, _, after, hmerged, rfl, (fromZero_iff (mem_visited_iff hmerged)).mpr hseen⟩

/-- The order of the terms counts. -/
example : coveringWindow? [[lastPosition], [0, lastPosition]] = .error .additionOverflow ∧
    coveringWindow? [[0, lastPosition], [lastPosition]] = .ok (some ⟨lastPosition, 1⟩) := by
  constructor <;> cbv

/-! ## The ranking -/

section

variable {store : Posting.Positions} {terms : List UInt32}

/-- A document over which the scan stops has a position of each term. -/
lemma Overflows.holdsEach {doc : UInt32} (h : Overflows (positionsIn store terms doc)) :
    HoldsEach store terms doc := by
  intro term hterm
  have hmem : (store.positions? term doc).getD [] ∈ positionsIn store terms doc :=
    List.mem_map.mpr ⟨term, mem_distinct.mpr hterm, rfl⟩
  cases hpositions : store.positions? term doc with
  | none =>
    rw [hpositions] at hmem
    exact absurd hmem h.ne_nil.2
  | some positions =>
    refine ⟨positions, rfl, ?_⟩
    rintro rfl
    rw [hpositions] at hmem
    exact absurd hmem h.ne_nil.2

/-- A candidate cannot be scored exactly if the scan over it stops. -/
lemma scored?_eq_error {rows : List (IdMap (List UInt32))}
    (hrows : (distinct terms).map store.get? = rows.map some) {doc : UInt32}
    (hdoc : doc ∈ candidates rows) {fault : Fault} :
    scored? rows doc = .error fault ↔
      fault = .additionOverflow ∧ Overflows (positionsIn store terms doc) := by
  rw [scored?, entries_eq_positionsIn hrows hdoc, ok_bind, bind_eq_error,
    coveringWindow?_eq_error]
  constructor
  · rintro (h | ⟨window?, -, h⟩)
    · exact h
    · cases h
  · exact Or.inl

/-- **When the ranking stops**: exactly if the scan over some document does. -/
theorem rank_eq_error {fault : Fault} :
    rank store terms = .error fault ↔
      fault = .additionOverflow ∧ ∃ doc, Overflows (positionsIn store terms doc) := by
  rw [rank]
  cases hmapM : (distinct terms).mapM store.get? with
  | none =>
    constructor
    · intro herror
      cases herror
    · rintro ⟨-, doc, h⟩
      -- a term without a row has no position anywhere
      obtain ⟨rows, hrows⟩ := h.holdsEach.exists_rows
      rw [hrows] at hmapM
      cases hmapM
  | some rows =>
    have hrows := mapM_eq_some.mp hmapM
    constructor
    · intro h
      rcases bind_eq_error.mp h with h | ⟨found, -, h⟩
      · obtain ⟨doc, hdoc, hstop⟩ := exists_of_mapM_eq_error h
        obtain ⟨hfault, hoverflows⟩ := (scored?_eq_error hrows hdoc).mp hstop
        exact ⟨hfault, doc, hoverflows⟩
      · cases h
    · rintro ⟨rfl, doc, h⟩
      have hterms : terms ≠ [] := by
        rintro rfl
        exact h.ne_nil.1 rfl
      have hdoc : doc ∈ candidates rows := h.holdsEach.mem_candidates hrows hterms
      refine bind_eq_error.mpr (Or.inl ?_)
      cases hfound : (candidates rows).mapM (scored? rows) with
      | error met =>
        obtain ⟨other, hother, hstop⟩ := exists_of_mapM_eq_error hfound
        rw [((scored?_eq_error hrows hother).mp hstop).1]
      | ok found =>
        have hok : scored? rows doc ∈ found.map .ok := by
          rw [← mapM_eq_ok.mp hfound]
          exact List.mem_map_of_mem hdoc
        obtain ⟨result, -, hresult⟩ := List.mem_map.mp hok
        rw [(scored?_eq_error hrows hdoc).mpr ⟨rfl, h⟩] at hresult
        cases hresult

/-- What is ranked was recorded. -/
lemma exists_mem_docsFor_of_rank {ranked : List Scored} (h : rank store terms = .ok ranked)
    {scored : Scored} (hscored : scored ∈ ranked) : ∃ term, scored.doc ∈ store.docsFor term := by
  rw [rank] at h
  cases hmapM : (distinct terms).mapM store.get? with
  | none =>
    rw [hmapM] at h
    cases h
    cases hscored
  | some rows =>
    rw [hmapM] at h
    obtain ⟨found, hfound, h⟩ := bind_eq_ok.mp h
    cases h
    obtain ⟨found?, hmem, hsome⟩ := List.mem_filterMap.mp (List.mem_mergeSort.mp hscored)
    cases hsome
    have hok : .ok (some scored) ∈ (candidates rows).map (scored? rows) := by
      rw [mapM_eq_ok.mp hfound]
      exact List.mem_map_of_mem hmem
    obtain ⟨doc, hdoc, hvisited⟩ := List.mem_map.mp hok
    obtain ⟨positions, -, hvisited⟩ := bind_eq_ok.mp hvisited
    obtain ⟨window?, -, hvisited⟩ := bind_eq_ok.mp hvisited
    obtain ⟨window, -, rfl⟩ := Option.map_eq_some_iff.mp (Except.ok.inj hvisited)
    obtain ⟨hrows, hheld⟩ := mem_candidates.mp hdoc
    obtain ⟨row, hrow⟩ := List.exists_mem_of_ne_nil rows hrows
    have hget : some row ∈ (distinct terms).map store.get? := by
      rw [mapM_eq_some.mp hmapM]
      exact List.mem_map_of_mem hrow
    obtain ⟨term, -, hterm⟩ := List.mem_map.mp hget
    refine ⟨term, Posting.Positions.mem_docsFor.mpr ?_⟩
    rw [Posting.Positions.positions?, hterm]
    exact hheld row hrow

end

end Retrieval.Rank
