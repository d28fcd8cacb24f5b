/-
Lists of problems that are written and read again, and lists that are put together.

* `expandListing_append`: lists around a comma are read one after the other, and the first error
  counts;
* `regular_of_expandListing`: what is read from a list are regular problem numbers;
* `expandListing_join_render`: regular problem numbers with commas between them are read as they
  were written;
* `map_ofLine?_responseTemplate`: so are those in the lines of a response file;
* `expandListing_render`: all this together.
-/
import Grading.Proofs.Numbering.Grammar
import Grading.Proofs.Text.Lines

namespace Grading

open ProblemNumber (Spells spells_render)

variable {s entry list : Text} {c : Char} {p q : ProblemNumber}
  {ps qs : List ProblemNumber} {plus : Bool}

/-! ### Lists put together -/

/-- The entries of lists around a comma are those of the one and then those of the other. -/
lemma listingEntries_append (a b : Text) :
    listingEntries (a ++ ',' :: b) = listingEntries a ++ listingEntries b := by
  rw [listingEntries, Text.pieces_append_cons, List.map_append, List.filter_append]
  rfl

/-- Lists around a comma are read one after the other, and the first error counts. -/
lemma expandListing_append (a b : Text) :
    expandListing (a ++ ',' :: b) = match expandListing a, expandListing b with
      | .ok ps, .ok qs => .ok (ps ++ qs)
      | .ok _, .error e => .error e
      | .error e, _ => .error e := by
  rw [expandListing, expandListing, expandListing, listingEntries_append, List.mapM_append]
  cases (listingEntries a).mapM expandEntry with
  | error e => rfl
  | ok ps =>
      cases (listingEntries b).mapM expandEntry with
      | error e => rfl
      | ok qs => exact congrArg Except.ok List.flatten_append

/-! ### What is read from a list -/

lemma isLower_iff : c.isLower = true ↔ 'a' ≤ c ∧ c ≤ 'z' := by
  change (decide ('a'.val ≤ c.val) && decide (c.val ≤ 'z'.val)) = true ↔ _
  rw [Bool.and_eq_true, decide_eq_true_eq, decide_eq_true_eq]
  rfl

lemma regular_of_denotes (h : Denotes plus entry qs) (hq : q ∈ qs) : q.Regular := by
  cases h with
  | problem hspelled => exact List.mem_singleton.mp hq ▸ hspelled.regular
  | numbers hstart hsigned hstop hword hle hall =>
      obtain ⟨hpart, -, hnumber, -⟩ := (hall.mem_iff q).mp hq
      exact ⟨hnumber.trans hstop.le, by simp [hpart]⟩
  | parts hstart hagain hletters hle hall =>
      obtain ⟨hnumber, c, hpart, hfirst, hlast⟩ := (hall.mem_iff q).mp hq
      refine ⟨hnumber.trans_le hstart.le, ?_⟩
      rw [hpart]
      rintro _ ⟨⟩
      exact isLower_iff.mpr ⟨Char.le_trans (isLower_iff.mp hletters.1).1 hfirst,
        Char.le_trans hlast (isLower_iff.mp hletters.2).2⟩

/-- What is read from a list are regular problem numbers. -/
lemma regular_of_expandListing (h : expandListing list = .ok ps) (hp : p ∈ ps) : p.Regular := by
  obtain ⟨parts, hparts, rfl⟩ := expandListing_eq_ok_iff_forall₂.mp h
  obtain ⟨qs, hqs, hp⟩ := List.mem_flatten.mp hp
  have hread : ∀ qs ∈ parts, ∃ entry, Denotes true entry qs := by
    rw [← exists_forall₂_iff]
    exact ⟨_, hparts.flip⟩
  obtain ⟨entry, hentry⟩ := hread qs hqs
  exact regular_of_denotes hentry hp

/-! ### Written lists -/

/-- A problem number is written without blanks and in lower case. -/
lemma plain_render (h : p.Regular) : Plain p.render where
  lowered c hc := by
    rw [ProblemNumber.render, List.mem_append] at hc
    rcases hc with hc | hc
    · have hdigit := Decimal.isDigit_of_mem_digits hc
      rw [Decimal.isDigit, Bool.and_eq_true, decide_eq_true_eq, decide_eq_true_eq] at hdigit
      have hnine := le_iff_toNat_le.mp hdigit.2
      exact Text.lowered_of_lt (Nat.lt_of_le_of_lt hnine (by decide))
    · have hlower := h.part c (Option.mem_toList.mp hc)
      exact of_isAlpha (P := fun c => c.isLower = true → Text.Lowered c) (by decide +kernel)
        (isAlpha_of_isLower hlower) hlower
  blankFree c hc := isBlank_eq_false_of_isAlphanum
    ((isLabel_iff.mp (spells_render h).isLabel).2 c hc)

/-- An entry without blanks and in lower case stays as it is. -/
lemma Plain.lower_squeeze (h : Plain s) : s.squeeze.lower = s := by
  rw [Text.squeeze_eq_self h.blankFree, Text.lower_eq_self h.lowered]

/-- The entries of a list that is put together from such entries are these. -/
lemma listingEntries_join {entries : List Text}
    (h : ∀ s ∈ entries, Plain s ∧ s ≠ [] ∧ ',' ∉ s) :
    listingEntries (Text.join [','] entries) = entries := by
  rcases entries.eq_nil_or_concat with rfl | hcons
  · rfl
  · have hpieces : Text.pieces ',' (Text.join [','] entries) = entries := by
      refine List.splitOn_intercalate ',' (fun s hs => (h s hs).2.2) ?_
      rintro rfl
      simp at hcons
    have hsame : entries.map (fun s => s.squeeze.lower) = entries :=
      (List.map_congr_left fun s hs => (h s hs).1.lower_squeeze).trans (List.map_id entries)
    rw [listingEntries, hpieces, hsame, List.filter_eq_self]
    exact fun s hs => by simp [(h s hs).2.1]

/-- Regular problem numbers with commas between them are read as they were written. -/
lemma expandListing_join_render (h : ∀ p ∈ ps, p.Regular) :
    expandListing (Text.join [','] (ps.map ProblemNumber.render)) = .ok ps := by
  have hentries : ∀ s ∈ ps.map ProblemNumber.render, Plain s ∧ s ≠ [] ∧ ',' ∉ s := by
    intro s hs
    obtain ⟨p, hp, rfl⟩ := List.mem_map.mp hs
    have hspells := spells_render (h p hp)
    exact ⟨plain_render (h p hp), (isLabel_iff.mp hspells.isLabel).1, hspells.notMem (by decide)⟩
  rw [expandListing_eq_ok_iff_forall₂, listingEntries_join hentries]
  refine ⟨ps.map ([·]), ?_, (List.flatMap_singleton' ps).symm⟩
  rw [List.forall₂_map_left_iff, List.forall₂_map_right_iff, List.forall₂_same]
  exact fun p hp => .problem (spells_render (h p hp))

/-! ### Response files -/

/-- The lines of a response file have the problem numbers that it is written for. -/
lemma map_ofLine?_responseTemplate (h : ∀ p ∈ ps, p.Regular) :
    (Text.lines (responseTemplate (ps.map ProblemNumber.render))).map ProblemNumber.ofLine?
      = ps.map some := by
  let filled : ProblemNumber → Text := fun p => p.render ++ ". ".toList
  have hfile : responseTemplate (ps.map ProblemNumber.render)
      = (ps.map filled).flatMap fun line => line ++ ['\n'] := by
    rw [responseTemplate, List.flatMap_map, List.flatMap_map]
    exact List.flatMap_congr fun p _ => by simp [filled]
  have hfeed : ∀ line ∈ ps.map filled, '\n' ∉ line := by
    intro line hline
    obtain ⟨p, hp, rfl⟩ := List.mem_map.mp hline
    simp [filled, (spells_render (h p hp)).notMem (c := '\n') (by decide)]
  have hlines := congrArg (List.map ProblemNumber.ofLine?) (Text.map_trim_lines_flatMap hfeed)
  simp only [List.map_map, Function.comp_def, ProblemNumber.ofLine?_trim] at hlines
  rw [hfile, hlines]
  exact List.map_congr_left fun p hp => ProblemNumber.ofLine?_spelled (spells_render (h p hp)) _

/-- **Problem numbers that are written are read again**: regular ones with commas between them, and
in the lines of a response file. Lists around a comma are read one after the other, and the first
error counts. What is read from a list is regular, so that it can be written and read again. -/
theorem expandListing_render :
    (∀ ps : List ProblemNumber, (∀ p ∈ ps, p.Regular) →
        expandListing (Text.join [','] (ps.map ProblemNumber.render)) = .ok ps
          ∧ (Text.lines (responseTemplate (ps.map ProblemNumber.render))).map
              ProblemNumber.ofLine? = ps.map some)
      ∧ (∀ a b : Text, expandListing (a ++ ',' :: b) = match expandListing a, expandListing b with
          | .ok ps, .ok qs => .ok (ps ++ qs)
          | .ok _, .error e => .error e
          | .error e, _ => .error e)
      ∧ ∀ (list : Text) (ps : List ProblemNumber), expandListing list = .ok ps →
          (∀ p ∈ ps, p.Regular)
            ∧ expandListing (Text.join [','] (ps.map ProblemNumber.render)) = .ok ps := by
  refine ⟨fun ps h => ⟨expandListing_join_render h, map_ofLine?_responseTemplate h⟩,
    expandListing_append, fun list ps h => ?_⟩
  have hregular : ∀ p ∈ ps, p.Regular := fun p => regular_of_expandListing h
  exact ⟨hregular, expandListing_join_render hregular⟩

/-- The greatest number with a part among problems that repeat, a list whose second half is wrong,
and a range of parts that is written out. -/
theorem expandListing_render_parts :
    let ps : List ProblemNumber := [⟨4294967295, some 'z'⟩, ⟨0, none⟩, ⟨5, some 'e'⟩, ⟨5, some 'e'⟩]
    expandListing "4294967295z,0,5e,5e".toList = .ok ps
      ∧ (Text.lines "4294967295z. \n0. \n5e. \n5e. \n".toList).map ProblemNumber.ofLine?
        = ps.map some
      ∧ expandListing "4-05 ODDS, 3-1".toList = .error (.reversed "3-1".toList)
      ∧ expandListing "5c,5d,5e".toList = expandListing "5c-5E".toList := by
  intro ps
  obtain ⟨hwrite, hcompose, hread⟩ := expandListing_render
  obtain ⟨hps, hlines⟩ := hwrite ps (by decide)
  -- the list and the response file for the four numbers
  have hjoin : Text.join [','] (ps.map ProblemNumber.render) = "4294967295z,0,5e,5e".toList := by
    decide +kernel
  have hfile : responseTemplate (ps.map ProblemNumber.render)
      = "4294967295z. \n0. \n5e. \n5e. \n".toList := by
    decide +kernel
  have hodds : expandListing "4-05 ODDS".toList = .ok [⟨5, none⟩] := by decide +kernel
  have hreversed : expandListing " 3-1".toList = .error (.reversed "3-1".toList) := by
    decide +kernel
  have happend := hcompose "4-05 ODDS".toList " 3-1".toList
  rw [hodds, hreversed] at happend
  -- a range of parts, and the list of its parts
  have hparts : expandListing "5c-5E".toList
      = .ok [⟨5, some 'c'⟩, ⟨5, some 'd'⟩, ⟨5, some 'e'⟩] := by
    decide +kernel
  have hagain := (hread _ _ hparts).2
  have hwritten : Text.join [','] (List.map ProblemNumber.render
      [⟨5, some 'c'⟩, ⟨5, some 'd'⟩, ⟨5, some 'e'⟩]) = "5c,5d,5e".toList := by
    decide +kernel
  rw [hjoin] at hps
  rw [hfile] at hlines
  rw [hwritten, ← hparts] at hagain
  exact ⟨hps, hlines, happend, hagain⟩

end Grading
