/-
Which entries of a list of problems are understood, and as what.

* `Restricts`, `splitParity_append`, `exists_restricts`: a word for odd or even numbers is found at
  the end of an entry, and no other letters are taken for one;
* `Denotes`: the forms of an entry, and the problems that each stands for;
* `Plain`, `plain_of_mem_listingEntries`: the entries of a list have no blanks and no capitals;
* `expandEntry_eq_ok_iff`: such an entry is understood exactly if it has one of the forms, where a
  plus may stand in front of the number that ends a range;
* `expandListing_eq_ok_iff`: a list is understood exactly if each of its entries is.
-/
import Grading.Proofs.Numbering.Ranges
import Grading.Proofs.Numbering.Written
import Grading.Proofs.Problem.Reading
import Grading.Proofs.Text.Pieces

namespace Grading

open Decimal (isDigit isDigits isDigits_iff)
open ProblemNumber (Spells)

variable {s t entry word list : Text} {c d : Char} {n : Nat} {p : ProblemNumber}
  {ps qs : List ProblemNumber} {parity : Option Parity}

/-! ### Words for odd and even numbers -/

/-- The words at the end of a range, none if all its numbers are taken. -/
inductive Restricts : Text → Option Parity → Prop
  | all : Restricts [] none
  | odd : Restricts "odd".toList (some .odd)
  | odds : Restricts "odds".toList (some .odd)
  | even : Restricts "even".toList (some .even)
  | evens : Restricts "evens".toList (some .even)

/-- Whether a text ends with anything but a letter. -/
def EndsFree (s : Text) : Prop := ∀ c ∈ s.getLast?, c.isAlpha = false

lemma isAlpha_eq_false_of_isDigit (h : isDigit c = true) : c.isAlpha = false := by
  rw [Bool.eq_false_iff]
  intro hletter
  rw [isDigit_eq_false_of_isAlpha hletter] at h
  cases h

lemma endsFree_append_digits (s : Text) (ht : isDigits t = true) : EndsFree (s ++ t) := by
  obtain ⟨hne, hall⟩ := isDigits_iff.mp ht
  intro c hc
  rw [List.getLast?_append_of_ne_nil _ hne] at hc
  exact isAlpha_eq_false_of_isDigit (hall c (List.mem_of_getLast? hc))

/-- Each of the words ends with two letters. -/
lemma exists_letters_of_mem_parityWords {w : Text × Parity} (hw : w ∈ parityWords) :
    ∃ front c d, w.1 = front ++ [c] ++ [d] ∧ c.isAlpha = true ∧ d.isAlpha = true := by
  simp only [parityWords, List.mem_cons, List.not_mem_nil, or_false] at hw
  rcases hw with rfl | rfl | rfl | rfl
  · exact ⟨"eve".toList, 'n', 's', by decide⟩
  · exact ⟨"ev".toList, 'e', 'n', by decide⟩
  · exact ⟨"od".toList, 'd', 's', by decide⟩
  · exact ⟨"o".toList, 'd', 'd', by decide⟩

lemma splitParity_eq_self (h : ∀ w ∈ parityWords, ¬ w.1 <:+ s) : splitParity s = (s, none) := by
  have hnone : (parityWords.findSome? fun w => (w.1.isSuffixOf? s).map fun rest => (rest, w.2))
      = none := by
    refine List.findSome?_eq_none_iff.mpr fun w hw => Option.map_eq_none_iff.mpr ?_
    rw [Option.eq_none_iff_forall_ne_some]
    intro rest hrest
    exact h w hw ⟨rest, List.isSuffixOf?_eq_some_iff_append_eq.mp hrest⟩
  rw [splitParity, hnone]

/-- At the end of a text that ends with anything but a letter there is no such word. -/
lemma splitParity_of_endsFree (h : EndsFree s) : splitParity s = (s, none) := by
  refine splitParity_eq_self fun w hw => ?_
  rintro ⟨front, rfl⟩
  obtain ⟨word, c, d, hword, -, hd⟩ := exists_letters_of_mem_parityWords hw
  rw [h d (by simp [hword])] at hd
  cases hd

/-- One letter at the end of a text is no such word either. -/
lemma splitParity_concat (h : EndsFree s) (c : Char) :
    splitParity (s ++ [c]) = (s ++ [c], none) := by
  refine splitParity_eq_self fun w hw => ?_
  rintro ⟨front, hfront⟩
  obtain ⟨word, d, e, hword, hd, -⟩ := exists_letters_of_mem_parityWords hw
  rw [hword, ← List.append_assoc, ← List.append_assoc] at hfront
  obtain rfl := (List.append_inj' hfront rfl).1
  rw [h d (by simp)] at hd
  cases hd

/-- The letter of a problem number is no such word. -/
lemma splitParity_of_spells (h : Spells s p) : splitParity s = (s, none) := by
  cases h with
  | whole hdigits => exact splitParity_of_endsFree (endsFree_append_digits [] hdigits.digits)
  | part hdigits => exact splitParity_concat (endsFree_append_digits [] hdigits.digits) _

/-- The word at the end of a range is found there. -/
lemma splitParity_append (hs : EndsFree s) (h : Restricts word parity) :
    splitParity (s ++ word) = (s, parity) := by
  cases h with
  | all => rw [List.append_nil, splitParity_of_endsFree hs]
  | odd => simp [splitParity, parityWords, List.isSuffixOf?, List.findSome?, List.isPrefixOf?]
  | odds => simp [splitParity, parityWords, List.isSuffixOf?, List.findSome?, List.isPrefixOf?]
  | even => simp [splitParity, parityWords, List.isSuffixOf?, List.findSome?, List.isPrefixOf?]
  | evens => simp [splitParity, parityWords, List.isSuffixOf?, List.isPrefixOf?]

/-- What is found at the end of an entry is such a word. -/
lemma exists_restricts (entry : Text) :
    ∃ range word parity, splitParity entry = (range, parity) ∧ Restricts word parity
      ∧ entry = range ++ word := by
  rw [splitParity]
  split
  case h_1 rest parity hfound =>
    obtain ⟨w, hw, hrest⟩ := List.exists_of_findSome?_eq_some hfound
    obtain ⟨range, hrange, hpair⟩ := Option.map_eq_some_iff.mp hrest
    obtain ⟨rfl, rfl⟩ := Prod.mk.inj hpair
    refine ⟨range, w.1, some w.2, rfl, ?_, (List.isSuffixOf?_eq_some_iff_append_eq.mp hrange).symm⟩
    simp only [parityWords, List.mem_cons, List.not_mem_nil, or_false] at hw
    rcases hw with rfl | rfl | rfl | rfl
    · exact .evens
    · exact .even
    · exact .odds
    · exact .odd
  case h_2 => exact ⟨entry, [], none, rfl, .all, (List.append_nil entry).symm⟩

/-! ### The forms of an entry -/

/-- The forms of an entry in lower case, and the problems it stands for. Whether a plus may stand in
front of the number at the end of a range is left open. -/
inductive Denotes (plus : Bool) : Text → List ProblemNumber → Prop
  /-- One problem: `N` or `Na`. -/
  | problem {s : Text} {p : ProblemNumber} (spelled : Spells s p) : Denotes plus s [p]
  /-- A range of numbers: `N-M`, with or without a word for odd or even ones at its end. -/
  | numbers {s sign t word : Text} {first last : Nat} {parity : Option Parity}
      {qs : List ProblemNumber} (start : WritesWhole s first)
      (signed : sign = [] ∨ plus = true ∧ sign = ['+']) (stop : WritesWhole t last)
      (restricted : Restricts word parity) (ordered : first ≤ last)
      (all : Ascending (InNumbers parity first last) qs) :
      Denotes plus (s ++ '-' :: (sign ++ t) ++ word) qs
  /-- A range of the parts of a problem: `Na-b`, or `Na-Mb` where `M` is the same number. -/
  | parts {s t : Text} {number : Nat} {first last : Char} {qs : List ProblemNumber}
      (start : WritesWhole s number) (again : t = [] ∨ WritesWhole t number)
      (letters : first.isLower = true ∧ last.isLower = true) (ordered : first ≤ last)
      (all : Ascending (InParts number first last) qs) :
      Denotes plus (s ++ first :: '-' :: (t ++ [last])) qs

/-- An entry without blanks and in lower case. -/
structure Plain (s : Text) : Prop where
  lowered : ∀ c ∈ s, Text.Lowered c
  blankFree : ∀ c ∈ s, Text.isBlank c = false

/-- The entries of a list have no blanks and no capitals. -/
lemma plain_of_mem_listingEntries (h : entry ∈ listingEntries list) : Plain entry := by
  obtain ⟨part, -, rfl⟩ := List.mem_map.mp (List.mem_filter.mp h).1
  refine ⟨fun c => Text.lowered_of_mem_lower, fun c => Text.isBlank_eq_false_of_mem_lower ?_⟩
  intro d hd
  simpa using (List.mem_filter.mp hd).2

lemma Plain.subset (h : Plain s) (hsub : t ⊆ s) : Plain t :=
  ⟨fun c hc => h.lowered c (hsub hc), fun c hc => h.blankFree c (hsub hc)⟩

lemma Plain.trim_eq (h : Plain s) : s.trim = s :=
  (Text.tight_of_forall_not_blank h.blankFree).trim_eq

/-- The letters of such an entry are in lower case. -/
lemma Plain.isLower (h : Plain s) (hc : c ∈ s) (hletter : c.isAlpha = true) : c.isLower = true :=
  of_isAlpha (P := fun c => Text.Lowered c → c.isLower = true) (by decide +kernel) hletter
    (h.lowered c hc)

/-! ### Reading an entry -/

lemma readProblem_eq_ok_iff : readProblem s = .ok p ↔ Spells s.trim p := by
  rw [← ProblemNumber.ofText?_eq_some_iff, readProblem]
  cases ProblemNumber.ofText? s <;> simp

lemma readLast_of_not_plus (h : ∀ t, s ≠ '+' :: t) :
    readLast entry s = .ok n ↔ WritesWhole s n := by
  rw [readLast]
  · rw [← readLimited?_eq_some_iff]
    cases ProblemNumber.readLimited? s <;> simp
  · exact h

/-- The number at the end of a range is written with digits, and possibly with a plus in front. -/
lemma readLast_eq_ok_iff :
    readLast entry s = .ok n
      ↔ ∃ sign t, (sign = [] ∨ sign = ['+']) ∧ s = sign ++ t ∧ WritesWhole t n := by
  by_cases hplus : ∃ t, s = '+' :: t
  · obtain ⟨t, rfl⟩ := hplus
    have hread : readLast entry ('+' :: t) = .ok n ↔ WritesWhole t n := by
      rw [readLast, ← readLimited?_eq_some_iff]
      cases ProblemNumber.readLimited? t <;> simp
    rw [hread]
    refine ⟨fun h => ⟨['+'], t, Or.inr rfl, rfl, h⟩, ?_⟩
    rintro ⟨sign, u, rfl | rfl, hu, hdigits⟩
    · obtain rfl : u = '+' :: t := hu.symm
      exact absurd ((isDigits_iff.mp hdigits.digits).2 '+' List.mem_cons_self) (by decide)
    · exact (List.cons.inj hu).2 ▸ hdigits
  · rw [readLast_of_not_plus (not_exists.mp hplus)]
    refine ⟨fun h => ⟨[], s, Or.inl rfl, rfl, h⟩, ?_⟩
    rintro ⟨sign, u, rfl | rfl, rfl, hdigits⟩
    · exact hdigits
    · exact absurd ⟨u, rfl⟩ hplus

/-- At the end of a range of parts, what is no letter alone is a problem number. -/
lemma readLastPart_of_not_letter (h : ∀ c, s = [c] → ¬ c.isAlpha = true) :
    readLastPart n entry s = .ok d ↔ readProblem s = .ok ⟨n, some d⟩ := by
  rw [readLastPart.eq_def]
  dsimp only
  cases readProblem s with
  | error e =>
      split
      case h_1 c => simp [if_neg (h c rfl), bind, Except.bind]
      case h_2 => simp [bind, Except.bind]
  | ok p =>
      obtain ⟨m, part⟩ := p
      split
      case h_1 c =>
        rw [if_neg (h c rfl)]
        cases part <;> by_cases hm : m = n <;> simp [bind, Except.bind, hm]
      case h_2 => cases part <;> by_cases hm : m = n <;> simp [bind, Except.bind, hm]

/-- A letter alone is too short for a problem with a part. -/
lemma not_spells_part_singleton (c : Char) : ¬ Spells (Text.trim [c]) ⟨n, some d⟩ := by
  intro hspells
  have hlength := Text.length_trim_le [c]
  generalize Text.trim [c] = body at hspells hlength
  cases hspells with
  | part hdigits =>
      have hpos := List.length_pos_of_ne_nil (isDigits_iff.mp hdigits.digits).1
      rw [List.length_append, List.length_singleton, List.length_singleton] at hlength
      omega

lemma readLastPart_eq_ok_iff :
    readLastPart n entry s = .ok d
      ↔ s = [d] ∧ d.isAlpha = true ∨ Spells s.trim ⟨n, some d⟩ := by
  by_cases hletter : ∃ c, s = [c] ∧ c.isAlpha = true
  · obtain ⟨c, rfl, hc⟩ := hletter
    rw [or_iff_left (not_spells_part_singleton c), readLastPart, if_pos hc, Except.ok.injEq,
      List.singleton_inj]
    exact ⟨fun h => ⟨h, h ▸ hc⟩, And.left⟩
  · have hnone : ∀ c, s = [c] → ¬ c.isAlpha = true := fun c hs hc => hletter ⟨c, hs, hc⟩
    rw [readLastPart_of_not_letter hnone, readProblem_eq_ok_iff]
    exact (or_iff_right fun h => hnone d h.1 h.2).symm

/-- The ranges that are understood, blanks around their ends aside. -/
lemma expandRange_eq_ok_iff {first last : Text} :
    expandRange entry parity first last = .ok qs
      ↔ (∃ m n sign t, WritesWhole first.trim m ∧ (sign = [] ∨ sign = ['+']) ∧ last = sign ++ t
          ∧ WritesWhole t n ∧ m ≤ n ∧ qs = numberRange parity m n)
        ∨ ∃ number c d, parity = none ∧ Spells first.trim ⟨number, some c⟩
            ∧ (last = [d] ∧ d.isAlpha = true ∨ Spells last.trim ⟨number, some d⟩)
            ∧ c ≤ d ∧ qs = partRange number c d := by
  have hwhole : ∀ {s m}, Spells s ⟨m, none⟩ ↔ WritesWhole s m :=
    ⟨fun h => by cases h with | whole hdigits => exact hdigits, .whole⟩
  rw [expandRange, bind_eq_ok_iff]
  simp only [readProblem_eq_ok_iff]
  constructor
  · rintro ⟨⟨m, part⟩, hstart, h⟩
    cases part with
    | none =>
        -- from a whole problem to a number
        obtain ⟨n, hlast, h⟩ := bind_eq_ok_iff.mp h
        obtain ⟨sign, t, hsign, hlast, ht⟩ := readLast_eq_ok_iff.mp hlast
        split at h
        case isTrue => cases h
        case isFalse hle =>
          exact Or.inl ⟨m, n, sign, t, hwhole.mp hstart, hsign, hlast, ht, Nat.le_of_not_lt hle,
            (Except.ok.inj h).symm⟩
    | some c =>
        -- from a part to a letter or a part, without a word at the end
        dsimp only at h
        split at h
        case isTrue => cases h
        case isFalse hparity =>
          obtain ⟨d, hlast, h⟩ := bind_eq_ok_iff.mp h
          split at h
          case isTrue => cases h
          case isFalse hle =>
            exact Or.inr ⟨m, c, d, Option.not_isSome_iff_eq_none.mp hparity, hstart,
              readLastPart_eq_ok_iff.mp hlast, Char.not_lt.mp hle, (Except.ok.inj h).symm⟩
  · rintro (⟨m, n, sign, t, hstart, hsign, hlast, ht, hle, rfl⟩ |
      ⟨m, c, d, rfl, hstart, hlast, hle, rfl⟩)
    · refine ⟨⟨m, none⟩, hwhole.mpr hstart, bind_eq_ok_iff.mpr ⟨n, ?_, ?_⟩⟩
      · exact readLast_eq_ok_iff.mpr ⟨sign, t, hsign, hlast, ht⟩
      · exact if_neg (Nat.not_lt.mpr hle)
    · refine ⟨⟨m, some c⟩, hstart, ?_⟩
      dsimp only
      rw [if_neg (by simp), bind_eq_ok_iff]
      exact ⟨d, readLastPart_eq_ok_iff.mpr hlast, if_neg (Char.not_lt.mpr hle)⟩

/-- A problem number with a part in such an entry ends with that letter. -/
lemma Plain.exists_of_spells (h : Plain s) (hs : Spells s ⟨n, some c⟩) :
    ∃ t, s = t ++ [c] ∧ WritesWhole t n ∧ c.isLower = true := by
  cases hs with
  | @part t _ c hdigits hletter =>
      have hlower := h.isLower (c := c) (by simp) hletter
      rw [toLower_of_isLower hlower]
      exact ⟨t, rfl, hdigits, hlower⟩

lemma toNat_lt_of_isLower (h : c.isLower = true) : c.toNat < 0xD800 :=
  of_isAlpha (P := fun c => c.toNat < 0xD800) (by decide) (isAlpha_of_isLower h)

/-- An entry that is understood has one of the forms. -/
lemma denotes_of_expandEntry (h : Plain entry) (hread : expandEntry entry = .ok qs) :
    Denotes true entry qs := by
  obtain ⟨range, word, parity, hsplit, hword, rfl⟩ := exists_restricts entry
  have hrange : Plain range := h.subset (List.subset_append_left _ _)
  rw [expandEntry, hsplit] at hread
  dsimp only at hread
  split at hread
  case h_1 single hpieces =>
    obtain ⟨rfl, -⟩ := Text.pieces_eq_singleton_iff.mp hpieces
    cases hword
    cases hproblem : readProblem single with
    | error e => rw [hproblem] at hread; cases hread
    | ok p =>
        rw [hproblem] at hread
        obtain rfl := Except.ok.inj hread
        rw [readProblem_eq_ok_iff, hrange.trim_eq] at hproblem
        rw [List.append_nil]
        exact .problem hproblem
  case h_2 => cases hread
  case h_3 first last hpieces =>
    -- one dash: a range between two texts that are plain as well
    obtain ⟨rfl, -, -⟩ := Text.pieces_eq_pair_iff.mp hpieces
    have hfirst : Plain first := hrange.subset (List.subset_append_left _ _)
    have hlast : Plain last := hrange.subset fun c hc => by simp [hc]
    rw [expandRange_eq_ok_iff, hfirst.trim_eq, hlast.trim_eq] at hread
    rcases hread with ⟨m, n, sign, t, hstart, hsign, rfl, ht, hle, rfl⟩ |
      ⟨m, c, d, rfl, hstart, hstop, hle, rfl⟩
    · exact .numbers hstart (hsign.imp_right fun h => ⟨rfl, h⟩) ht hword hle
        (ascending_numberRange _ _ _)
    · -- of parts, the last may be its letter alone
      cases hword
      obtain ⟨s, rfl, hs, hc⟩ := hfirst.exists_of_spells hstart
      obtain ⟨t, rfl, ht, hd⟩ : ∃ t, last = t ++ [d] ∧ (t = [] ∨ WritesWhole t m)
          ∧ d.isLower = true := by
        rcases hstop with ⟨rfl, hletter⟩ | hspells
        · exact ⟨[], rfl, Or.inl rfl, hlast.isLower (List.mem_singleton_self d) hletter⟩
        · obtain ⟨t, rfl, ht, hd⟩ := hlast.exists_of_spells hspells
          exact ⟨t, rfl, Or.inr ht, hd⟩
      have hparts : Denotes true (s ++ c :: '-' :: (t ++ [d])) (partRange m c d) :=
        .parts hs ht ⟨hc, hd⟩ hle (ascending_partRange m c (toNat_lt_of_isLower hd))
      simpa using hparts
  case h_4 => cases hread

/-- What is cut into two parts is read as a range. -/
lemma expandEntry_eq_expandRange {range first last : Text}
    (hsplit : splitParity entry = (range, parity))
    (hpieces : Text.pieces '-' range = [first, last]) :
    expandEntry entry = expandRange entry parity first last := by
  rw [expandEntry, hsplit]
  dsimp only
  rw [hpieces]

lemma expandEntry_problem (h : Spells s p) : expandEntry s = .ok [p] := by
  rw [expandEntry, splitParity_of_spells h]
  dsimp only
  rw [Text.pieces_eq_singleton (h.notMem (by decide))]
  dsimp only
  rw [readProblem_eq_ok_iff.mpr (h.trim_eq.symm ▸ h)]
  rfl

lemma expandEntry_numbers {sign : Text} {m : Nat} (hstart : WritesWhole s m)
    (hsign : sign = [] ∨ sign = ['+']) (hstop : WritesWhole t n) (hword : Restricts word parity)
    (hle : m ≤ n) :
    expandEntry (s ++ '-' :: (sign ++ t) ++ word) = .ok (numberRange parity m n) := by
  have hends : EndsFree (s ++ '-' :: (sign ++ t)) := by
    have happend := endsFree_append_digits (s ++ '-' :: sign) hstop.digits
    rwa [List.append_assoc] at happend
  have hpieces : Text.pieces '-' (s ++ '-' :: (sign ++ t)) = [s, sign ++ t] := by
    refine Text.pieces_eq_pair_iff.mpr ⟨rfl, (Spells.whole hstart).notMem (by decide), ?_⟩
    have ht := (Spells.whole hstop).notMem (c := '-') (by decide)
    rcases hsign with rfl | rfl <;> simp [ht]
  rw [expandEntry_eq_expandRange (splitParity_append hends hword) hpieces, expandRange_eq_ok_iff]
  refine Or.inl ⟨m, n, sign, t, ?_, hsign, rfl, hstop, hle, rfl⟩
  rwa [(Spells.whole hstart).trim_eq]

lemma expandEntry_parts (hstart : WritesWhole s n) (hagain : t = [] ∨ WritesWhole t n)
    (hc : c.isLower = true) (hd : d.isLower = true) (hle : c ≤ d) :
    expandEntry (s ++ c :: '-' :: (t ++ [d])) = .ok (partRange n c d) := by
  have hfirst := ProblemNumber.spells_part hstart hc
  have hdash : ∀ {e : Char}, e.isLower = true → '-' ≠ e := by
    rintro e he rfl
    cases he
  -- before the last letter stands no other, as it would in a word
  have hends : EndsFree (s ++ c :: '-' :: t) := by
    rcases hagain with rfl | ht
    · intro e he
      obtain rfl : e = '-' := by simpa using he.symm
      rfl
    · have happend := endsFree_append_digits (s ++ [c, '-']) ht.digits
      rwa [List.append_assoc] at happend
  have hsplit := splitParity_concat hends d
  -- the dash is the only one
  have hpieces : Text.pieces '-' (s ++ c :: '-' :: t ++ [d]) = [s ++ [c], t ++ [d]] := by
    refine Text.pieces_eq_pair_iff.mpr ⟨by simp, hfirst.notMem (by decide), ?_⟩
    have ht : '-' ∉ t := by
      rcases hagain with rfl | ht
      · exact List.not_mem_nil
      · exact (Spells.whole ht).notMem (by decide)
    simp [ht, hdash hd]
  have hrange := expandEntry_eq_expandRange hsplit hpieces
  rw [List.append_assoc, List.cons_append, List.cons_append] at hrange
  rw [hrange, expandRange_eq_ok_iff]
  refine Or.inr ⟨n, c, d, rfl, hfirst.trim_eq.symm ▸ hfirst, ?_, hle, rfl⟩
  rcases hagain with rfl | ht
  · exact Or.inl ⟨rfl, isAlpha_of_isLower hd⟩
  · have hlast := ProblemNumber.spells_part ht hd
    exact Or.inr (hlast.trim_eq.symm ▸ hlast)

/-- An entry of one of the forms is understood. -/
lemma expandEntry_of_denotes {plus : Bool} (h : Denotes plus entry qs) :
    expandEntry entry = .ok qs := by
  cases h with
  | problem hspelled => exact expandEntry_problem hspelled
  | numbers hstart hsigned hstop hword hle hall =>
      rw [expandEntry_numbers hstart (hsigned.imp_right And.right) hstop hword hle]
      exact congrArg Except.ok ((ascending_numberRange _ _ _).unique hall)
  | parts hstart hagain hletters hle hall =>
      rw [expandEntry_parts hstart hagain hletters.1 hletters.2 hle]
      exact congrArg Except.ok
        ((ascending_partRange _ _ (toNat_lt_of_isLower hletters.2)).unique hall)

/-- An entry is understood exactly if it has one of the forms, a plus in front of the number at the
end of a range being allowed. -/
lemma expandEntry_eq_ok_iff (h : Plain entry) :
    expandEntry entry = .ok qs ↔ Denotes true entry qs :=
  ⟨denotes_of_expandEntry h, expandEntry_of_denotes⟩

/-- The forms without a plus are those that hold none. -/
lemma denotes_false_iff : Denotes false entry qs ↔ Denotes true entry qs ∧ '+' ∉ entry := by
  have hdigits : ∀ {s n}, WritesWhole s n → '+' ∉ s := fun h =>
    (Spells.whole h).notMem (by decide)
  have hletter : ∀ {c : Char}, c.isLower = true → '+' ≠ c := by
    rintro c hc rfl
    cases hc
  constructor
  · intro h
    cases h with
    | problem hspelled => exact ⟨.problem hspelled, hspelled.notMem (by decide)⟩
    | @numbers s sign t word m n parity qs hstart hsigned hstop hword hle hall =>
        refine ⟨.numbers hstart (hsigned.imp_right (absurd ·.1 Bool.false_ne_true)) hstop hword hle
          hall, ?_⟩
        obtain rfl : sign = [] := hsigned.resolve_right (absurd ·.1 Bool.false_ne_true)
        have hwords : '+' ∉ word := by cases hword <;> decide
        simp [hdigits hstart, hdigits hstop, hwords]
    | parts hstart hagain hletters hle hall =>
        refine ⟨.parts hstart hagain hletters hle hall, ?_⟩
        rcases hagain with rfl | ht
        · simp [hdigits hstart, hletter hletters.1, hletter hletters.2]
        · simp [hdigits hstart, hdigits ht, hletter hletters.1, hletter hletters.2]
  · rintro ⟨h, hplus⟩
    cases h with
    | problem hspelled => exact .problem hspelled
    | numbers hstart hsigned hstop hword hle hall =>
        rcases hsigned with rfl | ⟨-, rfl⟩
        · exact .numbers hstart (Or.inl rfl) hstop hword hle hall
        · exact absurd (by simp) hplus
    | parts hstart hagain hletters hle hall => exact .parts hstart hagain hletters hle hall

/-! ### Lists -/

/-- What a list stands for is what its entries stand for, one after another. -/
lemma expandListing_eq_ok_iff_forall₂ :
    expandListing list = .ok ps
      ↔ ∃ parts, List.Forall₂ (Denotes true) (listingEntries list) parts ∧ ps = parts.flatten := by
  have hentries : ∀ parts, List.Forall₂ (fun entry qs => expandEntry entry = .ok qs)
      (listingEntries list) parts ↔ List.Forall₂ (Denotes true) (listingEntries list) parts := by
    intro parts
    have hplain : ∀ entry ∈ listingEntries list, Plain entry :=
      fun entry => plain_of_mem_listingEntries
    constructor
    · intro h
      exact ((List.forall₂_and_left _ _).mpr ⟨hplain, h⟩).imp
        fun _ _ h => (expandEntry_eq_ok_iff h.1).mp h.2
    · intro h
      exact h.imp fun _ _ => expandEntry_of_denotes
  simp only [← hentries, ← mapM_eq_ok_iff_forall₂]
  rw [expandListing]
  cases (listingEntries list).mapM expandEntry with
  | error e => simp [Except.map]
  | ok parts => simp [Except.map, eq_comm]

/-- **Lists of problems**: a list is understood exactly if each of its entries has one of the forms,
as what the entries stand for, one after another. In front of the number at the end of a range a
plus is allowed as well, and nothing else that holds a plus is understood. -/
theorem expandListing_eq_ok_iff (list : Text) :
    ((∃ ps, expandListing list = .ok ps)
        ↔ ∀ entry ∈ listingEntries list, ∃ qs, Denotes true entry qs)
      ∧ (∀ ps, expandListing list = .ok ps
          ↔ ∃ parts, List.Forall₂ (Denotes true) (listingEntries list) parts ∧ ps = parts.flatten)
      ∧ ∀ entry qs, Denotes false entry qs ↔ Denotes true entry qs ∧ '+' ∉ entry := by
  refine ⟨?_, fun ps => expandListing_eq_ok_iff_forall₂, fun entry qs => denotes_false_iff⟩
  simp only [expandListing_eq_ok_iff_forall₂, ← exists_forall₂_iff]
  exact ⟨fun ⟨_, parts, h, _⟩ => ⟨parts, h⟩, fun ⟨parts, h⟩ => ⟨_, parts, h, rfl⟩⟩

/-- A plus in front of the last number of a range is taken for nothing, although one in front of the
first number is an error. -/
theorem expandListing_takes_plus :
    listingEntries "1-+3".toList = ["1-+3".toList]
      ∧ expandListing "1-+3".toList = .ok [⟨1, none⟩, ⟨2, none⟩, ⟨3, none⟩]
      ∧ expandListing "+1-3".toList = .error (.invalidNumber "+1".toList)
      ∧ ∀ qs, ¬ Denotes false "1-+3".toList qs := by
  refine ⟨by decide +kernel, by decide +kernel, by decide +kernel, fun qs h => ?_⟩
  exact (denotes_false_iff.mp h).2 (by decide)

end Grading
