/-
Answers and accepted values that change places: with the same tags, a text is accepted for another
one exactly if that is accepted for it.

* `comma_mem_iff`, `Rules.matchLists_comm`: lists of the same items have commas or not, both of
  them, so that it does not matter which one is looked at;
* `Alternative.isSome_match?_swap`: matching by distance, as texts or as lists of the same items
  works in both directions;
* `ofLine_tagged`: the problem of a line with one value and tags;
* `mark_swapped`: an answer for a value earns the points that the value would earn as an answer.
-/
import Grading.Proofs.Answer.Lists
import Grading.Proofs.Answer.Priority
import Grading.Proofs.Float.Distance
import Grading.Proofs.Key.Entries
import Grading.Proofs.Problem.Reading

namespace Grading

open Text (pieces squeeze ignoresPadding_trim)

variable {rules : Rules} {a b : Alternative} {tags : List Tag} {s t value suffix : Text}

/-! ### Lists -/

/-- A text has a comma exactly if it has more than one item. -/
lemma comma_mem_iff : ',' ∈ s ↔ 1 < (listItems s).length := by
  have hsqueeze : ',' ∈ s ↔ ',' ∈ squeeze s := by
    rw [squeeze, List.mem_filter]
    exact (and_iff_left (by decide)).symm
  rw [hsqueeze, listItems]
  constructor
  · intro hcomma
    obtain ⟨front, back, hs, -⟩ := List.eq_append_cons_of_mem hcomma
    have hfront := List.length_pos_of_ne_nil (Text.pieces_ne_nil ',' front)
    have hback := List.length_pos_of_ne_nil (Text.pieces_ne_nil ',' back)
    rw [hs, Text.pieces_append_cons, List.length_append]
    omega
  · intro hlength
    by_contra hcomma
    rw [Text.pieces_eq_singleton hcomma] at hlength
    exact Nat.lt_irrefl 1 hlength

/-- Lists match in both directions, unless items are only searched for in the accepted text. -/
lemma Rules.matchLists_comm (h : rules.listOrderMatters = true ∨ rules.listMatch = .exact)
    (s t : Text) : rules.matchLists s t = rules.matchLists t s := by
  rcases h with horder | hexact
  · rw [matchLists, matchLists, horder]
    rfl
  · have hside : ∀ {s t : Text}, (listItems s).Perm (listItems t) → ',' ∈ s → ',' ∈ t := by
      intro s t hperm hs
      rw [comma_mem_iff] at hs ⊢
      rwa [← hperm.length_eq]
    rw [matchLists, matchLists, hexact, Bool.and_assoc, Bool.and_assoc]
    refine congrArg (!rules.listOrderMatters && ·) ?_
    rw [Bool.eq_iff_iff]
    simp only [Bool.and_eq_true, List.contains_iff_mem, listsMatch_exact_iff]
    constructor
    · rintro ⟨hs, hperm⟩
      exact ⟨hside hperm hs, hperm.symm⟩
    · rintro ⟨ht, hperm⟩
      exact ⟨hside hperm ht, hperm.symm⟩

/-! ### One alternative -/

/-- Alternatives that admit the same distances match in both directions. -/
lemma Alternative.isSome_match?_swap (hadmits : a.admits = b.admits)
    (hlists : rules.matchLists s t = rules.matchLists t s) :
    (a.match? rules t s).isSome = (b.match? rules s t).isSome := by
  rw [Bool.eq_iff_iff, isSome_match?_iff, isSome_match?_iff, hlists, hadmits]
  refine or_congr ⟨?_, ?_⟩ (and_congr or_comm (or_congr_left eq_comm))
  · rintro ⟨x, y, hx, hy, hdistance⟩
    exact ⟨y, x, hy, hx, Binary64.abs_sub_comm x y ▸ hdistance⟩
  · rintro ⟨x, y, hx, hy, hdistance⟩
    exact ⟨y, x, hy, hx, Binary64.abs_sub_comm x y ▸ hdistance⟩

/-- With the same tags, a text is accepted for another one exactly if that is accepted for it. -/
lemma Alternative.accepts_swap (h : rules.listOrderMatters = true ∨ rules.listMatch = .exact)
    (s t : Text) (tags : List Tag) :
    (ofTags s tags).accepts rules t = (ofTags t tags).accepts rules s :=
  isSome_match?_swap rfl (rules.matchLists_comm h _ _)

/-! ### Lines with one value -/

/-- The alternative of a line with one value and tags. -/
lemma entries_tagged (hvalue : Entry.Canonical ⟨value, []⟩) (hsuffix : '&' ∉ suffix) :
    entries .asWritten (value ++ " ; ".toList ++ suffix)
      = [⟨value, trimmedParts (pieces ';' suffix)⟩] := by
  have hamp : '&' ∉ value ++ " ; ".toList ++ suffix := by
    have hfree : '&' ∉ value := fun h => (hvalue.value_free '&' h).1 rfl
    simp [hfree, hsuffix]
  -- the value is the first piece, and the tags are those of the suffix
  have hparts : (pieces ';' (value ++ " ; ".toList ++ suffix)).map Text.trim
      = value :: (pieces ';' suffix).map Text.trim := by
    have hfree : ';' ∉ value ++ [' '] := by
      have hmem : ';' ∉ value := fun h => (hvalue.value_free ';' h).2.1 rfl
      simp [hmem]
    have hline : value ++ " ; ".toList ++ suffix = (value ++ [' ']) ++ ';' :: ' ' :: suffix := by
      simp
    rw [hline, Text.pieces_append_cons, Text.pieces_eq_singleton hfree, List.map_append,
      ignoresPadding_trim.map_pieces_cons (by decide), List.map_singleton,
      ignoresPadding_trim.back, hvalue.value_tight.trim_eq]
    rfl
  have hself : trimmedParts [value] = [value] :=
    trimmedParts_eq_self (List.forall_mem_singleton.mpr ⟨hvalue.value_ne, hvalue.value_tight⟩)
  have hbar : pieces '|' value = [value] :=
    Text.pieces_eq_singleton fun h => (hvalue.value_free '|' h).2.2 rfl
  rw [entries, Text.pieces_eq_singleton hamp, List.flatMap_singleton,
    partEntries_of_map_trim hparts, hbar, hself, List.flatMap_singleton, Expander.asWritten, hself]
  rfl

/-- The problem of a line with one value and tags that can be read. -/
lemma ofLine_tagged (number : Text) (hvalue : Entry.Canonical ⟨value, []⟩) (hsuffix : '&' ∉ suffix)
    (htags : List.Forall₂ (fun text tag => Tag.ofText text = .ok tag)
      (trimmedParts (pieces ';' suffix)) tags) :
    Problem.ofLine number (value ++ " ; ".toList ++ suffix)
      = .ok ⟨number, [.ofTags value tags]⟩ := by
  rw [ofLine_eq_ok_iff, entries_tagged hvalue hsuffix]
  have hentry : Alternative.ofEntry number ⟨value, trimmedParts (pieces ';' suffix)⟩
      = .ok (.ofTags value tags) := ofEntry_eq_ok_iff.mpr ⟨tags, htags, rfl⟩
  rw [List.map_singleton, hentry]
  exact ⟨rfl, rfl⟩

/-- What an answer earns for one alternative. -/
lemma points_mark_singleton (rules : Rules) (number : Text) (a : Alternative) (raw : Text) :
    (Problem.mark rules ⟨number, [a]⟩ raw).points
      = if a.accepts rules raw then rules.pointValue * a.ratio else 0 := by
  have hmatched : (Problem.mark rules ⟨number, [a]⟩ raw).matched
      = if a.accepts rules raw then some a else none :=
    Problem.matched_mark_only rules ⟨number, [a]⟩ a raw
  cases haccepts : a.accepts rules raw with
  | true =>
      rw [haccepts, if_pos rfl] at hmatched
      rw [Problem.mark_eq_creditMark hmatched]
      rfl
  | false =>
      rw [haccepts, if_neg Bool.false_ne_true] at hmatched
      rw [Problem.mark_eq_incorrectMark hmatched]
      rfl

/-- **Answers and values change places**: unless items are only searched for in the accepted text,
grading one text against a line with another as its only value gives the verdict incorrect exactly
if grading the other against a line with the one does, under the same tags, and the points are the
same. -/
theorem mark_swapped (rules : Rules) (number : Text) (hs : Entry.Canonical ⟨s, []⟩)
    (ht : Entry.Canonical ⟨t, []⟩) (hsuffix : '&' ∉ suffix)
    (htags : ∀ text ∈ trimmedParts (pieces ';' suffix), ∃ tag, Tag.ofText text = .ok tag)
    (hlists : rules.listOrderMatters = true ∨ rules.listMatch = .exact) :
    ∃ p q, Problem.ofLine number (s ++ " ; ".toList ++ suffix) = .ok p
      ∧ Problem.ofLine number (t ++ " ; ".toList ++ suffix) = .ok q
      ∧ ((p.mark rules t).verdict = .incorrect ↔ (q.mark rules s).verdict = .incorrect)
      ∧ (p.mark rules t).points = (q.mark rules s).points := by
  obtain ⟨tags, hread⟩ := exists_forall₂_iff.mpr htags
  have hswap := Alternative.accepts_swap hlists s t tags
  have hverdict : Problem.Accepts rules ⟨number, [.ofTags s tags]⟩ t
      ↔ Problem.Accepts rules ⟨number, [.ofTags t tags]⟩ s := by
    refine (Problem.accepts_only_iff (p := ⟨number, []⟩)).trans ?_
    rw [hswap]
    exact (Problem.accepts_only_iff (p := ⟨number, []⟩)).symm
  refine ⟨_, _, ofLine_tagged number hs hsuffix hread, ofLine_tagged number ht hsuffix hread,
    not_iff_not.mp hverdict, ?_⟩
  rw [points_mark_singleton, points_mark_singleton, hswap]
  rfl

/-- A fraction and a decimal, which are two and a half apart, for half of the points. -/
theorem mark_swapped_numbers :
    let s := "4 / 5".toList
    let t := "3.3".toList
    let suffix := " 0.5 ;; Range 2 to 5; Far off".toList
    Entry.Canonical ⟨s, []⟩ ∧ Entry.Canonical ⟨t, []⟩ ∧ '&' ∉ suffix
      ∧ (∀ text ∈ trimmedParts (pieces ';' suffix), ∃ tag, Tag.ofText text = .ok tag)
      ∧ ∃ p q, Problem.ofLine "1".toList (s ++ " ; ".toList ++ suffix) = .ok p
        ∧ Problem.ofLine "1".toList (t ++ " ; ".toList ++ suffix) = .ok q
        ∧ (p.mark {} t).points = 0.5 ∧ (q.mark {} s).points = 0.5 := by
  intro s t suffix
  have hs : Entry.Canonical ⟨s, []⟩ :=
    have hmem : (⟨s, []⟩ : Entry) ∈ entries .asWritten s := by decide
    canonical_of_mem_entries_asWritten hmem
  have ht : Entry.Canonical ⟨t, []⟩ :=
    have hmem : (⟨t, []⟩ : Entry) ∈ entries .asWritten t := by decide
    canonical_of_mem_entries_asWritten hmem
  have hsuffix : '&' ∉ suffix := by decide
  have hread : ∀ text ∈ trimmedParts (pieces ';' suffix), errorOf (Tag.ofText text) = none := by
    decide +kernel
  have htags : ∀ text ∈ trimmedParts (pieces ';' suffix), ∃ tag, Tag.ofText text = .ok tag :=
    fun text htext => errorOf_eq_none_iff.mp (hread text htext)
  have hpoints : (Problem.ofLine "1".toList (s ++ " ; ".toList ++ suffix)).toOption.map
      (fun p => (p.mark {} t).points) = some 0.5 := by
    decide +kernel
  obtain ⟨p, q, hp, hq, -, hsame⟩ :=
    mark_swapped {} "1".toList hs ht hsuffix htags (Or.inl rfl)
  rw [hp] at hpoints
  have hhalf : (p.mark {} t).points = 0.5 := Option.some.inj hpoints
  exact ⟨hs, ht, hsuffix, htags, p, q, hp, hq, hhalf, hsame ▸ hhalf⟩

end Grading
