/-
The parts of a text between the occurrences of a character, and how they come back from a text in
which they were joined with blanks around the character.

* `notMem_of_mem_pieces`: a part never holds the character that the text was cut at;
* `pieces_append_of_notMem`: what is written after a text belongs to its last part;
* `pieces_eq_map`: what is done to a text part by part is done to its parts;
* `mem_join`, `tight_join`: joined parts hold nothing new, and are tight if all of them are;
* `infix_of_mem_pieces`, `mem_of_mem_pieces`: a part, and so each of its characters, stands in the
  text;
* `holds_iff`: a text holds a word exactly if the word stands in it;
* `words_append_blank`: words end at blanks, `words_join`: words that were joined with a blank come
  back;
* `IgnoresPadding`: a reading that pays no attention to blanks at the ends of a text;
* `IgnoresPadding.map_pieces_join`: for such a reading, cutting undoes joining.
-/
import Grading.Proofs.Text.Trim
import Grading.Text.Basic

namespace Grading

namespace Text

variable {c x : Char} {p s t : Text}

/-! ### Cutting -/

@[simp] lemma pieces_nil (c : Char) : pieces c [] = [[]] := List.splitOn_nil c

lemma pieces_ne_nil (c : Char) (s : Text) : pieces c s ≠ [] := List.splitOn_ne_nil c s

lemma pieces_eq_singleton (h : c ∉ s) : pieces c s = [s] := List.splitOn_eq_singleton h

lemma pieces_append_cons (c : Char) (s t : Text) :
    pieces c (s ++ c :: t) = pieces c s ++ pieces c t :=
  List.splitOn_append_cons_self s t

lemma pieces_cons_self (c : Char) (s : Text) : pieces c (c :: s) = [] :: pieces c s :=
  pieces_append_cons c [] s

lemma pieces_cons_of_ne (h : x ≠ c) (s : Text) :
    pieces c (x :: s) = (pieces c s).modifyHead (x :: ·) := by
  rw [pieces, List.splitOn_cons_eq_if_modifyHead, if_neg (by simpa using h)]
  rfl

/-- What is written in front of a text belongs to its first part. -/
lemma pieces_cons_eq (h : x ≠ c) (s : Text) :
    ∃ first others, pieces c s = first :: others ∧ pieces c (x :: s) = (x :: first) :: others := by
  obtain ⟨first, others, hs⟩ := List.exists_cons_of_ne_nil (pieces_ne_nil c s)
  refine ⟨first, others, hs, ?_⟩
  rw [pieces_cons_of_ne h, hs]
  rfl

/-- What is written after a text belongs to its last part. -/
lemma pieces_append_of_notMem (ht : c ∉ t) (s : Text) :
    ∃ others last, pieces c s = others ++ [last] ∧ pieces c (s ++ t) = others ++ [last ++ t] := by
  induction s with
  | nil => exact ⟨[], [], pieces_nil c, pieces_eq_singleton ht⟩
  | cons x s ih =>
      obtain ⟨others, last, hs, hst⟩ := ih
      by_cases hx : x = c
      · subst hx
        refine ⟨[] :: others, last, ?_, ?_⟩
        · rw [pieces_cons_self, hs]
          rfl
        · rw [List.cons_append, pieces_cons_self, hst]
          rfl
      · rw [List.cons_append, pieces_cons_of_ne hx, pieces_cons_of_ne hx, hs, hst]
        cases others with
        | nil => exact ⟨[], x :: last, rfl, rfl⟩
        | cons first others => exact ⟨(x :: first) :: others, last, rfl, rfl⟩

/-- No part holds the character that the text was cut at. -/
lemma notMem_of_mem_pieces (h : p ∈ pieces c s) : c ∉ p := by
  induction s generalizing p with
  | nil =>
      rw [pieces_nil, List.mem_singleton] at h
      simp [h]
  | cons x s ih =>
      by_cases hx : x = c
      · rw [hx, pieces_cons_self, List.mem_cons] at h
        rcases h with rfl | h
        · simp
        · exact ih h
      · obtain ⟨first, others, hs, hxs⟩ := pieces_cons_eq hx s
        rw [hxs, List.mem_cons] at h
        rcases h with rfl | h
        · simp [Ne.symm hx, ih (p := first) (by simp [hs])]
        · exact ih (by simp [hs, h])

lemma pieces_eq_singleton_iff : pieces c s = [p] ↔ p = s ∧ c ∉ s := by
  constructor
  · intro h
    obtain rfl : [c].intercalate [p] = s := h ▸ List.intercalate_splitOn c
    rw [List.intercalate_singleton] at h ⊢
    exact ⟨rfl, notMem_of_mem_pieces (s := p) (by rw [h]; exact List.mem_singleton_self p)⟩
  · rintro ⟨rfl, h⟩
    exact pieces_eq_singleton h

/-- A text has two parts exactly if it holds the character once, between them. -/
lemma pieces_eq_pair_iff : pieces c s = [p, t] ↔ s = p ++ c :: t ∧ c ∉ p ∧ c ∉ t := by
  constructor
  · intro h
    have hs : s = p ++ c :: t := by
      have hjoin : [c].intercalate (pieces c s) = s := List.intercalate_splitOn c
      rw [h] at hjoin
      simpa [List.intercalate] using hjoin.symm
    exact ⟨hs, notMem_of_mem_pieces (s := s) (by simp [h]),
      notMem_of_mem_pieces (s := s) (by simp [h])⟩
  · rintro ⟨rfl, hp, ht⟩
    rw [pieces_append_cons, pieces_eq_singleton hp, pieces_eq_singleton ht, List.singleton_append]

/-- What is done to a text part by part is done to its parts. -/
lemma pieces_eq_map {f : Text → Text} (hmem : ∀ s, c ∈ f s → c ∈ s)
    (happend : ∀ s t, f (s ++ c :: t) = f s ++ c :: f t) (s : Text) :
    pieces c (f s) = (pieces c s).map f := by
  -- the text is cut at its first `c`, after which a shorter text is left
  induction hn : s.length using Nat.strong_induction_on generalizing s with
  | _ n ih =>
      by_cases hc : c ∈ s
      · obtain ⟨a, b, rfl, ha⟩ := List.eq_append_cons_of_mem hc
        have hb : b.length < n := by
          rw [← hn, List.length_append, List.length_cons]
          omega
        rw [happend, pieces_append_cons, pieces_append_cons, List.map_append, ih _ hb b rfl,
          pieces_eq_singleton ha, pieces_eq_singleton fun h => ha (hmem a h)]
        rfl
      · rw [pieces_eq_singleton hc, pieces_eq_singleton fun h => hc (hmem s h)]
        rfl

/-! ### Joining -/

lemma join_cons_cons (sep p q : Text) (parts : List Text) :
    join sep (p :: q :: parts) = p ++ sep ++ join sep (q :: parts) :=
  List.intercalate_cons_cons

/-- After the first part comes nothing or the separator. -/
lemma exists_join_cons_eq (sep : Text) (parts : List Text) :
    ∃ more, (∀ p, join sep (p :: parts) = p ++ more)
      ∧ (more = [] ∨ ∃ rest, more = sep ++ rest) := by
  cases parts with
  | nil =>
      refine ⟨[], fun p => ?_, Or.inl rfl⟩
      rw [join, List.intercalate_singleton, List.append_nil]
  | cons q parts =>
      refine ⟨sep ++ join sep (q :: parts), fun p => ?_, Or.inr ⟨_, rfl⟩⟩
      rw [join_cons_cons, List.append_assoc]

/-- The characters of joined parts are those of the parts and of the separator. -/
lemma mem_join {sep : Text} {parts : List Text} (h : x ∈ join sep parts) :
    x ∈ sep ∨ ∃ p ∈ parts, x ∈ p := by
  induction parts with
  | nil => simp [join] at h
  | cons p parts ih =>
      cases parts with
      | nil =>
          rw [join, List.intercalate_singleton] at h
          exact Or.inr ⟨p, by simp, h⟩
      | cons q parts =>
          rw [join_cons_cons, List.mem_append, List.mem_append] at h
          rcases h with (h | h) | h
          · exact Or.inr ⟨p, by simp, h⟩
          · exact Or.inl h
          · exact (ih h).imp_right fun ⟨r, hr, hx⟩ => ⟨r, List.mem_cons_of_mem _ hr, hx⟩

/-- A part stands in the joined text as it is. -/
lemma infix_join {sep p : Text} {parts : List Text} (h : p ∈ parts) : p <:+: join sep parts := by
  induction parts with
  | nil => simp at h
  | cons q parts ih =>
      obtain ⟨more, hmore, -⟩ := exists_join_cons_eq sep parts
      rcases List.mem_cons.mp h with rfl | h
      · rw [hmore]
        exact (List.prefix_append p more).isInfix
      · cases parts with
        | nil => simp at h
        | cons r parts =>
            rw [join_cons_cons]
            exact (ih h).trans (List.suffix_append _ _).isInfix

/-- A part stands in the text as it is. -/
lemma infix_of_mem_pieces (h : p ∈ pieces c s) : p <:+: s := by
  have hs : join [c] (pieces c s) = s := List.intercalate_splitOn c
  rw [← hs]
  exact infix_join h

/-- The characters of a part are characters of the text. -/
lemma mem_of_mem_pieces (h : p ∈ pieces c s) (hx : x ∈ p) : x ∈ s :=
  (infix_of_mem_pieces h).mem hx

/-- Joined parts are tight if each of them is tight and not empty. -/
lemma tight_join {sep : Text} {parts : List Text} (h : ∀ p ∈ parts, p ≠ [] ∧ Tight p) :
    Tight (join sep parts) := by
  have hne : ∀ p ∈ parts, ∀ parts, join sep (p :: parts) ≠ [] := by
    intro p hp parts
    cases parts with
    | nil => simpa [join] using (h p hp).1
    | cons q parts => simp [join_cons_cons, (h p hp).1]
  induction parts with
  | nil => exact tight_nil
  | cons p parts ih =>
      obtain ⟨hpne, hp⟩ := h p (by simp)
      cases parts with
      | nil => simpa [join] using hp
      | cons q parts =>
          have hrest := ih (fun r hr => h r (List.mem_cons_of_mem _ hr)) fun r hr =>
            hne r (List.mem_cons_of_mem _ hr)
          rw [join_cons_cons]
          exact tight_append_append hp hrest hpne (hne q (by simp) parts)

/-! ### Words in a text -/

/-- A text holds a word exactly if the word stands somewhere in it. -/
lemma holds_iff {word : Text} : holds word s = true ↔ word <:+: s := by
  rw [holds]
  induction s with
  | nil =>
      cases word with
      | nil => simp [after?]
      | cons x word => simp [after?]
  | cons x s ih =>
      rw [List.infix_cons_iff, ← ih, after?]
      cases hword : word.isPrefixOf? (x :: s) with
      | some rest =>
          have hprefix := List.isPrefixOf?_eq_some_iff_append_eq.mp hword
          exact iff_of_true rfl (Or.inl ⟨rest, hprefix⟩)
      | none =>
          refine (or_iff_right ?_).symm
          rintro ⟨rest, hrest⟩
          rw [List.isPrefixOf?_eq_some_iff_append_eq.mpr hrest] at hword
          exact absurd hword (by simp)

/-- Words end at a blank. -/
lemma words_append_blank (hc : isBlank c = true) (s t : Text) :
    words (s ++ c :: t) = words s ++ words t := by
  rw [words, words, words, List.splitOnP_append_cons s t hc, List.filter_append]

/-- A blank in front belongs to no word. -/
lemma words_blank_cons (hc : isBlank c = true) (s : Text) : words (c :: s) = words s :=
  words_append_blank hc [] s

lemma words_eq_singleton (hne : s ≠ []) (hs : ∀ x ∈ s, isBlank x = false) : words s = [s] := by
  rw [words, List.splitOnP_eq_singleton hs]
  exact List.filter_cons_of_pos (by simpa using hne)

/-- Words that are joined with a blank come back. -/
lemma words_join {parts : List Text} (hc : isBlank c = true)
    (h : ∀ p ∈ parts, p ≠ [] ∧ ∀ x ∈ p, isBlank x = false) : words (join [c] parts) = parts := by
  induction parts with
  | nil => rfl
  | cons p parts ih =>
      obtain ⟨⟨hne, hp⟩, hparts⟩ := List.forall_mem_cons.mp h
      cases parts with
      | nil => rw [join, List.intercalate_singleton, words_eq_singleton hne hp]
      | cons q parts =>
          rw [join_cons_cons, List.append_assoc, List.singleton_append, words_append_blank hc,
            words_eq_singleton hne hp, ih hparts, List.singleton_append]

/-! ### Readings that ignore blanks at the ends -/

/-- A reading of texts that pays no attention to a blank at either end. -/
structure IgnoresPadding {α : Type} (f : Text → α) : Prop where
  front : ∀ s, f (' ' :: s) = f s
  back : ∀ s, f (s ++ [' ']) = f s

lemma ignoresPadding_trim : IgnoresPadding trim where
  front s := trim_blanks_append (a := [' ']) (by simp [isBlank_space])
  back s := trim_append_blanks (by simp [isBlank_space])

namespace IgnoresPadding

variable {α : Type} {f : Text → α}

lemma map_pieces_cons (hf : IgnoresPadding f) (hc : ' ' ≠ c) (s : Text) :
    (pieces c (' ' :: s)).map f = (pieces c s).map f := by
  obtain ⟨first, others, hs, hxs⟩ := pieces_cons_eq hc s
  rw [hs, hxs, List.map_cons, List.map_cons, hf.front]

lemma map_pieces_concat (hf : IgnoresPadding f) (hc : ' ' ≠ c) (s : Text) :
    (pieces c (s ++ [' '])).map f = (pieces c s).map f := by
  obtain ⟨others, last, hs, hst⟩ := pieces_append_of_notMem (t := [' ']) (by simpa using hc.symm) s
  rw [hs, hst, List.map_append, List.map_append, List.map_singleton, List.map_singleton, hf.back]

/-- Reading every part is itself a reading that ignores blanks at the ends. -/
lemma pieces (hf : IgnoresPadding f) (hc : ' ' ≠ c) :
    IgnoresPadding fun s => (Text.pieces c s).map f :=
  ⟨hf.map_pieces_cons hc, hf.map_pieces_concat hc⟩

/-- Cutting undoes joining, as far as such a reading can tell. -/
lemma map_pieces_join (hf : IgnoresPadding f) (hc : ' ' ≠ c) {parts : List Text}
    (hne : parts ≠ []) (h : ∀ p ∈ parts, c ∉ p) :
    (Text.pieces c (join [' ', c, ' '] parts)).map f = parts.map f := by
  induction parts with
  | nil => exact absurd rfl hne
  | cons p parts ih =>
      have hp : c ∉ p := h p (by simp)
      cases parts with
      | nil => rw [join, List.intercalate_singleton, pieces_eq_singleton hp]
      | cons q parts =>
          have hrest := ih (by simp) fun p hp => h p (List.mem_cons_of_mem _ hp)
          have hcut : join [' ', c, ' '] (p :: q :: parts)
              = (p ++ [' ']) ++ c :: (' ' :: join [' ', c, ' '] (q :: parts)) := by
            simp [join_cons_cons]
          rw [hcut, pieces_append_cons, List.map_append, hf.map_pieces_concat hc,
            hf.map_pieces_cons hc, pieces_eq_singleton hp, hrest]
          rfl

end IgnoresPadding

end Text

end Grading
