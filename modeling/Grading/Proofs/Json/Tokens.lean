/-
The tokens of a text, piece by piece.

* `tokensWithin?_eq`: enough fuel is as good as more, so `tokens?` is a recursion over the text
  alone: `tokens?_gap` passes over a gap, and `tokens?_token` takes a token;
* `Gives`, `GivesAtEnd`: whether a text gives certain tokens, whatever follows it, or provided that
  no word goes on after it;
* `gives_mark`, `gives_quoted`, `givesAtEnd_word`: texts of one token;
* `gives_bracketed`: lines in brackets give the tokens of the lines, separated by commas.
-/
import Grading.Json.Reader
import Grading.Proofs.Json.Quoted
import Mathlib.Data.Bool.AllAny

namespace Grading

namespace Json

variable {s t rest : Text} {c : Char} {token : Token} {ts us : List Token}

/-! ### Fuel -/

/-- What is passed over changes nothing about what follows. -/
lemma exists_of_map_eq_some {x : Option (Text × Text)} {f : Text × Text → Text × Text}
    (h : x.map f = some (t, rest)) (hf : ∀ p, (f p).2 = p.2) : ∃ u, x = some (u, rest) := by
  obtain ⟨p, hp, heq⟩ := Option.map_eq_some_iff.mp h
  have hrest : p.2 = rest := (hf p).symm.trans (congrArg Prod.snd heq)
  exact ⟨p.1, by rw [hp, ← hrest]⟩

/-- The closing quote takes at least one character. -/
lemma length_scanQuoted (h : scanQuoted s = some (t, rest)) : rest.length < s.length := by
  fun_induction scanQuoted s generalizing t with
  | case1 => cases h
  | case2 s =>
      obtain ⟨-, rfl⟩ := Prod.mk.inj (Option.some.inj h)
      exact Nat.lt_succ_self _
  | case3 a b c d s _ ih =>
      obtain ⟨u, hu⟩ := exists_of_map_eq_some h fun _ => rfl
      have hlength := ih hu
      simp only [List.length_cons]
      omega
  | case4 => cases h
  | case5 c s _ _ ih =>
      obtain ⟨u, hu⟩ := exists_of_map_eq_some h fun _ => rfl
      have hlength := ih hu
      simp only [List.length_cons]
      omega
  | case6 => cases h
  | case7 => cases h
  | case8 c s _ _ _ _ ih =>
      obtain ⟨u, hu⟩ := exists_of_map_eq_some h fun _ => rfl
      have hlength := ih hu
      simp only [List.length_cons]
      omega

/-- A token takes at least one character. -/
lemma length_nextToken? (h : nextToken? s = some (token, rest)) : rest.length < s.length := by
  rw [nextToken?.eq_def] at h
  split at h
  case h_1 => cases h
  case h_2 s =>
    obtain ⟨p, hp, heq⟩ := Option.map_eq_some_iff.mp h
    obtain ⟨-, rfl⟩ := Prod.mk.inj heq
    exact Nat.lt_succ_of_lt (length_scanQuoted hp)
  case h_3 c s _ =>
    rw [List.length_cons, Nat.lt_succ_iff]
    split_ifs at h
    · obtain ⟨-, rfl⟩ := Prod.mk.inj (Option.some.inj h)
      exact Nat.le_refl _
    · obtain ⟨-, rfl⟩ := Prod.mk.inj (Option.some.inj h)
      exact (List.dropWhile_suffix _).length_le

/-- What the tokens of a text are, if there is fuel. -/
lemma tokensWithin?_succ (n : Nat) (s : Text) :
    tokensWithin? (n + 1) s
      = if s.dropWhile isGap = [] then some []
        else (nextToken? (s.dropWhile isGap)).bind fun p =>
          (tokensWithin? n p.2).map (p.1 :: ·) := by
  rw [tokensWithin?]
  split
  case h_1 hgap => rw [if_pos hgap]
  case h_2 t hgap =>
    rw [if_neg hgap]
    cases nextToken? (s.dropWhile isGap) <;> rfl

/-- Enough fuel is as good as more. -/
lemma tokensWithin?_eq {n m : Nat} (hn : s.length ≤ n) (hm : s.length ≤ m) :
    tokensWithin? n s = tokensWithin? m s := by
  induction n generalizing m s with
  | zero =>
      obtain rfl := List.eq_nil_of_length_eq_zero (Nat.le_zero.mp hn)
      cases m <;> rfl
  | succ n ih =>
      cases m with
      | zero =>
          obtain rfl := List.eq_nil_of_length_eq_zero (Nat.le_zero.mp hm)
          rfl
      | succ m =>
          rw [tokensWithin?_succ, tokensWithin?_succ]
          split
          · rfl
          · refine Option.bind_congr fun p hp => ?_
            have htoken : p.2.length < (s.dropWhile isGap).length := length_nextToken? hp
            have hgap := (List.dropWhile_suffix (l := s) isGap).length_le
            rw [ih (m := m) (by omega) (by omega)]

/-! ### Tokens one by one -/

@[simp] lemma tokens?_nil : tokens? [] = some [] := rfl

/-- Nothing but what follows a gap counts. -/
lemma tokens?_gap (h : isGap c = true) (s : Text) : tokens? (c :: s) = tokens? s := by
  calc tokens? (c :: s) = tokensWithin? (s.length + 1) s := by
        rw [tokens?, List.length_cons, tokensWithin?_succ, tokensWithin?_succ,
          List.dropWhile_cons_of_pos h]
    _ = tokens? s := tokensWithin?_eq (Nat.le_succ _) (Nat.le_refl _)

/-- The first token comes before the tokens of what follows it. -/
lemma tokens?_token (hgap : isGap c = false) (h : nextToken? (c :: s) = some (token, rest)) :
    tokens? (c :: s) = (tokens? rest).map (token :: ·) := by
  have hlength : rest.length ≤ s.length := Nat.lt_succ_iff.mp (length_nextToken? h)
  have hdrop : (c :: s).dropWhile isGap = c :: s :=
    List.dropWhile_cons_of_neg (by simp [hgap])
  rw [tokens?, List.length_cons, tokensWithin?_succ, hdrop, if_neg (List.cons_ne_nil _ _), h,
    Option.bind_some, tokens?, tokensWithin?_eq hlength (Nat.le_refl _)]

/-! ### Texts of certain tokens -/

/-- Whether a text gives certain tokens, whatever follows it. -/
def Gives (s : Text) (ts : List Token) : Prop :=
  ∀ rest, tokens? (s ++ rest) = (tokens? rest).map (ts ++ ·)

/-- Whether a word may end in front of a text. -/
def EndsWord (s : Text) : Prop := ∀ c ∈ s.head?, isWordChar c = false

/-- Whether a text gives certain tokens, provided that no word goes on after it. -/
def GivesAtEnd (s : Text) (ts : List Token) : Prop :=
  ∀ rest, EndsWord rest → tokens? (s ++ rest) = (tokens? rest).map (ts ++ ·)

lemma Gives.atEnd (h : Gives s ts) : GivesAtEnd s ts := fun rest _ => h rest

lemma endsWord_cons (h : isWordChar c = false) (s : Text) : EndsWord (c :: s) := by
  intro a ha
  obtain rfl : c = a := Option.some.inj ha
  exact h

/-- The tokens of texts in a row. -/
lemma Gives.append_atEnd (hs : Gives s ts) (ht : GivesAtEnd t us) :
    GivesAtEnd (s ++ t) (ts ++ us) := by
  intro rest hrest
  rw [List.append_assoc, hs, ht rest hrest, Option.map_map]
  simp [Function.comp_def]

lemma Gives.append (hs : Gives s ts) (ht : Gives t us) : Gives (s ++ t) (ts ++ us) := by
  intro rest
  rw [List.append_assoc, hs, ht, Option.map_map]
  simp [Function.comp_def]

/-- A text that may end with a word, before one that ends it. -/
lemma GivesAtEnd.append (hs : GivesAtEnd s ts) (hends : ∀ rest, EndsWord (t ++ rest))
    (ht : Gives t us) : Gives (s ++ t) (ts ++ us) := by
  intro rest
  rw [List.append_assoc, hs _ (hends rest), ht, Option.map_map]
  simp [Function.comp_def]

lemma GivesAtEnd.append_atEnd (hs : GivesAtEnd s ts) (hends : ∀ rest, EndsWord (t ++ rest))
    (ht : GivesAtEnd t us) : GivesAtEnd (s ++ t) (ts ++ us) := by
  intro rest hrest
  rw [List.append_assoc, hs _ (hends rest), ht rest hrest, Option.map_map]
  simp [Function.comp_def]

/-! ### Texts of one token -/

lemma gives_gap (h : s.all isGap = true) : Gives s [] := by
  intro rest
  induction s with
  | nil => simp
  | cons c s ih =>
      rw [List.all_cons, Bool.and_eq_true] at h
      rw [List.cons_append, tokens?_gap h.1]
      exact ih h.2

lemma gives_indent (depth : Nat) : Gives (indent depth) [] := by
  refine gives_gap (List.all_eq_true.mpr fun c hc => ?_)
  rw [List.eq_of_mem_replicate hc]
  decide

lemma gives_mark (h : isMark c = true) : Gives [c] [.mark c] := by
  have hother : ∀ c ∈ "[]\x7b\x7d,:".toList, isGap c = false ∧ c ≠ '"' :=
    List.all_iff_forall_prop.mp (by decide)
  obtain ⟨hgap, hquote⟩ := hother c (List.contains_iff_mem.mp h)
  intro rest
  refine tokens?_token hgap ?_
  rw [nextToken?, if_pos h]
  · rfl
  · exact hquote

/-- A string up to its closing quote. -/
lemma gives_quoted (h : ∀ rest, scanQuoted (s ++ '"' :: rest) = some (s, rest)) :
    Gives ('"' :: s ++ ['"']) [.quoted s] := by
  intro rest
  have hnext : nextToken? ('"' :: (s ++ '"' :: rest)) = some (.quoted s, rest) := by
    rw [nextToken?, h]
    rfl
  have htoken := tokens?_token (by decide) hnext
  simpa using htoken

lemma isWordChar_of_isGap (h : isGap c = true) : isWordChar c = false := by
  simp only [isGap, Bool.or_eq_true, decide_eq_true_eq] at h
  rcases h with ((rfl | rfl) | rfl) | rfl <;> decide

lemma isWordChar_of_isMark (h : isMark c = true) : isWordChar c = false := by
  have hmarks : ∀ c ∈ "[]\x7b\x7d,:".toList, isWordChar c = false :=
    List.all_iff_forall_prop.mp (by decide)
  exact hmarks c (List.contains_iff_mem.mp h)

/-- A word is neither a gap nor a mark nor a string. -/
lemma nextToken?_word (h : isWordChar c = true) (s : Text) :
    isGap c = false ∧ nextToken? (c :: s)
      = some (.word (c :: s.takeWhile isWordChar), s.dropWhile isWordChar) := by
  have hgap : isGap c = false := by
    rw [← Bool.not_eq_true]
    intro hgap
    rw [isWordChar_of_isGap hgap] at h
    cases h
  have hmark : ¬ isMark c = true := by
    intro hmark
    rw [isWordChar_of_isMark hmark] at h
    cases h
  have hquote : c ≠ '"' := by
    rintro rfl
    exact absurd h (by decide)
  refine ⟨hgap, ?_⟩
  rw [nextToken?, if_neg hmark, if_pos h]
  exact hquote

/-- Characters of one kind, up to one that is not of that kind. -/
lemma span_append {p : Char → Bool} (hs : ∀ c ∈ s, p c = true)
    (ht : ∀ c, t.head? = some c → p c = false) :
    (s ++ t).takeWhile p = s ∧ (s ++ t).dropWhile p = t := by
  have hends : t.takeWhile p = [] ∧ t.dropWhile p = t := by
    cases t with
    | nil => exact ⟨rfl, rfl⟩
    | cons a t =>
        have ha : ¬ p a = true := by simp [ht a rfl]
        exact ⟨List.takeWhile_cons_of_neg ha, List.dropWhile_cons_of_neg ha⟩
  rw [List.takeWhile_append_of_pos hs, List.dropWhile_append_of_pos hs, hends.1, hends.2,
    List.append_nil]
  exact ⟨rfl, rfl⟩

/-- A word goes as far as its characters do. -/
lemma givesAtEnd_word (hne : s ≠ []) (h : s.all isWordChar = true) :
    GivesAtEnd s [.word s] := by
  obtain ⟨c, s, rfl⟩ := List.exists_cons_of_ne_nil hne
  rw [List.all_cons, Bool.and_eq_true, List.all_eq_true] at h
  intro rest hrest
  obtain ⟨htake, hdrop⟩ := span_append h.2 hrest
  obtain ⟨hgap, hnext⟩ := nextToken?_word h.1 (s ++ rest)
  rw [htake, hdrop] at hnext
  exact tokens?_token hgap hnext

/-! ### Lines in brackets -/

/-- The tokens of several parts, separated by commas. -/
def separated (parts : List (List Token)) : List Token := [Token.mark ','].intercalate parts

/-- Lines that are separated by commas, each further in. -/
lemma givesAtEnd_join (depth : Nat) {lines : List Text} {parts : List (List Token)}
    (h : List.Forall₂ GivesAtEnd lines parts) :
    GivesAtEnd (Text.join [',', '\n'] (lines.map fun line => indent depth ++ line))
      (separated parts) := by
  induction h with
  | nil => exact (gives_gap (s := []) (by simp)).atEnd
  | @cons line part lines parts hline hlines ih =>
      have hfirst : GivesAtEnd (indent depth ++ line) part :=
        (gives_indent depth).append_atEnd hline
      cases hlines with
      | nil => simpa [Text.join, separated] using hfirst
      | @cons line' part' lines parts hline' hlines =>
          have hcomma : Gives [',', '\n'] [.mark ','] :=
            (gives_mark (c := ',') (by decide)).append (gives_gap (s := ['\n']) (by decide))
          have hall := hfirst.append_atEnd (fun rest => endsWord_cons (by decide) _)
            (hcomma.append_atEnd ih)
          simpa [Text.join, separated, List.intercalate_cons_cons] using hall

/-- Lines in brackets give their tokens between the brackets, separated by commas. -/
lemma gives_bracketed {opening closing : Char} (hopening : isMark opening = true)
    (hclosing : isMark closing = true) (depth : Nat) {lines : List Text}
    {parts : List (List Token)} (h : List.Forall₂ GivesAtEnd lines parts) :
    Gives (bracketed opening closing depth lines)
      (.mark opening :: separated parts ++ [.mark closing]) := by
  have hopen : Gives [opening] [.mark opening] := gives_mark hopening
  have hclose : Gives [closing] [.mark closing] := gives_mark hclosing
  cases lines with
  | nil =>
      cases h
      exact hopen.append hclose
  | cons line lines =>
      have hline : Gives ['\n'] [] := gives_gap (by decide)
      have hlast : Gives ('\n' :: indent depth ++ [closing]) [.mark closing] :=
        (hline.append (gives_indent depth)).append hclose
      have hlines := (givesAtEnd_join (depth + 1) h).append
        (fun rest => endsWord_cons (by decide) _) hlast
      have hall := (hopen.append hline).append hlines
      simpa [bracketed] using hall

end Json

end Grading
