/-
Escaped texts.

* `escape_eq_replaceSpecial`: escaping replaces five characters, one after the other, and no
  replacement meets what an earlier one has put in;
* `isSpecial_of_mem_escape`: an escaped text holds neither angle brackets nor quotes;
* `unescape`, `unescape_escape`: decoding the five entities from left to right gives the text back,
  so no entity is escaped twice;
* `exists_entity_of_escape_eq`: every ampersand of an escaped text starts an entity;
* `escape_invertible`: all of this together, so that different texts are escaped differently.
-/
import Grading.Page.Markup
import Mathlib.Data.Bool.AllAny
import Mathlib.Tactic

namespace Grading

namespace Page

variable {s t : Text} {c : Char}

/-! ### Five replacements -/

/-- The text with a word in the place of every `c`. -/
def replaceChar (c : Char) (word : Text) (s : Text) : Text :=
  s.flatMap fun a => if a = c then word else [a]

lemma replaceChar_singleton {a : Char} {word : Text} (h : ¬a = c) :
    replaceChar c word [a] = [a] := by
  rw [replaceChar, List.flatMap_singleton, if_neg h]

lemma replaceChar_append (c : Char) (word s t : Text) :
    replaceChar c word (s ++ t) = replaceChar c word s ++ replaceChar c word t :=
  List.flatMap_append

/-- The five replacements, the ampersand first. -/
def replaceSpecial (s : Text) : Text :=
  replaceChar '\'' "&#x27;".toList
    (replaceChar '"' "&quot;".toList
      (replaceChar '>' "&gt;".toList
        (replaceChar '<' "&lt;".toList
          (replaceChar '&' "&amp;".toList s))))

lemma replaceSpecial_append (s t : Text) :
    replaceSpecial (s ++ t) = replaceSpecial s ++ replaceSpecial t := by
  simp only [replaceSpecial, replaceChar_append]

lemma replaceSpecial_singleton (c : Char) : replaceSpecial [c] = escapeChar c := by
  rw [escapeChar]
  split_ifs with hamp hless hgreater hquote happostrophe
  · subst hamp; decide
  · subst hless; decide
  · subst hgreater; decide
  · subst hquote; decide
  · subst happostrophe; decide
  · rw [replaceSpecial, replaceChar_singleton hamp, replaceChar_singleton hless,
      replaceChar_singleton hgreater, replaceChar_singleton hquote,
      replaceChar_singleton happostrophe]

/-- Escaping replaces the five characters one after the other. Only the ampersand stands in what is
put in, and it is replaced first. -/
lemma escape_eq_replaceSpecial (s : Text) : escape s = replaceSpecial s := by
  induction s with
  | nil => rfl
  | cons c s ih =>
      calc escape (c :: s) = escapeChar c ++ escape s := List.flatMap_cons
        _ = replaceSpecial [c] ++ replaceSpecial s := by rw [replaceSpecial_singleton, ih]
        _ = replaceSpecial (c :: s) := (replaceSpecial_append [c] s).symm

/-! ### What an escaped text holds -/

/-- Whether a character is an angle bracket. -/
def isAngle (c : Char) : Bool := c = '<' || c = '>'

/-- Whether a character is an angle bracket or a quote. -/
def isSpecial (c : Char) : Bool := isAngle c || c = '"' || c = '\''

lemma isSpecial_of_mem_escapeChar {a : Char} (h : a ∈ escapeChar c) : isSpecial a = false := by
  have hentity {s : Text} (hs : (s.all fun a => isSpecial a = false) = true) (h : a ∈ s) :
      isSpecial a = false := List.all_iff_forall_prop.mp hs a h
  rw [escapeChar] at h
  split_ifs at h with hamp hless hgreater hquote happostrophe
  case neg =>
    obtain rfl := List.mem_singleton.mp h
    simp [isSpecial, isAngle, hless, hgreater, hquote, happostrophe]
  all_goals exact hentity (by decide) h

/-- An escaped text holds neither angle brackets nor quotes. -/
lemma isSpecial_of_mem_escape (h : c ∈ escape s) : isSpecial c = false := by
  obtain ⟨a, -, hc⟩ := List.mem_flatMap.mp h
  exact isSpecial_of_mem_escapeChar hc

lemma isAngle_of_mem_escape (h : c ∈ escape s) : isAngle c = false := by
  have hspecial := isSpecial_of_mem_escape h
  rw [isSpecial, Bool.or_eq_false_iff, Bool.or_eq_false_iff] at hspecial
  exact hspecial.1.1

/-! ### Decoding -/

/-- The entities, and what they stand for. -/
def entities : List (Text × Char) :=
  [("&amp;".toList, '&'), ("&lt;".toList, '<'), ("&gt;".toList, '>'), ("&quot;".toList, '"'),
   ("&#x27;".toList, '\'')]

/-- What the entity at the start of a text stands for, and what follows it. -/
def entity? (s : Text) : Option (Char × Text) :=
  entities.findSome? fun e => (e.1.isPrefixOf? s).map fun rest => (e.2, rest)

/-- An entity is not empty. -/
lemma length_lt_of_entity? (h : entity? s = some (c, t)) : t.length < s.length := by
  have hne : ∀ e ∈ entities, 0 < e.1.length := by decide
  obtain ⟨e, he, hprefix⟩ := List.exists_of_findSome?_eq_some h
  obtain ⟨rest, hrest, heq⟩ := Option.map_eq_some_iff.mp hprefix
  obtain ⟨rfl, rfl⟩ := Prod.mk.inj heq
  rw [← List.isPrefixOf?_eq_some_iff_append_eq.mp hrest, List.length_append]
  exact Nat.lt_add_of_pos_left (hne e he)

/-- The text with its entities decoded, in one pass from left to right. -/
def unescape (s : Text) : Text :=
  match _h : entity? s with
  | some (c, rest) => c :: unescape rest
  | none =>
    match s with
    | [] => []
    | c :: rest => c :: unescape rest
termination_by s.length
decreasing_by
  · exact length_lt_of_entity? _h
  · exact Nat.lt_succ_self _

/-- Every entity starts with an ampersand. -/
lemma entity?_eq_none (h : c ≠ '&') (s : Text) : entity? (c :: s) = none := by
  have hstart : ∀ e ∈ entities, e.1.head? = some '&' := by decide
  refine List.findSome?_eq_none_iff.mpr fun e he => ?_
  rw [Option.map_eq_none_iff]
  cases hword : e.1 with
  | nil => simpa [hword] using hstart e he
  | cons a word =>
      obtain rfl : a = '&' := by simpa [hword] using hstart e he
      simp [List.isPrefixOf?, Ne.symm h]

lemma unescape_of_entity? (h : entity? s = some (c, t)) : unescape s = c :: unescape t := by
  rw [unescape]
  split
  case h_1 d rest hsome =>
    obtain ⟨rfl, rfl⟩ := Prod.mk.inj (Option.some.inj (hsome.symm.trans h))
    rfl
  case h_2 hnone =>
    rw [hnone] at h
    cases h

lemma unescape_cons (h : c ≠ '&') (s : Text) : unescape (c :: s) = c :: unescape s := by
  rw [unescape]
  split
  case h_1 d rest hsome =>
    rw [entity?_eq_none h] at hsome
    cases hsome
  case h_2 => rfl

lemma unescape_escapeChar_append (c : Char) (s : Text) :
    unescape (escapeChar c ++ s) = c :: unescape s := by
  rw [escapeChar]
  split_ifs with hamp hless hgreater hquote happostrophe
  · subst hamp; exact unescape_of_entity? rfl
  · subst hless; exact unescape_of_entity? rfl
  · subst hgreater; exact unescape_of_entity? rfl
  · subst hquote; exact unescape_of_entity? rfl
  · subst happostrophe; exact unescape_of_entity? rfl
  · exact unescape_cons hamp s

/-- Decoding the entities of an escaped text gives the text back. -/
lemma unescape_escape (s : Text) : unescape (escape s) = s := by
  induction s with
  | nil => rw [escape, List.flatMap_nil, unescape]; rfl
  | cons c s ih =>
      have hcons : escape (c :: s) = escapeChar c ++ escape s := List.flatMap_cons
      rw [hcons, unescape_escapeChar_append, ih]

/-! ### Ampersands -/

/-- The entity that stands for a character, or the character itself if there is none. -/
def entityOf (c : Char) : Text := ((entities.find? fun e => e.2 = c).map Prod.fst).getD [c]

lemma escapeChar_eq_entityOf (c : Char) : escapeChar c = entityOf c := by
  rw [escapeChar]
  split_ifs with hamp hless hgreater hquote happostrophe
  · subst hamp; rfl
  · subst hless; rfl
  · subst hgreater; rfl
  · subst hquote; rfl
  · subst happostrophe; rfl
  · have hnone : (entities.find? fun e => e.2 = c) = none := by
      simp [entities, Ne.symm hamp, Ne.symm hless, Ne.symm hgreater, Ne.symm hquote,
        Ne.symm happostrophe]
    rw [entityOf, hnone]
    rfl

/-- An ampersand in an escaped character starts an entity, which is all of it. -/
lemma entity_of_escapeChar_eq (h : escapeChar c = s ++ '&' :: t) :
    s = [] ∧ ∃ e ∈ entities, e.1 = '&' :: t := by
  have hstart : ∀ e ∈ entities, '&' ∉ e.1.tail := by decide
  rw [escapeChar_eq_entityOf, entityOf] at h
  cases hfound : entities.find? fun e => e.2 = c with
  | none =>
      rw [hfound] at h
      obtain ⟨rfl, hc⟩ := List.append_eq_singleton_iff.mp h.symm |>.resolve_right (by simp)
      obtain ⟨rfl, -⟩ := List.cons.inj hc
      cases hfound
  | some e =>
      have hmem : e ∈ entities := List.mem_of_find?_eq_some hfound
      rw [hfound, Option.map_some, Option.getD_some] at h
      cases s with
      | nil => exact ⟨rfl, e, hmem, h⟩
      | cons a s =>
          refine absurd ?_ (hstart e hmem)
          rw [h]
          exact List.mem_append_right _ List.mem_cons_self

/-- Every ampersand of an escaped text starts an entity. -/
lemma exists_entity_of_escape_eq {u v : Text} (h : escape s = u ++ '&' :: v) :
    ∃ e ∈ entities, e.1 <+: '&' :: v := by
  induction s generalizing u with
  | nil => exact absurd h (by simp [escape])
  | cons c s ih =>
      have hcons : escape (c :: s) = escapeChar c ++ escape s := List.flatMap_cons
      rw [hcons, List.append_eq_append_iff] at h
      -- the ampersand stands behind the first character, or in what is put in its place
      rcases h with ⟨w, -, hrest⟩ | ⟨w, hfirst, hrest⟩
      · exact ih hrest
      · cases w with
        | nil => exact ih (u := []) hrest.symm
        | cons a w =>
            obtain ⟨rfl, hv⟩ := List.cons.inj hrest
            obtain ⟨-, e, he, heq⟩ := entity_of_escapeChar_eq hfirst
            refine ⟨e, he, escape s, ?_⟩
            rw [heq, hv]
            rfl

/-- **Escaping can be undone**: the five replacements are one pass that puts an entity in the place
of each special character. An escaped text holds neither angle brackets nor quotes, each of its
ampersands starts an entity, and decoding the entities from left to right gives the text back. So
different texts are escaped differently. -/
theorem escape_invertible :
    (∀ s, replaceSpecial s = escape s ∧ escape s = s.flatMap entityOf
        ∧ (∀ c ∈ ['<', '>', '"', '\''], c ∉ escape s)
        ∧ (∀ u v, escape s = u ++ '&' :: v → ∃ e ∈ entities, e.1 <+: '&' :: v)
        ∧ unescape (escape s) = s)
      ∧ Function.Injective escape := by
  have hspecial : ['<', '>', '"', '\''].all isSpecial = true := by decide
  refine ⟨fun s => ⟨(escape_eq_replaceSpecial s).symm, ?_, fun c hc hmem => ?_,
    fun u v => exists_entity_of_escape_eq, unescape_escape s⟩,
    Function.LeftInverse.injective unescape_escape⟩
  · exact List.flatMap_congr fun c _ => escapeChar_eq_entityOf c
  · simpa [isSpecial_of_mem_escape hmem] using List.all_eq_true.mp hspecial c hc

/-- A text that reads like an entity, and one that reads like an escaped one. -/
theorem escape_invertible_nested :
    escape "&lt;".toList = "&amp;lt;".toList
      ∧ (∃ e ∈ entities, e.1 <+: "&amp;lt;".toList)
      ∧ unescape (escape "&amp;lt;".toList) = "&amp;lt;".toList := by
  have hescaped : escape "&lt;".toList = "&amp;lt;".toList := by decide
  obtain ⟨-, -, -, hamp, -⟩ := escape_invertible.1 "&lt;".toList
  obtain ⟨-, -, -, -, hdecoded⟩ := escape_invertible.1 "&amp;lt;".toList
  exact ⟨hescaped, hamp [] "amp;lt;".toList hescaped, hdecoded⟩

end Page

end Grading
