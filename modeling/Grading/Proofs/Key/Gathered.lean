/-
The alternatives of a line, gathered one after the other.

* `partValue`, `partTags`: the value and the tags that are cut out of a part of a line;
* `gatherForms`, `gatherPart`, `gatherLine`: the loops over the forms of a variant, the variants of
  a part and the parts of a line, which leave out an alternative that was gathered before;
* `gatherLine_eq`: what they gather are the alternatives of the line;
* `entries_gathered`: these are the first occurrences of all alternatives that the line writes, and
  their tags hold no separator, whatever forms the expander gives.
-/
import Grading.Proofs.Key.Entries

namespace Grading

open Occurrences (addLast firsts)

variable {expand : Expander} {part line : Text} {e : Entry} {tags parts : List Text}

/-! ### Values and tags -/

/-- The value of a part of a line: what stands in front of the first semicolon, trimmed. -/
def partValue (part : Text) : Text := ((part.pieces ';').headD []).trim

/-- The tags of a part of a line: what stands behind each semicolon, trimmed, if it is not blank. -/
def partTags (part : Text) : List Text := trimmedParts (part.pieces ';').tail

/-- The alternatives of a part of a line are the forms of its variants, with its tags. -/
lemma partEntries_eq (expand : Expander) (part : Text) :
    partEntries expand part = (trimmedParts ((partValue part).pieces '|')).flatMap fun variant =>
      (trimmedParts (expand variant)).map fun form => ⟨form, partTags part⟩ := by
  rw [partEntries, partValue, partTags]
  cases hpieces : part.pieces ';' with
  | nil => exact absurd hpieces (Text.pieces_ne_nil ';' part)
  | cons value tags => rfl

/-- Parts are trimmed one by one, and those that are blank give nothing. -/
lemma flatMap_trimmedParts {α : Type} (f : Text → List α) (parts : List Text) :
    (trimmedParts parts).flatMap f
      = parts.flatMap fun s => if s.trim = [] then [] else f s.trim := by
  induction parts with
  | nil => rfl
  | cons s parts ih =>
      rw [List.flatMap_cons, ← ih, trimmedParts, List.map_cons]
      by_cases hs : s.trim = []
      · rw [if_pos hs, List.filter_cons_of_neg (by simp [hs])]
        rfl
      · rw [if_neg hs, List.filter_cons_of_pos (by simpa using hs), List.flatMap_cons]
        rfl

/-! ### Gathering -/

/-- Gathers the forms of a variant, with the tags of its part. -/
def gatherForms (tags : List Text) (gathered : List Entry) (forms : List Text) : List Entry :=
  forms.foldl (fun gathered form =>
    if form.trim = [] then gathered else addLast gathered ⟨form.trim, tags⟩) gathered

/-- Gathers the alternatives of a part of a line. -/
def gatherPart (expand : Expander) (gathered : List Entry) (part : Text) : List Entry :=
  ((partValue part).pieces '|').foldl (fun gathered variant =>
    if variant.trim = [] then gathered
    else gatherForms (partTags part) gathered (expand variant.trim)) gathered

/-- Gathers the alternatives of a line. -/
def gatherLine (expand : Expander) (line : Text) : List Entry :=
  (line.pieces '&').foldl (gatherPart expand) []

/-- The loop over the forms adds what is new of them. -/
lemma gatherForms_eq (tags : List Text) (seen : List Entry) (forms : List Text) :
    gatherForms tags seen.eraseDups forms
      = (seen ++ (trimmedParts forms).map fun form => (⟨form, tags⟩ : Entry)).eraseDups := by
  rw [List.map_eq_flatMap, flatMap_trimmedParts]
  refine Occurrences.foldl_eq_eraseDups (fun seen form => ?_) forms seen
  split_ifs
  · rw [List.append_nil]
  · rw [Occurrences.eraseDups_concat]

/-- The loop over the variants adds what is new of the part. -/
lemma gatherPart_eq (expand : Expander) (seen : List Entry) (part : Text) :
    gatherPart expand seen.eraseDups part = (seen ++ partEntries expand part).eraseDups := by
  rw [partEntries_eq, flatMap_trimmedParts]
  refine Occurrences.foldl_eq_eraseDups (fun seen variant => ?_) _ seen
  split_ifs
  · rw [List.append_nil]
  · exact gatherForms_eq _ _ _

/-- What the loops gather are the alternatives of the line. -/
lemma gatherLine_eq (expand : Expander) (line : Text) :
    gatherLine expand line = entries expand line :=
  Occurrences.foldl_eq_eraseDups (gatherPart_eq expand) (line.pieces '&') []

/-! ### Tags -/

/-- The tags of an alternative are those of a part of the line, whatever forms the expander gives:
trimmed, not empty, and free of what separates alternatives and tags. -/
lemma tags_of_mem_entries (h : e ∈ entries expand line) :
    ∀ t ∈ e.tags, t.trim = t ∧ t ≠ [] ∧ '&' ∉ t ∧ ';' ∉ t := by
  rw [entries_eq_forms, List.mem_eraseDups, List.mem_flatMap] at h
  obtain ⟨written, hwritten, hform⟩ := h
  have hcanonical := canonical_of_mem_entries_asWritten hwritten
  obtain ⟨form, -, rfl⟩ := List.mem_map.mp hform
  intro t ht
  have hfree := hcanonical.tag_free t ht
  exact ⟨(hcanonical.tag_tight t ht).trim_eq, hcanonical.tag_ne t ht,
    fun hamp => (hfree _ hamp).1 rfl, fun hsemicolon => (hfree _ hsemicolon).2 rfl⟩

/-- **The alternatives of a line**: gathered in three loops that leave out what was gathered before,
they do not repeat, and they are the first occurrences of the forms, trimmed and not blank, of the
variants of the parts of the line in order, each with the tags of its part. Their tags are trimmed,
not empty, and free of what separates alternatives and tags. -/
theorem entries_gathered (expand : Expander) (line : Text) :
    gatherLine expand line = entries expand line
      ∧ (entries expand line).Nodup
      ∧ entries expand line = firsts ((line.pieces '&').flatMap fun part =>
          (trimmedParts ((partValue part).pieces '|')).flatMap fun variant =>
            (trimmedParts (expand variant)).map fun form => ⟨form, partTags part⟩)
      ∧ ∀ e ∈ entries expand line, ∀ t ∈ e.tags, t.trim = t ∧ t ≠ [] ∧ '&' ∉ t ∧ ';' ∉ t := by
  refine ⟨gatherLine_eq expand line, nodup_entries expand line, ?_,
    fun e he => tags_of_mem_entries he⟩
  rw [entries, Occurrences.eraseDups_eq_firsts]
  exact congrArg firsts (List.flatMap_congr fun part _ => partEntries_eq expand part)

/-- An expander may give forms that are blank, padded or repeated, or none at all: what is left are
three alternatives of the first part, which the last one repeats. -/
theorem entries_gathered_odd_forms :
    let expand : Expander := fun value =>
      if value = "b".toList then [] else [value, " ".toList, value ++ [' '], 'x' :: value]
    let line := "a| b |xa; one ;; ;t|u & ;lost & xa ; one ; t|u".toList
    let tags : List Text := ["one".toList, "t|u".toList]
    gatherLine expand line = [⟨"a".toList, tags⟩, ⟨"xa".toList, tags⟩, ⟨"xxa".toList, tags⟩]
      ∧ ∀ t ∈ tags, t.trim = t ∧ t ≠ [] ∧ '&' ∉ t ∧ ';' ∉ t := by
  intro expand line tags
  obtain ⟨hgathered, -, -, htags⟩ := entries_gathered expand line
  have hentries : entries expand line
      = [⟨"a".toList, tags⟩, ⟨"xa".toList, tags⟩, ⟨"xxa".toList, tags⟩] := by
    decide +kernel
  have hmem : (⟨"a".toList, tags⟩ : Entry) ∈ entries expand line := by
    rw [hentries]
    exact List.mem_cons_self
  exact ⟨hgathered.trans hentries, htags _ hmem⟩

end Grading
