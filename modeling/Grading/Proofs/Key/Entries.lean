/-
The alternatives of a key line: what is known of each of them, and how those under an expander come
from those that the line writes.

* `Entry.Canonical`: value and tags are trimmed, not empty, and free of the separators that would
  cut them;
* `Entry.forms`, `entries_eq_forms`: the alternatives under an expander are the forms of those as
  written, each kept where it stands first;
* `canonical_of_mem_entries`: alternatives are canonical;
* `ignoresPadding_partEntries`: blanks around an alternative do not matter.
-/
import Grading.Key.Entry
import Grading.Proofs.Key.Expanders
import Grading.Proofs.Occurrences
import Grading.Proofs.Text.Pieces

namespace Grading

open Text (IgnoresPadding ignoresPadding_trim tight_trim trim_trim notMem_of_mem_pieces
  mem_of_mem_pieces mem_of_mem_trim)

variable {expand : Expander} {part line : Text} {e : Entry}

/-! ### Parts between separators -/

lemma mem_trimmedParts {parts : List Text} {t : Text} :
    t ∈ trimmedParts parts ↔ (∃ p ∈ parts, p.trim = t) ∧ t ≠ [] := by
  simp [trimmedParts, List.mem_filter]

lemma tight_of_mem_trimmedParts {parts : List Text} {t : Text} (h : t ∈ trimmedParts parts) :
    t.Tight := by
  obtain ⟨⟨p, -, rfl⟩, -⟩ := mem_trimmedParts.mp h
  exact tight_trim p

/-- Parts that are trimmed and not empty stay as they are. -/
lemma trimmedParts_eq_self {parts : List Text} (h : ∀ t ∈ parts, t ≠ [] ∧ t.Tight) :
    trimmedParts parts = parts := by
  have hmap : parts.map Text.trim = parts := by
    conv_rhs => rw [← List.map_id parts]
    exact List.map_congr_left fun t ht => (h t ht).2.trim_eq
  rw [trimmedParts, hmap, List.filter_eq_self]
  intro t ht
  simpa using (h t ht).1

/-- The alternatives of a part of a line only depend on what stands between its semicolons, blanks
at the ends aside. -/
lemma partEntries_of_map_trim {value : Text} {tags : List Text}
    (h : (part.pieces ';').map Text.trim = value :: tags) :
    partEntries expand part = (trimmedParts (value.pieces '|')).flatMap fun variant =>
      (trimmedParts (expand variant)).map fun form => ⟨form, tags.filter fun t => !t.isEmpty⟩ := by
  rw [partEntries]
  cases hp : part.pieces ';' with
  | nil => exact absurd hp (Text.pieces_ne_nil ';' part)
  | cons value' tags' =>
      rw [hp, List.map_cons, List.cons.injEq] at h
      obtain ⟨rfl, rfl⟩ := h
      rfl

lemma exists_map_trim_pieces (part : Text) :
    ∃ value tags, (part.pieces ';').map Text.trim = value :: tags := by
  refine List.exists_cons_of_ne_nil fun h => Text.pieces_ne_nil ';' part ?_
  exact List.map_eq_nil_iff.mp h

/-- Blanks around an alternative do not matter. -/
lemma ignoresPadding_partEntries (expand : Expander) : IgnoresPadding (partEntries expand) := by
  have hpad := ignoresPadding_trim.pieces (c := ';') (by decide)
  have hcongr : ∀ p q : Text, (p.pieces ';').map Text.trim = (q.pieces ';').map Text.trim →
      partEntries expand p = partEntries expand q := by
    intro p q h
    obtain ⟨value, tags, hq⟩ := exists_map_trim_pieces q
    rw [partEntries_of_map_trim (h.trans hq), partEntries_of_map_trim hq]
  exact ⟨fun s => hcongr _ _ (hpad.front s), fun s => hcongr _ _ (hpad.back s)⟩

/-! ### Forms -/

/-- The forms of an alternative, with its tags. -/
def Entry.forms (expand : Expander) (e : Entry) : List Entry :=
  (trimmedParts (expand e.value)).map fun form => ⟨form, e.tags⟩

lemma partEntries_eq_forms (expand : Expander) (part : Text) :
    partEntries expand part = (partEntries .asWritten part).flatMap (Entry.forms expand) := by
  obtain ⟨value, tags, h⟩ := exists_map_trim_pieces part
  rw [partEntries_of_map_trim h, partEntries_of_map_trim h, List.flatMap_assoc]
  refine List.flatMap_congr fun variant hv => ?_
  -- a variant is a trimmed part already, so it is its only form as written
  have hself : trimmedParts (Expander.asWritten variant) = [variant] := by
    refine trimmedParts_eq_self fun t ht => ?_
    rw [List.mem_singleton.mp ht]
    exact ⟨(mem_trimmedParts.mp hv).2, tight_of_mem_trimmedParts hv⟩
  rw [hself, List.map_singleton, List.flatMap_singleton]
  rfl

/-- The alternatives under an expander are the forms of the alternatives as written. -/
lemma entries_eq_forms (expand : Expander) (line : Text) :
    entries expand line = ((entries .asWritten line).flatMap (Entry.forms expand)).eraseDups := by
  rw [entries, entries, Occurrences.eraseDups_flatMap_eraseDups, List.flatMap_assoc]
  exact congrArg List.eraseDups
    (List.flatMap_congr fun part _ => partEntries_eq_forms expand part)

lemma nodup_entries (expand : Expander) (line : Text) : (entries expand line).Nodup :=
  Occurrences.nodup_eraseDups _

/-! ### Canonical alternatives -/

/-- An alternative whose value and tags are as they can stand between separators: trimmed, not
empty, and without the separators that would cut them. -/
structure Entry.Canonical (e : Entry) : Prop where
  value_ne : e.value ≠ []
  value_tight : e.value.Tight
  value_free : ∀ c ∈ e.value, c ≠ '&' ∧ c ≠ ';' ∧ c ≠ '|'
  tag_ne : ∀ t ∈ e.tags, t ≠ []
  tag_tight : ∀ t ∈ e.tags, t.Tight
  tag_free : ∀ t ∈ e.tags, ∀ c ∈ t, c ≠ '&' ∧ c ≠ ';'

/-- The alternatives as written are cut out of the line. -/
lemma mem_entries_asWritten (h : e ∈ entries .asWritten line) :
    ∃ part ∈ line.pieces '&', ∃ value tags, part.pieces ';' = value :: tags ∧
      e.value ∈ trimmedParts (value.trim.pieces '|') ∧ e.tags = trimmedParts tags := by
  rw [entries, List.mem_eraseDups, List.mem_flatMap] at h
  obtain ⟨part, hpart, he⟩ := h
  obtain ⟨value, tags, hp⟩ := List.exists_cons_of_ne_nil (Text.pieces_ne_nil ';' part)
  refine ⟨part, hpart, value, tags, hp, ?_⟩
  simp only [partEntries, hp, List.mem_flatMap, List.mem_map] at he
  obtain ⟨variant, hv, form, hform, rfl⟩ := he
  obtain ⟨⟨p, hp, rfl⟩, -⟩ := mem_trimmedParts.mp hform
  rw [List.mem_singleton.mp hp, (tight_of_mem_trimmedParts hv).trim_eq]
  exact ⟨hv, rfl⟩

/-- The characters of an alternative as written are characters of the line. -/
lemma mem_line_of_mem_entries {c : Char} (h : e ∈ entries .asWritten line)
    (hc : c ∈ e.value ∨ ∃ t ∈ e.tags, c ∈ t) : c ∈ line := by
  obtain ⟨part, hpart, value, tags, hp, hvalue, htags⟩ := mem_entries_asWritten h
  refine mem_of_mem_pieces hpart ?_
  rcases hc with hc | ⟨t, ht, hc⟩
  · obtain ⟨⟨v, hv, hve⟩, -⟩ := mem_trimmedParts.mp hvalue
    rw [← hve] at hc
    have hpiece : value ∈ part.pieces ';' := by simp [hp]
    exact mem_of_mem_pieces hpiece (mem_of_mem_trim (mem_of_mem_pieces hv (mem_of_mem_trim hc)))
  · rw [htags] at ht
    obtain ⟨⟨p, hptags, rfl⟩, -⟩ := mem_trimmedParts.mp ht
    have hpiece : p ∈ part.pieces ';' := by simp [hp, hptags]
    exact mem_of_mem_pieces hpiece (mem_of_mem_trim hc)

/-- Alternatives as written are canonical. -/
lemma canonical_of_mem_entries_asWritten (h : e ∈ entries .asWritten line) : e.Canonical := by
  obtain ⟨part, hpart, value, tags, hp, hvalue, htags⟩ := mem_entries_asWritten h
  have hamp : ∀ p ∈ part.pieces ';', ∀ c ∈ p, c ≠ '&' ∧ c ≠ ';' := by
    intro p hp' c hc
    refine ⟨?_, ?_⟩ <;> rintro rfl
    · exact notMem_of_mem_pieces hpart (mem_of_mem_pieces hp' hc)
    · exact notMem_of_mem_pieces hp' hc
  obtain ⟨⟨v, hv, hve⟩, hne⟩ := mem_trimmedParts.mp hvalue
  refine ⟨hne, tight_of_mem_trimmedParts hvalue, fun c hc => ?_, ?_, ?_, ?_⟩
  · have hcv : c ∈ v := mem_of_mem_trim (hve ▸ hc)
    obtain ⟨h1, h2⟩ := hamp value (by simp [hp]) c (mem_of_mem_trim (mem_of_mem_pieces hv hcv))
    refine ⟨h1, h2, ?_⟩
    rintro rfl
    exact notMem_of_mem_pieces hv hcv
  · exact fun t ht => (mem_trimmedParts.mp (htags ▸ ht)).2
  · exact fun t ht => tight_of_mem_trimmedParts (htags ▸ ht)
  · intro t ht c hc
    obtain ⟨⟨p, hp', rfl⟩, -⟩ := mem_trimmedParts.mp (htags ▸ ht)
    exact hamp p (by simp [hp, hp']) c (mem_of_mem_trim hc)

/-- A form of a canonical alternative is canonical. -/
lemma Entry.Canonical.of_mem_forms (he : e.Canonical) (hexpand : expand.KeepsFree) {f : Entry}
    (hf : f ∈ e.forms expand) : f.Canonical := by
  obtain ⟨form, hform, rfl⟩ := List.mem_map.mp hf
  obtain ⟨⟨p, hp, rfl⟩, hne⟩ := mem_trimmedParts.mp hform
  exact
    { value_ne := hne
      value_tight := tight_trim p
      value_free := fun c hc => hexpand _ he.value_free p hp c (mem_of_mem_trim hc)
      tag_ne := he.tag_ne
      tag_tight := he.tag_tight
      tag_free := he.tag_free }

/-- Alternatives are canonical. -/
lemma canonical_of_mem_entries (hexpand : expand.KeepsFree) (h : e ∈ entries expand line) :
    e.Canonical := by
  rw [entries_eq_forms, List.mem_eraseDups, List.mem_flatMap] at h
  obtain ⟨w, hw, he⟩ := h
  exact (canonical_of_mem_entries_asWritten hw).of_mem_forms hexpand he

end Grading
