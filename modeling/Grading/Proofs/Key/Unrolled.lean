/-
The unrolled form of a key line means what the line means.

* `partEntries_render`: an alternative is read back from its unrolled form;
* `entries_renderEntries`: so are several of them that do not repeat, in order;
* `Entry.Canonical.ofLine`: a value alone is read as the only alternative;
* `renderEntries_injective`: different alternatives have different unrolled forms;
* `entries_compileLine`: the unrolled form of a line, as it is written, has the alternatives that
  the line has under the expander;
* `unrolled_means_shorthand`: this for both expanders, and for the problem that is read.
-/
import Grading.Problem.Basic
import Grading.Proofs.Key.Entries

namespace Grading

variable {expand : Expander} {e : Entry} {es : List Entry}

/-! ### Writing alternatives -/

lemma Entry.Canonical.amp_notMem_render (h : e.Canonical) : '&' ∉ e.render := by
  intro hmem
  rcases Text.mem_join hmem with hmem | ⟨t, ht, hmem⟩
  · exact absurd hmem (by decide)
  · rcases List.mem_cons.mp ht with rfl | ht
    · exact (h.value_free '&' hmem).1 rfl
    · exact (h.tag_free t ht '&' hmem).1 rfl

lemma Entry.Canonical.render_parts (h : e.Canonical) :
    ∀ t ∈ e.value :: e.tags, t ≠ [] ∧ t.Tight := by
  intro t ht
  rcases List.mem_cons.mp ht with rfl | ht
  · exact ⟨h.value_ne, h.value_tight⟩
  · exact ⟨h.tag_ne t ht, h.tag_tight t ht⟩

lemma Entry.Canonical.render_ne_nil (h : e.Canonical) : e.render ≠ [] := by
  obtain ⟨more, hmore, -⟩ := Text.exists_join_cons_eq " ; ".toList e.tags
  rw [Entry.render, hmore]
  simp [h.value_ne]

/-- Unrolled forms have no blanks at the ends. -/
lemma tight_renderEntries (h : ∀ e ∈ es, e.Canonical) : (renderEntries es).Tight := by
  refine Text.tight_join fun p hp => ?_
  obtain ⟨e, he, rfl⟩ := List.mem_map.mp hp
  exact ⟨(h e he).render_ne_nil, Text.tight_join (h e he).render_parts⟩

/-- The characters of unrolled forms are those of the values, of the tags and of what stands
between them. -/
lemma mem_renderEntries {c : Char} (h : c ∈ renderEntries es) :
    c ∈ " & ".toList ∨ c ∈ " ; ".toList ∨ ∃ e ∈ es, c ∈ e.value ∨ ∃ t ∈ e.tags, c ∈ t := by
  rcases Text.mem_join h with h | ⟨p, hp, h⟩
  · exact Or.inl h
  · obtain ⟨e, he, rfl⟩ := List.mem_map.mp hp
    rcases Text.mem_join h with h | ⟨t, ht, h⟩
    · exact Or.inr (Or.inl h)
    · rcases List.mem_cons.mp ht with rfl | ht
      · exact Or.inr (Or.inr ⟨e, he, Or.inl h⟩)
      · exact Or.inr (Or.inr ⟨e, he, Or.inr ⟨t, ht, h⟩⟩)

/-! ### Reading them back -/

/-- An alternative is read back from its unrolled form. -/
lemma partEntries_render (h : e.Canonical) : partEntries .asWritten e.render = [e] := by
  have hpieces : (e.render.pieces ';').map Text.trim = e.value :: e.tags := by
    have hfree : ∀ t ∈ e.value :: e.tags, ';' ∉ t := by
      intro t ht hmem
      rcases List.mem_cons.mp ht with rfl | ht
      · exact (h.value_free ';' hmem).2.1 rfl
      · exact (h.tag_free t ht ';' hmem).2 rfl
    rw [Entry.render, show " ; ".toList = [' ', ';', ' '] from rfl,
      Text.ignoresPadding_trim.map_pieces_join (by decide) (by simp) hfree]
    conv_rhs => rw [← List.map_id (e.value :: e.tags)]
    exact List.map_congr_left fun t ht => (h.render_parts t ht).2.trim_eq
  have hbar : e.value.pieces '|' = [e.value] :=
    Text.pieces_eq_singleton fun hmem => (h.value_free '|' hmem).2.2 rfl
  have hvalue : trimmedParts [e.value] = [e.value] := trimmedParts_eq_self fun t ht => by
    rw [List.mem_singleton.mp ht]
    exact ⟨h.value_ne, h.value_tight⟩
  have htags : (e.tags.filter fun t => !t.isEmpty) = e.tags := by
    rw [List.filter_eq_self]
    intro t ht
    simpa using h.tag_ne t ht
  rw [partEntries_of_map_trim hpieces, hbar, hvalue, List.flatMap_singleton, Expander.asWritten,
    hvalue, htags, List.map_singleton]

lemma partEntries_nil (expand : Expander) : partEntries expand [] = [] := by
  simp [partEntries, trimmedParts, Text.trim, Text.trimStart, Text.trimEnd]

lemma flatMap_pieces_renderEntries (h : ∀ e ∈ es, e.Canonical) :
    ((renderEntries es).pieces '&').flatMap (partEntries .asWritten) = es := by
  cases hes : es with
  | nil => simp [renderEntries, Text.join, partEntries_nil]
  | cons e es' =>
      rw [← hes]
      have hne : es.map Entry.render ≠ [] := by simp [hes]
      have hamp : ∀ p ∈ es.map Entry.render, '&' ∉ p := by
        intro p hp
        obtain ⟨e, he, rfl⟩ := List.mem_map.mp hp
        exact (h e he).amp_notMem_render
      rw [renderEntries, show " & ".toList = [' ', '&', ' '] from rfl, List.flatMap_def,
        (ignoresPadding_partEntries _).map_pieces_join (by decide) hne hamp, List.map_map,
        ← List.flatMap_def]
      calc es.flatMap (partEntries .asWritten ∘ Entry.render)
          = es.flatMap fun e => [e] := List.flatMap_congr fun e he => partEntries_render (h e he)
        _ = es := List.flatMap_singleton' es

/-- Alternatives that do not repeat are read back from their unrolled form. -/
lemma entries_renderEntries (h : ∀ e ∈ es, e.Canonical) (hn : es.Nodup) :
    entries .asWritten (renderEntries es) = es := by
  rw [entries, flatMap_pieces_renderEntries h, Occurrences.eraseDups_eq_self hn]

/-- A value that can stand between separators is read as the only alternative of a problem. -/
lemma Entry.Canonical.ofLine {value : Text} (h : Entry.Canonical ⟨value, []⟩) (number : Text) :
    Problem.ofLine number value = .ok ⟨number, [.ofTags value []]⟩ := by
  have hrender : renderEntries [⟨value, []⟩] = value := by
    simp [renderEntries, Entry.render, Text.join]
  have hentries : entries .asWritten value = [⟨value, []⟩] := by
    conv_lhs => rw [← hrender]
    exact entries_renderEntries (List.forall_mem_singleton.mpr h) (List.nodup_singleton _)
  rw [Problem.ofLine, hentries]
  rfl

/-- Different alternatives have different unrolled forms. -/
lemma renderEntries_injective {fs : List Entry} (hes : ∀ e ∈ es, e.Canonical)
    (hfs : ∀ e ∈ fs, e.Canonical) (h : renderEntries es = renderEntries fs) : es = fs := by
  rw [← flatMap_pieces_renderEntries hes, h, flatMap_pieces_renderEntries hfs]

/-- The unrolled form of a line, as it is written, has the alternatives of the line. -/
lemma entries_compileLine (hexpand : expand.KeepsFree) (line : Text) :
    entries .asWritten (compileLine expand line) = entries expand line :=
  entries_renderEntries (fun _ he => canonical_of_mem_entries hexpand he) (nodup_entries _ _)

/-- **The unrolled form means what the shorthand means**: as it is written, it has the alternatives
that the line has under either expander, and the problem read from it is the one read from the
line, with the same error if it cannot be read. -/
theorem unrolled_means_shorthand :
    (∀ line, entries .asWritten (compileLine .asWritten line) = entries .asWritten line)
      ∧ (∀ line, entries .asWritten (compileLine .withParentheses line)
          = entries .withParentheses line)
      ∧ ∀ number line,
          Problem.ofLine number (compileLine .asWritten line) = Problem.ofLine number line := by
  refine ⟨entries_compileLine Expander.keepsFree_asWritten,
    entries_compileLine Expander.keepsFree_withParentheses, fun number line => ?_⟩
  rw [Problem.ofLine, Problem.ofLine, entries_compileLine Expander.keepsFree_asWritten]

end Grading
