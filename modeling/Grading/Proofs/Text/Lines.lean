/-
The lines of a text that was put together from lines.

* `IsLine`: a text that can stand as a line, so without a line feed, and without a carriage return
  at its end that a line end would take away;
* `pieces_join_lines`, `join_lines_eq_iff`: joined with line feeds, such texts come apart again, and
  only no lines at all and one empty line look the same;
* `lines_join_eq`, `writtenLines_join`, `writtenLines_join_concat`: they are the lines of the joined
  text but for an empty one at its end, and the blank ones do not count as written;
* `pieces_flatMap_append`: texts that a line feed follows each come apart again;
* `map_trim_lines_join`, `map_trim_lines_flatMap`: what is read back of any texts without line
  feeds, blanks at their ends aside.
-/
import Grading.Proofs.Text.Pieces
import Grading.Text.Lines

namespace Grading

namespace Text

variable {s line : Text} {ls ms : List Text}

/-- A text that can stand as a line. -/
structure IsLine (line : Text) : Prop where
  no_feed : '\n' ∉ line
  no_return : line.getLast? ≠ some '\r'

/-! ### Lines joined and cut -/

lemma pieces_join_lines (h : ∀ l ∈ ls, IsLine l) (hne : ls ≠ []) :
    pieces '\n' (join ['\n'] ls) = ls :=
  List.splitOn_intercalate '\n' (fun l hl => (h l hl).no_feed) hne

/-- Lists of lines that are joined to the same text are the same, or there is nothing in either but
an empty line. -/
lemma join_lines_eq_iff (hls : ∀ l ∈ ls, IsLine l) (hms : ∀ l ∈ ms, IsLine l) :
    join ['\n'] ls = join ['\n'] ms ↔ ls = ms ∨ (ls = [] ∧ ms = [[]]) ∨ (ls = [[]] ∧ ms = []) := by
  constructor
  · intro h
    cases ls with
    | nil =>
        cases ms with
        | nil => exact Or.inl rfl
        | cons m ms =>
            have hcut := pieces_join_lines hms (by simp)
            rw [← h, join, List.intercalate_nil, pieces_nil] at hcut
            exact Or.inr (Or.inl ⟨rfl, hcut.symm⟩)
    | cons l ls =>
        have hcut := pieces_join_lines hls (by simp)
        cases ms with
        | nil =>
            rw [h, join, List.intercalate_nil, pieces_nil] at hcut
            exact Or.inr (Or.inr ⟨hcut.symm, rfl⟩)
        | cons m ms => exact Or.inl (by rw [← hcut, h, pieces_join_lines hms (by simp)])
  · rintro (rfl | ⟨rfl, rfl⟩ | ⟨rfl, rfl⟩) <;> rfl

/-! ### Lines read back -/

lemma dropReturn_eq_self (h : line.getLast? ≠ some '\r') : dropReturn line = line := by
  rw [dropReturn]
  split
  case h_1 t ht =>
    rw [← List.isSuffixOf?_eq_some_iff_append_eq.mp ht] at h
    exact absurd (by simp) h
  case h_2 => rfl

lemma linesOfPieces_eq (h : ∀ l ∈ ls, IsLine l) :
    linesOfPieces ls = if ls.getLast? = some [] then ls.dropLast else ls := by
  induction ls with
  | nil => rfl
  | cons l ls ih =>
      cases ls with
      | nil => cases l <;> simp [linesOfPieces]
      | cons m ls =>
          rw [linesOfPieces, ih fun l hl => h l (List.mem_cons_of_mem _ hl),
            dropReturn_eq_self (h l (by simp)).no_return, List.getLast?_cons_cons,
            List.dropLast_cons_cons]
          · split <;> rfl
          · simp

/-- Lines are read back, but for an empty one at the end. -/
lemma lines_join_eq (h : ∀ l ∈ ls, IsLine l) :
    lines (join ['\n'] ls) = if ls.getLast? = some [] then ls.dropLast else ls := by
  cases hls : ls with
  | nil => rfl
  | cons l ls' => rw [← hls, lines, pieces_join_lines h (by simp [hls]), linesOfPieces_eq h]

/-- Lines of which the last is not empty are read back. -/
lemma lines_join (h : ∀ l ∈ ls, IsLine l) (hne : ∀ l ∈ ls, l ≠ []) :
    lines (join ['\n'] ls) = ls := by
  rw [lines_join_eq h, if_neg]
  exact fun hlast => hne [] (List.mem_of_getLast? hlast) rfl

/-- Of lines that are read back, the blank ones are left out. -/
lemma filter_linesOfPieces (h : ∀ l ∈ ls, IsLine l) :
    (linesOfPieces ls).filter (fun l => !blankLine l) = ls.filter fun l => !blankLine l := by
  rw [linesOfPieces_eq h]
  split
  case isFalse => rfl
  case isTrue hlast =>
    obtain ⟨ms, rfl⟩ := List.getLast?_eq_some_iff.mp hlast
    simp [blankLine]

lemma writtenLines_join (h : ∀ l ∈ ls, IsLine l) :
    writtenLines (join ['\n'] ls) = ls.filter fun l => !blankLine l := by
  cases hls : ls with
  | nil => rfl
  | cons l ls' =>
      rw [← hls, writtenLines, lines, pieces_join_lines h (by simp [hls]), filter_linesOfPieces h]

/-- A line end after the last line makes no difference. -/
lemma writtenLines_join_concat (h : ∀ l ∈ ls, IsLine l) :
    writtenLines (join ['\n'] ls ++ ['\n']) = writtenLines (join ['\n'] ls) := by
  have hempty : IsLine [] := ⟨by simp, by simp⟩
  rw [writtenLines_join h, writtenLines, lines, pieces_append_cons, pieces_nil]
  cases hls : ls with
  | nil => rfl
  | cons l ls' =>
      rw [← hls, pieces_join_lines h (by simp [hls]), filter_linesOfPieces, List.filter_append]
      · simp [blankLine]
      · intro l hl
        rcases List.mem_append.mp hl with hl | hl
        · exact h l hl
        · rw [List.mem_singleton.mp hl]
          exact hempty

/-! ### Lines read back but for their ends -/

lemma trim_dropReturn (line : Text) : trim (dropReturn line) = trim line := by
  rw [dropReturn]
  split
  case h_1 t ht =>
    rw [← List.isSuffixOf?_eq_some_iff_append_eq.mp ht, trim_append_blanks]
    intro c hc
    rw [List.mem_singleton.mp hc]
    decide
  case h_2 => rfl

/-- Of pieces of which the last is not empty nothing is lost but carriage returns. -/
lemma map_trim_linesOfPieces (h : ls.getLast? ≠ some []) :
    (linesOfPieces ls).map trim = ls.map trim := by
  induction ls with
  | nil => rfl
  | cons l ls ih =>
      cases ls with
      | nil => cases l <;> simp_all [linesOfPieces]
      | cons m ls =>
          rw [List.getLast?_cons_cons] at h
          rw [linesOfPieces, List.map_cons, trim_dropReturn, ih h]
          · rfl
          · simp

/-- An empty piece at the end is no line. -/
lemma map_trim_linesOfPieces_concat (ls : List Text) :
    (linesOfPieces (ls ++ [[]])).map trim = ls.map trim := by
  induction ls with
  | nil => rfl
  | cons l ls ih =>
      rw [List.cons_append, linesOfPieces, List.map_cons, trim_dropReturn, ih]
      · rfl
      · simp

/-- Texts with line feeds between them are read back but for the blanks at their ends. -/
lemma map_trim_lines_join (h : ∀ l ∈ ls, '\n' ∉ l ∧ l ≠ []) :
    (lines (join ['\n'] ls)).map trim = ls.map trim := by
  cases hls : ls with
  | nil => rfl
  | cons l ls' =>
      rw [← hls, lines, join, pieces,
        List.splitOn_intercalate '\n' (fun l hl => (h l hl).1) (by simp [hls]),
        map_trim_linesOfPieces]
      exact fun hlast => (h [] (List.mem_of_getLast? hlast)).2 rfl

/-- Texts that a line feed follows each come apart again, and from what comes after them. -/
lemma pieces_flatMap_append (h : ∀ l ∈ ls, '\n' ∉ l) (rest : Text) :
    pieces '\n' ((ls.flatMap fun l => l ++ ['\n']) ++ rest) = ls ++ pieces '\n' rest := by
  induction ls with
  | nil => rfl
  | cons l ls ih =>
      rw [List.flatMap_cons, List.append_assoc, List.append_assoc, List.singleton_append,
        pieces_append_cons, pieces_eq_singleton (h l (by simp)),
        ih fun l hl => h l (List.mem_cons_of_mem _ hl)]
      rfl

/-- So are texts that a line feed follows each. -/
lemma map_trim_lines_flatMap (h : ∀ l ∈ ls, '\n' ∉ l) :
    (lines (ls.flatMap fun l => l ++ ['\n'])).map trim = ls.map trim := by
  have hpieces := pieces_flatMap_append h []
  rw [List.append_nil, pieces_nil] at hpieces
  rw [lines, hpieces, map_trim_linesOfPieces_concat]

/-! ### Lines of any text -/

lemma dropReturn_prefix_self (line : Text) : dropReturn line <+: line := by
  rw [dropReturn]
  split
  case h_1 t ht => exact ⟨['\r'], List.isSuffixOf?_eq_some_iff_append_eq.mp ht⟩
  case h_2 => exact List.prefix_rfl

/-- Every line is a piece between line feeds, but for what belongs to its end. -/
lemma exists_piece_of_mem_linesOfPieces (h : line ∈ linesOfPieces ls) : ∃ p ∈ ls, line <+: p := by
  induction ls with
  | nil => simp [linesOfPieces] at h
  | cons p ls ih =>
      cases ls with
      | nil =>
          rw [linesOfPieces] at h
          split at h
          · simp at h
          · exact ⟨p, by simp, by rw [List.mem_singleton.mp h]⟩
      | cons q ls =>
          rw [linesOfPieces, List.mem_cons] at h
          · rcases h with rfl | h
            · exact ⟨p, by simp, dropReturn_prefix_self p⟩
            · obtain ⟨r, hr, hline⟩ := ih h
              exact ⟨r, List.mem_cons_of_mem _ hr, hline⟩
          · simp

/-- A written line holds no line feed. -/
lemma newline_notMem_of_mem_writtenLines (h : line ∈ writtenLines s) : '\n' ∉ line := by
  obtain ⟨p, hp, hline⟩ := exists_piece_of_mem_linesOfPieces (List.mem_filter.mp h).1
  exact fun hmem => notMem_of_mem_pieces hp (hline.mem hmem)

end Text

end Grading
