import PageMarkup.Proofs.Text.Search
import PageMarkup.Scan.Result

/-!
# Faithful scans

What has to hold of the constructs that a scan reports, so that they can be written back: each is the text in its
span, and its parts with the marks between them are that text. Whatever a scan reports, heads and targets have no
characters but those of the text.
-/
namespace PageMarkup

/-- A construct in double braces that is the text of `s` in its span, and is made of a head and of arguments that
each begin with a pipe. -/
structure Brace.Faithful (s : Text) (brace : Brace) : Prop where
  written_eq_slice : brace.written = Text.slice brace.span.start brace.span.stop s
  written_eq_parts : brace.written = ['{', '{'] ++ brace.head ++ brace.arguments.flatMap (·.written) ++ ['}', '}']
  piped : ∀ arg ∈ brace.arguments, ∃ rest, arg.written = '|' :: rest

/-- A link that is the text of `s` in its span, and is made of a target and perhaps a display behind a pipe. -/
structure Bracket.Faithful (s : Text) (link : Bracket) : Prop where
  written_eq_slice : link.written = Text.slice link.span.start link.span.stop s
  written_eq_parts : link.written =
    match link.display with
    | none => ['[', '['] ++ link.target ++ [']', ']']
    | some display => ['[', '['] ++ link.target ++ ['|'] ++ display ++ [']', ']']

/-- The head of a faithful construct has no characters but those of the text. -/
theorem Brace.Faithful.notMem_head {s : Text} {brace : Brace} (h : brace.Faithful s) {c : Char} (hc : c ∉ s) :
    c ∉ brace.head := by
  intro hmem
  have hwritten : c ∈ brace.written := by
    rw [h.written_eq_parts]
    simp [hmem]
  rw [h.written_eq_slice] at hwritten
  exact hc (Text.slice_subset _ _ s hwritten)

/-- The target of a faithful link has no characters but those of the text. -/
theorem Bracket.Faithful.notMem_target {s : Text} {link : Bracket} (h : link.Faithful s) {c : Char} (hc : c ∉ s) :
    c ∉ link.target := by
  intro hmem
  have hwritten : c ∈ link.written := by
    rw [h.written_eq_parts]
    split <;> simp [hmem]
  rw [h.written_eq_slice] at hwritten
  exact hc (Text.slice_subset _ _ s hwritten)

/-! ## Characters -/

theorem mem_of_mem_pieces {α : Type} {p : α → Bool} {l piece : List α} (h : piece ∈ pieces p l) : piece ⊆ l := by
  induction l generalizing piece with
  | nil => simp_all [pieces]
  | cons a rest ih =>
    rw [pieces] at h
    split at h
    · obtain rfl | h := List.mem_cons.mp h
      · exact List.nil_subset _
      · exact List.Subset.trans (ih h) (List.subset_cons_self a rest)
    · split at h
      · rename_i hnone
        exact absurd hnone (pieces_ne_nil p rest)
      · rename_i first others hpieces
        rw [hpieces] at ih
        obtain rfl | h := List.mem_cons.mp h
        · exact List.cons_subset_cons a (ih List.mem_cons_self)
        · exact List.Subset.trans (ih (List.mem_cons_of_mem first h)) (List.subset_cons_self a rest)

/-- The second parts of pairs are characters of the text that they were cut from. -/
theorem snd_mem_of_mem_zip {cells s : Text} {start stop start' stop' : Nat} {x : Char × Char}
    (h : x ∈ ((cells.take stop).drop start).zip ((s.take stop').drop start')) : x.2 ∈ s :=
  List.mem_of_mem_take (List.mem_of_mem_drop (List.of_mem_zip h).2)

namespace Scan

variable {scan : Scan}

theorem head_subset {brace : Brace} (h : brace ∈ scan.braces) : brace.head ⊆ scan.text := by
  obtain ⟨mark, -, rfl⟩ := List.mem_map.mp h
  intro c hc
  simp only [braceOf, List.head?_map, Option.map_map] at hc
  cases hfirst : (pieces (fun x => x.1 == '|')
      (((mark.cells.take (mark.cells.length - 2)).drop 2).zip
        (((scan.textAt mark.span).take ((scan.textAt mark.span).length - 2)).drop 2))).head? with
  | none => simp [hfirst] at hc
  | some piece =>
    rw [hfirst] at hc
    obtain ⟨x, hx, rfl⟩ : ∃ x ∈ piece, x.2 = c := by simpa [List.unzip_eq_map] using hc
    have hzip := mem_of_mem_pieces (List.mem_of_mem_head? hfirst) hx
    exact Text.slice_subset _ _ _ (snd_mem_of_mem_zip hzip)

/-- Every argument that a scan reports begins with its pipe. -/
theorem piped_of_mem_braces {brace : Brace} (h : brace ∈ scan.braces) :
    ∀ arg ∈ brace.arguments, ∃ rest, arg.written = '|' :: rest := by
  obtain ⟨mark, -, rfl⟩ := List.mem_map.mp h
  intro arg harg
  obtain ⟨part, -, rfl⟩ := List.mem_map.mp harg
  refine ⟨part.2, ?_⟩
  unfold argumentOf
  split
  · rfl
  · rfl

theorem target_subset {link : Bracket} (h : link ∈ scan.brackets) : link.target ⊆ scan.text := by
  obtain ⟨mark, -, rfl⟩ := List.mem_map.mp h
  intro c hc
  obtain ⟨x, hx, rfl⟩ := List.mem_map.mp hc
  exact Text.slice_subset _ _ _ (snd_mem_of_mem_zip (List.takeWhile_subset _ hx))

end Scan

end PageMarkup
