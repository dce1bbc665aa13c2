import LalrBackend.Proofs.Text.Trimming
import LalrBackend.Text.Indent

/-!
# Lines and runs

A text is cut into lines at its line feeds alone, and into runs at everything that ends a
line. Indenting works on runs: the margin is put before every run that is not blank, so it
leaves the lines apart from each other and every line feed in its place.
-/

namespace LalrBackend.Text

/-- A list is a run without members of a kind, or such a run, one member of the kind and
another list. -/
@[elab_as_elim]
theorem runInduction {α : Type} {p : α → Bool} {motive : List α → Prop}
    (last : ∀ run, (∀ a ∈ run, p a = false) → motive run)
    (next : ∀ run a rest, (∀ b ∈ run, p b = false) → p a = true → motive rest →
      motive (run ++ a :: rest))
    (as : List α) : motive as := by
  induction hlength : as.length using Nat.strongRecOn generalizing as with
  | ind n ih =>
      cases hfind : as.find? p with
      | none => exact last as fun a ha => by simpa using List.find?_eq_none.mp hfind a ha
      | some a =>
          obtain ⟨ha, run, rest, rfl, hrun⟩ := List.find?_eq_some_iff_append.mp hfind
          refine next run a rest (fun b hb => by simpa using hrun b hb) ha (ih _ ?_ rest rfl)
          rw [← hlength, List.length_append, List.length_cons]
          omega

/-! ## Lines -/

section Lines

variable {l rest cs : List Char} {ls : List (List Char)}

theorem lines_of_not_mem (h : '\n' ∉ l) : lines l = [l] :=
  List.splitOn_eq_singleton h

theorem lines_append_cons (h : '\n' ∉ l) (rest : List Char) :
    lines (l ++ '\n' :: rest) = l :: lines rest :=
  List.splitOn_append_cons_self_of_not_mem h rest

theorem not_mem_of_beq_eq_false (h : ∀ c ∈ l, (c == '\n') = false) : '\n' ∉ l := by
  intro hmem
  simpa using h _ hmem

/-- No line holds a line feed. -/
theorem not_mem_of_mem_lines : ∀ l ∈ lines cs, '\n' ∉ l := by
  induction cs using runInduction (p := (· == '\n')) with
  | last run hrun =>
      rw [lines_of_not_mem (not_mem_of_beq_eq_false hrun)]
      simpa using not_mem_of_beq_eq_false hrun
  | next run c rest hrun hc ih =>
      obtain rfl := eq_of_beq hc
      have hrun := not_mem_of_beq_eq_false hrun
      rw [lines_append_cons hrun]
      exact List.forall_mem_cons.mpr ⟨hrun, ih⟩

/-- Every character of a text but the line feeds stands in one of its lines. -/
theorem exists_line_of_mem {c : Char} (hc : c ∈ cs) (hne : c ≠ '\n') : ∃ l ∈ lines cs, c ∈ l := by
  induction cs using runInduction (p := (· == '\n')) with
  | last run hrun =>
      rw [lines_of_not_mem (not_mem_of_beq_eq_false hrun)]
      exact ⟨run, List.mem_singleton_self run, hc⟩
  | next run d rest hrun hd ih =>
      obtain rfl := eq_of_beq hd
      rw [lines_append_cons (not_mem_of_beq_eq_false hrun)]
      rcases List.mem_append.mp hc with hc | hc
      · exact ⟨run, List.mem_cons_self, hc⟩
      · obtain ⟨l, hl, hcl⟩ := ih ((List.mem_cons.mp hc).resolve_left hne)
        exact ⟨l, List.mem_cons_of_mem _ hl, hcl⟩

theorem lines_unlines (h : ∀ l ∈ ls, '\n' ∉ l) (hne : ls ≠ []) : lines (unlines ls) = ls :=
  List.splitOn_intercalate '\n' h hne

@[simp] theorem unlines_singleton (l : List Char) : unlines [l] = l :=
  List.intercalate_singleton

theorem unlines_cons (l : List Char) (hne : ls ≠ []) :
    unlines (l :: ls) = l ++ '\n' :: unlines ls := by
  obtain ⟨k, ks, rfl⟩ := List.exists_cons_of_ne_nil hne
  rw [unlines, List.intercalate_cons_cons, List.append_assoc]
  rfl

theorem unlines_concat (l : List Char) (hne : ls ≠ []) :
    unlines (ls ++ [l]) = unlines ls ++ '\n' :: l := by
  induction ls with
  | nil => exact absurd rfl hne
  | cons k ks ih =>
      by_cases hks : ks = []
      · subst hks
        rw [List.singleton_append, unlines_cons k (by simp),
          unlines_singleton, unlines_singleton]
      · rw [List.cons_append, unlines_cons k (by simp), ih hks, unlines_cons k hks,
          List.append_assoc, List.cons_append]

end Lines

/-! ## Runs -/

section Runs

variable {run rest margin : List Char} {c : Char}

theorem isBlank_of_isLineEnd (h : isLineEnd c = true) : isBlank c = true := by
  simp only [isLineEnd, decide_eq_true_eq, List.mem_cons, List.not_mem_nil, or_false] at h
  simp only [isBlank, inRanges]
  rcases h with h | h | h | h | h | h | h | h | h | h <;> rw [h] <;> decide

theorem isLineEnd_lineFeed : isLineEnd '\n' = true := by decide

/-- Stripping leaves nothing of a text exactly if it is blank. -/
theorem strip_isEmpty_iff {cs : List Char} :
    (strip cs).isEmpty = true ↔ ∀ c ∈ cs, isBlank c = true := by
  rw [List.isEmpty_iff, strip, trimBoth_eq_iff]
  constructor
  · rintro ⟨⟨front, back, rfl, hfront, hback⟩, _, _⟩ c hc
    rw [List.append_nil, List.mem_append] at hc
    exact hc.elim (hfront c) (hback c)
  · intro h
    exact ⟨⟨cs, [], by simp, h, by simp⟩, by simp, by simp⟩

/-- A run with the margin before it, unless it is blank. -/
def padRun (margin run : List Char) : List Char :=
  if run.all isBlank then run else margin ++ run

theorem endedLines_cons_of_not_isLineEnd (hc : isLineEnd c = false) (cs : List Char) :
    endedLines (c :: cs) = consHead c (endedLines cs) := by
  conv_lhs => unfold endedLines
  split
  · rename_i heq
    cases heq
  · rename_i heq
    cases heq
    exact absurd hc (by decide)
  · rename_i heq
    cases heq
    simp [hc]

theorem endedLines_run (hrun : ∀ c ∈ run, isLineEnd c = false) (hne : run ≠ []) :
    endedLines run = [run] := by
  induction run with
  | nil => exact absurd rfl hne
  | cons c cs ih =>
      obtain ⟨hc, hcs⟩ := List.forall_mem_cons.mp hrun
      rw [endedLines_cons_of_not_isLineEnd hc]
      cases cs with
      | nil => rfl
      | cons d ds =>
          rw [ih hcs (by simp)]
          rfl

/-- A run takes what ends it into its line: one character, or a carriage return and the
line feed after it. -/
theorem endedLines_run_append {ending : List Char} (hrun : ∀ c ∈ run, isLineEnd c = false)
    (h : endedLines (ending ++ rest) = ending :: endedLines rest) :
    endedLines (run ++ (ending ++ rest)) = (run ++ ending) :: endedLines rest := by
  induction run with
  | nil => exact h
  | cons c cs ih =>
      obtain ⟨hc, hcs⟩ := List.forall_mem_cons.mp hrun
      rw [List.cons_append, endedLines_cons_of_not_isLineEnd hc, ih hcs]
      rfl

theorem endedLines_lineEnd (hc : isLineEnd c = true) (h : ¬ (c = '\r' ∧ rest.head? = some '\n')) :
    endedLines (c :: rest) = [c] :: endedLines rest := by
  conv_lhs => unfold endedLines
  split
  · rename_i heq
    cases heq
  · rename_i heq
    cases heq
    exact absurd ⟨rfl, rfl⟩ h
  · rename_i heq
    cases heq
    simp [hc]

theorem pad_append_blank {ending : List Char} (hending : ∀ c ∈ ending, isBlank c = true) :
    (if (strip (run ++ ending)).isEmpty then run ++ ending else margin ++ (run ++ ending)) =
      padRun margin run ++ ending := by
  have hiff : (strip (run ++ ending)).isEmpty = true ↔ run.all isBlank = true := by
    rw [strip_isEmpty_iff, List.forall_mem_append, List.all_eq_true]
    exact and_iff_left hending
  unfold padRun
  by_cases hblank : run.all isBlank = true
  · rw [if_pos (hiff.mpr hblank), if_pos hblank]
  · rw [if_neg (mt hiff.mp hblank), if_neg hblank, List.append_assoc]

/-- Indenting one run puts the margin before it unless it is blank. -/
theorem indent_run (hrun : ∀ c ∈ run, isLineEnd c = false) :
    indent margin run = padRun margin run := by
  by_cases hne : run = []
  · subst hne
    rfl
  · rw [indent, endedLines_run hrun hne, List.flatMap_singleton]
    have hpad : (if (strip (run ++ [])).isEmpty then run ++ [] else margin ++ (run ++ [])) =
        padRun margin run ++ [] := pad_append_blank (by simp)
    simpa using hpad

/-- Indenting goes on behind what ends a run. -/
theorem indent_run_cons (hrun : ∀ c ∈ run, isLineEnd c = false) (hc : isLineEnd c = true)
    (rest : List Char) :
    indent margin (run ++ c :: rest) = padRun margin run ++ c :: indent margin rest := by
  have hstep : ∀ (run ending rest : List Char), (∀ c ∈ run, isLineEnd c = false) →
      (∀ c ∈ ending, isBlank c = true) →
      endedLines (ending ++ rest) = ending :: endedLines rest →
      indent margin (run ++ (ending ++ rest)) =
        padRun margin run ++ ending ++ indent margin rest := by
    intro run ending rest hrun hending h
    rw [indent, endedLines_run_append hrun h, List.flatMap_cons, pad_append_blank hending]
    rfl
  by_cases hpair : c = '\r' ∧ rest.head? = some '\n'
  · obtain ⟨rfl, hhead⟩ := hpair
    obtain ⟨rest, rfl⟩ := List.head?_eq_some_iff.mp hhead
    have hfeed := hstep [] ['\n'] rest (by simp) (List.all_eq_true.mp (by decide))
      (endedLines_lineEnd isLineEnd_lineFeed fun h => absurd h.1 (by decide))
    have hboth := hstep run ['\r', '\n'] rest hrun (List.all_eq_true.mp (by decide)) rfl
    rw [List.nil_append, List.singleton_append] at hfeed
    rw [hfeed]
    simpa [padRun] using hboth
  · have hone := hstep run [c] rest hrun
      (by simpa using isBlank_of_isLineEnd hc) (endedLines_lineEnd hc hpair)
    simpa using hone

theorem padRun_nil_margin (run : List Char) : padRun [] run = run := by
  unfold padRun
  split <;> rfl

/-- Without a margin, indenting changes nothing. -/
theorem indent_nil_margin (cs : List Char) : indent [] cs = cs := by
  induction cs using runInduction (p := isLineEnd) with
  | last run hrun => rw [indent_run hrun, padRun_nil_margin]
  | next run c rest hrun hc ih => rw [indent_run_cons hrun hc, padRun_nil_margin, ih]

/-- Indenting a text indents each of its lines. -/
theorem indent_line_append (l rest : List Char) :
    indent margin (l ++ '\n' :: rest) = indent margin l ++ '\n' :: indent margin rest := by
  induction l using runInduction (p := isLineEnd) with
  | last run hrun => rw [indent_run_cons hrun isLineEnd_lineFeed, indent_run hrun]
  | next run c cs hrun hc ih =>
      rw [List.append_assoc, List.cons_append, indent_run_cons hrun hc, ih,
        indent_run_cons hrun hc, List.append_assoc, List.cons_append]

theorem indent_unlines (ls : List (List Char)) :
    indent margin (unlines ls) = unlines (ls.map (indent margin)) := by
  induction ls with
  | nil => rfl
  | cons l ls ih =>
      by_cases hls : ls = []
      · subst hls
        rw [unlines_singleton, List.map_singleton, unlines_singleton]
      · rw [unlines_cons l hls, indent_line_append, ih, List.map_cons,
          unlines_cons _ (by simpa using hls)]

end Runs

end LalrBackend.Text
