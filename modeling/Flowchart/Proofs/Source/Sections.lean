import Flowchart.Proofs.Text.Lines
import Flowchart.Source.Section

/-! The sections of a source text, line by line.

A reader who goes through the trimmed text line by line (`bodyLines`) and stops at
the first empty line gets the two sections at once (`Sections.ofLines`). `sections`
finds them another way: it looks for the first of two separators of different length
and cuts the text in the middle of a terminator. `sections_eq_ofLines` says that both
ways agree, in the texts and in the byte offsets. -/
namespace Flowchart.Source

open Text

/-! ### Reading line by line -/

/-- The lines of a text without the blanks around it, with their byte offsets in the whole text. -/
def bodyLines (source : Text) : List Line :=
  if trim source = [] then []
  else rows (byteSize (source.takeWhile isBlank)) (splitAt '\n' (trim source))

/-- The lines of a text without blanks around it are those that it was joined from. -/
theorem bodyLines_intercalate {ps : List Text} (hne : ['\n'].intercalate ps ≠ []) (hclean : ∀ p ∈ ps, '\n' ∉ p)
    (htrim : trim (['\n'].intercalate ps) = ['\n'].intercalate ps) :
    bodyLines (['\n'].intercalate ps) = rows 0 ps := by
  have hps : ps ≠ [] := by
    rintro rfl
    exact hne rfl
  rw [bodyLines, htrim, if_neg hne, (trim_eq_self_iff.1 htrim).1.takeWhile, splitAt_intercalate hps hclean]
  rfl

/-- Lines up to the first empty one, and the lines behind it. -/
def Sections.ofLines : List Line → Sections
  | [] => ⟨[], none⟩
  | line :: more =>
    if line.text = [] then ⟨[], some more⟩
    else { Sections.ofLines more with nodeLines := line :: (Sections.ofLines more).nodeLines }

/-- The sections of a text that has no blanks around it and starts at byte `start` of its source. -/
def Sections.ofBody (start : Nat) (body : Text) : Sections :=
  match findBreak? body with
  | some b =>
    { nodeLines := linesFrom start b.before
      edgeLines? := some (linesFrom (start + byteSize b.before + b.gap) b.after) }
  | none => { nodeLines := linesFrom start body, edgeLines? := none }

theorem sections_eq_ofBody (source : Text) :
    sections source = Sections.ofBody (byteSize (source.takeWhile isBlank)) (trim source) := rfl

/-! ### Looking for the blank line -/

/-- No blank line starts within a line. -/
theorem findBreak?_append {p : Text} (h : '\n' ∉ p) (rest : Text) :
    findBreak? (p ++ rest) = (findBreak? rest).map fun b => { b with before := p ++ b.before } := by
  induction p with
  | nil => simp
  | cons c p ih =>
    rw [List.mem_cons, not_or] at h
    have hhere : breakHere? (c :: (p ++ rest)) = none := by
      unfold breakHere?
      split
      all_goals simp_all
    rw [List.cons_append, findBreak?, hhere, ih h.2]
    simp [Function.comp_def]

theorem findBreak?_of_not_mem {p : Text} (h : '\n' ∉ p) : findBreak? p = none := by
  have := findBreak?_append h []
  rwa [List.append_nil] at this

/-- A line feed does not start a blank line if a line behind it is not empty. -/
theorem breakHere?_feed {q : Text} (h : '\n' ∉ q) (hq : dropLastIf '\r' q ≠ []) (rest : Text) :
    breakHere? ('\n' :: (q ++ rest)) = none := by
  match q with
  | [] => exact absurd rfl hq
  | [c] =>
    have hc : c ≠ '\r' := by
      rintro rfl
      exact hq rfl
    unfold breakHere?
    split
    all_goals simp_all
  | c :: d :: q =>
    unfold breakHere?
    split
    all_goals simp_all

/-- A line feed starts a blank line if the line behind it is empty. -/
theorem breakHere?_blank {q : Text} (hq : dropLastIf '\r' q = []) (rest : Text) :
    breakHere? ('\n' :: (q ++ '\n' :: rest)) = some (byteSize q + 2, rest) := by
  obtain ⟨end?, hend, hcr⟩ := dropLastIf_append '\r' q
  rw [hq, List.nil_append] at hend
  subst hend
  rcases hcr with rfl | rfl <;> rfl

/-- A line with no blank line behind it belongs to the first section. -/
theorem ofBody_append {p body : Text} (start : Nat) (h : '\n' ∉ p) (hnone : breakHere? ('\n' :: body) = none) :
    Sections.ofBody start (p ++ '\n' :: body) =
      { Sections.ofBody (start + byteSize p + 1) body with
        nodeLines := ⟨dropLastIf '\r' p, start⟩ :: (Sections.ofBody (start + byteSize p + 1) body).nodeLines } := by
  have hbreak : findBreak? (p ++ '\n' :: body) =
      (findBreak? body).map fun b => { b with before := p ++ '\n' :: b.before } := by
    rw [findBreak?_append h, findBreak?, hnone]
    simp [Function.comp_def]
  unfold Sections.ofBody
  rw [hbreak]
  cases findBreak? body with
  | none =>
    simp only [Option.map_none]
    rw [linesFrom_append start h]
  | some b =>
    simp only [Option.map_some]
    rw [linesFrom_append start h, byteSize_append, byteSize_cons]
    show Sections.mk _ (some (linesFrom (start + (byteSize p + (1 + byteSize b.before)) + b.gap) b.after)) = _
    rw [show start + (byteSize p + (1 + byteSize b.before)) + b.gap =
      start + byteSize p + 1 + byteSize b.before + b.gap by omega]

/-- A line with a blank line behind it ends the first section. -/
theorem ofBody_blank {p q rest : Text} (start : Nat) (hp : '\n' ∉ p) (hne : p ≠ []) (hq : dropLastIf '\r' q = []) :
    Sections.ofBody start (p ++ '\n' :: (q ++ '\n' :: rest)) =
      ⟨[⟨dropLastIf '\r' p, start⟩], some (linesFrom (start + byteSize p + 1 + byteSize q + 1) rest)⟩ := by
  have hbreak : findBreak? (p ++ '\n' :: (q ++ '\n' :: rest)) = some ⟨p, byteSize q + 2, rest⟩ := by
    rw [findBreak?_append hp, findBreak?, breakHere?_blank hq]
    simp
  unfold Sections.ofBody
  rw [hbreak]
  simp only
  rw [linesFrom_last start hne hp, show start + byteSize p + (byteSize q + 2) =
    start + byteSize p + 1 + byteSize q + 1 by omega]

/-- The search and the walk agree on joined lines of which the first is not empty and the last neither empty nor
ended by a carriage return. -/
theorem ofBody_intercalate {ps : List Text} (start : Nat) (hne : ps ≠ []) (hclean : ∀ p ∈ ps, '\n' ∉ p)
    (hfirst : ∀ p ∈ ps.head?, dropLastIf '\r' p ≠ []) (hlast : ∀ p ∈ ps.getLast?, dropLastIf '\r' p ≠ []) :
    Sections.ofBody start (['\n'].intercalate ps) = Sections.ofLines (rows start ps) := by
  have hnonempty : ∀ p : Text, dropLastIf '\r' p ≠ [] → p ≠ [] := by
    rintro p hp rfl
    exact hp rfl
  induction ps generalizing start with
  | nil => exact absurd rfl hne
  | cons p more ih =>
    have hp := hclean p (List.mem_cons_self ..)
    have hp' := hfirst p rfl
    cases more with
    | nil =>
      rw [List.intercalate_singleton, Sections.ofBody, findBreak?_of_not_mem hp]
      simp [rows, Sections.ofLines, hp', linesFrom_last start (hnonempty p hp') hp]
    | cons q more =>
      have hq := hclean q (by simp)
      rw [intercalate_feed p (List.cons_ne_nil q more)]
      by_cases hblank : dropLastIf '\r' q = []
      · have hmore : more ≠ [] := by
          rintro rfl
          exact hlast q rfl hblank
        have hlast' : ∀ r ∈ more.getLast?, dropLastIf '\r' r ≠ [] := by
          intro r hr
          rw [Option.mem_def] at hr
          exact hlast r (by simp [List.getLast?_cons, hr])
        rw [intercalate_feed q hmore, ofBody_blank start hp (hnonempty p hp') hblank,
          linesFrom_intercalate _ (fun r hr => hclean r (by simp [hr])) fun r hr => hnonempty r (hlast' r hr)]
        simp [rows, Sections.ofLines, hp', hblank]
      · have hnone : breakHere? ('\n' :: ['\n'].intercalate (q :: more)) = none := by
          obtain ⟨rest, hrest, -⟩ := exists_intercalate_cons q more
          rw [hrest]
          exact breakHere?_feed hq hblank rest
        have hlater := ih (start + byteSize p + 1) (List.cons_ne_nil q more)
          (fun r hr => hclean r (List.mem_cons_of_mem p hr)) (by simpa using hblank) (by simpa using hlast)
        rw [ofBody_append start hp hnone, hlater]
        simp [rows, Sections.ofLines, hp']

/-! ### The sections of a source text -/

theorem eq_of_dropLastIf_eq_nil {p : Text} (h : dropLastIf '\r' p = []) : p = [] ∨ p = ['\r'] := by
  obtain ⟨end?, hp, hcr⟩ := dropLastIf_append '\r' p
  rw [h, List.nil_append] at hp
  rwa [hp]

/-- A text that is not blank at its start does not start with an empty line. -/
theorem head_ne_nil_of_stops {ps : List Text} (hne : ['\n'].intercalate ps ≠ [])
    (hstart : Stops isBlank (['\n'].intercalate ps)) : ∀ p ∈ ps.head?, dropLastIf '\r' p ≠ [] := by
  intro p hp hempty
  obtain ⟨more, rfl⟩ := List.head?_eq_some_iff.1 hp
  obtain ⟨rest, hrest, hfeed⟩ := exists_intercalate_cons p more
  rw [hrest] at hne hstart
  rcases eq_of_dropLastIf_eq_nil hempty with rfl | rfl
  · obtain ⟨c, rest, rfl⟩ := List.exists_cons_of_ne_nil hne
    rw [hfeed c rfl] at hstart
    exact absurd (stops_cons.1 hstart) (by decide)
  · exact absurd (stops_cons.1 hstart) (by decide)

/-- A text that is not blank at its end does not end with an empty line. -/
theorem getLast_ne_nil_of_stops {ps : List Text} (hne : ['\n'].intercalate ps ≠ [])
    (hend : Stops isBlank (['\n'].intercalate ps).reverse) : ∀ p ∈ ps.getLast?, dropLastIf '\r' p ≠ [] := by
  intro p hp hempty
  obtain ⟨front, hfront, hfeed⟩ := exists_intercalate_last hp
  rw [hfront] at hne hend
  rcases eq_of_dropLastIf_eq_nil hempty with rfl | rfl
  · rw [List.append_nil] at hne hend
    have hc := hfeed _ (List.getLast?_eq_some_getLast hne)
    have hlast := hend _ (List.head?_reverse ▸ List.getLast?_eq_some_getLast hne)
    rw [hc] at hlast
    exact absurd hlast (by decide)
  · rw [List.reverse_append] at hend
    exact absurd (stops_cons.1 hend) (by decide)

/-- The sections are what reading line by line gives. -/
theorem sections_eq_ofLines (source : Text) : sections source = Sections.ofLines (bodyLines source) := by
  rw [sections_eq_ofBody, bodyLines]
  split
  · rename_i hempty
    rw [hempty]
    rfl
  · rename_i hne
    have hjoin := intercalate_splitAt '\n' (trim source)
    have hstart := stops_trim source
    have hend := stops_reverse_trim source
    rw [← hjoin] at hne hstart hend
    conv => lhs; rw [← hjoin]
    exact ofBody_intercalate _ (splitAt_ne_nil _ _) (fun p hp => not_mem_of_mem_splitAt hp)
      (head_ne_nil_of_stops hne hstart) (getLast_ne_nil_of_stops hne hend)

/-! ### Where the sections end and where their lines stand -/

theorem ofLines_of_findIdx?_none {lines : List Line} (h : lines.findIdx? (fun line => line.text = []) = none) :
    Sections.ofLines lines = ⟨lines, none⟩ := by
  induction lines with
  | nil => rfl
  | cons line more ih =>
    rw [List.findIdx?_cons] at h
    split at h
    · cases h
    · rename_i hline
      rw [Sections.ofLines, if_neg (by simpa using hline), ih (by simpa using h)]

theorem ofLines_of_findIdx?_some {lines : List Line} {k : Nat}
    (h : lines.findIdx? (fun line => line.text = []) = some k) :
    Sections.ofLines lines = ⟨lines.take k, some (lines.drop (k + 1))⟩ := by
  induction lines generalizing k with
  | nil => cases h
  | cons line more ih =>
    rw [List.findIdx?_cons] at h
    split at h
    · rename_i hline
      cases h
      rw [Sections.ofLines, if_pos (by simpa using hline)]
      rfl
    · rename_i hline
      obtain ⟨j, hj, rfl⟩ := Option.map_eq_some_iff.1 h
      rw [Sections.ofLines, if_neg (by simpa using hline), ih hj]
      rfl

/-- Both sections are runs of the lines of the text. -/
theorem ofLines_within (lines : List Line) :
    (Sections.ofLines lines).nodeLines <:+: lines ∧ (Sections.ofLines lines).edgeLines <:+: lines := by
  cases h : lines.findIdx? fun line => line.text = [] with
  | none =>
    rw [ofLines_of_findIdx?_none h]
    exact ⟨List.infix_rfl, List.nil_infix⟩
  | some k =>
    rw [ofLines_of_findIdx?_some h]
    exact ⟨(List.take_prefix k lines).isInfix, (List.drop_suffix (k + 1) lines).isInfix⟩

/-- No line of the sections comes before one that stands before it in the text, and none comes twice. -/
theorem ofLines_sublist (lines : List Line) :
    ((Sections.ofLines lines).nodeLines ++ (Sections.ofLines lines).edgeLines).Sublist lines := by
  induction lines with
  | nil => exact .slnil
  | cons line more ih =>
    by_cases hline : line.text = []
    · rw [Sections.ofLines, if_pos hline]
      exact .cons line (List.Sublist.refl more)
    · rw [Sections.ofLines, if_neg hline]
      exact .cons_cons line ih

/-- Lines that stand elsewhere are divided at the same line. -/
theorem ofLines_map {place : Line → Line} (hplace : ∀ line, (place line).text = line.text) (lines : List Line) :
    (Sections.ofLines (lines.map place)).nodeLines = (Sections.ofLines lines).nodeLines.map place ∧
      (Sections.ofLines (lines.map place)).edgeLines = (Sections.ofLines lines).edgeLines.map place := by
  induction lines with
  | nil => exact ⟨rfl, rfl⟩
  | cons line more ih =>
    obtain ⟨hnodes, hedges⟩ := ih
    by_cases hline : line.text = []
    · rw [List.map_cons, Sections.ofLines, Sections.ofLines, if_pos hline, if_pos ((hplace line).trans hline)]
      exact ⟨rfl, rfl⟩
    · rw [List.map_cons, Sections.ofLines, Sections.ofLines, if_neg hline,
        if_neg fun h => hline ((hplace line).symm.trans h)]
      exact ⟨congrArg (place line :: ·) hnodes, hedges⟩

theorem bodyLines_eq_rows (source : Text) : ∃ ps tail,
    source = source.takeWhile isBlank ++ ['\n'].intercalate ps ++ tail ∧
      bodyLines source = rows (byteSize (source.takeWhile isBlank)) ps ∧ (∀ p ∈ ps, '\n' ∉ p) ∧
      ∀ c ∈ tail, isBlank c = true := by
  obtain ⟨tail, hsource, hblank⟩ := exists_trim source
  by_cases hempty : trim source = []
  · exact ⟨[], tail, by rwa [hempty] at hsource, by rw [bodyLines, if_pos hempty, rows], by simp, hblank⟩
  · refine ⟨splitAt '\n' (trim source), tail, ?_, by rw [bodyLines, if_neg hempty], ?_, hblank⟩
    · rwa [intercalate_splitAt]
    · exact fun p hp => not_mem_of_mem_splitAt hp

/-- The lines of a text stand in it one behind the other. -/
theorem bodyLines_pairwise (source : Text) : (bodyLines source).Pairwise fun a b => a.stop < b.start := by
  obtain ⟨ps, -, -, hrows, -⟩ := bodyLines_eq_rows source
  rw [hrows]
  exact rows_pairwise _ ps

/-- Behind a line stands what ends it, or blanks up to the end of the text. -/
theorem bodyLines_stand {source : Text} {line : Line} (h : line ∈ bodyLines source) :
    ∃ before after, source = before ++ line.text ++ after ∧ byteSize before = line.start ∧
      ((∀ c ∈ after, isBlank c = true) ∨ after.head? = some '\n' ∨ after.head? = some '\r') := by
  obtain ⟨ps, tail, hsource, hrows, -, hblank⟩ := bodyLines_eq_rows source
  obtain ⟨before, after, htext, hstart, hafter⟩ := rows_stand _ tail (hrows ▸ h)
  exact ⟨before, after, hsource.trans htext, hstart, hafter.imp_left fun heq => by rwa [heq]⟩

theorem bodyLines_sits {source : Text} {line : Line} (h : line ∈ bodyLines source) : line.Sits source := by
  obtain ⟨before, after, hsource, hstart, -⟩ := bodyLines_stand h
  exact ⟨before, after, hsource, hstart⟩

theorem bodyLines_adjacent {source : Text} {first second : Line} (h : [first, second] <:+: bodyLines source) :
    first.Adjacent second source := by
  obtain ⟨ps, tail, hsource, hrows, -⟩ := bodyLines_eq_rows source
  have := rows_adjacent _ tail (hrows ▸ h)
  rwa [← hsource] at this

/-- The bytes of a line cut its text out of the source. -/
theorem slice_of_sits {source : Text} {line : Line} (h : line.Sits source) :
    slice source line.start line.stop = line.text := by
  obtain ⟨before, after, rfl, hstart⟩ := h
  rw [Line.stop, ← hstart, slice_append]

/-- **The sections are the lines of the text before and behind the first empty one**, and the bytes of each line
are its own: they cut out its text, and nothing but a terminator stands between two lines of a section. -/
theorem sections_eq_bodyLines (source : Text) :
    (match (bodyLines source).findIdx? fun line => line.text = [] with
      | none =>
        (sections source).hasEdges = false ∧ (sections source).nodeLines = bodyLines source ∧
          (sections source).edgeLines = []
      | some k =>
        (sections source).hasEdges = true ∧ (sections source).nodeLines = (bodyLines source).take k ∧
          (sections source).edgeLines = (bodyLines source).drop (k + 1)) ∧
    (∀ line ∈ (sections source).nodeLines ++ (sections source).edgeLines,
      line.Sits source ∧ slice source line.start line.stop = line.text) ∧
    (∀ first second, [first, second] <:+: (sections source).nodeLines ∨
        [first, second] <:+: (sections source).edgeLines →
      first.Adjacent second source) := by
  rw [sections_eq_ofLines]
  obtain ⟨hnodes, hedges⟩ := ofLines_within (bodyLines source)
  refine ⟨?_, ?_, ?_⟩
  · split
    · rename_i h
      rw [ofLines_of_findIdx?_none h]
      exact ⟨rfl, rfl, rfl⟩
    · rename_i k h
      rw [ofLines_of_findIdx?_some h]
      exact ⟨rfl, rfl, rfl⟩
  · intro line hline
    have hmem : line ∈ bodyLines source :=
      (List.mem_append.1 hline).elim (fun h => hnodes.subset h) (fun h => hedges.subset h)
    exact ⟨bodyLines_sits hmem, slice_of_sits (bodyLines_sits hmem)⟩
  · intro first second h
    exact bodyLines_adjacent (h.elim (fun h => h.trans hnodes) (fun h => h.trans hedges))

end Flowchart.Source
