import Flowchart.Proofs.Finding.Lines
import Flowchart.Proofs.Source.Reading
import Flowchart.Proofs.Text.Terminators

/-! What does not count in a source text: how its lines end, and the blanks around it.

The texts of its lines are all that is read of a source and all that is looked at for
findings (`alike_of_texts`), apart from the places of the lines. The texts of the lines are
the same whatever terminators the lines have and whatever blanks stand around them
(`bodyTexts_ended`). -/
namespace Flowchart

open Source Text

/-- Two sources that are read alike: they declare the same nodes and edges, the same lines are skipped in them, and
the same is found in them on the same lines, wherever these stand. -/
structure Source.Alike (source source' : Text) : Prop where
  nodes : (records source).nodes = (records source').nodes
  edges : (records source).edges = (records source').edges
  skipped : (records source).skipped.map (fun s => (s.part, s.line.text)) =
    (records source').skipped.map fun s => (s.part, s.line.text)
  said : (findings source).map (fun f => (f.problem.category, f.problem.message)) =
    (findings source').map fun f => (f.problem.category, f.problem.message)
  slices : (findings source).map (fun f => slice source f.line.span.start f.line.span.stop) =
    (findings source').map fun f => slice source' f.line.span.start f.line.span.stop

/-! ### Texts of lines -/

/-- A line wherever it stands. -/
def Line.bare (line : Line) : Line := ⟨line.text, 0⟩

/-- The texts of the lines of a source. -/
def Source.bodyTexts (source : Text) : List Text := (bodyLines source).map Line.text

theorem Source.map_bare_bodyLines (source : Text) :
    (bodyLines source).map Line.bare = (bodyTexts source).map (⟨·, 0⟩) := by
  rw [bodyTexts, List.map_map]
  rfl

/-- Sources whose lines have the same texts are read alike. -/
theorem Source.alike_of_texts {source source' : Text} (h : bodyTexts source = bodyTexts source') :
    Alike source source' := by
  have hplace (line : Line) : line.bare.text = line.text := rfl
  have hlines : (bodyLines source).map Line.bare = (bodyLines source').map Line.bare := by
    rw [map_bare_bodyLines, map_bare_bodyLines, h]
  have hrecords : (records source).move Line.bare = (records source').move Line.bare := by
    rw [records_eq_reading, records_eq_reading, ← reading_map hplace, ← reading_map hplace, hlines]
  have hfindings : (findings source).map (Finding.move Line.bare) = (findings source').map (Finding.move Line.bare) := by
    rw [Finding.findings_eq_ofSections, Finding.findings_eq_ofSections, sections_eq_ofLines, sections_eq_ofLines,
      ← Finding.ofSections_map hplace, ← Finding.ofSections_map hplace, hlines]
  have hnodes := congrArg Records.nodes hrecords
  have hedges := congrArg Records.edges hrecords
  have hskipped := congrArg (fun r => r.skipped.map fun s => (s.part, s.line.text)) hrecords
  have hsaid := congrArg (List.map fun f => (f.problem.category, f.problem.message)) hfindings
  have htexts := congrArg (List.map fun f => f.line.text) hfindings
  simp only [Records.move, List.map_map, Function.comp_def, Finding.move, Line.bare] at hskipped hsaid htexts
  refine ⟨hnodes, hedges, hskipped, hsaid, ?_⟩
  rw [List.map_congr_left fun f hf => Finding.slice_of_mem_findings hf, htexts,
    ← List.map_congr_left fun f hf => Finding.slice_of_mem_findings hf]

/-- The texts of the lines do not hang on the carriage returns of terminators. -/
theorem Source.bodyTexts_eq (source : Text) :
    bodyTexts source = if trim (unreturn source) = [] then [] else splitAt '\n' (trim (unreturn source)) := by
  rw [bodyTexts, bodyLines, trim_unreturn]
  by_cases hempty : trim source = []
  · rw [hempty]
    rfl
  · have hne : unreturn (trim source) ≠ [] := fun h => hempty (unreturn_eq_nil_iff.1 h)
    have hlast : (trim source).getLast? ≠ some '\r' := getLast?_ne_of_trimmed (trim_trim source) (by decide)
    rw [if_neg hempty, if_neg hne, rows_text, splitAt_unreturn hlast]

/-- The texts of the lines hang neither on their terminators nor on the blanks around them. -/
theorem Source.bodyTexts_ended {lines : List (Text × Terminator)}
    (hclean : ∀ line ∈ lines, '\n' ∉ line.1 ∧ line.1.getLast? ≠ some '\r') {before after : Text}
    (hbefore : ∀ c ∈ before, isBlank c = true) (hafter : ∀ c ∈ after, isBlank c = true) :
    bodyTexts (before ++ ended lines ++ after) =
      if trim (feeds (lines.map Prod.fst)) = [] then [] else splitAt '\n' (trim (feeds (lines.map Prod.fst))) := by
  rw [bodyTexts_eq, trim_unreturn, trim_append_of_blank hbefore hafter, ← trim_unreturn, unreturn_ended hclean]

/-! ### Terminators and blanks -/

/-- **Neither the ends of lines nor the blanks around a text count.** The same lines are read alike, each one ended
by a line feed with or without a carriage return as may be, and with any blanks before them and behind them. -/
theorem Source.alike_of_ended {lines lines' : List (Text × Terminator)}
    (hsame : lines.map Prod.fst = lines'.map Prod.fst)
    (hclean : ∀ line ∈ lines.map Prod.fst, '\n' ∉ line ∧ line.getLast? ≠ some '\r')
    {before after before' after' : Text}
    (hbefore : ∀ c ∈ before, isBlank c = true) (hafter : ∀ c ∈ after, isBlank c = true)
    (hbefore' : ∀ c ∈ before', isBlank c = true) (hafter' : ∀ c ∈ after', isBlank c = true) :
    Alike (before ++ ended lines ++ after) (before' ++ ended lines' ++ after') := by
  have hlines : ∀ line ∈ lines, '\n' ∉ line.1 ∧ line.1.getLast? ≠ some '\r' := fun line hline =>
    hclean line.1 (List.mem_map_of_mem hline)
  have hlines' : ∀ line ∈ lines', '\n' ∉ line.1 ∧ line.1.getLast? ≠ some '\r' := fun line hline =>
    hclean line.1 (hsame ▸ List.mem_map_of_mem hline)
  apply alike_of_texts
  rw [bodyTexts_ended hlines hbefore hafter, bodyTexts_ended hlines' hbefore' hafter', hsame]

/-- Four lines with line feeds, and with terminators of both kinds between a no-break space and a tab. -/
theorem Source.alike_of_ended_mixed :
    Alike "a=>start: A\n?\r?\n\na->b \n".toList "\u00a0\r\na=>start: A\r\n?\r?\n\r\na->b \r\n\t".toList := by
  have halike := @alike_of_ended
    [("a=>start: A".toList, .feed), ("?\r?".toList, .feed), ([], .feed), ("a->b ".toList, .feed)]
    [("a=>start: A".toList, .returnFeed), ("?\r?".toList, .feed), ([], .returnFeed), ("a->b ".toList, .returnFeed)]
    (by decide) (by decide) [] [] "\u00a0\r\n".toList "\t".toList
    nofun nofun (List.all_eq_true.1 (by decide +kernel)) (List.all_eq_true.1 (by decide +kernel))
  exact halike

end Flowchart
