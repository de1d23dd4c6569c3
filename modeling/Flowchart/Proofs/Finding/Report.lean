import Flowchart.Proofs.Finding.Drawing

/-! What the report of a finding shows.

The offsets of a finding count bytes, and a reporter takes them for counts of characters. So
the report shows the line of the finding if every character up to the end of the line is one
byte; in any other case the characters that it shows, if they are on one row, are not the
line: `report_shows_iff`. -/
namespace Flowchart.Report

open Text

/-- **What the report of a finding shows**, with any reporter that counts characters. The line of a finding in which
no row ends is a stretch of the source. If every character up to the end of the line is one byte then the report shows
this stretch. In any case it shows the stretch at whose characters the bytes of the line are, if they lead to
one row, and this is the line exactly if every character up to the end of the line is one byte. -/
theorem report_shows_iff {reporter : Reporter} {read : Note → Text → View} (hreporter : reporter.CountsCharacters read)
    {source : Text} {f : Finding} (hf : f ∈ findings source) (hline : ∀ c ∈ f.line.text, endsRow c = false)
    (filename : Text) :
    ∃ line : Stretch source, line.text = f.line.text ∧ line.bytes = f.line.span ∧
      let shown := read (f.note filename) (f.report reporter source filename)
      ((∀ c ∈ line.before ++ line.text, c.utf8Size = 1) → shown = line.view) ∧
      ∀ label : Stretch source, label.characters = f.line.span →
        shown = label.view ∧ (shown = line.view ↔ ∀ c ∈ line.before ++ line.text, c.utf8Size = 1) := by
  obtain ⟨line, htext, hbytes, hright⟩ := Stretch.exists_of_mem_findings hf hline
  have hblank : isAllBlank line.text = false := htext ▸ ((Finding.findings_along source).not_blank f hf).2
  have hshown (label : Stretch source) (hlabel : label.characters = f.line.span) :
      read (f.note filename) (f.report reporter source filename) = label.view := by
    obtain ⟨written, hwritten, hread⟩ := hreporter label (f.note filename) (congrArg Span.start hlabel).symm hlabel.symm
    rw [Finding.report, hwritten]
    exact hread
  refine ⟨line, htext, hbytes, fun hone => hshown line ?_, fun label hlabel => ⟨hshown label hlabel, ?_⟩⟩
  · rw [List.forall_mem_append, ← byteSize_eq_length_iff, ← byteSize_eq_length_iff] at hone
    rw [← hbytes, Stretch.bytes, Stretch.characters, hone.1, hone.2]
  · rw [hshown label hlabel]
    exact Stretch.view_eq_iff (hlabel.trans hbytes.symm) hblank hright

/-- Up to the end of a line behind a carriage return every character is one byte. -/
theorem report_shows_of_one_byte :
    let source := "a=>start: A\r\nbad \n\na->a".toList
    let f : Finding := ⟨.skipped .node, ⟨"bad ".toList, 13⟩⟩
    Reporter.CountsCharacters draw read ∧ f ∈ findings source ∧ (∀ c ∈ f.line.text, endsRow c = false) ∧
      ∃ line : Stretch source, line.text = f.line.text ∧ line.bytes = f.line.span ∧
        read (f.note "chart.dsl".toList) (f.report draw source "chart.dsl".toList) = line.view ∧
        line.view = ⟨2, 1, [('b', true), ('a', true), ('d', true)], 4⟩ := by
  intro source f
  have hf : f ∈ findings source := by decide +kernel
  have hrow : (f.line.text.all (!endsRow ·)) = true := by decide +kernel
  have hline : ∀ c ∈ f.line.text, endsRow c = false := by simpa using hrow
  obtain ⟨line, htext, hline', hshown, -⟩ := report_shows_iff draw_countsCharacters hf hline "chart.dsl".toList
  have hbytes : (source.all (·.utf8Size == 1)) = true := by decide +kernel
  have hshown := hshown fun c hc => eq_of_beq (List.all_eq_true.1 hbytes c (line.mem_source hc))
  refine ⟨draw_countsCharacters, hf, hline, line, htext, hline', hshown, hshown.symm.trans ?_⟩
  decide +kernel

/-- Characters of two bytes lead a report to a row behind the line. -/
theorem not_shows_of_longer :
    let source := "näher=>start: ÄÄÄÄÄÄÄ\nbad\nx=>end: Ende".toList
    let f : Finding := ⟨.skipped .node, ⟨"bad".toList, 30⟩⟩
    Reporter.CountsCharacters draw read ∧ f ∈ findings source ∧ (∀ c ∈ f.line.text, endsRow c = false) ∧
      ∀ line : Stretch source, line.text = f.line.text → line.bytes = f.line.span →
        read (f.note "chart.dsl".toList) (f.report draw source "chart.dsl".toList) ≠ line.view := by
  intro source f
  have hends : (f.line.text.all (!endsRow ·)) = true := by decide +kernel
  refine ⟨draw_countsCharacters, by decide +kernel, by simpa using hends, fun line _ hbytes hshown => ?_⟩
  -- The report is about the third row, but the line starts before the second row ends.
  have hthird : (read (f.note "chart.dsl".toList) (f.report draw source "chart.dsl".toList)).row = 3 := by decide +kernel
  have hrow : 1 + line.above.length = 3 := (congrArg View.row hshown).symm.trans hthird
  have habove : (rows source).take 2 = line.above := by
    rw [line.rows_eq, List.take_left' (by omega)]
  have hlong : byteSize ((rows source).take 2).flatten = 34 := by decide +kernel
  have hstart : byteSize (line.above.flatten ++ line.left) = 30 := congrArg Span.start hbytes
  rw [byteSize_append, ← habove, hlong] at hstart
  omega

end Flowchart.Report
