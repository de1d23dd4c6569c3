import Flowchart.Proofs.Source.Sections
import Flowchart.Source.Records

/-! Declarations read line by line.

`records` divides a text into its sections first and sifts the lines of each section
then. A reader who goes through the lines once gets the same (`records_eq_reading`), with
nothing to remember but the section that he is in: what a line gives depends on its section
and its text alone (`Records.ofLine`). So what lines give one behind the other is put
together from what they give apart (`reading_append`), and lines that stand elsewhere give
the same declarations (`reading_map`).

`records_insert` is the outcome: a line that is put between the lines of a text adds what it
gives by itself and moves what is behind it, and all else is as it was. -/
namespace Flowchart.Source

open Text

/-! ### What lines give -/

/-- What is read behind something else, put together with it. -/
instance : Append Records where
  append r s := ⟨r.nodes ++ s.nodes, r.edges ++ s.edges, r.skipped ++ s.skipped⟩

/-- The same with the skipped lines in other places. -/
def Records.move (place : Line → Line) (r : Records) : Records :=
  { r with skipped := r.skipped.map fun s => { s with line := place s.line } }

/-- What one line of a section gives: the declaration that it is, or a skipped line. -/
def Records.ofLine : Section → Line → Records
  | .node, line =>
    match NodeDecl.ofLine? line.text with
    | some decl => ⟨[decl], [], []⟩
    | none => ⟨[], [], [⟨.node, line⟩]⟩
  | .edge, line =>
    match EdgeDecl.ofLine? line.text with
    | some decl => ⟨[], [decl], []⟩
    | none => ⟨[], [], [⟨.edge, line⟩]⟩

/-- What lines give that are read one by one, starting in a section. The first empty line in the section of nodes
ends it and gives nothing. -/
def reading : Section → List Line → Records
  | _, [] => ⟨[], [], []⟩
  | .node, line :: more =>
    if line.text = [] then reading .edge more else Records.ofLine .node line ++ reading .node more
  | .edge, line :: more => Records.ofLine .edge line ++ reading .edge more

/-- The section that goes on behind some lines. -/
def Section.behind (part : Section) (lines : List Text) : Section := if [] ∈ lines then .edge else part

namespace Records

@[simp] theorem append_mk (nodes nodes' : List NodeDecl) (edges edges' : List EdgeDecl)
    (skipped skipped' : List Skipped) :
    (⟨nodes, edges, skipped⟩ ++ ⟨nodes', edges', skipped'⟩ : Records) =
      ⟨nodes ++ nodes', edges ++ edges', skipped ++ skipped'⟩ := rfl

theorem append_assoc (r s u : Records) : r ++ s ++ u = r ++ (s ++ u) := by
  obtain ⟨nodes, edges, skipped⟩ := r
  obtain ⟨nodes', edges', skipped'⟩ := s
  obtain ⟨nodes'', edges'', skipped''⟩ := u
  simp

theorem move_append (place : Line → Line) (r s : Records) : (r ++ s).move place = r.move place ++ s.move place := by
  obtain ⟨nodes, edges, skipped⟩ := r
  obtain ⟨nodes', edges', skipped'⟩ := s
  simp [move]

/-- A line is declared or skipped for its text. -/
theorem ofLine_move {place : Line → Line} (hplace : ∀ line, (place line).text = line.text) (part : Section)
    (line : Line) : ofLine part (place line) = (ofLine part line).move place := by
  cases part with
  | node =>
    simp only [ofLine, hplace]
    cases NodeDecl.ofLine? line.text <;> rfl
  | edge =>
    simp only [ofLine, hplace]
    cases EdgeDecl.ofLine? line.text <;> rfl

/-- A line that is skipped is skipped where it stands. -/
theorem line_of_mem_ofLine {part : Section} {line : Line} {s : Skipped} (h : s ∈ (ofLine part line).skipped) :
    s.line = line := by
  cases part with
  | node =>
    rw [ofLine] at h
    cases hline : NodeDecl.ofLine? line.text <;> rw [hline] at h
    · obtain rfl := List.mem_singleton.1 h
      rfl
    · cases h
  | edge =>
    rw [ofLine] at h
    cases hline : EdgeDecl.ofLine? line.text <;> rw [hline] at h
    · obtain rfl := List.mem_singleton.1 h
      rfl
    · cases h

end Records

/-! ### The lines of a text -/

theorem reading_node_cons {line : Line} (h : line.text ≠ []) (more : List Line) :
    reading .node (line :: more) = Records.ofLine .node line ++ reading .node more := by
  rw [reading, if_neg h]

theorem reading_node_blank {line : Line} (h : line.text = []) (more : List Line) :
    reading .node (line :: more) = reading .edge more := by
  rw [reading, if_pos h]

/-- Each line is sifted on its own. -/
theorem sift_snd_cons {α : Type} (read? : Text → Option α) (line : Line) (more : List Line) :
    (sift read? (line :: more)).2 = (sift read? [line]).2 ++ (sift read? more).2 := by
  rw [sift_snd, sift_snd, sift_snd, ← List.filter_append, List.singleton_append]

/-- The lines of the section of edges are sifted. -/
theorem reading_edge (lines : List Line) :
    reading .edge lines =
      ⟨[], (sift EdgeDecl.ofLine? lines).1, (sift EdgeDecl.ofLine? lines).2.map (⟨.edge, ·⟩)⟩ := by
  induction lines with
  | nil => rfl
  | cons line more ih =>
    rw [reading, ih, Records.ofLine, sift]
    cases EdgeDecl.ofLine? line.text <;> rfl

/-- Sifting both sections of some lines is reading them one by one. -/
theorem sift_ofLines (lines : List Line) :
    let s := Sections.ofLines lines
    let (nodes, badNodes) := sift NodeDecl.ofLine? s.nodeLines
    let (edges, badEdges) := sift EdgeDecl.ofLine? s.edgeLines
    reading .node lines = ⟨nodes, edges, badNodes.map (⟨.node, ·⟩) ++ badEdges.map (⟨.edge, ·⟩)⟩ := by
  induction lines with
  | nil => rfl
  | cons line more ih =>
    by_cases hline : line.text = []
    · rw [reading_node_blank hline, reading_edge, Sections.ofLines, if_pos hline]
      rfl
    · rw [reading_node_cons hline, ih, Sections.ofLines, if_neg hline]
      simp only [Records.ofLine, sift, Sections.edgeLines]
      cases NodeDecl.ofLine? line.text <;> rfl

/-- What is declared in a text and skipped is what its lines give one by one. -/
theorem records_eq_reading (source : Text) : records source = reading .node (bodyLines source) := by
  rw [sift_ofLines, records, sections_eq_ofLines]

/-- The lines behind others are read on their own, in the section that goes on there. -/
theorem reading_append (part : Section) (lines more : List Line) :
    reading part (lines ++ more) = reading part lines ++ reading (part.behind (lines.map Line.text)) more := by
  induction lines generalizing part with
  | nil => cases part <;> rfl
  | cons line lines ih =>
    cases part with
    | edge =>
      have hedge (texts : List Text) : Section.edge.behind texts = .edge := ite_self _
      rw [List.cons_append, reading, reading, ih, hedge, hedge, Records.append_assoc]
    | node =>
      by_cases hline : line.text = []
      · rw [List.cons_append, reading_node_blank hline, reading_node_blank hline, ih]
        simp [Section.behind, hline]
      · rw [List.cons_append, reading_node_cons hline, reading_node_cons hline, ih, Records.append_assoc]
        simp [Section.behind, Ne.symm hline]

/-- Lines that stand elsewhere give the same, with the skipped lines elsewhere. -/
theorem reading_map {place : Line → Line} (hplace : ∀ line, (place line).text = line.text) (part : Section)
    (lines : List Line) : reading part (lines.map place) = (reading part lines).move place := by
  induction lines generalizing part with
  | nil => cases part <;> rfl
  | cons line lines ih =>
    cases part with
    | edge => rw [List.map_cons, reading, reading, ih, Records.ofLine_move hplace, Records.move_append]
    | node =>
      by_cases hline : line.text = []
      · rw [List.map_cons, reading_node_blank hline, reading_node_blank ((hplace line).trans hline), ih]
      · rw [List.map_cons, reading_node_cons hline, reading_node_cons fun h => hline ((hplace line).symm.trans h), ih,
          Records.ofLine_move hplace, Records.move_append]

/-- Only lines that are read are skipped. -/
theorem line_mem_of_mem_skipped {part : Section} {lines : List Line} {s : Skipped}
    (h : s ∈ (reading part lines).skipped) : s.line ∈ lines := by
  induction lines generalizing part with
  | nil => cases part <;> cases h
  | cons line lines ih =>
    have hcons (part : Section) (h : s ∈ (Records.ofLine part line ++ reading part lines).skipped) :
        s.line ∈ line :: lines := by
      rcases List.mem_append.1 h with h | h
      · exact Records.line_of_mem_ofLine h ▸ List.mem_cons_self ..
      · exact List.mem_cons_of_mem _ (ih h)
    cases part with
    | edge => exact hcons .edge h
    | node =>
      by_cases hline : line.text = []
      · rw [reading_node_blank hline] at h
        exact List.mem_cons_of_mem _ (ih h)
      · rw [reading_node_cons hline] at h
        exact hcons .node h

/-! ### Texts given by their lines -/

/-- Lines that make a text without blanks around it: no line feed stands in them and no carriage return ends them,
the first one starts with a character that is not blank, and the last one ends with such a character. -/
structure IsBody (lines : List Text) : Prop where
  noFeed : ∀ l ∈ lines, '\n' ∉ l
  noReturn : ∀ l ∈ lines, l.getLast? ≠ some '\r'
  first : ∀ l ∈ lines.head?, l ≠ [] ∧ Stops isBlank l
  last : ∀ l ∈ lines.getLast?, l ≠ [] ∧ Stops isBlank l.reverse

/-- The lines of a text that is given by its lines are these lines. -/
theorem IsBody.bodyLines {lines : List Text} (h : IsBody lines) :
    bodyLines (['\n'].intercalate lines) = rows 0 lines := by
  cases lines with
  | nil => rfl
  | cons first more =>
    have hlast? := List.getLast?_eq_some_getLast (List.cons_ne_nil first more)
    obtain ⟨hfirst, hstart⟩ := h.first first rfl
    obtain ⟨hlast, hend⟩ := h.last _ hlast?
    obtain ⟨rest, hrest, -⟩ := exists_intercalate_cons first more
    obtain ⟨front, hfront, -⟩ := exists_intercalate_last hlast?
    have hne : ['\n'].intercalate (first :: more) ≠ [] := by
      rw [hrest]
      exact List.append_ne_nil_of_left_ne_nil hfirst rest
    refine bodyLines_intercalate hne h.noFeed (trim_eq_self_iff.2 ⟨?_, ?_⟩)
    · rw [hrest]
      exact hstart.append hfirst rest
    · rw [hfront, List.reverse_append]
      exact hend.append (by simpa using hlast) _

/-- A line without blanks at its ends may be put anywhere among the lines. -/
theorem IsBody.insert {before after : List Text} {line : Text} (h : IsBody (before ++ after)) (hne : line ≠ [])
    (hfeed : '\n' ∉ line) (htrim : trim line = line) : IsBody (before ++ line :: after) := by
  obtain ⟨hstart, hend⟩ := trim_eq_self_iff.1 htrim
  have hreturn : line.getLast? ≠ some '\r' := getLast?_ne_of_trimmed htrim (by decide)
  have hmem {l : Text} (hl : l ∈ before ++ line :: after) : l = line ∨ l ∈ before ++ after := by
    simp only [List.mem_append, List.mem_cons] at hl ⊢
    exact or_left_comm.1 hl
  refine ⟨fun l hl => ?_, fun l hl => ?_, fun l hl => ?_, fun l hl => ?_⟩
  · rcases hmem hl with rfl | hl
    · exact hfeed
    · exact h.noFeed l hl
  · rcases hmem hl with rfl | hl
    · exact hreturn
    · exact h.noReturn l hl
  · cases before with
    | nil =>
      cases hl
      exact ⟨hne, hstart⟩
    | cons first before => exact h.first l hl
  · cases hafter : after.getLast? with
    | none =>
      rw [List.getLast?_append, List.getLast?_cons, hafter] at hl
      cases hl
      exact ⟨hne, hend⟩
    | some last =>
      rw [List.getLast?_append, List.getLast?_cons, hafter] at hl
      cases hl
      exact h.last _ (by rw [List.getLast?_append, hafter]; rfl)

/-! ### One line more -/

/-- **Each line is read on its own.** Where a line is put between the lines of a text, what the text gives is what
the lines before it and the lines behind it gave, with what the line gives in between, as a declaration of a node
if no empty line stands before it and of an edge otherwise; the lines that are skipped behind it have moved by its
bytes and a line feed. -/
theorem records_insert {before after : List Text} {line : Text} (hbody : IsBody (before ++ after))
    (hne : line ≠ []) (hfeed : '\n' ∉ line) (htrim : trim line = line) :
    let part : Section := if [] ∈ before then .edge else .node
    let place := byteSize (feeds before)
    let earlier := reading .node (rows 0 before)
    let later := reading part (rows place after)
    records (['\n'].intercalate (before ++ after)) = earlier ++ later ∧
      records (['\n'].intercalate (before ++ line :: after)) =
        earlier ++ (Records.ofLine part ⟨line, place⟩ ++ later.move (Line.shift (byteSize line + 1))) ∧
      (∀ s ∈ earlier.skipped, s.line.stop < place) ∧ ∀ s ∈ later.skipped, place ≤ s.line.start := by
  intro part place earlier later
  have hbody' := hbody.insert hne hfeed htrim
  have hwhole : ∀ p ∈ before ++ line :: after, dropLastIf '\r' p = p := fun p hp =>
    dropLastIf_of_ne (hbody'.noReturn p hp)
  have hline : dropLastIf '\r' line = line := hwhole line (by simp)
  have hbefore : (rows 0 before).map Line.text = before :=
    rows_text_of_whole (fun p hp => hwhole p (List.mem_append_left _ hp)) 0
  have hplace : 0 + byteSize (feeds before) = place := Nat.zero_add _
  have hpart : Section.node.behind before = part := rfl
  refine ⟨?_, ?_, fun s hs => ?_, fun s hs => ?_⟩
  · rw [records_eq_reading, hbody.bodyLines, rows_append, reading_append, hbefore, hplace, hpart]
  · have hmoved : reading part (rows (place + byteSize line + 1) after) =
        later.move (Line.shift (byteSize line + 1)) := by
      have hshift (l : Line) : (Line.shift (byteSize line + 1) l).text = l.text := rfl
      rw [Nat.add_assoc, rows_shift]
      exact reading_map hshift part _
    have hcons : reading part (rows place (line :: after)) =
        Records.ofLine part ⟨line, place⟩ ++ later.move (Line.shift (byteSize line + 1)) := by
      rw [rows, hline, ← hmoved]
      cases hp : part with
      | edge => rfl
      | node => exact reading_node_cons hne _
    rw [records_eq_reading, hbody'.bodyLines, rows_append, reading_append,
      hbefore, hplace, hpart, hcons]
  · have hbounds := (bounds_of_mem_rows (line_mem_of_mem_skipped hs)).2
    rwa [hplace] at hbounds
  · exact (bounds_of_mem_rows (line_mem_of_mem_skipped hs)).1

/-- A line of five bytes that is skipped in the section of edges, next to its end. -/
theorem records_insert_malformed :
    let before := ["a=>start: A".toList, " ä\r?".toList, [], "a->a".toList]
    let line := "ü é".toList
    IsBody (before ++ ["?!".toList]) ∧ records (['\n'].intercalate (before ++ [line, "?!".toList])) =
      ⟨[⟨"a".toList, .start, "A".toList⟩], [⟨"a".toList, "a".toList, none⟩],
        [⟨.node, ⟨" ä\r?".toList, 12⟩⟩, ⟨.edge, ⟨line, 24⟩⟩, ⟨.edge, ⟨"?!".toList, 30⟩⟩]⟩ := by
  intro before line
  have hbody : IsBody (before ++ ["?!".toList]) := by
    refine ⟨by decide +kernel, by decide +kernel, ?_, ?_⟩
    · rintro l ⟨⟩
      exact ⟨by decide, stops_cons.2 (by decide)⟩
    · rintro l ⟨⟩
      exact ⟨by decide, stops_cons.2 (by decide)⟩
  have hne : line ≠ [] := by decide
  obtain ⟨-, hinsert, -, -⟩ := records_insert hbody hne (by decide) (by decide +kernel)
  exact ⟨hbody, hinsert.trans (by decide +kernel)⟩

end Flowchart.Source
