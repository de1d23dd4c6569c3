import Flowchart.Proofs.Finding.Clean
import Flowchart.Proofs.Finding.Lines
import Flowchart.Proofs.Source.Reading
import Flowchart.Proofs.Text.Run
import Mathlib.Data.List.Dedup

/-! Findings without a memory.

`findings` goes through the lines with a set of the ids that it has seen. What it finds on a
line can be said without this set, from the lines before it in the section of nodes, or from
all lines of that section for an edge (`due`). `inNodes_eq_due` is the induction: the set
holds the ids that the lines before declare.

`findings_eq_due` is the outcome, with what follows for the findings of a whole text: where
they stand, in which order, which skipped lines they report and how many ids they report as
declared again. -/
namespace Flowchart

open Source

/-- Whether a problem is a line that is skipped. -/
def Problem.isSkipped : Problem → Bool
  | skipped _ => true
  | _ => false

/-- Whether a problem is an id that is declared again. -/
def Problem.isDuplicate : Problem → Bool
  | duplicate _ => true
  | _ => false

namespace Finding

/-! ### What there is to find -/

/-- The ids that lines declare, in their order. -/
def declaredIds (lines : List Line) : List Text :=
  (lines.filterMap fun line => NodeDecl.ofLine? line.text).map NodeDecl.id

/-- What there is to find on a line of the section of nodes that stands behind some others. -/
def dueOnNode (earlier : List Line) (line : Line) : List Finding :=
  match NodeDecl.ofLine? line.text with
  | none => if Text.trim line.text = [] then [] else [⟨.skipped .node, line⟩]
  | some decl =>
    (if decl.id = Chart.attributionId then [⟨.reserved decl.id, line⟩] else []) ++
      if decl.id ∈ declaredIds earlier then [⟨.duplicate decl.id, line⟩] else []

/-- What there is to find on a line of the section of edges if `nodeLines` is the section of nodes. -/
def dueOnEdge (nodeLines : List Line) (line : Line) : List Finding :=
  match EdgeDecl.ofLine? line.text with
  | none => if Text.trim line.text = [] then [] else [⟨.skipped .edge, line⟩]
  | some decl => ([decl.source, decl.target].filter fun id => id ∉ declaredIds nodeLines).map (⟨.dangling ·, line⟩)

/-- What there is to find in two sections, line by line. -/
def due (s : Sections) : List Finding :=
  (s.nodeLines.mapIdx fun i line => dueOnNode (s.nodeLines.take i) line).flatten ++
    s.edgeLines.flatMap (dueOnEdge s.nodeLines)

/-! ### The memory -/

theorem declaredIds_eq_sift (lines : List Line) :
    declaredIds lines = (sift NodeDecl.ofLine? lines).1.map NodeDecl.id := by
  rw [declaredIds, sift_fst]

theorem declaredIds_append (lines more : List Line) :
    declaredIds (lines ++ more) = declaredIds lines ++ declaredIds more := by
  rw [declaredIds, List.filterMap_append, List.map_append]
  rfl

/-- What is remembered after a line is what was remembered and what the line declares. -/
theorem mem_remember_iff {seen : List Text} {line : Line} {id : Text} :
    id ∈ remember seen line ↔ id ∈ seen ∨ id ∈ declaredIds [line] := by
  rw [remember]
  cases hline : NodeDecl.ofLine? line.text with
  | none => simp [declaredIds, hline]
  | some decl =>
    rw [mem_insert_iff, or_comm]
    simp [declaredIds, hline]

theorem nodup_remember {seen : List Text} (h : seen.Nodup) (line : Line) : (remember seen line).Nodup := by
  rw [remember]
  split
  · exact h
  · split
    · exact h
    · rename_i hnew
      exact List.nodup_cons.2 ⟨hnew, h⟩

theorem nodup_inNodes {seen : List Text} (h : seen.Nodup) (lines : List Line) : (inNodes seen lines).2.Nodup := by
  induction lines generalizing seen with
  | nil => exact h
  | cons line more ih =>
    rw [inNodes_cons]
    exact ih (nodup_remember h line)

/-! ### Found is what is due -/

theorem ofRejected_eq_due (part : Section) (line : Line) :
    ofRejected part line = if Text.trim line.text = [] then [] else [⟨.skipped part, line⟩] := by
  simp only [ofRejected, Text.trim_eq_nil_iff]

theorem onNodeLine_eq_due {seen : List Text} {earlier : List Line} (h : ∀ id, id ∈ seen ↔ id ∈ declaredIds earlier)
    (line : Line) : onNodeLine seen line = dueOnNode earlier line := by
  rw [onNodeLine, dueOnNode, ofRejected_eq_due]
  cases NodeDecl.ofLine? line.text with
  | none => rfl
  | some decl => simp only [ofNode, h]

theorem onEdgeLine_eq_due {declared : List Text} {nodeLines : List Line}
    (h : ∀ id, id ∈ declared ↔ id ∈ declaredIds nodeLines) (line : Line) :
    onEdgeLine declared line = dueOnEdge nodeLines line := by
  rw [onEdgeLine, dueOnEdge, ofRejected_eq_due]
  cases EdgeDecl.ofLine? line.text with
  | none => rfl
  | some decl =>
    have hend (id : Text) : ofEnd declared line id =
        ([id].filter fun id => id ∉ declaredIds nodeLines).map (⟨.dangling ·, line⟩) := by
      by_cases hid : id ∈ declaredIds nodeLines <;> simp [ofEnd, h, hid]
    show ofEnd declared line decl.source ++ ofEnd declared line decl.target = _
    rw [hend, hend, ← List.map_append, ← List.filter_append]
    rfl

/-- The memory holds the ids of the lines before, and what is found with it is what is due. -/
theorem inNodes_eq_due {seen : List Text} {earlier : List Line} (h : ∀ id, id ∈ seen ↔ id ∈ declaredIds earlier)
    (lines : List Line) :
    (inNodes seen lines).1 = (lines.mapIdx fun i line => dueOnNode (earlier ++ lines.take i) line).flatten := by
  induction lines generalizing seen earlier with
  | nil => rfl
  | cons line more ih =>
    have hseen : ∀ id, id ∈ remember seen line ↔ id ∈ declaredIds (earlier ++ [line]) := by
      intro id
      rw [mem_remember_iff, declaredIds_append, List.mem_append, h]
    rw [inNodes_cons, ih hseen, List.mapIdx_cons, List.flatten_cons, List.take_zero, List.append_nil,
      onNodeLine_eq_due h]
    simp only [List.take_succ_cons, List.append_assoc, List.singleton_append]

theorem mem_declared_iff (lines : List Line) (id : Text) : id ∈ (inNodes [] lines).2 ↔ id ∈ declaredIds lines := by
  rw [mem_inNodes_iff, declaredIds_eq_sift]
  simp

theorem inEdges_eq_due {declared : List Text} {nodeLines : List Line}
    (h : ∀ id, id ∈ declared ↔ id ∈ declaredIds nodeLines) (lines : List Line) :
    inEdges declared lines = lines.flatMap (dueOnEdge nodeLines) := by
  induction lines with
  | nil => rfl
  | cons line more ih => rw [inEdges_cons, ih, onEdgeLine_eq_due h, List.flatMap_cons]

theorem ofSections_eq_due (s : Sections) : ofSections s = due s := by
  have hstart : ∀ id, id ∈ ([] : List Text) ↔ id ∈ declaredIds [] := fun _ => .rfl
  rw [ofSections, inNodes_eq_due hstart, inEdges_eq_due (mem_declared_iff s.nodeLines)]
  rfl

/-! ### Skipped lines -/

/-- The lines that are found to be skipped. -/
def skippedLines (fs : List Finding) : List Line := (fs.filter fun f => f.problem.isSkipped).map Finding.line

theorem skippedLines_append (fs gs : List Finding) : skippedLines (fs ++ gs) = skippedLines fs ++ skippedLines gs := by
  rw [skippedLines, List.filter_append, List.map_append]
  rfl

theorem skippedLines_ofRejected (part : Section) (line : Line) :
    skippedLines (ofRejected part line) = [line].filter fun line => Text.trim line.text ≠ [] := by
  rw [ofRejected_eq_due]
  by_cases hblank : Text.trim line.text = [] <;> simp [skippedLines, hblank, Problem.isSkipped]

theorem skippedLines_ofNode (seen : List Text) (line : Line) (id : Text) : skippedLines (ofNode seen line id) = [] := by
  rw [ofNode]
  split <;> split <;> rfl

theorem skippedLines_ofEnd (declared : List Text) (line : Line) (id : Text) :
    skippedLines (ofEnd declared line id) = [] := by
  rw [ofEnd]
  split <;> rfl

/-- A line is found to be skipped if sifting rejects it and something stands on it. -/
theorem skippedLines_onNodeLine (seen : List Text) (line : Line) :
    skippedLines (onNodeLine seen line) =
      (sift NodeDecl.ofLine? [line]).2.filter fun line => Text.trim line.text ≠ [] := by
  rw [onNodeLine, sift_snd, List.filter_singleton]
  cases NodeDecl.ofLine? line.text with
  | none => exact skippedLines_ofRejected .node line
  | some decl => exact skippedLines_ofNode seen line decl.id

theorem skippedLines_onEdgeLine (declared : List Text) (line : Line) :
    skippedLines (onEdgeLine declared line) =
      (sift EdgeDecl.ofLine? [line]).2.filter fun line => Text.trim line.text ≠ [] := by
  rw [onEdgeLine, sift_snd, List.filter_singleton]
  cases EdgeDecl.ofLine? line.text with
  | none => exact skippedLines_ofRejected .edge line
  | some decl =>
    show skippedLines (ofEnd declared line decl.source ++ ofEnd declared line decl.target) = []
    rw [skippedLines_append, skippedLines_ofEnd, skippedLines_ofEnd, List.append_nil]

theorem skippedLines_inNodes (seen : List Text) (lines : List Line) :
    skippedLines (inNodes seen lines).1 =
      (sift NodeDecl.ofLine? lines).2.filter fun line => Text.trim line.text ≠ [] := by
  induction lines generalizing seen with
  | nil => rfl
  | cons line more ih =>
    rw [inNodes_cons, skippedLines_append, skippedLines_onNodeLine, ih, ← List.filter_append, ← sift_snd_cons]

theorem skippedLines_inEdges (declared : List Text) (lines : List Line) :
    skippedLines (inEdges declared lines) =
      (sift EdgeDecl.ofLine? lines).2.filter fun line => Text.trim line.text ≠ [] := by
  induction lines with
  | nil => rfl
  | cons line more ih =>
    rw [inEdges_cons, skippedLines_append, skippedLines_onEdgeLine, ih, ← List.filter_append, ← sift_snd_cons]

/-- The lines that are found to be skipped are the skipped lines on which something stands. -/
theorem skippedLines_findings (source : Text) :
    skippedLines (findings source) =
      ((records source).skipped.map Skipped.line).filter fun line => Text.trim line.text ≠ [] := by
  have hskipped : (records source).skipped.map Skipped.line =
      (sift NodeDecl.ofLine? (sections source).nodeLines).2 ++ (sift EdgeDecl.ofLine? (sections source).edgeLines).2 := by
    simp [records, Function.comp_def]
  rw [findings_eq_ofSections, ofSections, skippedLines_append, skippedLines_inNodes, skippedLines_inEdges, hskipped,
    List.filter_append]

/-! ### Ids declared again -/

/-- How many of some findings are of ids declared again. -/
def duplicates (fs : List Finding) : Nat := fs.countP fun f => f.problem.isDuplicate

theorem duplicates_append (fs gs : List Finding) : duplicates (fs ++ gs) = duplicates fs + duplicates gs :=
  List.countP_append

theorem duplicates_ofRejected (part : Section) (line : Line) : duplicates (ofRejected part line) = 0 := by
  rw [ofRejected]
  split <;> rfl

/-- A line that declares a node is found to declare it again, or its id is remembered. -/
theorem duplicates_onNodeLine (seen : List Text) (line : Line) :
    duplicates (onNodeLine seen line) + (remember seen line).length = seen.length + (declaredIds [line]).length := by
  rw [onNodeLine, remember]
  cases hline : NodeDecl.ofLine? line.text with
  | none => simp [duplicates_ofRejected, declaredIds, hline]
  | some decl =>
    have hreserved : duplicates (if decl.id = Chart.attributionId then [⟨.reserved decl.id, line⟩] else []) = 0 := by
      split <;> rfl
    show duplicates (ofNode seen line decl.id) + _ = _
    rw [ofNode, duplicates_append, hreserved]
    by_cases hseen : decl.id ∈ seen
    · simp [hseen, declaredIds, hline, duplicates, Problem.isDuplicate, Nat.add_comm]
    · simp [hseen, declaredIds, hline, duplicates]

theorem duplicates_inNodes (seen : List Text) (lines : List Line) :
    duplicates (inNodes seen lines).1 + (inNodes seen lines).2.length = seen.length + (declaredIds lines).length := by
  induction lines generalizing seen with
  | nil => exact Nat.zero_add _
  | cons line more ih =>
    have hline := duplicates_onNodeLine seen line
    have hmore := ih (remember seen line)
    have hids := congrArg List.length (declaredIds_append [line] more)
    rw [List.length_append, List.singleton_append] at hids
    rw [inNodes_cons]
    dsimp only
    rw [duplicates_append, hids]
    omega

theorem duplicates_onEdgeLine (declared : List Text) (line : Line) : duplicates (onEdgeLine declared line) = 0 := by
  rw [onEdgeLine]
  cases EdgeDecl.ofLine? line.text with
  | none => exact duplicates_ofRejected .edge line
  | some decl =>
    simp only [ofEnd]
    split <;> split <;> rfl

theorem duplicates_inEdges (declared : List Text) (lines : List Line) : duplicates (inEdges declared lines) = 0 := by
  induction lines with
  | nil => rfl
  | cons line more ih => rw [inEdges_cons, duplicates_append, duplicates_onEdgeLine, ih]

/-- Every declaration of a node is the first of its id or found to be another one. -/
theorem duplicates_findings (source : Text) :
    duplicates (findings source) + ((records source).nodes.map NodeDecl.id).dedup.length =
      (records source).nodes.length := by
  have hnodes : (records source).nodes.map NodeDecl.id = declaredIds (sections source).nodeLines :=
    (declaredIds_eq_sift _).symm
  have hperm : (inNodes [] (sections source).nodeLines).2.Perm (declaredIds (sections source).nodeLines).dedup :=
    (List.perm_ext_iff_of_nodup (nodup_inNodes List.nodup_nil _) (List.nodup_dedup _)).2 fun id => by
      rw [mem_declared_iff, List.mem_dedup]
  have hcount := duplicates_inNodes [] (sections source).nodeLines
  have hlength := congrArg List.length hnodes
  rw [List.length_map] at hlength
  rw [List.length_nil, Nat.zero_add, hperm.length_eq] at hcount
  rw [findings_eq_ofSections, ofSections, duplicates_append, duplicates_inEdges, Nat.add_zero, hnodes, hcount, hlength]

/-! ### The findings of a text -/

/-- **Findings are what is due**, line by line and without a memory. Each stands on the bytes of its line, which is
not empty, and they come in the order of the lines; those of skipped lines are the skipped lines on which something
stands, and there are as many of ids declared again as there are declarations of nodes beyond the distinct ids. -/
theorem findings_eq_due (source : Text) :
    findings source = due (sections source) ∧
      (∀ f ∈ findings source, f.line ∈ (sections source).nodeLines ++ (sections source).edgeLines ∧
        f.line.span.start < f.line.span.stop ∧
        Text.slice source f.line.span.start f.line.span.stop = f.line.text) ∧
      (findings source).Pairwise (fun f g =>
        f.line.span.start ≤ g.line.span.start ∧ f.line.span.stop ≤ g.line.span.stop) ∧
      ((findings source).filter fun f => f.problem.isSkipped).map (fun f => f.line.span) =
        ((records source).skipped.filter fun s => Text.trim s.line.text ≠ []).map (fun s => s.line.span) ∧
      (findings source).countP (fun f => f.problem.isDuplicate) +
          ((records source).nodes.map NodeDecl.id).dedup.length =
        (records source).nodes.length := by
  refine ⟨ofSections_eq_due _, fun f hf => ?_, ?_, ?_, duplicates_findings source⟩
  · obtain ⟨hline, htext⟩ := (findings_along source).line_mem f hf
    refine ⟨hline, ?_, slice_of_mem_findings hf⟩
    obtain ⟨c, rest, hc⟩ := List.exists_cons_of_ne_nil htext
    have hpos := Char.utf8Size_pos c
    simp only [Line.span, Line.stop, hc, Text.byteSize_cons]
    omega
  · refine (findings_along source).pairwise (R := fun a b => a.start ≤ b.start ∧ a.stop ≤ b.stop)
      (fun line => ⟨Nat.le_refl _, Nat.le_refl _⟩) ?_
    rw [sections_eq_ofLines]
    refine ((bodyLines_pairwise source).imp fun {a b} hab => ?_).sublist (ofLines_sublist _)
    simp only [Line.stop] at hab ⊢
    omega
  · have hlines := congrArg (List.map Line.span) (skippedLines_findings source)
    simpa only [skippedLines, List.filter_map, List.map_map, Function.comp_def] using hlines

end Finding

end Flowchart
