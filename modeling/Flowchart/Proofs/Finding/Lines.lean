import Flowchart.Finding.Basic
import Flowchart.Proofs.Source.Sections

/-! Findings and the lines they are about.

What is found on a line of the section of nodes depends on the line and on the ids that
were seen before it (`onNodeLine`, `remember`), and on a line of the section of edges on
the line and on the ids of all nodes (`onEdgeLine`). From this every statement about a
whole section is one step and an induction: findings come in the order of their lines and
never on a blank one (`findings_along`), and they are the same on lines that stand
elsewhere (`ofSections_map`). -/
namespace Flowchart

open Source

namespace Finding

/-! ### One line -/

/-- The findings on a line of the section of nodes. -/
def onNodeLine (seen : List Text) (line : Line) : List Finding :=
  match NodeDecl.ofLine? line.text with
  | none => ofRejected .node line
  | some decl => ofNode seen line decl.id

/-- The ids that were seen once a line of the section of nodes is read. -/
def remember (seen : List Text) (line : Line) : List Text :=
  match NodeDecl.ofLine? line.text with
  | none => seen
  | some decl => if decl.id ∈ seen then seen else decl.id :: seen

/-- The findings on a line of the section of edges. -/
def onEdgeLine (declared : List Text) (line : Line) : List Finding :=
  match EdgeDecl.ofLine? line.text with
  | none => ofRejected .edge line
  | some decl => ofEnd declared line decl.source ++ ofEnd declared line decl.target

theorem inNodes_cons (seen : List Text) (line : Line) (more : List Line) :
    inNodes seen (line :: more) =
      (onNodeLine seen line ++ (inNodes (remember seen line) more).1, (inNodes (remember seen line) more).2) := by
  rw [inNodes, onNodeLine, remember]
  cases NodeDecl.ofLine? line.text <;> rfl

theorem inEdges_cons (declared : List Text) (line : Line) (more : List Line) :
    inEdges declared (line :: more) = onEdgeLine declared line ++ inEdges declared more := by
  rw [inEdges, onEdgeLine]
  cases EdgeDecl.ofLine? line.text <;> rfl

/-- The findings on the lines of both sections. -/
def ofSections (s : Sections) : List Finding :=
  (inNodes [] s.nodeLines).1 ++ inEdges (inNodes [] s.nodeLines).2 s.edgeLines

theorem findings_eq_ofSections (source : Text) : findings source = ofSections (sections source) := rfl

/-! ### Along the lines -/

/-- A text that starts with a word is not blank. -/
theorem not_blank_of_word? {t w rest : Text} (h : word? t = some (w, rest)) : Text.isAllBlank t = false := by
  obtain ⟨hne, hw, -⟩ := word?_eq_some.1 h
  obtain ⟨c, w, rfl⟩ := List.exists_cons_of_ne_nil hne
  have hc : c ∈ t.takeWhile Text.isWord := hw ▸ List.mem_cons_self
  rw [Text.isAllBlank, List.all_eq_false]
  refine ⟨c, (List.takeWhile_sublist _).subset hc, ?_⟩
  rw [Text.isBlank_of_isWord (Text.mem_takeWhile hc)]
  decide

/-- Findings that come in the order of some lines: those on the first line, then those on the lines behind it.
Nothing is found on a blank line. -/
inductive Along : List Line → List Finding → Prop
  | nil : Along [] []
  | cons {line : Line} {more : List Line} {here later : List Finding}
      (hhere : ∀ f ∈ here, f.line = line ∧ Text.isAllBlank line.text = false) (hlater : Along more later) :
      Along (line :: more) (here ++ later)

theorem Along.append {lines more : List Line} {fs gs : List Finding} (h : Along lines fs) (hmore : Along more gs) :
    Along (lines ++ more) (fs ++ gs) := by
  induction h with
  | nil => exact hmore
  | cons hhere _ ih =>
    rw [List.cons_append, List.append_assoc]
    exact .cons hhere ih

theorem Along.not_blank {lines : List Line} {fs : List Finding} (h : Along lines fs) :
    ∀ f ∈ fs, f.line ∈ lines ∧ Text.isAllBlank f.line.text = false := by
  induction h with
  | nil => exact fun f hf => absurd hf List.not_mem_nil
  | cons hhere _ ih =>
    intro f hf
    rcases List.mem_append.1 hf with hf | hf
    · obtain ⟨rfl, htext⟩ := hhere f hf
      exact ⟨List.mem_cons_self .., htext⟩
    · exact ⟨List.mem_cons_of_mem _ (ih f hf).1, (ih f hf).2⟩

theorem Along.line_mem {lines : List Line} {fs : List Finding} (h : Along lines fs) :
    ∀ f ∈ fs, f.line ∈ lines ∧ f.line.text ≠ [] := by
  intro f hf
  obtain ⟨hline, hblank⟩ := h.not_blank f hf
  exact ⟨hline, Text.ne_nil_of_not_blank hblank⟩

/-- What holds of a line and the lines behind it, and of a line and itself, holds of the lines of findings. -/
theorem Along.pairwise {R : Line → Line → Prop} {lines : List Line} {fs : List Finding} (h : Along lines fs)
    (hself : ∀ line, R line line) (hlines : lines.Pairwise R) : fs.Pairwise fun f g => R f.line g.line := by
  induction h with
  | nil => exact .nil
  | cons hhere hlater ih =>
    obtain ⟨hline, hmore⟩ := List.pairwise_cons.1 hlines
    refine List.pairwise_append.2 ⟨?_, ih hmore, fun f hf g hg => ?_⟩
    · refine List.pairwise_of_forall_mem_list fun f hf g hg => ?_
      rw [(hhere f hf).1, (hhere g hg).1]
      exact hself _
    · rw [(hhere f hf).1]
      exact hline _ (hlater.line_mem g hg).1

theorem line_of_mem_ofRejected {part : Section} {line : Line} {f : Finding} (h : f ∈ ofRejected part line) :
    f.line = line ∧ Text.isAllBlank line.text = false := by
  rw [ofRejected] at h
  split at h
  · cases h
  · rename_i hblank
    obtain rfl := List.mem_singleton.1 h
    exact ⟨rfl, by simpa using hblank⟩

theorem line_of_mem_onNodeLine {seen : List Text} {line : Line} {f : Finding} (h : f ∈ onNodeLine seen line) :
    f.line = line ∧ Text.isAllBlank line.text = false := by
  rw [onNodeLine] at h
  split at h
  · exact line_of_mem_ofRejected h
  · rename_i decl hline
    obtain ⟨⟨w, rest⟩, hword, -⟩ := Option.bind_eq_some_iff.1 hline
    refine ⟨?_, not_blank_of_word? hword⟩
    rcases List.mem_append.1 h with h | h
    all_goals
      split at h
      · obtain rfl := List.mem_singleton.1 h
        rfl
      · cases h

theorem line_of_mem_onEdgeLine {declared : List Text} {line : Line} {f : Finding} (h : f ∈ onEdgeLine declared line) :
    f.line = line ∧ Text.isAllBlank line.text = false := by
  rw [onEdgeLine] at h
  split at h
  · exact line_of_mem_ofRejected h
  · rename_i decl hline
    obtain ⟨⟨w, rest⟩, hword, -⟩ := Option.bind_eq_some_iff.1 hline
    refine ⟨?_, not_blank_of_word? hword⟩
    rcases List.mem_append.1 h with h | h
    all_goals
      rw [ofEnd] at h
      split at h
      · cases h
      · obtain rfl := List.mem_singleton.1 h
        rfl

theorem along_inNodes (seen : List Text) (lines : List Line) : Along lines (inNodes seen lines).1 := by
  induction lines generalizing seen with
  | nil => exact .nil
  | cons line more ih =>
    rw [inNodes_cons]
    exact .cons (fun f hf => line_of_mem_onNodeLine hf) (ih _)

theorem along_inEdges (declared : List Text) (lines : List Line) : Along lines (inEdges declared lines) := by
  induction lines with
  | nil => exact .nil
  | cons line more ih =>
    rw [inEdges_cons]
    exact .cons (fun f hf => line_of_mem_onEdgeLine hf) ih

/-- Findings come in the order of the lines of the two sections. -/
theorem findings_along (source : Text) :
    Along ((sections source).nodeLines ++ (sections source).edgeLines) (findings source) :=
  (along_inNodes [] _).append (along_inEdges _ _)

/-- The bytes of a finding cut out the text of its line. -/
theorem slice_of_mem_findings {source : Text} {f : Finding} (h : f ∈ findings source) :
    Text.slice source f.line.span.start f.line.span.stop = f.line.text := by
  have hline := ((findings_along source).line_mem f h).1
  rw [sections_eq_ofLines] at hline
  exact slice_of_sits (bodyLines_sits ((ofLines_sublist _).subset hline))

/-! ### In other places -/

/-- The same finding with the line in another place. -/
def move (place : Line → Line) (f : Finding) : Finding := { f with line := place f.line }

section Move
variable {place : Line → Line} (hplace : ∀ line, (place line).text = line.text)
include hplace

theorem ofRejected_move (part : Section) (line : Line) :
    ofRejected part (place line) = (ofRejected part line).map (move place) := by
  rw [ofRejected, ofRejected, hplace]
  split <;> rfl

theorem onNodeLine_move (seen : List Text) (line : Line) :
    onNodeLine seen (place line) = (onNodeLine seen line).map (move place) := by
  rw [onNodeLine, onNodeLine, hplace, ofRejected_move hplace]
  cases NodeDecl.ofLine? line.text with
  | none => rfl
  | some decl =>
    simp only [ofNode]
    split <;> split <;> rfl

theorem onEdgeLine_move (declared : List Text) (line : Line) :
    onEdgeLine declared (place line) = (onEdgeLine declared line).map (move place) := by
  rw [onEdgeLine, onEdgeLine, hplace, ofRejected_move hplace]
  cases EdgeDecl.ofLine? line.text with
  | none => rfl
  | some decl =>
    simp only [ofEnd]
    split <;> split <;> rfl

theorem inNodes_map (seen : List Text) (lines : List Line) :
    inNodes seen (lines.map place) = ((inNodes seen lines).1.map (move place), (inNodes seen lines).2) := by
  induction lines generalizing seen with
  | nil => rfl
  | cons line more ih =>
    have hremember : remember seen (place line) = remember seen line := by rw [remember, remember, hplace]
    rw [List.map_cons, inNodes_cons, inNodes_cons, onNodeLine_move hplace, hremember, ih, List.map_append]

theorem inEdges_map (declared : List Text) (lines : List Line) :
    inEdges declared (lines.map place) = (inEdges declared lines).map (move place) := by
  induction lines with
  | nil => rfl
  | cons line more ih =>
    rw [List.map_cons, inEdges_cons, inEdges_cons, onEdgeLine_move hplace, ih, List.map_append]

/-- The same is found on lines that stand elsewhere. -/
theorem ofSections_map (lines : List Line) :
    ofSections (Sections.ofLines (lines.map place)) = (ofSections (Sections.ofLines lines)).map (move place) := by
  obtain ⟨hnodes, hedges⟩ := ofLines_map hplace lines
  rw [ofSections, hnodes, hedges, inNodes_map hplace, inEdges_map hplace, ← List.map_append]
  rfl

end Move

end Finding

end Flowchart
