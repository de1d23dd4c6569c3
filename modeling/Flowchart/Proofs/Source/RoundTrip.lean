import Flowchart.Proofs.Source.Sections
import Flowchart.Source.Printer
import Flowchart.Source.Records

/-! Declarations printed and read again.

What `print` writes is read as the same declarations with no line skipped, as long
as each declaration can be written at all (`Printable`) and the text does not end in
a label that trimming would take away (`EndsVisibly`). Whatever text they come from,
declarations that were read can be written. -/
namespace Flowchart.Source

open Text

/-! ### What can be written -/

/-- A word with at least one character. -/
def IsName (t : Text) : Prop := t ≠ [] ∧ ∀ c ∈ t, isWord c = true

/-- A node declaration that one line can hold. -/
structure NodeDecl.Printable (d : NodeDecl) : Prop where
  id : IsName d.id
  token : IsName d.kind.token
  kind : d.kind = .ofToken d.kind.token
  trimmed : trim d.label = d.label
  noFeed : '\n' ∉ d.label

/-- An edge declaration that one line can hold. -/
structure EdgeDecl.Printable (d : EdgeDecl) : Prop where
  source : IsName d.source
  target : IsName d.target
  trimmed : ∀ c ∈ d.condition, trim c = c
  noFeed : ∀ c ∈ d.condition, '\n' ∉ c
  noClose : ∀ c ∈ d.condition, ')' ∉ c

/-- Nothing that trimming takes away stands at the end of the printed declarations. -/
def EndsVisibly (nodes : List NodeDecl) (edges : List EdgeDecl) : Prop :=
  edges ≠ [] ∨ ∀ d ∈ nodes.getLast?, d.label ≠ []

/-! ### Words, labels and conditions -/

theorem word?_of_isName {w rest : Text} (hw : IsName w) (hrest : Stops isWord rest) :
    word? (w ++ rest) = some (w, rest) :=
  word?_eq_some.2 ⟨hw.1, (takeWhile_run hw.2 hrest).symm, (dropWhile_run hw.2 hrest).symm⟩

theorem isName_of_word? {t w rest : Text} (h : word? t = some (w, rest)) : IsName w := by
  obtain ⟨hne, hw, -⟩ := word?_eq_some.1 h
  exact ⟨hne, fun c hc => mem_takeWhile (hw ▸ hc)⟩

theorem not_mem_of_isName {w : Text} {c : Char} (hw : IsName w) (hc : isWord c = false) : c ∉ w := by
  intro hmem
  rw [hw.2 c hmem] at hc
  cases hc

/-- How the text behind a colon is divided does not matter: the label is what is not blank. -/
theorem label?_append {behind rest : Text} (hbehind : ∀ c ∈ behind, isBlank c = true) (hne : rest ≠ [])
    (hfeed : '\n' ∉ rest) : label? (behind ++ rest) = some (trim rest) := by
  have hrest := ne_of_mem_reverse hfeed
  -- The blanks behind the last line feed stand on the line of the label.
  have hlast : ((behind ++ rest).reverse.takeWhile (· ≠ '\n')).reverse =
      (behind.reverse.takeWhile (· ≠ '\n')).reverse ++ rest := by
    rw [List.reverse_append, List.takeWhile_append_of_pos hrest, List.reverse_append, List.reverse_reverse]
  have hlead : ((behind ++ rest).reverse.dropWhile (· ≠ '\n')).reverse =
      (behind.reverse.dropWhile (· ≠ '\n')).reverse := by
    rw [List.reverse_append, List.dropWhile_append_of_pos hrest]
  obtain ⟨hblank, hmargin⟩ : (∀ c ∈ (behind.reverse.dropWhile (· ≠ '\n')).reverse, isBlank c = true) ∧
      ∀ c ∈ (behind.reverse.takeWhile (· ≠ '\n')).reverse, isBlank c = true := by
    rw [← List.forall_mem_append, lead_append_last]
    exact hbehind
  have htrim : trim ((behind.reverse.takeWhile (· ≠ '\n')).reverse ++ rest) = trim rest := by
    have hmargins := trim_append_of_blank hmargin (List.forall_mem_nil _) rest
    rwa [List.append_nil] at hmargins
  unfold label?
  simp only [hlast, hlead]
  rw [if_pos ⟨List.append_ne_nil_of_right_ne_nil _ hne, List.all_eq_true.2 hblank⟩, htrim]

/-- A label that stands on one line is that line, trimmed. -/
theorem label?_of_not_mem {t : Text} (hne : t ≠ []) (h : '\n' ∉ t) : label? t = some (trim t) :=
  label?_append (List.forall_mem_nil _) hne h

theorem trimmed_of_label? {t label : Text} (h : label? t = some label) : trim label = label ∧ '\n' ∉ label := by
  unfold label? at h
  dsimp only at h
  split at h
  · cases h
    exact ⟨trim_trim _, fun hmem => not_mem_last t.reverse (mem_of_mem_trim hmem)⟩
  · cases h

theorem condition?_print {condition : Option Text} (htrim : ∀ c ∈ condition, trim c = c)
    (hclose : ∀ c ∈ condition, ')' ∉ c) (rest : Text) :
    condition? (printCondition condition ++ '-' :: rest) = some (condition, '-' :: rest) := by
  match condition with
  | none => rfl
  | some [] => rfl
  | some (c :: t) =>
    have hcut : cut? ')' (c :: t ++ ')' :: '-' :: rest) = some (c :: t, '-' :: rest) :=
      cut?_eq_some.2 ⟨rfl, hclose _ rfl⟩
    show (cut? ')' (c :: t ++ [')'] ++ '-' :: rest)).map _ = _
    rw [List.append_assoc, List.singleton_append, hcut]
    simp [htrim (c :: t) rfl]

/-- A condition that was read is trimmed and stands within the parentheses of the line. -/
theorem trimmed_of_condition? {t rest : Text} {condition : Option Text} (h : condition? t = some (condition, rest)) :
    ∀ c ∈ condition, trim c = c ∧ (∀ x ∈ c, x ∈ t) ∧ ')' ∉ c := by
  unfold condition? at h
  split at h
  · obtain ⟨⟨inside, behind⟩, hcut, hp⟩ := Option.map_eq_some_iff.1 h
    obtain ⟨rfl, hclose⟩ := cut?_eq_some.1 hcut
    cases hp
    intro c hc
    split at hc
    · cases hc
    · cases hc
      refine ⟨trim_trim inside, fun x hx => ?_, fun hmem => hclose (mem_of_mem_trim hmem)⟩
      exact List.mem_cons_of_mem _ (List.mem_append_left _ (mem_of_mem_trim hx))
  · cases h
    intro c hc
    cases hc

/-! ### One declaration -/

theorem NodeDecl.ofLine?_print {d : NodeDecl} (h : d.Printable) : NodeDecl.ofLine? d.print = some d := by
  have hid : word? d.print = some (d.id, '=' :: '>' :: (d.kind.token ++ ':' :: ' ' :: d.label)) :=
    word?_of_isName h.id (stops_cons.2 (by decide +kernel))
  have hkind : word? (d.kind.token ++ ':' :: ' ' :: d.label) = some (d.kind.token, ':' :: ' ' :: d.label) :=
    word?_of_isName h.token (stops_cons.2 (by decide +kernel))
  have harrow (rest : Text) : ['=', '>'].isPrefixOf? ('=' :: '>' :: rest) = some rest := rfl
  have hcolon (rest : Text) : [':'].isPrefixOf? (trimStart (':' :: rest)) = some rest := rfl
  have hfeed : '\n' ∉ ' ' :: d.label := by simp [h.noFeed]
  have hlabel : label? (' ' :: d.label) = some d.label := by
    rw [label?_of_not_mem (List.cons_ne_nil _ _) hfeed, trim_cons_of_blank (by decide), h.trimmed]
  simp [NodeDecl.ofLine?, hid, harrow, hkind, hcolon, hlabel, ← h.kind]

theorem EdgeDecl.ofLine?_print {d : EdgeDecl} (h : d.Printable) : EdgeDecl.ofLine? d.print = some d := by
  have hstop : Stops isWord (printCondition d.condition ++ '-' :: '>' :: d.target) := by
    unfold printCondition
    split <;> exact stops_cons.2 (by decide +kernel)
  have hsource : word? d.print = some (d.source, printCondition d.condition ++ '-' :: '>' :: d.target) := by
    rw [EdgeDecl.print, List.append_assoc]
    exact word?_of_isName h.source hstop
  have hcondition := condition?_print h.trimmed h.noClose ('>' :: d.target)
  have htarget := word?_of_isName h.target stops_nil
  have harrow (rest : Text) : ['-', '>'].isPrefixOf? ('-' :: '>' :: rest) = some rest := rfl
  rw [List.append_nil] at htarget
  simp [EdgeDecl.ofLine?, hsource, hcondition, harrow, htarget]

theorem NodeDecl.printable_of_ofLine? {line : Text} {d : NodeDecl} (h : NodeDecl.ofLine? line = some d) :
    d.Printable := by
  simp only [NodeDecl.ofLine?, Option.bind_eq_bind, Option.bind_eq_some_iff, Option.pure_def, Option.some.injEq] at h
  obtain ⟨⟨id, r₁⟩, hid, r₂, -, ⟨kind, r₃⟩, hkind, r₄, -, label, hlabel, rfl⟩ := h
  obtain ⟨htrim, hfeed⟩ := trimmed_of_label? hlabel
  exact ⟨isName_of_word? hid, by simpa using isName_of_word? hkind, by simp, htrim, hfeed⟩

theorem EdgeDecl.printable_of_ofLine? {line : Text} (hline : '\n' ∉ line) {d : EdgeDecl}
    (h : EdgeDecl.ofLine? line = some d) : d.Printable := by
  simp only [EdgeDecl.ofLine?, Option.bind_eq_bind, Option.bind_eq_some_iff] at h
  obtain ⟨⟨source, r₁⟩, hsource, ⟨condition, r₂⟩, hcondition, r₃, -, ⟨target, r₄⟩, htarget, hd⟩ := h
  split at hd
  · cases hd
    have hpart := trimmed_of_condition? hcondition
    refine ⟨isName_of_word? hsource, isName_of_word? htarget, fun c hc => (hpart c hc).1, ?_,
      fun c hc => (hpart c hc).2.2⟩
    intro c hc hmem
    rw [word?_append hsource] at hline
    exact hline (List.mem_append_right _ ((hpart c hc).2.1 _ hmem))
  · cases hd

/-! ### The lines that are printed -/

/-- The lines of the printed declarations. -/
def printedLines (nodes : List NodeDecl) (edges : List EdgeDecl) : List Text :=
  nodes.map NodeDecl.print ++ if edges = [] then [] else [] :: edges.map EdgeDecl.print

/-- A line that no terminator can be taken from: it is not empty, holds no line feed and does not end in a
carriage return. -/
structure IsWhole (line : Text) : Prop where
  ne_nil : line ≠ []
  noFeed : '\n' ∉ line
  noReturn : dropLastIf '\r' line = line

theorem dropLastIf_append_of_ne {t : Text} (u : Text) (hne : t ≠ []) (h : dropLastIf '\r' t = t) :
    dropLastIf '\r' (u ++ t) = u ++ t := by
  refine dropLastIf_of_ne fun hlast => ?_
  have hend := List.getLast?_eq_some_getLast hne
  rw [List.getLast?_append, hend, Option.some_or] at hlast
  rw [dropLastIf, hend, if_pos hlast] at h
  have hlength := congrArg List.length h
  have hpos := List.length_pos_iff.2 hne
  rw [List.length_dropLast] at hlength
  omega

theorem IsName.isWhole {t : Text} (h : IsName t) : IsWhole t := by
  refine ⟨h.1, not_mem_of_isName h (by decide +kernel), dropLastIf_of_ne fun hlast => ?_⟩
  exact absurd (List.mem_of_getLast? hlast) (not_mem_of_isName h (by decide +kernel))

/-- A trimmed text does not end in a carriage return. -/
theorem dropLastIf_of_trimmed {t : Text} (h : trim t = t) : dropLastIf '\r' t = t := by
  exact dropLastIf_of_ne (getLast?_ne_of_trimmed h (by decide))

theorem NodeDecl.isWhole_print {d : NodeDecl} (h : d.Printable) : IsWhole d.print := by
  have hid := h.id.isWhole.noFeed
  have htoken := h.token.isWhole.noFeed
  refine ⟨by simp [NodeDecl.print], by simp [NodeDecl.print, hid, htoken, h.noFeed], ?_⟩
  have hlabel : dropLastIf '\r' (' ' :: d.label) = ' ' :: d.label := by
    by_cases hempty : d.label = []
    · rw [hempty]
      rfl
    · exact dropLastIf_append_of_ne [' '] hempty (dropLastIf_of_trimmed h.trimmed)
  have hprint : d.print = d.id ++ '=' :: '>' :: d.kind.token ++ [':'] ++ ' ' :: d.label := by simp [NodeDecl.print]
  rw [hprint]
  exact dropLastIf_append_of_ne _ (List.cons_ne_nil _ _) hlabel

theorem EdgeDecl.isWhole_print {d : EdgeDecl} (h : d.Printable) : IsWhole d.print := by
  have hprint : d.print = d.source ++ printCondition d.condition ++ ['-', '>'] ++ d.target := by simp [EdgeDecl.print]
  have hcondition : '\n' ∉ printCondition d.condition := by
    unfold printCondition
    split
    · decide
    · decide
    · rename_i c _ hc
      simp [h.noFeed c hc]
  refine ⟨by simp [EdgeDecl.print], ?_, ?_⟩
  · simp [hprint, h.source.isWhole.noFeed, h.target.isWhole.noFeed, hcondition]
  · rw [hprint]
    exact dropLastIf_append_of_ne _ h.target.1 h.target.isWhole.noReturn

/-! ### Reading the printed lines -/

theorem ofLines_rows {ps : List Text} (hwhole : ∀ p ∈ ps, IsWhole p) (start : Nat) (after : List Line) :
    Sections.ofLines (rows start ps ++ after) =
      { Sections.ofLines after with nodeLines := rows start ps ++ (Sections.ofLines after).nodeLines } := by
  induction ps generalizing start with
  | nil => rfl
  | cons p ps ih =>
    have hp := hwhole p (List.mem_cons_self ..)
    rw [rows, List.cons_append, Sections.ofLines, ih fun q hq => hwhole q (List.mem_cons_of_mem p hq),
      if_neg (by rw [hp.noReturn]; exact hp.ne_nil)]
    rfl

/-- Printed declarations on lines of their own are read one by one. -/
theorem sift_print {α : Type} {read? : Text → Option α} {write : α → Text} {lines : List Line} {as : List α}
    (htext : lines.map Line.text = as.map write) (hread : ∀ a ∈ as, read? (write a) = some a) :
    sift read? lines = (as, []) := by
  induction lines generalizing as with
  | nil =>
    obtain rfl := List.map_eq_nil_iff.1 htext.symm
    rfl
  | cons line more ih =>
    cases as with
    | nil => cases htext
    | cons a as =>
      obtain ⟨hline, hmore⟩ := List.cons.inj htext
      have ha := hread a (List.mem_cons_self ..)
      rw [sift, ih hmore fun b hb => hread b (List.mem_cons_of_mem a hb)]
      simp only [show line.text = write a from hline, ha]

/-- The sections of the printed declarations hold their lines, one for each. -/
theorem ofLines_printedLines {nodes : List NodeDecl} {edges : List EdgeDecl} (start : Nat)
    (hnodes : ∀ d ∈ nodes, d.Printable) (hedges : ∀ d ∈ edges, d.Printable) :
    (Sections.ofLines (rows start (printedLines nodes edges))).nodeLines.map Line.text = nodes.map NodeDecl.print ∧
      (Sections.ofLines (rows start (printedLines nodes edges))).edgeLines.map Line.text =
        edges.map EdgeDecl.print := by
  have hnodeLines : ∀ p ∈ nodes.map NodeDecl.print, IsWhole p := by
    intro p hp
    obtain ⟨d, hd, rfl⟩ := List.mem_map.1 hp
    exact NodeDecl.isWhole_print (hnodes d hd)
  have hedgeLines : ∀ p ∈ edges.map EdgeDecl.print, IsWhole p := by
    intro p hp
    obtain ⟨d, hd, rfl⟩ := List.mem_map.1 hp
    exact EdgeDecl.isWhole_print (hedges d hd)
  have hnodeText := rows_text_of_whole fun p hp => (hnodeLines p hp).noReturn
  have hedgeText := rows_text_of_whole fun p hp => (hedgeLines p hp).noReturn
  rw [printedLines, rows_append, ofLines_rows hnodeLines]
  by_cases hempty : edges = []
  · subst hempty
    simp [rows, Sections.ofLines, Sections.edgeLines, hnodeText]
  · simp [hempty, rows, Sections.ofLines, Sections.edgeLines, hnodeText, hedgeText]

/-! ### Printed and read again -/

theorem IsName.stops_isBlank {w : Text} (h : IsName w) : Stops isBlank w := fun c hc =>
  isBlank_of_isWord (h.2 c (List.mem_of_mem_head? hc))

theorem IsName.reverse {w : Text} (h : IsName w) : IsName w.reverse :=
  ⟨by simpa using h.1, fun c hc => h.2 c (List.mem_reverse.1 hc)⟩

/-- The printed text starts with the first node. -/
theorem exists_print_cons (d : NodeDecl) (more : List NodeDecl) (edges : List EdgeDecl) :
    ∃ rest, print (d :: more) edges = d.print ++ rest := by
  obtain ⟨rest, hrest, -⟩ := exists_intercalate_cons d.print
    (more.map NodeDecl.print ++ if edges = [] then [] else [] :: edges.map EdgeDecl.print)
  exact ⟨rest, hrest⟩

theorem stops_print {nodes : List NodeDecl} (edges : List EdgeDecl) (hne : nodes ≠ [])
    (hnodes : ∀ d ∈ nodes, d.Printable) : Stops isBlank (print nodes edges) := by
  obtain ⟨d, more, rfl⟩ := List.exists_cons_of_ne_nil hne
  have hid := (hnodes d (List.mem_cons_self ..)).id
  obtain ⟨rest, hrest⟩ := exists_print_cons d more edges
  rw [hrest, NodeDecl.print, List.append_assoc]
  exact hid.stops_isBlank.append hid.1 _

theorem stops_reverse_print {nodes : List NodeDecl} {edges : List EdgeDecl} (hne : nodes ≠ [])
    (hnodes : ∀ d ∈ nodes, d.Printable) (hedges : ∀ d ∈ edges, d.Printable) (hends : EndsVisibly nodes edges) :
    Stops isBlank (print nodes edges).reverse := by
  by_cases hempty : edges = []
  · -- The text ends with the label of the last node.
    have hlast := List.getLast?_eq_some_getLast hne
    have hd := hnodes _ (List.getLast_mem hne)
    have hlabel : (nodes.getLast hne).label ≠ [] := hends.elim (absurd hempty) fun h => h _ hlast
    have hline : (nodes.getLast hne).print ∈ (printedLines nodes edges).getLast? := by
      simp [printedLines, hempty, List.getLast?_map, hlast]
    obtain ⟨front, hfront, -⟩ := exists_intercalate_last hline
    rw [show print nodes edges = ['\n'].intercalate (printedLines nodes edges) from rfl, hfront, NodeDecl.print]
    have hstop := (trim_eq_self_iff.1 hd.trimmed).2
    simpa using hstop.append (by simpa using hlabel) _
  · have hlast := List.getLast?_eq_some_getLast hempty
    have hd := (hedges _ (List.getLast_mem hempty)).target.reverse
    have hline : (edges.getLast hempty).print ∈ (printedLines nodes edges).getLast? := by
      simp [printedLines, hempty, List.getLast?_append, List.getLast?_cons, List.getLast?_map, hlast]
    obtain ⟨front, hfront, -⟩ := exists_intercalate_last hline
    rw [show print nodes edges = ['\n'].intercalate (printedLines nodes edges) from rfl, hfront, EdgeDecl.print]
    simpa using hd.stops_isBlank.append hd.1 _

theorem noFeed_printedLines {nodes : List NodeDecl} {edges : List EdgeDecl} (hnodes : ∀ d ∈ nodes, d.Printable)
    (hedges : ∀ d ∈ edges, d.Printable) : ∀ p ∈ printedLines nodes edges, '\n' ∉ p := by
  intro p hp
  rcases List.mem_append.1 hp with hp | hp
  · obtain ⟨d, hd, rfl⟩ := List.mem_map.1 hp
    exact (NodeDecl.isWhole_print (hnodes d hd)).noFeed
  · split at hp
    · cases hp
    · rcases List.mem_cons.1 hp with rfl | hp
      · exact List.not_mem_nil
      · obtain ⟨d, hd, rfl⟩ := List.mem_map.1 hp
        exact (EdgeDecl.isWhole_print (hedges d hd)).noFeed

/-- The lines of the printed text are the lines that were printed. -/
theorem bodyLines_print {nodes : List NodeDecl} {edges : List EdgeDecl} (hne : nodes ≠ [])
    (hnodes : ∀ d ∈ nodes, d.Printable) (hedges : ∀ d ∈ edges, d.Printable) (hends : EndsVisibly nodes edges) :
    bodyLines (print nodes edges) = rows 0 (printedLines nodes edges) := by
  have htrim : trim (print nodes edges) = print nodes edges :=
    trim_eq_self_iff.2 ⟨stops_print edges hne hnodes, stops_reverse_print hne hnodes hedges hends⟩
  have htext : print nodes edges ≠ [] := by
    obtain ⟨d, more, rfl⟩ := List.exists_cons_of_ne_nil hne
    obtain ⟨rest, hrest⟩ := exists_print_cons d more edges
    rw [hrest]
    exact List.append_ne_nil_of_left_ne_nil (NodeDecl.isWhole_print (hnodes d (List.mem_cons_self ..))).ne_nil rest
  exact bodyLines_intercalate htext (noFeed_printedLines hnodes hedges) htrim

theorem records_print {nodes : List NodeDecl} {edges : List EdgeDecl} (hne : nodes ≠ [])
    (hnodes : ∀ d ∈ nodes, d.Printable) (hedges : ∀ d ∈ edges, d.Printable) (hends : EndsVisibly nodes edges) :
    records (print nodes edges) = ⟨nodes, edges, []⟩ := by
  obtain ⟨hnodeText, hedgeText⟩ := ofLines_printedLines 0 hnodes hedges
  have hnodeRead := sift_print hnodeText fun d hd => NodeDecl.ofLine?_print (hnodes d hd)
  have hedgeRead := sift_print hedgeText fun d hd => EdgeDecl.ofLine?_print (hedges d hd)
  rw [records, sections_eq_ofLines, bodyLines_print hne hnodes hedges hends]
  simp only [hnodeRead, hedgeRead]
  rfl

/-- No line of a text holds a line feed. -/
theorem noFeed_bodyLines {source : Text} {line : Line} (h : line ∈ bodyLines source) : '\n' ∉ line.text := by
  obtain ⟨ps, -, -, hrows, hclean, -⟩ := bodyLines_eq_rows source
  exact noFeed_rows hclean (hrows ▸ h)

theorem printable_of_mem_nodes {source : Text} {d : NodeDecl} (h : d ∈ (records source).nodes) : d.Printable := by
  rw [show (records source).nodes = (sift NodeDecl.ofLine? (sections source).nodeLines).1 from rfl, sift_fst] at h
  obtain ⟨line, -, hline⟩ := List.mem_filterMap.1 h
  exact NodeDecl.printable_of_ofLine? hline

theorem printable_of_mem_edges {source : Text} {d : EdgeDecl} (h : d ∈ (records source).edges) : d.Printable := by
  rw [show (records source).edges = (sift EdgeDecl.ofLine? (sections source).edgeLines).1 from rfl, sift_fst] at h
  obtain ⟨line, hmem, hline⟩ := List.mem_filterMap.1 h
  rw [sections_eq_ofLines] at hmem
  exact EdgeDecl.printable_of_ofLine? (noFeed_bodyLines ((ofLines_within _).2.subset hmem)) hline

/-- **Printing and reading are the identity** on declarations that can be written, and whatever was read can be
written. -/
theorem records_print_records :
    (∀ (nodes : List NodeDecl) (edges : List EdgeDecl), nodes ≠ [] → (∀ d ∈ nodes, d.Printable) →
      (∀ d ∈ edges, d.Printable) → EndsVisibly nodes edges → records (print nodes edges) = ⟨nodes, edges, []⟩) ∧
    ∀ source : Text,
      (∀ d ∈ (records source).nodes, d.Printable) ∧ (∀ d ∈ (records source).edges, d.Printable) ∧
        ((records source).nodes ≠ [] → EndsVisibly (records source).nodes (records source).edges →
          records (print (records source).nodes (records source).edges) =
            ⟨(records source).nodes, (records source).edges, []⟩) := by
  refine ⟨fun nodes edges => records_print, fun source => ⟨?_, ?_, fun hne hends => ?_⟩⟩
  · exact fun d hd => printable_of_mem_nodes hd
  · exact fun d hd => printable_of_mem_edges hd
  · exact records_print hne (fun d hd => printable_of_mem_nodes hd) (fun d hd => printable_of_mem_edges hd) hends

/-- An empty label before another line, a label that looks like an edge, a blank condition and an open
parenthesis within a condition come back as they were. -/
theorem records_print_awkward :
    let nodes : List NodeDecl :=
      [⟨['a'], .start, "x: y->z =>\r!".toList⟩, ⟨['ü', '1'], .other ['k'], []⟩]
    let edges : List EdgeDecl :=
      [⟨['a'], ['a'], none⟩, ⟨['ü', '1'], ['a'], some []⟩, ⟨['a'], ['_'], some "(no".toList⟩]
    records (print nodes edges) = ⟨nodes, edges, []⟩ := by
  intro nodes edges
  have hname (t : Text) (h : t ≠ [] ∧ t.all isWord = true) : IsName t := ⟨h.1, List.all_eq_true.1 h.2⟩
  refine records_print_records.1 nodes edges (by decide) ?_ ?_ (.inl (by decide))
  · intro d hd
    rcases List.mem_cons.1 hd with rfl | hd
    · exact ⟨hname _ (by decide +kernel), hname _ (by decide +kernel), by decide, by decide, by decide⟩
    · obtain rfl := List.mem_singleton.1 hd
      exact ⟨hname _ (by decide +kernel), hname _ (by decide +kernel), by decide, by decide, by decide⟩
  · intro d hd
    simp only [edges, List.mem_cons, List.not_mem_nil, or_false] at hd
    rcases hd with rfl | rfl | rfl
    all_goals exact ⟨hname _ (by decide +kernel), hname _ (by decide +kernel), by decide, by decide, by decide⟩

end Flowchart.Source
