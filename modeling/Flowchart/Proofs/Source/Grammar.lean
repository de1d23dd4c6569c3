import Flowchart.Proofs.Source.RoundTrip
import Mathlib.Data.List.Basic

/-! Which lines are declarations.

A line declares a node or an edge exactly when it can be put together from the parts of one
(`NodeParts`, `EdgeParts`). Any text may be such a line, so line feeds count as well: they
may stand among the blanks around the colon of a node and in the condition of an edge, but
not in the label. The parts of a node need not be unique, since a blank behind the colon may
count as part of the label or not; the label is trimmed, so that it makes no difference
(`label?_append`). The parts of an edge are unique (`EdgeParts.line_injective`).

The main results are `NodeDecl.ofLine?_iff_nodeParts` and `EdgeDecl.ofLine?_iff_edgeParts`. -/
namespace Flowchart.Source

open Text

/-! ### Labels -/

/-- A text that has a label is blanks and the label's line. -/
theorem exists_of_label? {t label : Text} (h : label? t = some label) :
    ∃ behind rest, t = behind ++ rest ∧ (∀ c ∈ behind, isBlank c = true) ∧ rest ≠ [] ∧ '\n' ∉ rest := by
  unfold label? at h
  dsimp only at h
  split at h
  · rename_i hline
    refine ⟨_, _, ?_, List.all_eq_true.1 hline.2, hline.1, fun hmem => ?_⟩
    · exact (lead_append_last t).symm
    · exact not_mem_last t.reverse hmem
  · cases h

/-! ### Nodes -/

/-- The parts of a line that declares a node: names around an arrow, and a label behind a colon with blanks around
it. -/
structure NodeParts where
  id : Text
  token : Text
  before : Text
  behind : Text
  rest : Text
  isName_id : IsName id
  isName_token : IsName token
  blank_before : ∀ c ∈ before, isBlank c = true
  blank_behind : ∀ c ∈ behind, isBlank c = true
  rest_ne_nil : rest ≠ []
  noFeed_rest : '\n' ∉ rest

namespace NodeParts

/-- The line that the parts make. -/
def line (p : NodeParts) : Text :=
  p.id ++ ['=', '>'] ++ p.token ++ p.before ++ [':'] ++ p.behind ++ p.rest

/-- The node that the parts declare. -/
def decl (p : NodeParts) : NodeDecl := ⟨p.id, .ofToken p.token, trim p.rest⟩

/-- No word goes on where blanks or a colon follow. -/
theorem stops_before (p : NodeParts) (rest : Text) : Stops isWord (p.before ++ ':' :: rest) := by
  cases hbefore : p.before with
  | nil => exact stops_cons.2 (by decide +kernel)
  | cons c before =>
    have hblank := p.blank_before c (by rw [hbefore]; exact List.mem_cons_self ..)
    refine stops_cons.2 (Bool.eq_false_iff.2 fun hword => ?_)
    rw [isBlank_of_isWord hword] at hblank
    cases hblank

theorem ofLine?_line (p : NodeParts) : NodeDecl.ofLine? p.line = some p.decl := by
  have hline : p.line = p.id ++ '=' :: '>' :: (p.token ++ (p.before ++ ':' :: (p.behind ++ p.rest))) := by
    simp [line]
  have hid : word? p.line = some (p.id, '=' :: '>' :: (p.token ++ (p.before ++ ':' :: (p.behind ++ p.rest)))) := by
    rw [hline]
    exact word?_of_isName p.isName_id (stops_cons.2 (by decide +kernel))
  have harrow (rest : Text) : ['=', '>'].isPrefixOf? ('=' :: '>' :: rest) = some rest := rfl
  have htoken := word?_of_isName p.isName_token (p.stops_before (p.behind ++ p.rest))
  have hstart : trimStart (p.before ++ ':' :: (p.behind ++ p.rest)) = ':' :: (p.behind ++ p.rest) :=
    dropWhile_run p.blank_before (stops_cons.2 (by decide))
  have hcolon (rest : Text) : [':'].isPrefixOf? (':' :: rest) = some rest := rfl
  have hlabel := label?_append p.blank_behind p.rest_ne_nil p.noFeed_rest
  simp only [NodeDecl.ofLine?, hid, harrow, htoken, hstart, hcolon, hlabel, Option.bind_eq_bind, Option.bind_some,
    Option.pure_def, decl]

theorem exists_of_ofLine? {line : Text} {d : NodeDecl} (h : NodeDecl.ofLine? line = some d) :
    ∃ p : NodeParts, p.line = line := by
  simp only [NodeDecl.ofLine?, Option.bind_eq_bind, Option.bind_eq_some_iff] at h
  obtain ⟨⟨id, r₁⟩, hid, r₂, harrow, ⟨token, r₃⟩, htoken, r₄, hcolon, label, hlabel, -⟩ := h
  obtain ⟨behind, rest, rfl, hbehind, hne, hfeed⟩ := exists_of_label? hlabel
  have hcut : r₃.takeWhile isBlank ++ ([':'] ++ (behind ++ rest)) = r₃ := by
    rw [List.append_eq_of_isPrefixOf?_eq_some hcolon]
    exact List.takeWhile_append_dropWhile
  have hline := calc
    line = id ++ r₁ := word?_append hid
    _ = id ++ (['=', '>'] ++ r₂) := by rw [List.append_eq_of_isPrefixOf?_eq_some harrow]
    _ = id ++ (['=', '>'] ++ (token ++ r₃)) := by rw [← word?_append htoken]
    _ = id ++ (['=', '>'] ++ (token ++ (r₃.takeWhile isBlank ++ ([':'] ++ (behind ++ rest))))) := by rw [hcut]
  refine ⟨⟨id, token, r₃.takeWhile isBlank, behind, rest, isName_of_word? hid, isName_of_word? htoken,
    fun c hc => mem_takeWhile hc, hbehind, hne, hfeed⟩, ?_⟩
  simpa [NodeParts.line] using hline.symm

end NodeParts

/-- **A line declares a node exactly when it is made of the parts of one.** Whichever parts it is made of, the node
has their id, the kind that their token stands for, and their label, trimmed; so two ways to divide a line into parts
declare the same node. -/
theorem NodeDecl.ofLine?_iff_nodeParts :
    (∀ line : Text, (NodeDecl.ofLine? line).isSome ↔ ∃ p : NodeParts, p.line = line) ∧
      (∀ p : NodeParts, NodeDecl.ofLine? p.line = some p.decl) ∧
      ∀ p q : NodeParts, p.line = q.line → p.decl = q.decl := by
  refine ⟨fun line => ⟨fun h => ?_, ?_⟩, NodeParts.ofLine?_line, fun p q hline => ?_⟩
  · obtain ⟨d, hd⟩ := Option.isSome_iff_exists.1 h
    exact NodeParts.exists_of_ofLine? hd
  · rintro ⟨p, rfl⟩
    rw [p.ofLine?_line]
    rfl
  · have hp := p.ofLine?_line
    rw [hline, q.ofLine?_line] at hp
    exact (Option.some.inj hp).symm

/-- A line with a line feed behind its colon, whose label may start in front of the blanks that follow or behind
them. -/
theorem NodeDecl.ofLine?_divided :
    ∃ p q : NodeParts, p.rest = "  Begin: ".toList ∧ q.rest = "Begin: ".toList ∧
      p.line = "n1=>start \t:\n  Begin: ".toList ∧ p.line = q.line ∧ p.decl = q.decl := by
  have hid : IsName "n1".toList := ⟨by decide, List.all_eq_true.1 (by decide +kernel)⟩
  have htoken : IsName "start".toList := ⟨by decide, List.all_eq_true.1 (by decide +kernel)⟩
  have hblank (t : Text) (h : t.all isBlank = true) : ∀ c ∈ t, isBlank c = true := List.all_eq_true.1 h
  let p : NodeParts := ⟨_, _, " \t".toList, "\n".toList, "  Begin: ".toList, hid, htoken,
    hblank _ (by decide +kernel), hblank _ (by decide +kernel), by decide, by decide⟩
  let q : NodeParts := ⟨_, _, " \t".toList, "\n  ".toList, "Begin: ".toList, hid, htoken,
    hblank _ (by decide +kernel), hblank _ (by decide +kernel), by decide, by decide⟩
  have hline : p.line = q.line := rfl
  exact ⟨p, q, rfl, rfl, rfl, hline, NodeDecl.ofLine?_iff_nodeParts.2.2 p q hline⟩

/-! ### Edges -/

/-- What stands between the source of an edge and its arrow: nothing, or a text in parentheses. -/
def inParens : Option Text → Text
  | none => []
  | some inside => '(' :: (inside ++ [')'])

/-- The parts of a line that declares an edge: names around an arrow, and a text in parentheses if there is one. -/
@[ext] structure EdgeParts where
  source : Text
  inside : Option Text
  target : Text
  isName_source : IsName source
  isName_target : IsName target
  noClose : ∀ c ∈ inside, ')' ∉ c

namespace EdgeParts

/-- The line that the parts make. -/
def line (p : EdgeParts) : Text := p.source ++ inParens p.inside ++ ['-', '>'] ++ p.target

/-- The condition of the edge: there is none without parentheses or with nothing between them. -/
def condition (p : EdgeParts) : Option Text := p.inside.bind fun c => if c = [] then none else some (trim c)

/-- The edge that the parts declare. -/
def decl (p : EdgeParts) : EdgeDecl := ⟨p.source, p.target, p.condition⟩

theorem word?_line (p : EdgeParts) :
    word? p.line = some (p.source, inParens p.inside ++ '-' :: '>' :: p.target) := by
  have hline : p.line = p.source ++ (inParens p.inside ++ '-' :: '>' :: p.target) := by simp [line]
  rw [hline]
  refine word?_of_isName p.isName_source ?_
  cases p.inside with
  | none => exact stops_cons.2 (by decide +kernel)
  | some c => exact stops_cons.2 (by decide +kernel)

theorem condition?_inParens (p : EdgeParts) (rest : Text) :
    condition? (inParens p.inside ++ '-' :: rest) = some (p.condition, '-' :: rest) := by
  cases hinside : p.inside with
  | none =>
    rw [condition, hinside]
    rfl
  | some c =>
    have hcut : cut? ')' (c ++ ')' :: '-' :: rest) = some (c, '-' :: rest) :=
      cut?_eq_some.2 ⟨rfl, p.noClose c hinside⟩
    show (cut? ')' (c ++ [')'] ++ '-' :: rest)).map _ = _
    rw [List.append_assoc, List.singleton_append, hcut, condition, hinside]
    rfl

theorem ofLine?_line (p : EdgeParts) : EdgeDecl.ofLine? p.line = some p.decl := by
  have hcondition := p.condition?_inParens ('>' :: p.target)
  have harrow (rest : Text) : ['-', '>'].isPrefixOf? ('-' :: '>' :: rest) = some rest := rfl
  have htarget := word?_of_isName p.isName_target stops_nil
  rw [List.append_nil] at htarget
  simp only [EdgeDecl.ofLine?, p.word?_line, hcondition, harrow, htarget, Option.bind_eq_bind, Option.bind_some,
    if_true, decl]

end EdgeParts

/-- The parentheses before an arrow, and what is behind it, can be told from the text. -/
theorem inParens_inj {a b : Option Text} (ha : ∀ c ∈ a, ')' ∉ c) (hb : ∀ c ∈ b, ')' ∉ c) {s t : Text}
    (h : inParens a ++ '-' :: s = inParens b ++ '-' :: t) : a = b ∧ s = t := by
  match a, b with
  | none, none => exact ⟨rfl, (List.cons.inj h).2⟩
  | none, some c => exact absurd (List.cons.inj h).1 (by decide)
  | some c, none => exact absurd (List.cons.inj h).1 (by decide)
  | some c, some d =>
    have hinner : c ++ ')' :: '-' :: s = d ++ ')' :: '-' :: t := by simpa [inParens] using h
    obtain ⟨rfl, hbehind⟩ := cut_inj (ha c rfl) (hb d rfl) hinner
    exact ⟨rfl, (List.cons.inj hbehind).2⟩

/-- A text that a condition was read from starts with the parentheses that it stands in, if there are any. -/
theorem exists_of_condition? {t rest : Text} {condition : Option Text} (h : condition? t = some (condition, rest)) :
    ∃ inside, t = inParens inside ++ rest ∧ ∀ c ∈ inside, ')' ∉ c := by
  unfold condition? at h
  split at h
  · obtain ⟨⟨inside, behind⟩, hcut, hp⟩ := Option.map_eq_some_iff.1 h
    obtain ⟨rfl, hclose⟩ := cut?_eq_some.1 hcut
    cases hp
    refine ⟨some inside, by simp [inParens], ?_⟩
    rintro c ⟨⟩
    exact hclose
  · cases h
    exact ⟨none, rfl, by simp⟩

namespace EdgeParts

theorem exists_of_ofLine? {line : Text} {d : EdgeDecl} (h : EdgeDecl.ofLine? line = some d) :
    ∃ p : EdgeParts, p.line = line := by
  simp only [EdgeDecl.ofLine?, Option.bind_eq_bind, Option.bind_eq_some_iff] at h
  obtain ⟨⟨source, r₁⟩, hsource, ⟨condition, r₂⟩, hcondition, r₃, harrow, ⟨target, r₄⟩, htarget, hend⟩ := h
  obtain ⟨inside, hinside, hclose⟩ := exists_of_condition? hcondition
  have hr₄ : r₄ = [] := by
    by_contra hne
    rw [if_neg hne] at hend
    cases hend
  have hline := calc
    line = source ++ r₁ := word?_append hsource
    _ = source ++ (inParens inside ++ r₂) := by rw [← hinside]
    _ = source ++ (inParens inside ++ (['-', '>'] ++ r₃)) := by rw [List.append_eq_of_isPrefixOf?_eq_some harrow]
    _ = source ++ (inParens inside ++ (['-', '>'] ++ target)) := by rw [word?_append htarget, hr₄, List.append_nil]
  refine ⟨⟨source, inside, target, isName_of_word? hsource, isName_of_word? htarget, hclose⟩, ?_⟩
  simpa [EdgeParts.line] using hline.symm

/-- The parts of an edge can be told from its line: the source ends where the word does, and the parentheses end
where the first one closes. -/
theorem line_injective : Function.Injective line := by
  intro p q hline
  have hword := p.word?_line
  rw [hline, q.word?_line, Option.some.injEq, Prod.mk.injEq] at hword
  obtain ⟨hsource, hbehind⟩ := hword
  obtain ⟨hinside, htarget⟩ := inParens_inj q.noClose p.noClose hbehind
  exact EdgeParts.ext hsource.symm hinside.symm (List.cons.inj htarget).2.symm

end EdgeParts

/-- **A line declares an edge exactly when it is made of the parts of one**, it is made of them in one way only, and
the edge has their names and the text in the parentheses, trimmed, for its condition, unless there is none. -/
theorem EdgeDecl.ofLine?_iff_edgeParts :
    (∀ line : Text, (EdgeDecl.ofLine? line).isSome ↔ ∃ p : EdgeParts, p.line = line) ∧
      Function.Injective EdgeParts.line ∧ ∀ p : EdgeParts, EdgeDecl.ofLine? p.line = some p.decl := by
  refine ⟨fun line => ⟨fun h => ?_, ?_⟩, EdgeParts.line_injective, EdgeParts.ofLine?_line⟩
  · obtain ⟨d, hd⟩ := Option.isSome_iff_exists.1 h
    exact EdgeParts.exists_of_ofLine? hd
  · rintro ⟨p, rfl⟩
    rw [p.ofLine?_line]
    rfl

/-- A condition may hold an opening parenthesis, an arrow and a line feed. -/
theorem EdgeDecl.ofLine?_nested :
    EdgeDecl.ofLine? "a( (x->y\n)->b".toList = some ⟨"a".toList, "b".toList, some "(x->y".toList⟩ := by
  have hsource : IsName "a".toList := ⟨by decide, List.all_eq_true.1 (by decide +kernel)⟩
  have htarget : IsName "b".toList := ⟨by decide, List.all_eq_true.1 (by decide +kernel)⟩
  have hclose : ∀ c ∈ some " (x->y\n".toList, ')' ∉ c := by
    rintro c ⟨⟩
    decide
  let p : EdgeParts := ⟨_, some " (x->y\n".toList, _, hsource, htarget, hclose⟩
  have hline : p.line = "a( (x->y\n)->b".toList := rfl
  have hdecl : p.decl = ⟨"a".toList, "b".toList, some "(x->y".toList⟩ := rfl
  rw [← hline, ← hdecl]
  exact EdgeDecl.ofLine?_iff_edgeParts.2.2 p

end Flowchart.Source
