import Flowchart.Proofs.Dot.Quoting

/-! The tokens of a printed document.

A document is read back token by token, whatever texts its statements hold. Every
lemma has the rest of the document in it, since where a token ends depends on what
is behind it: `tokens?_attribute`, `tokens?_attributes` and `tokens?_statement` say
what the printed part adds to the tokens of the rest, and `tokens?_printDocument`
puts them together.

`tokens?_document` spells out the tokens of a chart: nothing that a label, an id or
a font name holds can add a token to them or take one away. -/
namespace Flowchart.Dot

open Text

/-! ### One token after the other -/

theorem tokens?_space {c : Char} (hc : isSpace c = true) (t : Text) : tokens? (c :: t) = tokens? t := by
  have hdrop : (c :: t).dropWhile isSpace = t.dropWhile isSpace := by simp [hc]
  rw [tokens?.eq_def (c :: t), tokens?.eq_def t, hdrop]

/-- No token starts with a blank. -/
theorem stops_isSpace_of_token? {t rest : Text} {token : Token} (h : token? t = some (token, rest)) :
    Stops isSpace t := by
  cases t with
  | nil => exact stops_nil
  | cons c t =>
    rw [stops_cons]
    cases hspace : isSpace c
    · rfl
    · simp only [isSpace, Bool.or_eq_true, beq_iff_eq] at hspace
      rcases hspace with ((rfl | rfl) | rfl) | rfl <;> cases h

/-- A token at the start of a text is the first of its tokens. -/
theorem tokens?_token {t rest : Text} {token : Token} (h : token? t = some (token, rest)) :
    tokens? t = (tokens? rest).map (token :: ·) := by
  apply tokens?_of_token
  rw [(stops_isSpace_of_token? h).dropWhile, h]

theorem tokens?_quote {rest : Text} (t : Text) (hrest : Ends rest) :
    tokens? (quote t ++ rest) = (tokens? rest).map (.id (settled t) :: ·) :=
  tokens?_token (token?_quote t hrest)

theorem ends_cons {c : Char} (hc : (isWordPart c || c == '.') = false) (t : Text) : Ends (c :: t) :=
  stops_cons.2 hc

/-! ### What is printed -/

theorem tokens?_attribute {rest : Text} (a : Attribute) (hrest : Ends rest) :
    tokens? (a.print ++ rest) = (tokens? rest).map (a.tokens ++ ·) := by
  have hequals : tokens? ('=' :: (quote a.value ++ rest)) =
      (tokens? (quote a.value ++ rest)).map (.equals :: ·) := tokens?_token rfl
  rw [Attribute.print, List.append_assoc, List.cons_append, tokens?_quote _ (ends_cons (by decide) _), hequals,
    tokens?_quote _ hrest, Option.map_map, Option.map_map]
  rfl

/-- The attributes of a list, with one blank between them, up to the bracket that closes them. -/
theorem tokens?_intercalate {rest : Text} (attributes : List Attribute) :
    tokens? ([' '].intercalate (attributes.map Attribute.print) ++ ']' :: rest) =
      (tokens? rest).map ((attributes.flatMap Attribute.tokens ++ [.closeBracket]) ++ ·) := by
  have hclose : tokens? (']' :: rest) = (tokens? rest).map (.closeBracket :: ·) := tokens?_token rfl
  induction attributes with
  | nil => exact hclose
  | cons a more ih =>
    cases more with
    | nil =>
      rw [List.map_singleton, List.intercalate_singleton, tokens?_attribute a (ends_cons (by decide) _), hclose,
        Option.map_map]
      simp [Function.comp_def]
    | cons b more =>
      rw [List.map_cons, List.map_cons, List.intercalate_cons_cons, List.append_assoc, List.append_assoc,
        List.singleton_append, tokens?_attribute a (ends_cons (by decide) _), tokens?_space (by decide),
        ← List.map_cons, ih, Option.map_map]
      simp [Function.comp_def]

theorem tokens?_attributes {rest : Text} (attributes : List Attribute) :
    tokens? (printAttributes attributes ++ rest) = (tokens? rest).map (attributesTokens attributes ++ ·) := by
  have hopen (behind : Text) : tokens? ('[' :: behind) = (tokens? behind).map (.openBracket :: ·) := tokens?_token rfl
  rw [printAttributes, List.cons_append, hopen, List.append_assoc, List.singleton_append, tokens?_intercalate,
    Option.map_map]
  rfl

theorem tokens?_keyword_graph (rest : Text) :
    tokens? ("graph ".toList ++ rest) = (tokens? rest).map (.keyword "graph".toList :: ·) := by
  rw [← tokens?_space (c := ' ') (by decide) rest]
  exact tokens?_token rfl

theorem tokens?_keyword_node (rest : Text) :
    tokens? ("node ".toList ++ rest) = (tokens? rest).map (.keyword "node".toList :: ·) := by
  rw [← tokens?_space (c := ' ') (by decide) rest]
  exact tokens?_token rfl

/-- The two ends of an edge and the arrow between them. -/
theorem tokens?_ends (source target : Text) {rest : Text} (hrest : Ends rest) :
    tokens? (quote source ++ " -> ".toList ++ quote target ++ rest) =
      (tokens? rest).map ([.id (settled source), .arrow, .id (settled target)] ++ ·) := by
  have harrow : tokens? ('-' :: '>' :: ' ' :: (quote target ++ rest)) =
      (tokens? (' ' :: (quote target ++ rest))).map (.arrow :: ·) := tokens?_token rfl
  have hassoc : quote source ++ " -> ".toList ++ quote target ++ rest =
      quote source ++ ' ' :: '-' :: '>' :: ' ' :: (quote target ++ rest) := by simp
  rw [hassoc, tokens?_quote _ (ends_cons (by decide) _), tokens?_space (by decide), harrow,
    tokens?_space (by decide), tokens?_quote _ hrest, Option.map_map, Option.map_map]
  rfl

theorem tokens?_statement (s : Statement) {rest : Text} (hrest : Ends rest) :
    tokens? (s.print ++ rest) = (tokens? rest).map (s.tokens ++ ·) := by
  cases s with
  | graphDefaults attributes =>
    show tokens? ("graph ".toList ++ printAttributes attributes ++ rest) = _
    rw [List.append_assoc, tokens?_keyword_graph, tokens?_attributes, Option.map_map]
    rfl
  | nodeDefaults attributes =>
    show tokens? ("node ".toList ++ printAttributes attributes ++ rest) = _
    rw [List.append_assoc, tokens?_keyword_node, tokens?_attributes, Option.map_map]
    rfl
  | node id attributes =>
    show tokens? (quote id ++ ' ' :: printAttributes attributes ++ rest) = _
    rw [List.append_assoc, List.cons_append, tokens?_quote _ (ends_cons (by decide) _), tokens?_space (by decide),
      tokens?_attributes, Option.map_map]
    rfl
  | edge source target attributes =>
    cases attributes with
    | nil => exact tokens?_ends source target hrest
    | cons a more =>
      have hassoc : (Statement.edge source target (a :: more)).print ++ rest =
          quote source ++ " -> ".toList ++ quote target ++ ' ' :: (printAttributes (a :: more) ++ rest) :=
        List.append_assoc _ _ _
      rw [hassoc, tokens?_ends _ _ (ends_cons (by decide) _), tokens?_space (by decide), tokens?_attributes,
        Option.map_map]
      rfl

/-- The blanks at the start of a line divide tokens and are none. -/
theorem tokens?_indent (t : Text) : tokens? (' ' :: ' ' :: ' ' :: ' ' :: t) = tokens? t := by
  rw [tokens?_space (by decide), tokens?_space (by decide), tokens?_space (by decide), tokens?_space (by decide)]

theorem tokens?_statements (statements : List Statement) (rest : Text) :
    tokens? (statements.flatMap (fun s => "    ".toList ++ s.print ++ ['\n']) ++ rest) =
      (tokens? rest).map (statements.flatMap Statement.tokens ++ ·) := by
  induction statements with
  | nil => simp
  | cons s more ih =>
    have hassoc (behind : Text) : "    ".toList ++ s.print ++ ['\n'] ++ behind =
        ' ' :: ' ' :: ' ' :: ' ' :: (s.print ++ '\n' :: behind) := by simp
    rw [List.flatMap_cons, List.append_assoc _ _ rest, hassoc, tokens?_indent,
      tokens?_statement s (ends_cons (by decide) _), tokens?_space (by decide), ih, Option.map_map]
    simp [Function.comp_def]

theorem tokens?_opening (rest : Text) :
    tokens? ("digraph G \x7b\n".toList ++ rest) =
      (tokens? rest).map ([.keyword "digraph".toList, .id ['G'], .openBrace] ++ ·) := by
  have hname : token? ('G' :: ' ' :: '\x7b' :: '\n' :: rest) = some (.id ['G'], ' ' :: '\x7b' :: '\n' :: rest) := rfl
  have hbrace : token? ('\x7b' :: '\n' :: rest) = some (.openBrace, '\n' :: rest) := rfl
  have hdigraph : token? ("digraph G \x7b\n".toList ++ rest) =
      some (.keyword "digraph".toList, ' ' :: 'G' :: ' ' :: '\x7b' :: '\n' :: rest) := rfl
  rw [tokens?_token hdigraph, tokens?_space (by decide), tokens?_token hname, tokens?_space (by decide),
    tokens?_token hbrace, tokens?_space (by decide), Option.map_map, Option.map_map]
  rfl

theorem tokens?_closing : tokens? "\x7d\n".toList = some [.closeBrace] := by
  have hbrace : token? "\x7d\n".toList = some (.closeBrace, ['\n']) := rfl
  have hblank : tokens? ['\n'] = some [] := tokens?_of_spaces rfl
  rw [tokens?_token hbrace, hblank]
  rfl

/-- A printed document has the tokens of its statements. -/
theorem tokens?_printDocument (statements : List Statement) :
    tokens? (printDocument statements) = some (documentTokens statements) := by
  calc tokens? (printDocument statements)
      = tokens? ("digraph G \x7b\n".toList ++
          (statements.flatMap (fun s => "    ".toList ++ s.print ++ ['\n']) ++ "\x7d\n".toList)) :=
        congrArg tokens? (List.append_assoc _ _ _)
    _ = some (documentTokens statements) := by
        rw [tokens?_opening, tokens?_statements, tokens?_closing]
        rfl

/-! ### The tokens of a chart -/

/-- An attribute and its value. -/
def valueTokens (name value : Text) : List Token := [.id name, .equals, .id value]

/-- An attribute that is left out if it has no value. -/
def optionalTokens (name : Text) : Option Text → List Token
  | none => []
  | some value => valueTokens name (settled value)

/-- What a document says of a node. -/
def nodeTokens (n : Chart.Node) : List Token :=
  [.id (settled n.id), .openBracket] ++ valueTokens "label".toList (settled n.label) ++
    valueTokens "shape".toList n.shape.name ++ valueTokens "style".toList n.drawing.name ++
    optionalTokens "color".toList n.color ++ optionalTokens "fontcolor".toList n.fontColor ++ [.closeBracket]

/-- What a document says of an edge: brackets stand there exactly if the edge has a label. -/
def edgeTokens (e : Chart.Edge) : List Token :=
  [.id (settled e.source), .arrow, .id (settled e.target)] ++
    match e.label with
    | none => []
    | some label => [.openBracket] ++ valueTokens "label".toList (settled label) ++ [.closeBracket]

/-- What a document says of a chart: the chart itself, what its nodes share, the nodes in their order, the
edges in theirs, and the attributions. -/
def chartTokens (c : Chart) : List Token :=
  [.keyword "digraph".toList, .id ['G'], .openBrace] ++
  ([.keyword "graph".toList, .openBracket] ++ valueTokens "rankdir".toList c.attributes.direction.name ++
    [.closeBracket]) ++
  ([.keyword "node".toList, .openBracket] ++ valueTokens "fontname".toList (settled c.attributes.fontName) ++
    valueTokens "fontsize".toList (decimal c.attributes.fontSize.toNat) ++
    valueTokens "shape".toList c.attributes.nodeShape.name ++ [.closeBracket]) ++
  (c.nodes.filter fun n => !n.isAttribution).flatMap nodeTokens ++
  c.edges.flatMap edgeTokens ++
  (c.nodes.filter fun n => n.isAttribution).flatMap nodeTokens ++
  [.closeBrace]

theorem settled_shape (s : Shape) : settled s.name = s.name := by
  cases s <;> rfl

theorem settled_drawing (d : Chart.Drawing) : settled d.name = d.name := by
  cases d <;> rfl

theorem settled_decimal (n : Nat) : settled (decimal n) = decimal n :=
  settled_of_all (by decide) fun _ hc => Nat.isDigit_of_mem_toDigits (by decide) (by decide) hc

/-- An attribute whose name needs no quotes has its name and the settled value for tokens. -/
theorem tokens_attribute {name : Text} (hname : settled name = name) (value : Text) :
    Attribute.tokens ⟨name, value⟩ = valueTokens name (settled value) := by
  rw [Attribute.tokens, hname]
  rfl

theorem tokens_optional {name : Text} (hname : settled name = name) (value? : Option Text) :
    (value?.map (Attribute.mk name)).toList.flatMap Attribute.tokens = optionalTokens name value? := by
  cases value? with
  | none => rfl
  | some value => simp [tokens_attribute hname, optionalTokens]

theorem tokens_nodeStatement (n : Chart.Node) : (nodeStatement n).tokens = nodeTokens n := by
  have hlabel : Attribute.tokens ⟨"label".toList, n.label⟩ = valueTokens "label".toList (settled n.label) := rfl
  have hshape : Attribute.tokens ⟨"shape".toList, n.shape.name⟩ = valueTokens "shape".toList n.shape.name := by
    rw [tokens_attribute rfl, settled_shape]
  have hstyle : Attribute.tokens ⟨"style".toList, n.drawing.name⟩ = valueTokens "style".toList n.drawing.name := by
    rw [tokens_attribute rfl, settled_drawing]
  rw [nodeStatement, Statement.tokens, attributesTokens, List.flatMap_append, List.flatMap_append,
    tokens_optional rfl, tokens_optional rfl]
  simp only [List.flatMap_cons, List.flatMap_nil, hlabel, hshape, hstyle, nodeTokens, List.append_assoc,
    List.cons_append, List.nil_append]

theorem tokens_edgeStatement (e : Chart.Edge) : (edgeStatement e).tokens = edgeTokens e := by
  obtain ⟨source, target, label⟩ := e
  cases label <;> rfl

theorem tokens_graphDefaults (d : Direction) :
    (Statement.graphDefaults [⟨"rankdir".toList, d.name⟩]).tokens =
      [.keyword "graph".toList, .openBracket] ++ valueTokens "rankdir".toList d.name ++ [.closeBracket] := by
  cases d <;> rfl

theorem tokens_nodeDefaults (fontName : Text) (fontSize : Nat) (s : Shape) :
    (Statement.nodeDefaults [⟨"fontname".toList, fontName⟩, ⟨"fontsize".toList, decimal fontSize⟩,
        ⟨"shape".toList, s.name⟩]).tokens =
      [.keyword "node".toList, .openBracket] ++ valueTokens "fontname".toList (settled fontName) ++
        valueTokens "fontsize".toList (decimal fontSize) ++ valueTokens "shape".toList s.name ++
        [.closeBracket] := by
  have hsize : Attribute.tokens ⟨"fontsize".toList, decimal fontSize⟩ =
      valueTokens "fontsize".toList (decimal fontSize) := by
    rw [tokens_attribute rfl, settled_decimal]
  have hshape : Attribute.tokens ⟨"shape".toList, s.name⟩ = valueTokens "shape".toList s.name := by
    rw [tokens_attribute rfl, settled_shape]
  rw [Statement.tokens, attributesTokens, List.flatMap_cons, List.flatMap_cons, hsize, List.flatMap_cons, hshape]
  rfl

/-- **A document is read as the tokens of its chart and nothing else**, whatever its texts hold. -/
theorem tokens?_document (c : Chart) : tokens? (document c) = some (chartTokens c) := by
  have hnodes (ns : List Chart.Node) : (ns.map nodeStatement).flatMap Statement.tokens = ns.flatMap nodeTokens := by
    simp only [List.flatMap_map, tokens_nodeStatement]
  have hedges (es : List Chart.Edge) : (es.map edgeStatement).flatMap Statement.tokens = es.flatMap edgeTokens := by
    simp only [List.flatMap_map, tokens_edgeStatement]
  rw [document, tokens?_printDocument, documentTokens, statements, List.flatMap_cons, List.flatMap_cons,
    tokens_graphDefaults, tokens_nodeDefaults, List.flatMap_append, List.flatMap_append, hnodes, hedges, hnodes]
  simp only [chartTokens, Chart.flowNodes, Chart.attributions, List.append_assoc, List.cons_append,
    List.nil_append]

end Flowchart.Dot
