import Flowchart.Proofs.Settings.Items
import Flowchart.Proofs.Toml.Blocks

/-! Settings that are written are read back.

The document for some settings has two blocks, with a pair for every item. The texts in it
may be quoted with any escapes (`Spelling`). Whatever the spelling, the document says what
the items write (`written`), and this gives the settings that it was written for:
`ofDocument_document`. -/
namespace Flowchart.Settings

open Toml

/-! ### Documents for settings -/

/-- Basic strings for the texts in some settings. -/
structure Spelling (s : Settings) where
  fontName : Text
  program : Text
  spells_fontName : Spells fontName (.string s.chart.fontName)
  spells_program : Spells program (.string s.engine.program)

variable {s : Settings}

/-- The strings of the document that is printed. -/
def quoted (s : Settings) : Spelling s :=
  ⟨Toml.quote s.chart.fontName, Toml.quote s.engine.program, spells_quote _, spells_quote _⟩

/-- The document for some settings, with the given strings in it. -/
def Spelling.document (w : Spelling s) : Text :=
  printHeader "graph".toList
    ++ printEntry "rankdir".toList (Toml.quote s.chart.direction.name)
    ++ printEntry "fontname".toList w.fontName
    ++ printEntry "fontsize".toList (Text.decimal s.chart.fontSize.toNat)
    ++ printEntry "node_shape".toList (Toml.quote s.chart.nodeShape.name)
    ++ printHeader "engine".toList
    ++ printEntry "program".toList w.program
    ++ printEntry "cleanup".toList (printFlag s.engine.cleanup)

theorem document_quoted (s : Settings) : s.quoted.document = s.document := rfl

/-! ### Their blocks -/

theorem spells_fontSize (n : UInt32) : Spells (Text.decimal n.toNat) (.integer n.toNat) :=
  .integer (Nat.lt_trans n.toNat_lt_size (by decide))

theorem spells_printFlag : ∀ b, Spells (printFlag b) (.boolean b)
  | true => .yes
  | false => .no

/-- The pair of an item. -/
def pair {α : Type} (i : Item α) (a : α) {written : Text} (hkey : IsKey i.key) (h : Spells written (i.write a)) :
    Pair :=
  ⟨i.key, written, i.write a, hkey, h⟩

/-- The block of the settings for charts. -/
def Spelling.chartBlock (w : Spelling s) : Block where
  title := "graph".toList
  pairs := [pair .direction s.chart.direction ⟨by decide, by decide⟩ (spells_quote _),
    pair .fontName s.chart.fontName ⟨by decide, by decide⟩ w.spells_fontName,
    pair .fontSize s.chart.fontSize ⟨by decide, by decide⟩ (spells_fontSize _),
    pair .nodeShape s.chart.nodeShape ⟨by decide, by decide⟩ (spells_quote _)]
  isKey := ⟨by decide, by decide⟩
  nodup := by
    show ["rankdir".toList, "fontname".toList, "fontsize".toList, "node_shape".toList].Nodup
    decide

/-- The block of the settings for the engine. -/
def Spelling.engineBlock (w : Spelling s) : Block where
  title := "engine".toList
  pairs := [pair .program s.engine.program ⟨by decide, by decide⟩ w.spells_program,
    pair .cleanup s.engine.cleanup ⟨by decide, by decide⟩ (spells_printFlag _)]
  isKey := ⟨by decide, by decide⟩
  nodup := by
    show ["program".toList, "cleanup".toList].Nodup
    decide

theorem print_chartBlock (w : Spelling s) :
    w.chartBlock.print = printHeader "graph".toList
      ++ (printEntry "rankdir".toList (Toml.quote s.chart.direction.name)
      ++ (printEntry "fontname".toList w.fontName
      ++ (printEntry "fontsize".toList (Text.decimal s.chart.fontSize.toNat)
      ++ (printEntry "node_shape".toList (Toml.quote s.chart.nodeShape.name) ++ [])))) := rfl

theorem print_engineBlock (w : Spelling s) :
    w.engineBlock.print = printHeader "engine".toList
      ++ (printEntry "program".toList w.program
      ++ (printEntry "cleanup".toList (printFlag s.engine.cleanup) ++ [])) := rfl

theorem document_eq_blocks (w : Spelling s) : w.document = [w.chartBlock, w.engineBlock].flatMap Block.print := by
  simp only [List.flatMap_cons, List.flatMap_nil, print_chartBlock, print_engineBlock, Spelling.document,
    List.append_assoc, List.append_nil]

/-! ### What they say -/

/-- What a document says in which every item is written. -/
def written (s : Settings) : Tree :=
  .table [("graph".toList, .table [("rankdir".toList, .string s.chart.direction.name),
      ("fontname".toList, .string s.chart.fontName), ("fontsize".toList, .integer s.chart.fontSize.toNat),
      ("node_shape".toList, .string s.chart.nodeShape.name)]),
    ("engine".toList, .table [("program".toList, .string s.engine.program),
      ("cleanup".toList, .boolean s.engine.cleanup)])]

theorem givenBy_written (s : Settings) : GivenBy s.written s :=
  ⟨.inr rfl, .inr rfl, .inr rfl, .inr rfl, .inr rfl, .inr rfl⟩

theorem plain_written (s : Settings) : Plain s.written where
  graph := by
    rintro _ ⟨⟩
    exact ⟨_, rfl⟩
  engine := by
    rintro _ ⟨⟩
    exact ⟨_, rfl⟩
  direction := by
    rintro _ ⟨⟩ ⟨_, ⟨⟩⟩
  nodeShape := by
    rintro _ ⟨⟩ ⟨_, ⟨⟩⟩

theorem exists_read?_document (w : Spelling s) :
    ∃ entries, read? w.document = some entries ∧ entries.tree = s.written := by
  rw [document_eq_blocks]
  refine exists_read?_blocks ?_
  show ["graph".toList, "engine".toList].Nodup
  decide

/-- **Settings are read back from the document for them**, with whatever escapes the texts in it are quoted. -/
theorem ofDocument_document (s : Settings) :
    ofDocument s.document = .ok s ∧ ∀ w : Spelling s, ofDocument w.document = .ok s := by
  have hspelled (w : Spelling s) : ofDocument w.document = .ok s := by
    obtain ⟨entries, hread, htree⟩ := exists_read?_document w
    refine (ofDocument_eq_ok_iff hread ?_).2 ?_
    · rw [htree]
      exact plain_written s
    · rw [htree]
      exact givenBy_written s
  refine ⟨?_, hspelled⟩
  rw [← document_quoted]
  exact hspelled s.quoted

/-- Strings with escapes that are not the printer's, and with what is syntax elsewhere. -/
theorem ofDocument_document_escaped :
    ofDocument ("\n[graph]\nrankdir = \"LR\"\nfontname = \"]\\u0022\\t#\"\nfontsize = 4294967295\n".toList
        ++ "node_shape = \"oval\"\n\n[engine]\nprogram = \"\"\ncleanup = false\n".toList) =
      .ok ⟨⟨.right, "]\"\t#".toList, 4294967295, .oval⟩, ⟨[], false⟩⟩ := by
  let s : Settings := ⟨⟨.right, "]\"\t#".toList, 4294967295, .oval⟩, ⟨[], false⟩⟩
  let w : Spelling s := {
    fontName := _
    program := _
    spells_fontName := .string (.shown rfl (by decide) (by decide) (.escaped
      (@Escapes.short "0022".toList '"' rfl rfl rfl) (.escaped .tab (.shown rfl (by decide) (by decide) .nil))))
    spells_program := spells_quote [] }
  refine (congrArg ofDocument ?_).trans ((ofDocument_document s).2 w)
  decide +kernel

/-- The document for the settings by default. -/
example : defaultDocument =
    "\n[graph]\nrankdir = \"TB\"\nfontname = \"Courier\"\nfontsize = 10\nnode_shape = \"box\"\n".toList
      ++ "\n[engine]\nprogram = \"dot\"\ncleanup = true\n".toList := by
  decide +kernel

end Flowchart.Settings
