import Flowchart.Proofs.Toml.Spelling
import Flowchart.Settings.Printer

/-! Documents made of blocks.

A block is the header of a table and the pairs below it, each on a line that gives a key a
value as it is spelled (`Pair`, `Block`). A document of blocks is read line by line: each
line becomes one statement (`exists_statements?_pairs`, `exists_statements?_blocks`), and
the statement of a pair adds to the table that was opened last (`exists_add?_pair`). So a
document of blocks with different names says what its blocks say: `exists_read?_blocks`. -/
namespace Flowchart.Toml

open Text Settings

/-! ### Keys -/

/-- A name that is written as it is. -/
structure IsKey (name : Text) : Prop where
  ne_nil : name ≠ []
  all : name.all isKeyChar = true

theorem ne_of_isKeyChar {c d : Char} (hc : isKeyChar c = true) (hd : isKeyChar d = false) : c ≠ d := by
  rintro rfl
  rw [hc] at hd
  cases hd

theorem isSpace_of_isKeyChar {c : Char} (h : isKeyChar c = true) : isSpace c = false := by
  have hne (d : Char) : isKeyChar d = false → c ≠ d := ne_of_isKeyChar h
  simp [isSpace, hne ' ' (by decide), hne '\t' (by decide)]

theorem IsKey.exists_cons {name : Text} (h : IsKey name) : ∃ c t, name = c :: t ∧ isKeyChar c = true := by
  obtain ⟨c, t, rfl⟩ := List.exists_cons_of_ne_nil h.ne_nil
  exact ⟨c, t, rfl, List.all_eq_true.1 h.all c (List.mem_cons_self ..)⟩

theorem keyName?_append {name rest : Text} (h : IsKey name) (hrest : Stops isKeyChar rest) :
    keyName? (name ++ rest) = some (name, rest) := by
  have hall := List.all_eq_true.1 h.all
  have htake := takeWhile_run hall hrest
  have hdrop := dropWhile_run hall hrest
  obtain ⟨c, t, rfl, hc⟩ := h.exists_cons
  rw [List.cons_append] at htake hdrop ⊢
  rw [keyName?, htake, hdrop]
  · exact fun _ heq => ne_of_isKeyChar hc (by decide) (List.cons.inj heq).1
  · exact fun _ heq => ne_of_isKeyChar hc (by decide) (List.cons.inj heq).1

theorem exists_keyPath?_append {name rest : Text} (h : IsKey name) (hrest : Stops isKeyChar rest)
    (hdot : ∀ more, skipSpace rest ≠ '.' :: more) (size n : Nat) :
    ∃ span, keyPath? size (n + 1) (name ++ rest) = some (⟨[], ⟨name, span⟩⟩, skipSpace rest) := by
  have hspace : skipSpace (name ++ rest) = name ++ rest := by
    obtain ⟨c, t, rfl, hc⟩ := h.exists_cons
    exact Stops.dropWhile (stops_cons.2 (isSpace_of_isKeyChar hc))
  refine ⟨spanBetween size (name ++ rest) rest, ?_⟩
  rw [keyPath?, hspace, keyName?_append h hrest, Option.bind_eq_bind, Option.bind_some]
  dsimp only
  split
  · rename_i heq
    exact absurd heq (hdot _)
  · rfl

theorem exists_keyPath?_assign {name : Text} (h : IsKey name) (size : Nat) (rest : Text) :
    ∃ span, keyPath? size depthLimit (name ++ ' ' :: '=' :: rest) = some (⟨[], ⟨name, span⟩⟩, '=' :: rest) :=
  exists_keyPath?_append h (stops_cons.2 (by decide)) (fun _ heq => by cases heq) size 78

theorem exists_keyPath?_close {name : Text} (h : IsKey name) (size : Nat) (rest : Text) :
    ∃ span, keyPath? size depthLimit (name ++ ']' :: rest) = some (⟨[], ⟨name, span⟩⟩, ']' :: rest) :=
  exists_keyPath?_append h (stops_cons.2 (by decide)) (fun _ heq => by cases heq) size 78

/-! ### Pairs and blocks -/

/-- A key and a value, which is spelled in some way. -/
structure Pair where
  key : Text
  written : Text
  value : Tree
  isKey : IsKey key
  spells : Spells written value

/-- The line of a pair. -/
def Pair.print (p : Pair) : Text := printEntry p.key p.written

/-- What a pair says. -/
def Pair.entry (p : Pair) : Text × Tree := (p.key, p.value)

/-- A header and the pairs below it. -/
structure Block where
  title : Text
  pairs : List Pair
  isKey : IsKey title
  nodup : (pairs.map Pair.key).Nodup

/-- The text of a block. -/
def Block.print (b : Block) : Text := printHeader b.title ++ b.pairs.flatMap Pair.print

/-- What a block says. -/
def Block.entry (b : Block) : Text × Tree := (b.title, .table (b.pairs.map Pair.entry))

/-! ### Statements -/

/-- A statement that says what a pair says. -/
def Pair.ReadAs (p : Pair) (s : Statement) : Prop := ∃ span v, s = .pair ⟨[], ⟨p.key, span⟩⟩ v ∧ v.tree = p.value

/-- The statement of a header and those of the pairs below it. -/
def Block.ReadAs (b : Block) (ss : List Statement) : Prop :=
  ∃ span bytes pairs, ss = .table ⟨[], ⟨b.title, span⟩⟩ bytes :: pairs ∧ List.Forall₂ Pair.ReadAs b.pairs pairs

/-- A pair is one statement, and the line ends behind it. -/
theorem exists_pair?_print (p : Pair) (size : Nat) (rest : Text) :
    ∃ s, pair? size (p.print ++ rest) = some (s, '\n' :: rest) ∧ p.ReadAs s := by
  obtain ⟨v, hv, htree⟩ := exists_value?_of_spells p.spells size depthLimit rest
  obtain ⟨span, hpath⟩ := exists_keyPath?_assign p.isKey size (' ' :: (p.written ++ '\n' :: rest))
  have hprint : p.print ++ rest = p.key ++ ' ' :: '=' :: ' ' :: (p.written ++ '\n' :: rest) := by
    simp [Pair.print, printEntry]
  have hspace : skipSpace (p.written ++ '\n' :: rest) = p.written ++ '\n' :: rest := by
    obtain ⟨c, more, hmore, hc, -, -⟩ := exists_cons_of_spells p.spells
    rw [hmore, List.cons_append]
    exact Stops.dropWhile (stops_cons.2 hc)
  refine ⟨.pair ⟨[], ⟨p.key, span⟩⟩ v, ?_, span, v, rfl, htree⟩
  rw [hprint, pair?, hpath]
  show ((value? size depthLimit (skipSpace (p.written ++ '\n' :: rest))).bind fun _ => _) = _
  rw [hspace, hv]
  rfl

theorem exists_header? {title : Text} (h : IsKey title) (size : Nat) (rest : Text) :
    ∃ span bytes, header? size ('[' :: (title ++ ']' :: rest)) = some (.table ⟨[], ⟨title, span⟩⟩ bytes, rest) := by
  obtain ⟨span, hpath⟩ := exists_keyPath?_close h size rest
  refine ⟨span, spanBetween size ('[' :: (title ++ ']' :: rest)) rest, ?_⟩
  rw [header?]
  · rw [hpath]
    rfl
  · obtain ⟨c, t, rfl, hc⟩ := h.exists_cons
    exact fun _ heq => ne_of_isKeyChar hc (by decide) (List.cons.inj heq).1

/-- A pair is read in one step. -/
theorem exists_statements?_pair (p : Pair) (size : Nat) (rest : Text) :
    ∃ s, p.ReadAs s ∧ ∀ fuel,
      statements? size (fuel + 1) (p.print ++ rest) = (statements? size fuel rest).map fun more => s :: more := by
  obtain ⟨s, hs, hread⟩ := exists_pair?_print p size rest
  refine ⟨s, hread, fun fuel => ?_⟩
  obtain ⟨c, t, hprint, hc⟩ : ∃ c t, p.print ++ rest = c :: t ∧ isKeyChar c = true := by
    obtain ⟨c, t, ht, hc⟩ := p.isKey.exists_cons
    exact ⟨c, _, by rw [Pair.print, printEntry, ht]; rfl, hc⟩
  have hne (d : Char) : isKeyChar d = false → c ≠ d := ne_of_isKeyChar hc
  have hspace : skipSpace (c :: t) = c :: t := Stops.dropWhile (stops_cons.2 (isSpace_of_isKeyChar hc))
  rw [hprint] at hs ⊢
  rw [statements?, hspace]
  dsimp only
  rw [if_neg (by simp [hne '\n' (by decide), hne '\r' (by decide), hne '#' (by decide)]), if_neg (hne _ (by decide)),
    hs]
  show ((statements? size fuel rest).bind fun more => some (s :: more)) = _
  rw [Option.map_eq_bind]
  rfl

/-- A header is read in two steps, the first of which takes the empty line before it. -/
theorem exists_statements?_header {title : Text} (h : IsKey title) (size : Nat) (rest : Text) :
    ∃ span bytes, ∀ fuel, statements? size (fuel + 2) (printHeader title ++ rest) =
      (statements? size fuel rest).map fun more => .table ⟨[], ⟨title, span⟩⟩ bytes :: more := by
  obtain ⟨span, bytes, hheader⟩ := exists_header? h size ('\n' :: rest)
  refine ⟨span, bytes, fun fuel => ?_⟩
  have hprint : printHeader title ++ rest = '\n' :: '[' :: (title ++ ']' :: '\n' :: rest) := by
    simp [printHeader]
  have hfirst : statements? size (fuel + 2) ('\n' :: '[' :: (title ++ ']' :: '\n' :: rest)) =
      statements? size (fuel + 1) ('[' :: (title ++ ']' :: '\n' :: rest)) := rfl
  have hspace : skipSpace ('[' :: (title ++ ']' :: '\n' :: rest)) = '[' :: (title ++ ']' :: '\n' :: rest) := rfl
  rw [hprint, hfirst, statements?, hspace]
  dsimp only
  rw [if_neg (by decide), if_pos rfl, hheader]
  show ((statements? size fuel rest).bind fun more => some (_ :: more)) = _
  rw [Option.map_eq_bind]
  rfl

/-- **Pairs are read one by one.** -/
theorem exists_statements?_pairs (pairs : List Pair) (size : Nat) (rest : Text) :
    ∃ ss, List.Forall₂ Pair.ReadAs pairs ss ∧ ∀ fuel,
      statements? size (fuel + pairs.length) (pairs.flatMap Pair.print ++ rest) =
        (statements? size fuel rest).map fun more => ss ++ more := by
  induction pairs with
  | nil => exact ⟨[], .nil, fun fuel => Option.map_id'.symm⟩
  | cons p pairs ih =>
    obtain ⟨ss, hss, hpairs⟩ := ih
    obtain ⟨s, hs, hpair⟩ := exists_statements?_pair p size (pairs.flatMap Pair.print ++ rest)
    refine ⟨s :: ss, .cons hs hss, fun fuel => ?_⟩
    rw [List.flatMap_cons, List.append_assoc, List.length_cons, ← Nat.add_assoc, hpair, hpairs, Option.map_map]
    rfl

/-- The steps that a document of blocks takes. -/
def steps : List Block → Nat
  | [] => 0
  | b :: blocks => b.pairs.length + 2 + steps blocks

/-- **Blocks are read one by one.** -/
theorem exists_statements?_blocks (blocks : List Block) (size : Nat) :
    ∃ groups, List.Forall₂ Block.ReadAs blocks groups ∧ ∀ fuel, steps blocks < fuel →
      statements? size fuel (blocks.flatMap Block.print) = some groups.flatten := by
  induction blocks with
  | nil =>
    refine ⟨[], .nil, fun fuel hfuel => ?_⟩
    obtain ⟨fuel, rfl⟩ := Nat.exists_eq_add_one_of_ne_zero (Nat.ne_zero_of_lt hfuel)
    rfl
  | cons b blocks ih =>
    obtain ⟨groups, hgroups, hblocks⟩ := ih
    obtain ⟨ss, hss, hpairs⟩ := exists_statements?_pairs b.pairs size (blocks.flatMap Block.print)
    obtain ⟨span, bytes, hheader⟩ :=
      exists_statements?_header b.isKey size (b.pairs.flatMap Pair.print ++ blocks.flatMap Block.print)
    refine ⟨(.table ⟨[], ⟨b.title, span⟩⟩ bytes :: ss) :: groups, .cons ⟨span, bytes, ss, rfl, hss⟩ hgroups,
      fun fuel hfuel => ?_⟩
    rw [steps] at hfuel
    obtain ⟨fuel, rfl⟩ := Nat.exists_eq_add_of_le' (show b.pairs.length + 2 ≤ fuel by omega)
    rw [List.flatMap_cons, Block.print, List.append_assoc, ← Nat.add_assoc, hheader, hpairs, hblocks fuel (by omega)]
    rfl

/-! ### Tables -/

section Tables
variable {before inner : Entries} {key : Key} (hkey : key.name ∉ before.names)
include hkey

theorem Entries.find?_concat (v : Value) : Entries.find? (before ++ [(key, v)]) key.name = some v := by
  have hnone : before.find? key.name = none := Entries.find?_eq_none_iff.2 hkey
  rw [Entries.find?, List.find?_append, Option.map_or, ← Entries.find?, hnone, Option.none_or]
  simp

theorem Entries.set_concat (v w : Value) : Entries.set (before ++ [(key, v)]) key.name w = before ++ [(key, w)] := by
  have hbefore : before.set key.name w = before := by
    refine (List.map_congr_left fun e he => ?_).trans (List.map_id before)
    exact if_neg fun heq : e.1.name = key.name => hkey (heq ▸ List.mem_map_of_mem he)
  rw [Entries.set, List.map_append, ← Entries.set, hbefore]
  simp

/-- A header opens a table at the end. -/
theorem add?_header (opened : List Key) (span : Span) :
    Draft.add? ⟨.table .header none before, opened⟩ (.table ⟨[], key⟩ span) =
      some ⟨.table .header none (before ++ [(key, .table .header (some span) [])]), [key]⟩ := by
  rw [Draft.add?, Value.alter?, Value.openTable?, Entries.find?_eq_none_iff.2 hkey]
  rfl

/-- A pair goes to the end of the table that was opened last. -/
theorem exists_add?_pair {name : Key} (hname : name.name ∉ inner.names) (span : Span) (v : Value) :
    ∃ bytes, Draft.add? ⟨.table .header none (before ++ [(key, .table .header (some span) inner)]), [key]⟩
        (.pair ⟨[], name⟩ v) =
      some ⟨.table .header none (before ++ [(key, .table .header (some bytes) (inner ++ [(name, v)]))]), [key]⟩ := by
  refine ⟨⟨span.start, (v.span?.map Span.stop).getD span.stop⟩, ?_⟩
  have hput : Value.addPair? (.table .header (some span) inner) ⟨[], name⟩ v =
      some (.table .header (some span) (inner ++ [(name, v)])) := by
    rw [Value.addPair?, Value.alter?, Value.put?, Entries.find?_eq_none_iff.2 hname]
    rfl
  rw [Draft.add?, Value.alter?, Entries.find?_concat hkey]
  dsimp only
  rw [if_neg (by decide), Value.alter?, hput]
  show some (Draft.mk (.table .header none (Entries.set _ key.name _)) [key]) = _
  rw [Entries.set_concat hkey]
  rfl

end Tables

/-- Pairs fill the table that was opened last. -/
theorem exists_foldlM_pairs {before : Entries} {key : Key} (hkey : key.name ∉ before.names) (inner : Entries)
    (span : Span) {pairs : List Pair} {ss : List Statement} (h : List.Forall₂ Pair.ReadAs pairs ss)
    (hnodup : (inner.names ++ pairs.map Pair.key).Nodup) :
    ∃ bytes more, ss.foldlM Draft.add?
        ⟨.table .header none (before ++ [(key, .table .header (some span) inner)]), [key]⟩ =
      some ⟨.table .header none (before ++ [(key, .table .header (some bytes) (inner ++ more))]), [key]⟩ ∧
      Value.branches more = pairs.map Pair.entry := by
  induction h generalizing span inner with
  | nil => exact ⟨span, [], by rw [List.append_nil]; rfl, rfl⟩
  | @cons p s pairs ss hp _ ih =>
    obtain ⟨keySpan, v, rfl, hv⟩ := hp
    have hname : (⟨p.key, keySpan⟩ : Key).name ∉ inner.names :=
      fun hmem => List.disjoint_of_nodup_append hnodup hmem (List.mem_cons_self ..)
    obtain ⟨bytes, hadd⟩ := exists_add?_pair hkey hname span v
    have hnodup : ((inner ++ [(⟨p.key, keySpan⟩, v)] : Entries).names ++ pairs.map Pair.key).Nodup := by
      rw [Entries.names_concat, List.append_assoc]
      exact hnodup
    obtain ⟨last, more, hmore, hentries⟩ := ih _ bytes hnodup
    refine ⟨last, (⟨p.key, keySpan⟩, v) :: more, ?_, ?_⟩
    · rw [List.foldlM_cons, hadd]
      show ss.foldlM Draft.add? _ = _
      rw [hmore, List.append_assoc]
      rfl
    · rw [Value.branches, hv, hentries]
      rfl

/-- Blocks fill a document. -/
theorem exists_foldlM_blocks (before : Entries) (opened : List Key) {blocks : List Block}
    {groups : List (List Statement)} (h : List.Forall₂ Block.ReadAs blocks groups)
    (hnodup : (before.names ++ blocks.map Block.title).Nodup) :
    ∃ more last, groups.flatten.foldlM Draft.add? ⟨.table .header none before, opened⟩ =
      some ⟨.table .header none (before ++ more), last⟩ ∧ Value.branches more = blocks.map Block.entry := by
  induction h generalizing before opened with
  | nil => exact ⟨[], opened, by rw [List.append_nil]; rfl, rfl⟩
  | @cons b group blocks groups hb _ ih =>
    obtain ⟨span, headerBytes, ss, rfl, hss⟩ := hb
    have hkey : (⟨b.title, span⟩ : Key).name ∉ before.names :=
      fun hmem => List.disjoint_of_nodup_append hnodup hmem (List.mem_cons_self ..)
    obtain ⟨bytes, inner, hinner, hpairs⟩ := exists_foldlM_pairs hkey [] headerBytes hss b.nodup
    have hnodup : ((before ++ [(⟨b.title, span⟩, .table .header (some bytes) inner)] : Entries).names ++
        blocks.map Block.title).Nodup := by
      rw [Entries.names_concat, List.append_assoc]
      exact hnodup
    obtain ⟨more, last, hmore, hentries⟩ := ih _ [⟨b.title, span⟩] hnodup
    refine ⟨(⟨b.title, span⟩, .table .header (some bytes) inner) :: more, last, ?_, ?_⟩
    · rw [List.flatten_cons, List.cons_append, List.foldlM_cons, add?_header hkey]
      show (ss ++ groups.flatten).foldlM Draft.add? _ = _
      rw [List.foldlM_append, hinner]
      show groups.flatten.foldlM Draft.add? _ = _
      rw [List.nil_append, hmore, List.append_assoc]
      rfl
    · rw [Value.branches, hentries, tree_table, Entries.tree, hpairs]
      rfl

/-! ### Documents -/

theorem steps_le (blocks : List Block) : steps blocks ≤ (blocks.flatMap Block.print).length := by
  have hpairs (pairs : List Pair) : pairs.length ≤ (pairs.flatMap Pair.print).length := by
    induction pairs with
    | nil => exact Nat.le_refl 0
    | cons p pairs ih =>
      have hpos : 0 < p.print.length := by
        rw [Pair.print, printEntry, List.length_append, List.length_singleton]
        exact Nat.succ_pos _
      rw [List.flatMap_cons, List.length_append, List.length_cons]
      omega
  induction blocks with
  | nil => exact Nat.le_refl 0
  | cons b blocks ih =>
    have hb := hpairs b.pairs
    rw [steps, List.flatMap_cons, List.length_append, Block.print, List.length_append, printHeader]
    simp only [List.length_cons]
    omega

/-- **A document of blocks says what its blocks say.** -/
theorem exists_read?_blocks {blocks : List Block} (h : (blocks.map Block.title).Nodup) :
    ∃ entries, read? (blocks.flatMap Block.print) = some entries ∧ entries.tree = .table (blocks.map Block.entry) := by
  obtain ⟨groups, hgroups, hstatements⟩ := exists_statements?_blocks blocks (byteSize (blocks.flatMap Block.print))
  obtain ⟨entries, last, hfold, hentries⟩ := exists_foldlM_blocks [] [] hgroups h
  have hmark : (['\ufeff'].isPrefixOf? (blocks.flatMap Block.print)).getD (blocks.flatMap Block.print) =
      blocks.flatMap Block.print := by
    cases blocks <;> rfl
  refine ⟨entries, ?_, congrArg Tree.table hentries⟩
  rw [read?, hmark, hstatements _ (Nat.lt_succ_of_le (steps_le blocks))]
  show (groups.flatten.foldlM Draft.add? Draft.empty).bind _ = _
  rw [Draft.empty, hfold]
  rfl

end Flowchart.Toml
