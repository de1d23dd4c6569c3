import Flowchart.Proofs.Text.Lines

/-! Lines that end in a line feed, with or without a carriage return before it.

`unreturn` takes the carriage returns of all terminators away. It makes one text of the
texts that lines make with terminators chosen one by one (`unreturn_ended`), it goes along
with trimming (`trim_unreturn`), and it leaves the lines of a text as they are
(`splitAt_unreturn`). -/
namespace Flowchart

/-- What may end a line. -/
inductive Terminator where
  | feed
  | returnFeed
deriving DecidableEq, Repr

/-- A terminator as it stands in a text. -/
def Terminator.text : Terminator → Text
  | feed => ['\n']
  | returnFeed => ['\r', '\n']

namespace Text

/-- The text of some lines, each with a terminator of its own. -/
def ended (lines : List (Text × Terminator)) : Text := lines.flatMap fun line => line.1 ++ line.2.text

/-- Takes every carriage return away that stands before a line feed. -/
def unreturn : Text → Text
  | [] => []
  | c :: rest => if c = '\r' ∧ rest.head? = some '\n' then unreturn rest else c :: unreturn rest

theorem unreturn_cons_cons (c d : Char) (rest : Text) :
    unreturn (c :: d :: rest) = if c = '\r' ∧ d = '\n' then unreturn (d :: rest) else c :: unreturn (d :: rest) := by
  rw [unreturn]
  simp only [List.head?_cons, Option.some.injEq]

theorem unreturn_cons {c : Char} {rest : Text} (h : c ≠ '\r' ∨ rest.head? ≠ some '\n') :
    unreturn (c :: rest) = c :: unreturn rest := by
  rw [unreturn, if_neg fun hc => h.elim (· hc.1) (· hc.2)]

theorem unreturn_returnFeed (rest : Text) : unreturn ('\r' :: '\n' :: rest) = '\n' :: unreturn rest := by
  rw [unreturn, if_pos ⟨rfl, rfl⟩, unreturn_cons (.inl (by decide))]

/-- Where no terminator is cut in two, a text may be read in parts. -/
theorem unreturn_append {s t : Text} (h : s.getLast? ≠ some '\r' ∨ t.head? ≠ some '\n') :
    unreturn (s ++ t) = unreturn s ++ unreturn t := by
  induction s with
  | nil => rfl
  | cons c s ih =>
    cases s with
    | nil =>
      have hc : c ≠ '\r' ∨ t.head? ≠ some '\n' := h.imp_left fun hlast hc => hlast (by rw [hc]; rfl)
      rw [List.singleton_append, unreturn_cons hc, unreturn_cons (.inr (by simp))]
      rfl
    | cons d s =>
      have hmore := ih (by simpa using h)
      rw [List.cons_append] at hmore
      rw [List.cons_append, List.cons_append, unreturn_cons_cons, unreturn_cons_cons, hmore]
      split <;> rfl

theorem unreturn_of_not_mem {t : Text} (h : '\n' ∉ t) : unreturn t = t := by
  induction t with
  | nil => rfl
  | cons c t ih =>
    rw [List.mem_cons, not_or] at h
    rw [unreturn_cons (.inr fun hhead => h.2 (List.mem_of_mem_head? hhead)), ih h.2]

theorem unreturn_eq_nil_iff {t : Text} : unreturn t = [] ↔ t = [] := by
  constructor
  · intro h
    match t with
    | [] => rfl
    | [c] =>
      rw [unreturn_cons (.inr (by simp))] at h
      cases h
    | c :: d :: rest =>
      rw [unreturn_cons_cons] at h
      split at h
      · rename_i hreturn
        rw [unreturn_cons (.inl (by rw [hreturn.2]; decide))] at h
        cases h
      · cases h
  · rintro rfl
    rfl

theorem mem_of_mem_unreturn {t : Text} {c : Char} (h : c ∈ unreturn t) : c ∈ t := by
  induction t with
  | nil => cases h
  | cons d t ih =>
    rw [unreturn] at h
    split at h
    · exact List.mem_cons_of_mem d (ih h)
    · rcases List.mem_cons.1 h with rfl | h
      · exact List.mem_cons_self ..
      · exact List.mem_cons_of_mem d (ih h)

/-! ### Lines with terminators -/

/-- Whatever the terminators are, without their carriage returns they are line feeds. -/
theorem unreturn_ended {lines : List (Text × Terminator)}
    (hclean : ∀ line ∈ lines, '\n' ∉ line.1 ∧ line.1.getLast? ≠ some '\r') :
    unreturn (ended lines) = feeds (lines.map Prod.fst) := by
  induction lines with
  | nil => rfl
  | cons line more ih =>
    obtain ⟨hfeed, hreturn⟩ := hclean line (List.mem_cons_self ..)
    have hmore := ih fun l hl => hclean l (List.mem_cons_of_mem line hl)
    have hended : ended (line :: more) = line.1 ++ (line.2.text ++ ended more) := by simp [ended]
    have hterminator : unreturn (line.2.text ++ ended more) = '\n' :: unreturn (ended more) := by
      cases line.2 with
      | feed => exact unreturn_cons (.inl (by decide))
      | returnFeed => exact unreturn_returnFeed _
    rw [hended, unreturn_append (.inl hreturn), unreturn_of_not_mem hfeed, hterminator, hmore, List.map_cons, feeds_cons]

/-- The end of a line is read off before its terminator is. -/
theorem unreturn_line {p : Text} (h : '\n' ∉ p) (rest : Text) :
    unreturn (p ++ '\n' :: rest) = dropLastIf '\r' p ++ '\n' :: unreturn rest := by
  by_cases hlast : p.getLast? = some '\r'
  · obtain ⟨q, rfl⟩ := List.getLast?_eq_some_iff.1 hlast
    have hq : '\n' ∉ q := fun hmem => h (List.mem_append_left _ hmem)
    rw [List.append_assoc, List.singleton_append, unreturn_append (.inr (by simp)), unreturn_of_not_mem hq,
      unreturn_returnFeed, dropLastIf_concat, if_pos rfl]
  · rw [unreturn_append (.inl hlast), unreturn_of_not_mem h, dropLastIf_of_ne hlast, unreturn_cons (.inl (by decide))]

theorem unreturn_intercalate {ps : List Text} (hclean : ∀ p ∈ ps, '\n' ∉ p)
    (hlast : ∀ p ∈ ps.getLast?, p.getLast? ≠ some '\r') :
    unreturn (['\n'].intercalate ps) = ['\n'].intercalate (ps.map (dropLastIf '\r')) := by
  induction ps with
  | nil => rfl
  | cons p more ih =>
    have hp := hclean p (List.mem_cons_self ..)
    cases more with
    | nil =>
      rw [List.map_singleton, List.intercalate_singleton, List.intercalate_singleton, unreturn_of_not_mem hp,
        dropLastIf_of_ne (hlast p rfl)]
    | cons q more =>
      have hmore := ih (fun r hr => hclean r (List.mem_cons_of_mem p hr)) (by simpa using hlast)
      have hfeed := intercalate_feed (dropLastIf '\r' p) (List.cons_ne_nil (dropLastIf '\r' q) (more.map (dropLastIf '\r')))
      rw [intercalate_feed p (List.cons_ne_nil q more), unreturn_line hp, hmore]
      exact hfeed.symm

/-- A text that no carriage return ends has the same lines without the carriage returns of its terminators. -/
theorem splitAt_unreturn {t : Text} (h : t.getLast? ≠ some '\r') :
    splitAt '\n' (unreturn t) = (splitAt '\n' t).map (dropLastIf '\r') := by
  have hclean : ∀ p ∈ splitAt '\n' t, '\n' ∉ p := fun p hp => not_mem_of_mem_splitAt hp
  have hlast : ∀ p ∈ (splitAt '\n' t).getLast?, p.getLast? ≠ some '\r' := by
    intro p hp hreturn
    obtain ⟨front, hfront, -⟩ := exists_intercalate_last hp
    rw [intercalate_splitAt] at hfront
    rw [hfront, List.getLast?_append, hreturn] at h
    exact h rfl
  have hjoin := unreturn_intercalate hclean hlast
  rw [intercalate_splitAt] at hjoin
  rw [hjoin]
  refine splitAt_intercalate (by simp [splitAt_ne_nil]) fun p hp => ?_
  obtain ⟨q, hq, rfl⟩ := List.mem_map.1 hp
  obtain ⟨end?, hend, -⟩ := dropLastIf_append '\r' q
  intro hmem
  exact hclean q hq (hend ▸ List.mem_append_left _ hmem)

/-! ### Trimming -/

/-- A trimmed text stays trimmed: neither of its ends is a carriage return or a line feed. -/
theorem trim_unreturn_of_trimmed {t : Text} (h : trim t = t) : trim (unreturn t) = unreturn t := by
  obtain ⟨hstart, hend⟩ := trim_eq_self_iff.1 h
  refine trim_eq_self_iff.2 ⟨?_, ?_⟩
  · cases t with
    | nil => exact stops_nil
    | cons c t =>
      have hc := stops_cons.1 hstart
      rw [unreturn_cons (.inl (by rintro rfl; exact absurd hc (by decide)))]
      exact stops_cons.2 hc
  · rcases List.eq_nil_or_concat t with rfl | ⟨t, c, rfl⟩
    · exact stops_nil
    · rw [List.concat_eq_append, List.reverse_append] at hend
      have hc := stops_cons.1 hend
      have hfeed : [c].head? ≠ some '\n' := by
        rintro ⟨⟩
        exact absurd hc (by decide)
      rw [List.concat_eq_append, unreturn_append (.inr hfeed), unreturn_cons (.inr (by simp)), List.reverse_append]
      exact stops_cons.2 hc

theorem trim_unreturn (t : Text) : trim (unreturn t) = unreturn (trim t) := by
  obtain ⟨tail, ht, htail⟩ := exists_trim t
  by_cases hempty : trim t = []
  · rw [hempty, unreturn, trim_eq_nil_iff, isAllBlank, List.all_eq_true]
    intro c hc
    have hblank := trim_eq_nil_iff.1 hempty
    exact List.all_eq_true.1 hblank c (mem_of_mem_unreturn hc)
  · -- The middle part neither starts with a line feed nor ends in a carriage return, so the parts are read apart.
    have hhead : (trim t ++ tail).head? ≠ some '\n' := by
      have hstart := head?_ne_of_trimmed (trim_trim t) (show isBlank '\n' = true by decide)
      obtain ⟨c, middle, hc⟩ := List.exists_cons_of_ne_nil hempty
      rwa [hc] at hstart ⊢
    have hlast : (trim t).getLast? ≠ some '\r' := getLast?_ne_of_trimmed (trim_trim t) (by decide)
    conv => lhs; rw [ht]
    rw [List.append_assoc, unreturn_append (.inr hhead), unreturn_append (.inl hlast), ← List.append_assoc]
    exact trim_margins (fun c hc => mem_takeWhile (mem_of_mem_unreturn hc))
      (fun c hc => htail c (mem_of_mem_unreturn hc)) (trim_unreturn_of_trimmed (trim_trim t))

end Text

end Flowchart
