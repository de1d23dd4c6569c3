import Flowchart.Output.Page

/-! The page that shows an image, read back.

A name goes through two layers before it stands in the page: percent codes for what would
change a reference, then entities for what would end an attribute. `percentEncode_cases`
and `escape_cases` say what a layer does to a character, and from them each layer is
undone character by character; the two are undone from the outside in
(`percentDecode_unescape`).

No name writes a sign of the page's own, so a reader finds the attribute where the page
put it: `page_reads_back`. -/
namespace Flowchart.Page

open Text

/-- The characters that are written in an attribute as entities. -/
def entities : List (Char × Text) :=
  [('&', "&amp;".toList), ('"', "&quot;".toList), ('<', "&lt;".toList), ('>', "&gt;".toList)]

/-- The characters that are written in a reference as percent codes. -/
def codes : List (Char × Text) :=
  [('%', "%25".toList), ('#', "%23".toList), ('?', "%3F".toList), (' ', "%20".toList)]

/-- Whether a character begins or ends a tag or the value of an attribute. -/
def isMarkup (c : Char) : Bool := c == '<' || c == '>' || c == '"'

/-- Whether a character ends the path in a reference, or the reference. -/
def endsPath (c : Char) : Bool := c == '#' || c == '?' || c == ' '

/-! ### Characters -/

theorem escape_cases (c : Char) :
    (c, escape c) ∈ entities ∨ escape c = [c] ∧ c ≠ '&' ∧ isMarkup c = false := by
  by_cases h : c = '&' ∨ c = '"' ∨ c = '<' ∨ c = '>'
  · left
    rcases h with rfl | rfl | rfl | rfl <;> decide
  · right
    simp only [not_or] at h
    simp [escape, isMarkup, h]

theorem percentEncode_cases (c : Char) :
    (c, percentEncode c) ∈ codes ∨ percentEncode c = [c] ∧ c ≠ '%' ∧ endsPath c = false := by
  by_cases h : c = '%' ∨ c = '#' ∨ c = '?' ∨ c = ' '
  · left
    rcases h with rfl | rfl | rfl | rfl <;> decide
  · right
    simp only [not_or] at h
    simp [percentEncode, endsPath, h]

/-! ### One layer and the other -/

/-- A character that is written in an attribute is read back from it. -/
theorem unescape_escape (c : Char) (rest : Text) : unescape (escape c ++ rest) = c :: unescape rest := by
  rcases escape_cases c with h | ⟨h, hamp, -⟩
  · simp only [entities, List.mem_cons, Prod.mk.injEq, List.not_mem_nil, or_false] at h
    rcases h with ⟨rfl, h⟩ | ⟨rfl, h⟩ | ⟨rfl, h⟩ | ⟨rfl, h⟩ <;> rfl
  · rw [h, List.singleton_append]
    rw [unescape] <;> simp [hamp]

/-- A character that is written in a reference is read back from it. -/
theorem percentDecode_percentEncode (c : Char) (rest : Text) :
    percentDecode (percentEncode c ++ rest) = encode [c] ++ percentDecode rest := by
  rcases percentEncode_cases c with h | ⟨h, hpercent, -⟩
  · simp only [codes, List.mem_cons, Prod.mk.injEq, List.not_mem_nil, or_false] at h
    rcases h with ⟨rfl, h⟩ | ⟨rfl, h⟩ | ⟨rfl, h⟩ | ⟨rfl, h⟩ <;> rfl
  · rw [h, List.singleton_append, percentDecode]
    simp [hpercent]

theorem unescape_flatMap_escape (t : Text) : unescape (t.flatMap escape) = t := by
  induction t with
  | nil => rfl
  | cons c t ih => rw [List.flatMap_cons, unescape_escape, ih]

theorem percentDecode_flatMap_percentEncode (t : Text) : percentDecode (t.flatMap percentEncode) = encode t := by
  induction t with
  | nil => rfl
  | cons c t ih => rw [List.flatMap_cons, percentDecode_percentEncode, ih, ← encode_append, List.singleton_append]

/-- The layers of an attribute are undone from the outside in. -/
theorem percentDecode_unescape (image : Text) : percentDecode (unescape (reference image)) = encode image := by
  rw [reference, unescape_flatMap_escape, percentDecode_flatMap_percentEncode]

/-! ### What stands in an attribute -/

/-- A percent code holds nothing that ends the path. -/
theorem endsPath_of_mem_percentEncode {c d : Char} (hd : d ∈ percentEncode c) : endsPath d = false := by
  rcases percentEncode_cases c with h | ⟨h, -, hc⟩
  · have hcodes : (codes.all fun p => p.2.all (!endsPath ·)) = true := by decide
    have hplain := List.all_eq_true.1 (List.all_eq_true.1 hcodes _ h) d hd
    rwa [Bool.not_eq_true'] at hplain
  · rw [h, List.mem_singleton] at hd
    rw [hd, hc]

/-- What is written for a character in an attribute is no markup, and ends a path only if the character does. -/
theorem plain_of_mem_escape {c d : Char} (hd : d ∈ escape c) :
    isMarkup d = false ∧ (endsPath d = true → d = c) := by
  rcases escape_cases c with h | ⟨h, -, hc⟩
  · have hentities : (entities.all fun p => p.2.all fun d => !isMarkup d && !endsPath d) = true := by decide
    have hplain := List.all_eq_true.1 (List.all_eq_true.1 hentities _ h) d hd
    rw [Bool.and_eq_true, Bool.not_eq_true', Bool.not_eq_true'] at hplain
    obtain ⟨hmarkup, hpath⟩ := hplain
    exact ⟨hmarkup, fun hends => by rw [hpath] at hends; cases hends⟩
  · rw [h, List.mem_singleton] at hd
    subst hd
    exact ⟨hc, fun _ => rfl⟩

/-- An attribute holds no markup and nothing that ends the path of its reference. -/
theorem plain_of_mem_reference {image : Text} {d : Char} (hd : d ∈ reference image) :
    isMarkup d = false ∧ endsPath d = false := by
  obtain ⟨c, hc, hd⟩ := List.mem_flatMap.1 hd
  obtain ⟨b, -, hc⟩ := List.mem_flatMap.1 hc
  obtain ⟨hmarkup, hends⟩ := plain_of_mem_escape hd
  refine ⟨hmarkup, Bool.eq_false_iff.2 fun hpath => ?_⟩
  rw [hends hpath, endsPath_of_mem_percentEncode hc] at hpath
  cases hpath

/-- An entity has its ampersand in front and nowhere else. -/
theorem eq_nil_of_escape_eq {c : Char} {before rest : Text} (h : escape c = before ++ '&' :: rest) :
    before = [] ∧ (c, escape c) ∈ entities := by
  rcases escape_cases c with hentity | ⟨hc, hamp, -⟩
  · have hfirst : ∀ p ∈ entities, '&' ∉ p.2.tail := by decide
    cases before with
    | nil => exact ⟨rfl, hentity⟩
    | cons b before => exact absurd (by simp [h]) (hfirst _ hentity)
  · have hmem : '&' ∈ escape c := by simp [h]
    rw [hc, List.mem_singleton] at hmem
    exact absurd hmem.symm hamp

/-- An ampersand stands in an attribute only where an entity begins. -/
theorem entity_of_ampersand {t before rest : Text} (h : t.flatMap escape = before ++ '&' :: rest) :
    ∃ p ∈ entities, p.2 <+: '&' :: rest := by
  induction t generalizing before with
  | nil => simp at h
  | cons c t ih =>
    rw [List.flatMap_cons] at h
    rcases List.append_eq_append_iff.1 h with ⟨skipped, rfl, hrest⟩ | ⟨written, hc, hrest⟩
    · exact ih hrest
    · cases written with
      | nil =>
        have hhere : t.flatMap escape = [] ++ '&' :: rest := hrest.symm
        exact ih hhere
      | cons d written =>
        obtain ⟨rfl, -⟩ := List.cons.inj hrest
        obtain ⟨rfl, hentity⟩ := eq_nil_of_escape_eq hc
        refine ⟨_, hentity, t.flatMap escape, ?_⟩
        rw [hrest, ← List.nil_append ('&' :: written), ← hc]

/-! ### Reading a page -/

/-- What stands in a page before the attribute. -/
def opening : Text := "<html><body><img src=\"".toList

/-- What stands in a page behind the attribute. -/
def closing : Text := "\" alt=\"Flowchart\"></body></html>".toList

/-- The image that a page shows: its attribute goes to the next quotation mark, and the entities in it are read
before the percent codes. -/
def image? (page : Text) : Option Text :=
  if opening <+: page then
    decode? (percentDecode (unescape ((page.drop opening.length).takeWhile (· ≠ '"'))))
  else none

/-- The attribute ends where the page ends it. -/
theorem takeWhile_attribute (image : Text) :
    ((page image).drop opening.length).takeWhile (· ≠ '"') = reference image := by
  have hpage : page image = opening ++ (reference image ++ closing) := List.append_assoc _ _ _
  have hattribute : ∀ c ∈ reference image, decide (c ≠ '"') = true := by
    intro c hc
    obtain ⟨hmarkup, -⟩ := plain_of_mem_reference hc
    refine decide_eq_true fun hquote => ?_
    subst hquote
    cases hmarkup
  rw [hpage, List.drop_left, List.takeWhile_append_of_pos hattribute]
  exact List.append_nil _

/-- A page is read back as the page of its image. -/
theorem image?_page (image : Text) : image? (page image) = some image := by
  have hopening : opening <+: page image := ⟨reference image ++ closing, (List.append_assoc _ _ _).symm⟩
  rw [image?, if_pos hopening, takeWhile_attribute, percentDecode_unescape, decode?_encode]

/-- **A page says which image it shows, and no name changes more of it than the attribute.** The attribute holds no
markup and nothing that ends the path of a reference, its ampersands are those of entities, and to read the
entities and then the percent codes gives the name back. So the markup of every page is the same, and images of
different names have different pages. -/
theorem page_reads_back (image : Text) :
    let value := reference image
    page image = opening ++ value ++ closing ∧
    (∀ c ∈ value, c ∉ "\"<>#? ".toList) ∧
    (∀ before rest, value = before ++ '&' :: rest →
      ∃ entity ∈ ["&amp;".toList, "&quot;".toList, "&lt;".toList, "&gt;".toList], entity <+: '&' :: rest) ∧
    percentDecode (unescape value) = encode image ∧
    image? (page image) = some image ∧
    (page image).filter isMarkup = (opening ++ closing).filter isMarkup ∧
    ∀ other, page other = page image → other = image := by
  refine ⟨rfl, fun c hc => ?_, fun before rest h => ?_, percentDecode_unescape image, image?_page image, ?_,
    fun other h => ?_⟩
  · obtain ⟨hmarkup, hpath⟩ := plain_of_mem_reference hc
    simp only [isMarkup, endsPath, Bool.or_eq_false_iff, beq_eq_false_iff_ne] at hmarkup hpath
    simp [hmarkup, hpath]
  · obtain ⟨p, hp, hprefix⟩ := entity_of_ampersand h
    exact ⟨p.2, List.mem_map_of_mem hp, hprefix⟩
  · have hattribute : (reference image).filter isMarkup = [] :=
      List.filter_eq_nil_iff.2 fun c hc => by simp [(plain_of_mem_reference hc).1]
    show (opening ++ reference image ++ closing).filter isMarkup = _
    rw [List.filter_append, List.filter_append, hattribute, List.append_nil, List.filter_append]
  · have himage := image?_page other
    rw [h, image?_page] at himage
    exact (Option.some.inj himage).symm

/-- A name that looks like entities, percent codes and markup. -/
example : reference "a&lt;%23\"> #".toList = "a&amp;lt;%2523&quot;&gt;%20%23".toList := by decide

end Flowchart.Page
