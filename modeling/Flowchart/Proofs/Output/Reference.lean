import Flowchart.Output.Reference
import Flowchart.Proofs.Output.Page
import Flowchart.Proofs.Text.Run

/-! The reference of a page to its image.

A reference is resolved next to the page it stands on if it is a path and nothing else. It
is divided behind its scheme by slashes, question marks and number signs: a name has
no slash and the percent codes keep the other two away (`divides_of_mem_flatMap_percentEncode`).
A colon is written as it is, so the scheme of a reference is what the name has before its
first colon, and only a name without one, or with nothing before it, is a path:
`ofText_referred`. -/
namespace Flowchart

open Text

namespace Reference

/-- The reference that is a path and nothing else. -/
def ofPath (path : Text) : Reference :=
  { scheme? := none, authority? := none, path, query? := none, fragment? := none }

/-- Whether a character divides what follows the scheme of a reference. -/
def divides (c : Char) : Bool := c == '/' || c == '?' || c == '#'

theorem divides_eq_false_iff {c : Char} : divides c = false ↔ c ≠ '/' ∧ c ≠ '?' ∧ c ≠ '#' := by
  simp [divides, and_assoc]

/-! ### Schemes -/

theorem cutScheme_of_not_mem {t : Text} (h : ':' ∉ t) : cutScheme t = (none, t) := by
  unfold cutScheme
  dsimp only
  split
  · rename_i hrest
    exact absurd ((List.dropWhile_sublist _).subset (hrest ▸ List.mem_cons_self)) h
  · rfl

/-- Nothing stands before a colon that comes first. -/
theorem cutScheme_colon (rest : Text) : cutScheme (':' :: rest) = (none, ':' :: rest) := rfl

theorem cutScheme_append {scheme : Text} (hne : scheme ≠ []) (hcolon : ':' ∉ scheme)
    (hdivides : ∀ c ∈ scheme, divides c = false) (rest : Text) :
    cutScheme (scheme ++ ':' :: rest) = (some scheme, rest) := by
  obtain ⟨c, name, rfl⟩ := List.exists_cons_of_ne_nil hne
  have hrun : ∀ d ∈ c :: name, (!(d == ':' || d == '/' || d == '?' || d == '#')) = true := by
    intro d hd
    have hne : d ≠ ':' := by
      rintro rfl
      exact hcolon hd
    simp [hne, divides_eq_false_iff.1 (hdivides d hd)]
  have hstop : Stops (fun d => !(d == ':' || d == '/' || d == '?' || d == '#')) (':' :: rest) :=
    stops_cons.2 (by decide)
  unfold cutScheme
  dsimp only
  rw [takeWhile_run hrun hstop, dropWhile_run hrun hstop]
  rfl

/-! ### Paths -/

/-- What nothing divides behind the scheme is the path. -/
theorem ofText_of_cutScheme {t path : Text} {scheme? : Option Text} (h : cutScheme t = (scheme?, path))
    (hdivides : ∀ c ∈ path, divides c = false) : ofText t = { ofPath path with scheme? } := by
  have hauthority : cutAuthority path = (none, path) := by
    unfold cutAuthority
    split
    · exact absurd (hdivides '/' List.mem_cons_self) (by decide)
    · rfl
  have hrun : ∀ c ∈ path, (!(c == '?' || c == '#')) = true := by
    intro c hc
    simp [divides_eq_false_iff.1 (hdivides c hc)]
  have htake := takeWhile_run hrun (stops_nil (p := fun c => !(c == '?' || c == '#')))
  have hdrop := dropWhile_run hrun (stops_nil (p := fun c => !(c == '?' || c == '#')))
  rw [List.append_nil] at htake hdrop
  unfold ofText
  simp only [h, hauthority, htake, hdrop]
  rfl

end Reference

namespace Page

/-! ### The name in a reference -/

/-- The reference of a page to its image: the value of the attribute, its entities replaced. -/
def referred (page : Text) : Text := unescape ((page.drop opening.length).takeWhile (· ≠ '"'))

theorem referred_page (image : Text) : referred (page image) = image.flatMap percentEncode := by
  rw [referred, takeWhile_attribute, reference, unescape_flatMap_escape]

theorem percentEncode_ne_nil (c : Char) : percentEncode c ≠ [] := by
  rcases percentEncode_cases c with h | ⟨h, -, -⟩
  · have hcodes : (codes.all fun p => !p.2.isEmpty) = true := by decide
    have hcode := List.all_eq_true.1 hcodes _ h
    simpa using hcode
  · rw [h]
    exact List.cons_ne_nil c []

/-- No percent code holds a slash or a colon: in a reference they are those of the name. -/
theorem mem_of_mem_flatMap_percentEncode {t : Text} {d : Char} (hd : d ∈ t.flatMap percentEncode)
    (hkept : d = '/' ∨ d = ':') : d ∈ t := by
  obtain ⟨c, hc, hdc⟩ := List.mem_flatMap.1 hd
  rcases percentEncode_cases c with h | ⟨h, -, -⟩
  · have hcodes : (codes.all fun p => p.2.all fun d => d != '/' && d != ':') = true := by decide
    have hcode := List.all_eq_true.1 (List.all_eq_true.1 hcodes _ h) d hdc
    rcases hkept with rfl | rfl <;> simp at hcode
  · rw [h, List.mem_singleton] at hdc
    rwa [hdc]

theorem divides_of_mem_flatMap_percentEncode {t : Text} (hslash : '/' ∉ t) :
    ∀ d ∈ t.flatMap percentEncode, Reference.divides d = false := by
  intro d hd
  obtain ⟨c, hc, hdc⟩ := List.mem_flatMap.1 hd
  have hne : d ≠ '/' := by
    rintro rfl
    exact hslash (mem_of_mem_flatMap_percentEncode hd (.inl rfl))
  obtain ⟨⟨hnumber, hquestion⟩, -⟩ : (d ≠ '#' ∧ d ≠ '?') ∧ d ≠ ' ' := by
    simpa [endsPath] using endsPath_of_mem_percentEncode hdc
  exact Reference.divides_eq_false_iff.2 ⟨hne, hquestion, hnumber⟩

/-- A name without a colon is a path in its reference. -/
theorem ofText_of_not_mem {t : Text} (hslash : '/' ∉ t) (hcolon : ':' ∉ t) :
    Reference.ofText (t.flatMap percentEncode) = Reference.ofPath (t.flatMap percentEncode) :=
  Reference.ofText_of_cutScheme
    (Reference.cutScheme_of_not_mem fun h => hcolon (mem_of_mem_flatMap_percentEncode h (.inr rfl)))
    (divides_of_mem_flatMap_percentEncode hslash)

/-- What a name has before its first colon is the scheme of its reference, unless nothing stands there. -/
theorem ofText_of_colon {scheme rest : Text} (hslash : '/' ∉ scheme ++ ':' :: rest) (hcolon : ':' ∉ scheme) :
    Reference.ofText ((scheme ++ ':' :: rest).flatMap percentEncode) =
      if scheme = [] then Reference.ofPath ((scheme ++ ':' :: rest).flatMap percentEncode)
      else { Reference.ofPath (rest.flatMap percentEncode) with scheme? := some (scheme.flatMap percentEncode) } := by
  have hwritten : (scheme ++ ':' :: rest).flatMap percentEncode =
      scheme.flatMap percentEncode ++ ':' :: rest.flatMap percentEncode := by
    rw [List.flatMap_append, List.flatMap_cons]
    rfl
  have hdivides := divides_of_mem_flatMap_percentEncode hslash
  split
  · rename_i hempty
    subst hempty
    exact Reference.ofText_of_cutScheme (Reference.cutScheme_colon _) hdivides
  · rename_i hne
    rw [hwritten] at hdivides ⊢
    have hwrittenNe : scheme.flatMap percentEncode ≠ [] := by
      obtain ⟨c, name, rfl⟩ := List.exists_cons_of_ne_nil hne
      rw [List.flatMap_cons]
      exact List.append_ne_nil_of_left_ne_nil (percentEncode_ne_nil c) _
    have hcut := Reference.cutScheme_append hwrittenNe
      (fun h => hcolon (mem_of_mem_flatMap_percentEncode h (.inr rfl)))
      (fun c hc => hdivides c (List.mem_append_left _ hc)) (rest.flatMap percentEncode)
    exact Reference.ofText_of_cutScheme hcut
      fun c hc => hdivides c (List.mem_append_right _ (List.mem_cons_of_mem _ hc))

/-- **The reference of a page is a path and nothing else exactly if nothing in the image's name stands before a
colon.** Otherwise what stands before the first colon is read as a scheme, and what stands behind it as the path;
no name makes an authority, a query or a fragment. -/
theorem ofText_referred {image : Text} (hslash : '/' ∉ image) :
    let value := referred (page image)
    (Reference.ofText value = Reference.ofPath value ↔ ':' ∉ image ∨ image.head? = some ':') ∧
      ∀ scheme rest, image = scheme ++ ':' :: rest → ':' ∉ scheme → scheme ≠ [] →
        Reference.ofText value =
          { Reference.ofPath (rest.flatMap percentEncode) with scheme? := some (scheme.flatMap percentEncode) } := by
  intro value
  have hvalue : value = image.flatMap percentEncode := referred_page image
  rw [hvalue]
  constructor
  · cases hcut : cut? ':' image with
    | none =>
      have hcolon := cut?_eq_none.1 hcut
      exact ⟨fun _ => .inl hcolon, fun _ => ofText_of_not_mem hslash hcolon⟩
    | some p =>
      obtain ⟨rfl, hcolon⟩ := cut?_eq_some.1 hcut
      rw [ofText_of_colon hslash hcolon]
      split
      · rename_i hempty
        rw [hempty]
        exact ⟨fun _ => .inr rfl, fun _ => rfl⟩
      · rename_i hne
        constructor
        · intro h
          cases congrArg Reference.scheme? h
        · obtain ⟨c, name, hscheme⟩ := List.exists_cons_of_ne_nil hne
          rintro (hnone | hhead)
          · simp at hnone
          · rw [hscheme] at hcolon hhead
            cases hhead
            simp at hcolon
  · rintro scheme rest rfl hcolon hne
    rw [ofText_of_colon hslash hcolon, if_neg hne]

/-- A name whose number sign, question mark, blank, percent sign and ampersand are kept from the reference. -/
theorem ofText_referred_awkward :
    let image := "50% a&b #1?.png".toList
    '/' ∉ image ∧ Reference.ofText (referred (page image)) = Reference.ofPath "50%25%20a&b%20%231%3F.png".toList := by
  intro image
  have hslash : '/' ∉ image := by decide
  exact ⟨hslash, (ofText_referred hslash).1.2 (.inl (by decide))⟩

/-- A name before a colon is read as a scheme. -/
theorem ofText_referred_colon_ne_ofPath :
    let image := "a:b.png".toList
    image ≠ [] ∧ '/' ∉ image ∧ referred (page image) = image ∧
      Reference.ofText image = ⟨some "a".toList, none, "b.png".toList, none, none⟩ ∧
      Reference.ofText (referred (page image)) ≠ Reference.ofPath (referred (page image)) := by
  decide +kernel

end Page

end Flowchart
