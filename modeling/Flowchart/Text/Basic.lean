/-!
Texts are lists of characters. Offsets into a text count the bytes of its UTF-8 form, so
`byteSize` is the length that positions are measured in.
-/

namespace Flowchart

/-- A text, read and written character by character. -/
abbrev Text := List Char

namespace Text

instance decidableMem (t : Text) (ts : List Text) : Decidable (t ∈ ts) := inferInstance

/-- The length of a text in bytes. -/
def byteSize : Text → Nat
  | [] => 0
  | c :: rest => c.utf8Size + byteSize rest

@[simp] theorem byteSize_nil : byteSize [] = 0 := rfl

@[simp] theorem byteSize_cons (c : Char) (t : Text) :
    byteSize (c :: t) = c.utf8Size + byteSize t := rfl

@[simp] theorem byteSize_append (s t : Text) : byteSize (s ++ t) = byteSize s + byteSize t := by
  induction s with
  | nil => simp
  | cons c s ih => simp [ih, Nat.add_assoc]

/-- The part of a text between two byte offsets, empty where they cut no text out. A character that an
offset falls into belongs to what follows the offset. -/
def slice (t : Text) (start stop : Nat) : Text :=
  match t with
  | [] => []
  | c :: rest =>
    if stop = 0 then [] else
      if start = 0 then c :: slice rest 0 (stop - c.utf8Size)
      else slice rest (start - c.utf8Size) (stop - c.utf8Size)

/-- Drops one character from the end of a text if it is `c`. -/
def dropLastIf (c : Char) (t : Text) : Text :=
  if t.getLast? = some c then t.dropLast else t

@[simp] theorem dropLastIf_nil (c : Char) : dropLastIf c [] = [] := rfl

theorem dropLastIf_concat (c d : Char) (t : Text) :
    dropLastIf c (t ++ [d]) = if d = c then t else t ++ [d] := by
  simp [dropLastIf]

/-- The text before the first `c` and the text after it. -/
def cut? (c : Char) : Text → Option (Text × Text)
  | [] => none
  | d :: rest => if d = c then some ([], rest) else (cut? c rest).map fun p => (d :: p.1, p.2)

theorem cut?_eq_some {c : Char} {t u v : Text} : cut? c t = some (u, v) ↔ t = u ++ c :: v ∧ c ∉ u := by
  induction t generalizing u with
  | nil => simp [cut?]
  | cons d rest ih =>
    by_cases hd : d = c
    · subst hd
      cases u with
      | nil => simp [cut?, eq_comm]
      | cons e u => simp +contextual [cut?, eq_comm]
    · cases u with
      | nil => simp [cut?, hd]
      | cons e u =>
        constructor
        · intro h
          simp only [cut?, if_neg hd, Option.map_eq_some_iff, Prod.mk.injEq, List.cons.injEq] at h
          obtain ⟨⟨u', v'⟩, h', ⟨rfl, rfl⟩, rfl⟩ := h
          obtain ⟨rfl, hc⟩ := ih.1 h'
          exact ⟨rfl, by simp [hc, Ne.symm hd]⟩
        · rintro ⟨h, hc⟩
          simp only [List.cons_append, List.cons.injEq] at h
          obtain ⟨rfl, h⟩ := h
          have := (ih (u := u)).2 ⟨h, fun hu => hc (List.mem_cons_of_mem _ hu)⟩
          simp [cut?, hd, this]

theorem cut?_eq_none {c : Char} {t : Text} : cut? c t = none ↔ c ∉ t := by
  induction t with
  | nil => simp [cut?]
  | cons d rest ih =>
    by_cases hd : d = c
    · simp [cut?, hd]
    · simp [cut?, hd, ih, Ne.symm hd]

/-- The texts between the occurrences of `c`: one more than there are occurrences. -/
def splitAt (c : Char) : Text → List Text
  | [] => [[]]
  | d :: rest =>
    if d = c then [] :: splitAt c rest
    else match splitAt c rest with
      | [] => [[d]]
      | piece :: pieces => (d :: piece) :: pieces

/-- Whether a text stands before another, or at the same place, in the order of code points. -/
def precedes : Text → Text → Bool
  | [], _ => true
  | _ :: _, [] => false
  | c :: s, d :: t => if c = d then precedes s t else c.toNat < d.toNat

end Text

end Flowchart
