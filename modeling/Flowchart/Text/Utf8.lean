import Flowchart.Text.Basic

/-!
Texts and bytes. `encode` writes a text in UTF-8 and `decode?` reads it back; `lossy` reads any bytes and
puts a replacement character where they are not UTF-8, one for each longest start of a character that is
not finished.
-/

namespace Flowchart

/-- The content of a file or a stream. -/
abbrev Bytes := List UInt8

namespace Text

def encode (t : Text) : Bytes := t.flatMap String.utf8EncodeChar

/-- The text of some bytes, `none` if they are not UTF-8. -/
def decode? (bytes : Bytes) : Option Text := (String.fromUTF8? bytes.toByteArray).map String.toList

@[simp] theorem encode_nil : encode [] = [] := rfl

@[simp] theorem encode_append (s t : Text) : encode (s ++ t) = encode s ++ encode t := List.flatMap_append

theorem decode?_encode (t : Text) : decode? (encode t) = some t := by
  have bytes : (encode t).toByteArray = (String.ofList t).toByteArray := String.toByteArray_ofList.symm
  unfold decode? String.fromUTF8?
  rw [bytes, dif_pos (String.ofList t).isValidUTF8]
  exact congrArg some String.toList_ofList

/-- Bytes are read as a text exactly if they are what the text is written as. -/
theorem decode?_eq_some_iff {bytes : Bytes} {t : Text} : decode? bytes = some t ↔ bytes = encode t := by
  constructor
  · intro h
    unfold decode? String.fromUTF8? at h
    split at h
    · rename_i hvalid
      obtain rfl : (String.fromUTF8 bytes.toByteArray hvalid).toList = t := Option.some.inj h
      have hwritten := String.toByteArray_ofList (l := (String.fromUTF8 bytes.toByteArray hvalid).toList)
      rw [String.ofList_toList] at hwritten
      exact List.toByteArray_inj.1 hwritten
    · cases h
  · rintro rfl
    exact decode?_encode t

/-- Whether a byte goes on a character. -/
def continues (b : UInt8) : Bool := 0x80 ≤ b && b ≤ 0xbf

/-- The number of bytes that go on a character which starts with the given byte, zero if none does. -/
def continuations (lead : UInt8) : Nat :=
  if 0xc2 ≤ lead ∧ lead ≤ 0xdf then 1
  else if 0xe0 ≤ lead ∧ lead ≤ 0xef then 2
  else if 0xf0 ≤ lead ∧ lead ≤ 0xf4 then 3
  else 0

/-- Whether a byte may follow the first byte of a character. -/
def follows (lead b : UInt8) : Bool :=
  if lead = 0xe0 then 0xa0 ≤ b && b ≤ 0xbf
  else if lead = 0xed then 0x80 ≤ b && b ≤ 0x9f
  else if lead = 0xf0 then 0x90 ≤ b && b ≤ 0xbf
  else if lead = 0xf4 then 0x80 ≤ b && b ≤ 0x8f
  else continues b

/-- The bits of a byte that goes on a character. -/
def payload (b : UInt8) : Nat := b.toNat % 64

/-- Reads bytes as UTF-8, with replacement characters. -/
def lossy : Bytes → Text
  | [] => []
  | [a] => [if a < 0x80 then Char.ofNat a.toNat else '\ufffd']
  | a :: b :: rest =>
    let n := continuations a
    if a < 0x80 then Char.ofNat a.toNat :: lossy (b :: rest)
    else if n = 0 ∨ ¬ follows a b then '\ufffd' :: lossy (b :: rest)
    else if n = 1 then Char.ofNat (a.toNat % 32 * 64 + payload b) :: lossy rest
    else match rest with
      | [] => ['\ufffd']
      | c :: rest =>
        if ¬ continues c then '\ufffd' :: lossy (c :: rest)
        else if n = 2 then Char.ofNat ((a.toNat % 16 * 64 + payload b) * 64 + payload c) :: lossy rest
        else match rest with
          | [] => ['\ufffd']
          | d :: rest =>
            if ¬ continues d then '\ufffd' :: lossy (d :: rest)
            else
              Char.ofNat (((a.toNat % 8 * 64 + payload b) * 64 + payload c) * 64 + payload d)
                :: lossy rest

end Text

end Flowchart
