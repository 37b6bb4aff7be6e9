import Mathlib.Data.List.Basic
import Tabular.Proofs.Text.Split
import Tabular.Text

namespace Tabular
namespace Text

/-!
# Encodings

A sequence of bytes is an encoding when some text has it as its bytes.  The
text is then the only one, and decoding yields it.

Below U+0080 bytes and characters are the same thing, and such a byte is never
part of a longer character.  So an encoded text may be divided into lines before
or after it is decoded.  Validity is local in the same way: when every line of
a sequence of bytes is an encoding, the whole sequence is one.
-/

variable {bytes left right : List UInt8} {text : String} {byte : UInt8} {character letter : Char}

/-- The bytes are those of some text. -/
def IsEncoding (bytes : List UInt8) : Prop :=
  ∃ text, utf8 text = bytes

/-- The bytes of a text that is given by its characters. -/
def encode (characters : List Char) : List UInt8 :=
  characters.flatMap String.utf8EncodeChar

/-- A character below U+0080 and the byte that is its encoding. -/
structure IsAscii (byte : UInt8) (letter : Char) : Prop where
  small : byte < 0x80
  encoded : String.utf8EncodeChar letter = [byte]

theorem isAscii_lineFeed : IsAscii 10 '\n' := ⟨by decide, rfl⟩

theorem isAscii_carriageReturn : IsAscii 13 '\r' := ⟨by decide, rfl⟩

theorem utf8_eq_toByteArray (text : String) : utf8 text = text.toByteArray.data.toList := by
  have encoded : text.toByteArray = text.toList.utf8Encode := by
    conv_lhs => rw [← String.ofList_toList (s := text)]
    exact String.toByteArray_ofList
  rw [encoded, List.utf8Encode, List.toList_data_toByteArray, utf8]

/-- No two texts have the same bytes. -/
theorem utf8_injective : Function.Injective utf8 := by
  intro left right same
  simp only [utf8_eq_toByteArray, Array.toList_inj] at same
  exact String.toByteArray_inj.mp (ByteArray.ext same)

/-- Decoding is the inverse of encoding, in both directions. -/
theorem ofUtf8?_eq_some : ofUtf8? bytes = some text ↔ utf8 text = bytes := by
  unfold ofUtf8? String.fromUTF8?
  constructor
  · intro found
    split at found
    · cases found
      exact utf8_eq_toByteArray _
    · cases found
  · rintro rfl
    have whole : (⟨(utf8 text).toArray⟩ : ByteArray) = text.toByteArray := by
      rw [utf8_eq_toByteArray, Array.toArray_toList]
    rw [whole, dif_pos text.isValidUTF8]
    rfl

theorem utf8_ofList (characters : List Char) :
    utf8 (String.ofList characters) = encode characters :=
  congrArg encode String.toList_ofList

theorem utf8_append (first second : String) : utf8 (first ++ second) = utf8 first ++ utf8 second := by
  simp only [utf8, String.toList_append, List.flatMap_append]

theorem IsEncoding.append (first : IsEncoding left) (second : IsEncoding right) :
    IsEncoding (left ++ right) := by
  rcases first with ⟨early, rfl⟩
  rcases second with ⟨late, rfl⟩
  exact ⟨early ++ late, utf8_append early late⟩

/-- A small byte of a character is all there is of it. -/
theorem utf8EncodeChar_of_mem (small : byte < 0x80)
    (member : byte ∈ String.utf8EncodeChar character) :
    String.utf8EncodeChar character = [byte] := by
  -- In an encoding of several bytes each one carries a mark in its highest bit.
  have marked : ∀ payload mark : Nat, 0x80 ≤ mark → payload + mark < 0x100 →
      byte ≠ UInt8.ofNat (payload + mark) := by
    intro payload mark high bounded same
    have value := congrArg UInt8.toNat same
    have bound : byte.toNat < 0x80 := UInt8.lt_iff_toNat_lt.mp small
    rw [UInt8.toNat_ofNat', Nat.mod_eq_of_lt bounded] at value
    omega
  unfold String.utf8EncodeChar at member ⊢
  dsimp only at member ⊢
  split at member
  · next ascii => rw [if_pos ascii, List.mem_singleton.mp member]
  · exfalso
    split at member
    · simp only [List.mem_cons, List.not_mem_nil, or_false] at member
      rcases member with same | same <;> exact marked _ _ (by decide) (by omega) same
    · split at member
      · simp only [List.mem_cons, List.not_mem_nil, or_false] at member
        rcases member with same | same | same <;> exact marked _ _ (by decide) (by omega) same
      · simp only [List.mem_cons, List.not_mem_nil, or_false] at member
        rcases member with same | same | same | same <;>
          exact marked _ _ (by decide) (by omega) same

/-- The byte of a character below U+0080 occurs in the encoding of that character only. -/
theorem IsAscii.mem_iff (ascii : IsAscii byte letter) :
    byte ∈ String.utf8EncodeChar character ↔ character = letter := by
  constructor
  · intro member
    have same : utf8 (String.ofList [character]) = utf8 (String.ofList [letter]) := by
      simp only [utf8_ofList, encode, List.flatMap_singleton, ascii.encoded,
        utf8EncodeChar_of_mem ascii.small member]
    exact List.head_eq_of_cons_eq (String.ofList_injective (utf8_injective same))
  · rintro rfl
    rw [ascii.encoded]
    exact List.mem_singleton_self byte

/-- Comparing texts finds no difference only between a text and itself. -/
theorem compareUtf8_eq_iff {first second : String} :
    compareUtf8 first second = .eq ↔ first = second := by
  unfold compareUtf8
  exact Std.LawfulEqCmp.compare_eq_iff_eq.trans utf8_injective.eq_iff

/-! ## Encoded lines -/

variable {feedByte returnByte : UInt8} {feed carriageReturn : Char}
  {parts : List (List UInt8)} {texts : List String}

theorem encode_cons (head : Char) (rest : List Char) :
    encode (head :: rest) = String.utf8EncodeChar head ++ encode rest :=
  List.flatMap_cons

theorem encode_concat (front : List Char) (last : Char) :
    encode (front ++ [last]) = encode front ++ String.utf8EncodeChar last := by
  rw [encode, List.flatMap_append, List.flatMap_singleton, encode]

theorem encode_eq_nil_iff {text : List Char} : encode text = [] ↔ text = [] := by
  cases text with
  | nil => exact iff_of_true rfl rfl
  | cons head rest => simp [encode_cons]

/-! ## Dividing encoded texts -/

/-- The pieces of an encoded text are the encoded pieces of the text. -/
theorem pieces_encode (ascii : IsAscii byte letter) (text : List Char) :
    pieces byte (encode text) = (pieces letter text).map encode := by
  induction text with
  | nil => rfl
  | cons head rest inductionHypothesis =>
      by_cases same : head = letter
      · subst same
        rw [encode_cons, ascii.encoded, List.singleton_append, pieces, if_pos rfl, pieces,
          if_pos rfl, inductionHypothesis]
        rfl
      · have free : byte ∉ String.utf8EncodeChar head := mt ascii.mem_iff.mp same
        rw [encode_cons, pieces_append_left free, inductionHypothesis, pieces, if_neg same]
        cases pieces letter rest with
        | nil => rfl
        | cons first others => rw [List.modifyHead_cons, List.map_cons, List.map_cons,
            List.modifyHead_cons, encode_cons]

theorem dropLastIf_encode (ascii : IsAscii byte letter) (text : List Char) :
    dropLastIf (decide <| · = byte) (encode text) =
      encode (dropLastIf (decide <| · = letter) text) := by
  cases List.eq_nil_or_concat text with
  | inl empty => rw [empty]; rfl
  | inr split =>
      rcases split with ⟨front, last, rfl⟩
      rw [List.concat_eq_append, encode_concat, dropLastIf_concat]
      by_cases same : last = letter
      · rw [same, ascii.encoded, dropLastIf_concat, decide_eq_true rfl, decide_eq_true rfl,
          if_pos rfl, if_pos rfl]
      · rw [decide_eq_false same, if_neg Bool.false_ne_true, encode_concat]
        apply dropLastIf_eq_self
        intro found
        rw [List.getLast?_append_of_ne_nil _ String.utf8EncodeChar_ne_nil] at found
        exact same (ascii.mem_iff.mp (List.mem_of_getLast? found))

theorem closeLines_encode (ascii : IsAscii returnByte carriageReturn)
    (parts : List (List Char)) :
    closeLines returnByte (parts.map encode) = (closeLines carriageReturn parts).map encode := by
  induction parts with
  | nil => rfl
  | cons part others inductionHypothesis =>
      cases others with
      | nil =>
          by_cases empty : part = []
          · rw [empty]; rfl
          · have filled : encode part ≠ [] := mt encode_eq_nil_iff.mp empty
            simp only [List.map_cons, List.map_nil, closeLines, List.isEmpty_iff, filled, empty,
              if_false]
      | cons next others =>
          rw [List.map_cons] at inductionHypothesis
          simp only [List.map_cons, closeLines, dropLastIf_encode ascii, inductionHypothesis]

theorem linesOf_encode (feeds : IsAscii feedByte feed)
    (returns : IsAscii returnByte carriageReturn) (text : List Char) :
    linesOf feedByte returnByte (encode text) = (linesOf feed carriageReturn text).map encode := by
  rw [linesOf, pieces_encode feeds, closeLines_encode returns, linesOf]

/-- The lines of the bytes of a text are the bytes of its lines. -/
theorem linesOf_utf8 (text : String) : linesOf 10 13 (utf8 text) = (lines text).map utf8 := by
  rw [lines, List.map_map]
  refine (linesOf_encode isAscii_lineFeed isAscii_carriageReturn text.toList).trans ?_
  exact List.map_congr_left fun line _ => (utf8_ofList line).symm

/-! ## Dividing arbitrary bytes -/

theorem IsAscii.isEncoding (ascii : IsAscii byte letter) : IsEncoding [byte] :=
  ⟨String.ofList [letter], by rw [utf8_ofList, encode, List.flatMap_singleton, ascii.encoded]⟩

theorem isEncoding_nil : IsEncoding [] :=
  ⟨"", rfl⟩

theorem isEncoding_intercalate (ascii : IsAscii byte letter)
    (each : ∀ part ∈ parts, IsEncoding part) : IsEncoding ([byte].intercalate parts) := by
  induction parts with
  | nil => exact isEncoding_nil
  | cons part others inductionHypothesis =>
      rw [List.forall_mem_cons] at each
      cases others with
      | nil => simpa using each.1
      | cons next others =>
          rw [List.intercalate_cons_cons]
          exact (each.1.append ascii.isEncoding).append (inductionHypothesis each.2)

/-- What is dropped at the end of a line is an encoding, so the line in full is one. -/
theorem isEncoding_of_dropLastIf (ascii : IsAscii byte letter)
    (rest : IsEncoding (dropLastIf (decide <| · = byte) bytes)) : IsEncoding bytes := by
  cases List.eq_nil_or_concat bytes with
  | inl empty => rw [empty]; exact isEncoding_nil
  | inr split =>
      rcases split with ⟨front, last, rfl⟩
      rw [List.concat_eq_append] at rest ⊢
      rw [dropLastIf_concat] at rest
      split at rest
      · next dropped =>
          rw [of_decide_eq_true dropped]
          exact rest.append ascii.isEncoding
      · exact rest

theorem isEncoding_of_closeLines (ascii : IsAscii returnByte carriageReturn)
    (each : ∀ line ∈ closeLines returnByte parts, IsEncoding line) :
    ∀ part ∈ parts, IsEncoding part := by
  induction parts with
  | nil => exact List.forall_mem_nil _
  | cons part others inductionHypothesis =>
      cases others with
      | nil =>
          rw [List.forall_mem_singleton]
          by_cases empty : part = []
          · rw [empty]; exact isEncoding_nil
          · apply each
            rw [closeLines, if_neg (mt List.isEmpty_iff.mp empty)]
            exact List.mem_cons_self
      | cons next others =>
          rw [closeLines, List.forall_mem_cons] at each
          rw [List.forall_mem_cons]
          exact ⟨isEncoding_of_dropLastIf ascii each.1, inductionHypothesis each.2⟩

/-- Bytes are an encoding when each of their lines is. -/
theorem isEncoding_of_linesOf (feeds : IsAscii feedByte feed)
    (returns : IsAscii returnByte carriageReturn)
    (each : ∀ line ∈ linesOf feedByte returnByte bytes, IsEncoding line) : IsEncoding bytes := by
  rw [← intercalate_pieces feedByte bytes]
  exact isEncoding_intercalate feeds (isEncoding_of_closeLines returns each)

/-- Decoding succeeds on the bytes of texts, with these texts, and on nothing else. -/
theorem mapM_ofUtf8?_eq_some : parts.mapM ofUtf8? = some texts ↔ parts = texts.map utf8 := by
  induction parts generalizing texts with
  | nil => cases texts <;> simp
  | cons part others inductionHypothesis =>
      simp only [List.mapM_cons, Option.bind_eq_bind, Option.bind_eq_some_iff, ofUtf8?_eq_some,
        inductionHypothesis, Option.pure_def, Option.some.injEq]
      constructor
      · rintro ⟨text, rfl, later, rfl, rfl⟩
        rfl
      · intro same
        cases texts with
        | nil => cases same
        | cons text later =>
            rcases List.cons.inj same with ⟨rfl, rfl⟩
            exact ⟨text, rfl, later, rfl, rfl⟩

end Text
end Tabular
