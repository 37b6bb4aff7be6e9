import Mathlib.Order.Defs.LinearOrder
import Mathlib.Data.List.Lex
import Tabular.Proofs.Text.Utf8

namespace Tabular
namespace Text

/-!
# The order of encodings

The bytes of single characters come in the order of the code points, because the
marks on the first bytes of the four forms ascend with the length of the form.

Two encodings have to differ before either of them ends, or else the bytes of
the next character would be compared with the rest of this one.  The order is
therefore proved with arbitrary bytes behind each of them.
-/

variable {first second : List UInt8} {left right : List Char} {low high : Nat}

/-- The code points of a text, in order. -/
def codePoints (text : String) : List Nat :=
  text.toList.map Char.toNat

/-! ## Single characters -/

/-- The bytes that encode a code point.  The digits stand in the low bits, and
only the first byte tells how many there are. -/
inductive Encodes : Nat → List UInt8 → Prop where
  | one {code : Nat} (small : code < 0x80) : Encodes code [.ofNat code]
  | two {code lead last : Nat} (digits : code = 64 * lead + last) (long : 0x80 ≤ code)
      (leads : lead < 0x20) (lasts : last < 64) :
      Encodes code [.ofNat (lead + 0xC0), .ofNat (last + 0x80)]
  | three {code lead middle last : Nat} (digits : code = 64 * (64 * lead + middle) + last)
      (long : 0x800 ≤ code) (leads : lead < 0x10) (middles : middle < 64) (lasts : last < 64) :
      Encodes code [.ofNat (lead + 0xE0), .ofNat (middle + 0x80), .ofNat (last + 0x80)]
  | four {code lead upper lower last : Nat}
      (digits : code = 64 * (64 * (64 * lead + upper) + lower) + last) (long : 0x10000 ≤ code)
      (leads : lead < 0x08) (uppers : upper < 64) (lowers : lower < 64) (lasts : last < 64) :
      Encodes code
        [.ofNat (lead + 0xF0), .ofNat (upper + 0x80), .ofNat (lower + 0x80), .ofNat (last + 0x80)]

theorem toNat_lt (character : Char) : character.toNat < 0x110000 := by
  rcases character.valid with below | ⟨-, above⟩
  · exact Nat.lt_trans below (by decide)
  · exact above

/-- Every character is encoded in one of the forms. -/
theorem encodes_utf8EncodeChar (character : Char) :
    Encodes character.toNat (String.utf8EncodeChar character) := by
  have bound := toNat_lt character
  rw [Char.toNat] at bound ⊢
  unfold String.utf8EncodeChar
  generalize character.val.toNat = code at bound ⊢
  dsimp only
  split
  · exact .one (by omega)
  · split
    · exact .two (by omega) (by omega) (by omega) (by omega)
    · split
      · exact .three (by omega) (by omega) (by omega) (by omega) (by omega)
      · exact .four (by omega) (by omega) (by omega) (by omega) (by omega) (by omega)

/-- The encoding of a smaller code point is below that of a greater one, and
differs from it before either ends. -/
theorem Encodes.append_lt_append (lower : Encodes low first) (higher : Encodes high second)
    (less : low < high) (late later : List UInt8) : first ++ late < second ++ later := by
  -- Forms of different lengths differ in the first byte, forms of one length in some digit.
  cases lower <;> cases higher <;>
    simp only [List.cons_append, List.nil_append, List.cons_lt_cons_iff, UInt8.lt_iff_toNat_lt,
      ← UInt8.toNat_inj, UInt8.toNat_ofNat'] <;>
    omega

/-! ## Texts -/

theorem encode_lt_encode (less : left.map Char.toNat < right.map Char.toNat) :
    encode left < encode right := by
  induction left generalizing right with
  | nil => cases right with
    | nil => exact absurd less (List.not_lt_nil _)
    | cons head rest =>
        have filled := mt encode_eq_nil_iff.mp (List.cons_ne_nil head rest)
        rcases List.exists_cons_of_ne_nil filled with ⟨byte, bytes, same⟩
        rw [same]
        exact List.nil_lt_cons byte bytes
  | cons head rest inductionHypothesis => cases right with
    | nil => exact absurd less (List.not_lt_nil _)
    | cons other others =>
        rw [List.map_cons, List.map_cons, List.cons_lt_cons_iff] at less
        rw [encode_cons, encode_cons]
        rcases less with earlier | ⟨same, later⟩
        · exact (encodes_utf8EncodeChar head).append_lt_append (encodes_utf8EncodeChar other)
            earlier _ _
        · rw [Char.toNat_inj.mp same]
          exact List.append_left_lt (inductionHypothesis later)

theorem codePoints_injective : Function.Injective codePoints := by
  intro left right same
  have characters := List.map_injective_iff.mpr (fun _ _ => Char.toNat_inj.mp) same
  exact String.toList_inj.mp characters

/-- Texts have their encodings in the order of their code points. -/
theorem utf8_lt_iff {left right : String} :
    utf8 left < utf8 right ↔ codePoints left < codePoints right := by
  constructor
  · intro less
    rcases lt_trichotomy (codePoints left) (codePoints right) with smaller | same | greater
    · exact smaller
    · rw [codePoints_injective same] at less
      exact absurd less (List.lt_irrefl _)
    · exact absurd less (List.lt_asymm (encode_lt_encode greater))
  · exact encode_lt_encode

/-! ## Comparing -/

/-- Bytes are compared in the lexicographic order of lists. -/
theorem compareLex_eq_lt_iff : List.compareLex compare first second = .lt ↔ first < second := by
  induction first generalizing second with
  | nil => cases second with
    | nil => exact iff_of_false nofun (List.not_lt_nil _)
    | cons other others => exact iff_of_true rfl (List.nil_lt_cons other others)
  | cons head rest inductionHypothesis => cases second with
    | nil => exact iff_of_false nofun (List.not_lt_nil _)
    | cons other others =>
        rw [List.compareLex_cons_cons, Ordering.then_eq_lt, Std.compare_eq_lt,
          Std.LawfulEqCmp.compare_eq_iff_eq, inductionHypothesis, List.cons_lt_cons_iff]

theorem compareUtf8_eq_lt_iff {left right : String} :
    compareUtf8 left right = .lt ↔ utf8 left < utf8 right :=
  compareLex_eq_lt_iff

theorem compareUtf8_eq_gt_iff {left right : String} :
    compareUtf8 left right = .gt ↔ utf8 right < utf8 left := by
  rw [compareUtf8, Std.OrientedCmp.gt_iff_lt, compareLex_eq_lt_iff]

end Text
end Tabular
