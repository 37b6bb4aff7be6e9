import Mathlib.Data.List.Basic
import Tabular.Row
import Tabular.Proofs.Text.Recovery
import Tabular.Proofs.Text.Split

namespace Tabular
namespace Json

/-!
# Documents that give their value back

A character inside a string is written in one of three forms, none of which
starts with a quotation mark or holds a raw line feed.  So a string ends at the
first mark that does not belong to a form.

An item of an array or an object tells where it ends, with one exception: a
number ends only where the digits do.  `SelfContained` collects what is needed
of a way of writing values before it can be used for items or members.
-/

/-! ## Escapes -/

/-- The letters of the short forms, each with the character it stands for. -/
def shortForms : List (Char × Char) :=
  [('"', '"'), ('\\', '\\'), ('b', '\x08'), ('f', '\x0c'), ('n', '\n'), ('r', '\r'), ('t', '\t')]

/-- The three ways in which a character is written inside a string. -/
inductive Written : Char → List Char → Prop where
  | plain {character : Char} (unquoted : character ≠ '"') (unescaped : character ≠ '\\')
      (printable : 0x20 ≤ character.toNat) : Written character [character]
  | short {letter character : Char} (listed : shortForms.lookup letter = some character) :
      Written character ['\\', letter]
  | coded {character : Char} (control : character.toNat < 0x20) :
      Written character ['\\', 'u', '0', '0', Nat.digitChar (character.toNat / 16),
        Nat.digitChar (character.toNat % 16)]

theorem written_escape (character : Char) : Written character (escape character) := by
  unfold escape
  split_ifs with quote backslash backspace formFeed lineFeed carriageReturn tab control
  · subst quote; exact .short rfl
  · subst backslash; exact .short rfl
  · subst backspace; exact .short rfl
  · subst formFeed; exact .short rfl
  · subst lineFeed; exact .short rfl
  · subst carriageReturn; exact .short rfl
  · subst tab; exact .short rfl
  · exact .coded control
  · exact .plain quote backslash (Nat.le_of_not_lt control)

/-- The value of a hexadecimal digit in small letters. -/
def hexValue (digit : Char) : Nat :=
  if digit.isDigit then digit.toNat - '0'.toNat else digit.toNat - 'a'.toNat + 10

theorem hexValue_digitChar : ∀ value < 16, hexValue (Nat.digitChar value) = value := by
  decide

/-- The character whose written form a text starts with. -/
def unescape? : List Char → Option Char
  | '\\' :: 'u' :: '0' :: '0' :: high :: low :: _ =>
      some (Char.ofNat (16 * hexValue high + hexValue low))
  | '\\' :: letter :: _ => shortForms.lookup letter
  | text => text.head?

theorem unescape?_append {character : Char} {form : List Char} (written : Written character form)
    (rest : List Char) : unescape? (form ++ rest) = some character := by
  cases written with
  | plain unquoted unescaped printable =>
      rw [List.singleton_append]
      unfold unescape?
      split
      · next same => exact absurd (List.cons.inj same).1 unescaped
      · next same => exact absurd (List.cons.inj same).1 unescaped
      · rfl
  | short listed =>
      rw [List.cons_append, List.singleton_append]
      unfold unescape?
      split
      -- No short form has the letter of the coded one.
      · next same =>
          rcases List.cons.inj (List.cons.inj same).2 with ⟨rfl, -⟩
          cases listed
      · next same =>
          rcases List.cons.inj (List.cons.inj same).2 with ⟨rfl, -⟩
          exact listed
      · next other => exact absurd rfl (other _ _)
  | coded control =>
      have high := hexValue_digitChar (character.toNat / 16) (by omega)
      have low := hexValue_digitChar (character.toNat % 16) (by omega)
      have whole : 16 * (character.toNat / 16) + character.toNat % 16 = character.toNat := by omega
      simp only [List.cons_append, unescape?, high, low, whole, Char.ofNat_toNat]

/-- The form of a character ends by itself. -/
theorem recoverable_escape : Text.Recoverable (fun _ => True) escape := by
  apply Text.Recoverable.of_read unescape? (fun _ _ => Option.some.inj)
  intro character rest _
  exact unescape?_append (written_escape character) rest

theorem Written.head?_append {character : Char} {form : List Char}
    (written : Written character form) (rest : List Char) :
    (form ++ rest).head? ≠ some '"' := by
  cases written with
  | plain unquoted => exact fun same => unquoted (Option.some.inj same)
  | short => simp
  | coded => simp

theorem digitChar_ne_lineFeed : ∀ value < 16, Nat.digitChar value ≠ '\n' := by
  decide

theorem Written.lineFeed_not_mem {character : Char} {form : List Char}
    (written : Written character form) : '\n' ∉ form := by
  cases written with
  | plain unquoted unescaped printable =>
      rw [List.mem_singleton]
      rintro rfl
      exact absurd printable (by decide)
  | short listed =>
      rw [List.mem_cons, List.mem_singleton]
      rintro (same | rfl)
      · cases same
      · cases listed
  | coded control =>
      have high := digitChar_ne_lineFeed (character.toNat / 16) (by omega)
      have low := digitChar_ne_lineFeed (character.toNat % 16) (by omega)
      simp [high.symm, low.symm]

/-! ## Documents -/

/-- What may stand behind a document.  A digit would go on with a number. -/
def NoDigitAhead (rest : List Char) : Prop :=
  ∀ head ∈ rest.head?, head.isDigit = false

/-- A way of writing values as documents that stand on one line and give their values back. -/
structure SelfContained {α : Type} (write : α → String) : Prop where
  recoverable : Text.Recoverable NoDigitAhead fun value => (write value).toList
  /-- A document is not empty, and it does not start like the end of an array. -/
  opens : ∀ value rest, ((write value).toList ++ rest).head? ≠ some ']'
  oneLine : ∀ value, '\n' ∉ (write value).toList

variable {α β : Type} {write : α → String}

theorem string_toList (text : String) :
    (string text).toList = '"' :: (text.toList.flatMap escape ++ ['"']) := by
  simp [string]

theorem array_toList (items : List String) :
    (array items).toList =
      '[' :: ([','].intercalate (items.map String.toList) ++ [']']) := by
  simp [array]

theorem object_toList (members : List (String × String)) :
    (object members).toList =
      '\x7b' :: ([','].intercalate (members.map fun member =>
        (string member.1).toList ++ [':'] ++ member.2.toList) ++ ['\x7d']) := by
  simp [object, Function.comp_def]

theorem noDigitAhead_cons {head : Char} (other : head.isDigit = false) (rest : List Char) :
    NoDigitAhead (head :: rest) := by
  intro first same
  rw [← Option.some.inj same]
  exact other

theorem lineFeed_not_mem_intercalate {parts : List (List Char)}
    (free : ∀ part ∈ parts, '\n' ∉ part) : '\n' ∉ [','].intercalate parts := by
  have none : parts.flatten.count '\n' = 0 := by
    rw [List.count_eq_zero, List.mem_flatten]
    rintro ⟨part, member, inside⟩
    exact free part member inside
  have comma : '\n' ∉ [','] := by decide
  rw [← Text.count_intercalate comma] at none
  exact List.count_eq_zero.mp none

/-- A string is over at the first quotation mark that belongs to no escape. -/
theorem recoverable_string :
    Text.Recoverable (fun _ => True) fun text => (string text).toList := by
  have content : Text.Recoverable (fun _ => True) fun characters : List Char =>
      characters.flatMap escape ++ ['"'] :=
    recoverable_escape.flatMap (fun character => (written_escape character).head?_append)
      fun _ _ => trivial
  have texts : Function.Injective String.toList := fun _ _ => String.toList_inj.mp
  simp only [string_toList]
  exact (content.comp texts).prepend ['"']

theorem selfContained_string : SelfContained string where
  recoverable := recoverable_string.restrict fun _ _ => trivial
  opens text rest := by simp [string_toList]
  oneLine text := by
    have content : '\n' ∉ text.toList.flatMap escape := by
      rw [List.mem_flatMap]
      rintro ⟨character, -, inside⟩
      exact (written_escape character).lineFeed_not_mem inside
    simp [string_toList, content]

theorem lineFeed_not_mem_object {members : List (String × String)}
    (free : ∀ member ∈ members, '\n' ∉ member.2.toList) : '\n' ∉ (object members).toList := by
  have inside : '\n' ∉ [','].intercalate (members.map fun member =>
      (string member.1).toList ++ [':'] ++ member.2.toList) := by
    apply lineFeed_not_mem_intercalate
    intro part listed
    rcases List.mem_map.mp listed with ⟨member, present, rfl⟩
    simp [selfContained_string.oneLine, free member present]
  simpa [object_toList] using inside

namespace SelfContained

theorem comp {view : β → α} (contained : SelfContained write)
    (injective : Function.Injective view) : SelfContained (write ∘ view) where
  recoverable := contained.recoverable.comp injective
  opens value := contained.opens (view value)
  oneLine value := contained.oneLine (view value)

theorem array (contained : SelfContained write) :
    SelfContained fun values : List α => array (values.map write) where
  recoverable := by
    have items := Text.Recoverable.intercalate ',' (by decide) contained.recoverable
      contained.opens (noDigitAhead_cons rfl) (noDigitAhead_cons rfl)
    simp only [array_toList, List.map_map]
    exact (items.prepend ['[']).restrict fun _ _ => trivial
  opens values rest := by simp [array_toList]
  oneLine values := by
    have items : '\n' ∉ [','].intercalate ((values.map write).map String.toList) := by
      apply lineFeed_not_mem_intercalate
      simp [contained.oneLine]
    simpa [array_toList] using items

/-- A member of an object, its name in front. -/
theorem recoverable_member (contained : SelfContained write) :
    Text.Recoverable NoDigitAhead fun member : String × α =>
      (string member.1).toList ++ [':'] ++ (write member.2).toList := by
  have names : Text.Recoverable (fun _ => True) fun name => (string name).toList ++ [':'] :=
    recoverable_string.close [':'] fun _ _ => trivial
  have whole := names.append contained.recoverable fun _ _ _ => trivial
  exact whole

theorem object (contained : SelfContained write) :
    SelfContained fun members : List (String × α) =>
      object (members.map fun member => (member.1, write member.2)) where
  recoverable := by
    have opens : ∀ (member : String × α) rest,
        ((string member.1).toList ++ [':'] ++ (write member.2).toList ++ rest).head? ≠
          some '\x7d' := by
      intro member rest
      simp [string_toList]
    have members := Text.Recoverable.intercalate ',' (by decide) contained.recoverable_member
      opens (noDigitAhead_cons rfl) (noDigitAhead_cons rfl)
    simp only [object_toList, List.map_map]
    exact (members.prepend ['\x7b']).restrict fun _ _ => trivial
  opens members rest := by simp [object_toList]
  oneLine members := by
    apply lineFeed_not_mem_object
    intro member listed
    rcases List.mem_map.mp listed with ⟨value, -, rfl⟩
    exact contained.oneLine value.2

/-- Two values under names that do not depend on them. -/
theorem pair {second : β → String} (first : SelfContained write) (last : SelfContained second)
    (name other : String) :
    SelfContained fun values : α × β =>
      Json.object [(name, write values.1), (other, second values.2)] where
  recoverable := by
    have left : Text.Recoverable (fun _ => True) fun value =>
        (write value).toList ++ ',' :: ((string other).toList ++ [':']) :=
      first.recoverable.close _ fun rest _ => noDigitAhead_cons rfl _
    have right : Text.Recoverable (fun _ => True) fun value => (second value).toList ++ ['\x7d'] :=
      last.recoverable.close _ fun rest _ => noDigitAhead_cons rfl _
    have whole := (left.append right fun _ _ _ => trivial).prepend
      ('\x7b' :: ((string name).toList ++ [':']))
    have form : (fun values : α × β => (Json.object
        [(name, write values.1), (other, second values.2)]).toList) = fun values =>
          '\x7b' :: ((string name).toList ++ [':']) ++
            ((write values.1).toList ++ ',' :: ((string other).toList ++ [':']) ++
              ((second values.2).toList ++ ['\x7d'])) := by
      funext values
      simp [object_toList]
    rw [form]
    exact whole.restrict fun _ _ => trivial
  opens values rest := by simp [object_toList]
  oneLine values := by
    apply lineFeed_not_mem_object
    simp [first.oneLine, last.oneLine]

end SelfContained
end Json
end Tabular
