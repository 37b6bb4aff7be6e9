namespace Tabular
namespace Text

/-!
# Texts

Texts are taken apart as lists of characters, so that the lemmas about them are
those of lists, and nothing is addressed by position.  A text is divided at
every occurrence of one separator, or at the leftmost occurrence of a whole
mark.  The division into lines is stated over any alphabet with two
distinguished letters: it serves for characters and for undecoded bytes.
-/

/-! ## Blanks

A character is blank when it has the Unicode property `White_Space`, which is
wider than the blanks of ASCII. -/

/-- The code point ranges, both ends included, of the property `White_Space`. -/
def blankRanges : List (Nat × Nat) :=
  [(0x09, 0x0D), (0x20, 0x20), (0x85, 0x85), (0xA0, 0xA0), (0x1680, 0x1680),
    (0x2000, 0x200A), (0x2028, 0x2029), (0x202F, 0x202F), (0x205F, 0x205F), (0x3000, 0x3000)]

def isBlank (character : Char) : Bool :=
  blankRanges.any fun range => range.1 ≤ character.toNat && character.toNat ≤ range.2

def trimStart (text : List Char) : List Char :=
  text.dropWhile isBlank

def trimEnd (text : List Char) : List Char :=
  (text.reverse.dropWhile isBlank).reverse

/-- A text without the blanks at its two ends.  Blanks inside stay. -/
def trim (text : List Char) : List Char :=
  trimEnd (trimStart text)

/-- The property counts twenty-five code points. -/
example : (blankRanges.map fun range => range.2 + 1 - range.1).sum = 25 := by decide

/-! ## Splitting and joining -/

variable {α : Type} [DecidableEq α]

/-- The pieces between the separators, in order.  There is always at least
one piece, and the pieces hold no separator. -/
def pieces (separator : α) : List α → List (List α)
  | [] => [[]]
  | head :: rest =>
      if head = separator then [] :: pieces separator rest
      else (pieces separator rest).modifyHead (head :: ·)

/-- The rest of `text` behind `mark`, when `text` starts with `mark`. -/
def afterMark? : List α → List α → Option (List α)
  | [], text => some text
  | _ :: _, [] => none
  | first :: mark, head :: text => if first = head then afterMark? mark text else none

/-- What stands before and behind the leftmost occurrence of `mark`. -/
def cut? (mark : List α) : List α → Option (List α × List α)
  | [] => (afterMark? mark []).map ([], ·)
  | head :: rest =>
      match afterMark? mark (head :: rest) with
      | some behind => some ([], behind)
      | none => (cut? mark rest).map fun parts => (head :: parts.1, parts.2)

/-- What stands before the leftmost occurrence of `mark`, or the whole text
when there is none. -/
def before (mark text : List α) : List α :=
  match cut? mark text with
  | some (front, _) => front
  | none => text

/-- A text with the leftmost occurrence of `mark` taken out.  Taking it out
may create a new occurrence at the seam, which stays. -/
def eraseFirst (mark text : List α) : List α :=
  match cut? mark text with
  | some (front, behind) => front ++ behind
  | none => text

/-- A text without its first element, if that satisfies `test`. -/
def dropFirstIf (test : α → Bool) : List α → List α
  | [] => []
  | head :: rest => if test head then rest else head :: rest

/-- A text without its last element, if that satisfies `test`. -/
def dropLastIf (test : α → Bool) (text : List α) : List α :=
  (dropFirstIf test text.reverse).reverse

theorem pieces_ne_nil (separator : α) (text : List α) : pieces separator text ≠ [] := by
  cases text with
  | nil => simp [pieces]
  | cons head rest =>
      by_cases same : head = separator
      · simp [pieces, same]
      · simp only [pieces, if_neg same]
        cases found : pieces separator rest with
        | nil => exact absurd found (pieces_ne_nil separator rest)
        | cons first others => simp

/-- The mark is exactly what `afterMark?` takes away. -/
theorem afterMark?_eq_some {mark text behind : List α} :
    afterMark? mark text = some behind ↔ text = mark ++ behind := by
  induction mark generalizing text with
  | nil => simp [afterMark?]
  | cons first mark inductionHypothesis =>
      cases text with
      | nil => simp [afterMark?]
      | cons head text =>
          by_cases same : first = head
          · simp [afterMark?, same, inductionHypothesis]
          · simp [afterMark?, same, Ne.symm same]

/-- A cut loses nothing: front, mark and rest together are the text. -/
theorem eq_append_of_cut? {mark text front behind : List α}
    (found : cut? mark text = some (front, behind)) : text = front ++ mark ++ behind := by
  induction text generalizing front with
  | nil =>
      obtain ⟨rest, hit, same⟩ := Option.map_eq_some_iff.1 found
      cases same
      simpa using afterMark?_eq_some.1 hit
  | cons head rest inductionHypothesis =>
      simp only [cut?] at found
      split at found
      · next hit =>
          cases found
          simpa using afterMark?_eq_some.1 hit
      · obtain ⟨parts, later, same⟩ := Option.map_eq_some_iff.1 found
        cases same
        simp [inductionHypothesis later]

/-! ## Lines

A line ends at a line feed.  One carriage return directly before that feed
belongs to the line's end.  What follows the last feed is a line only when it is
not empty, and a carriage return at its end is content. -/

/-- Close the pieces between line feeds into lines.  All but the last piece
were ended by a feed. -/
def closeLines (carriageReturn : α) : List (List α) → List (List α)
  | [] => []
  | [last] => if last.isEmpty then [] else [last]
  | piece :: next :: rest =>
      dropLastIf (decide <| · = carriageReturn) piece :: closeLines carriageReturn (next :: rest)

/-- The lines of a sequence of letters. -/
def linesOf (lineFeed carriageReturn : α) (letters : List α) : List (List α) :=
  closeLines carriageReturn (pieces lineFeed letters)

/-- The lines of a text. -/
def lines (text : String) : List String :=
  (linesOf '\n' '\r' text.toList).map String.ofList

/-! ## Quotation -/

/-- How a character is shown between double quotes.  Control characters are
shown by their code points. -/
def shown (character : Char) : List Char :=
  if character = '"' ∨ character = '\\' then ['\\', character]
  else if character = '\x00' then ['\\', '0']
  else if character = '\t' then ['\\', 't']
  else if character = '\n' then ['\\', 'n']
  else if character = '\r' then ['\\', 'r']
  else if character.toNat < 0x20 ∨ 0x7F ≤ character.toNat ∧ character.toNat < 0xA0 then
    ['\\', 'u', '\x7b'] ++ Nat.toDigits 16 character.toNat ++ ['\x7d']
  else [character]

/-- A text as messages quote it. -/
def quoted (text : String) : String :=
  "\"" ++ String.ofList (text.toList.flatMap shown) ++ "\""

/-! ## Encodings

Decoding is all or nothing: a sequence of bytes is the encoding of exactly one
text or of none. -/

/-- The bytes that encode a text. -/
def utf8 (text : String) : List UInt8 :=
  text.toList.flatMap String.utf8EncodeChar

/-- The text that a sequence of bytes encodes, if it encodes one. -/
def ofUtf8? (bytes : List UInt8) : Option String :=
  String.fromUTF8? ⟨bytes.toArray⟩

/-- The order of two texts by the bytes of their encodings. -/
def compareUtf8 (left right : String) : Ordering :=
  List.compareLex compare (utf8 left) (utf8 right)

end Text
end Tabular
