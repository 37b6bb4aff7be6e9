import Tabular.Integer

namespace Tabular

/-!
# Rows of cells

A row lists its columns and, beside them, the values under these.  Writing to a
column that is present exchanges its value and leaves the column where it is;
writing to a new one appends both.  Two rows count as equal, by `==`, when they
hold the same cells under the same names, whatever the order of the columns.
-/

/-! ## JSON

JSON is only written, and always in its compact form. -/

namespace Json

/-- The written form of one character inside a string. -/
def escape (character : Char) : List Char :=
  if character = '"' then ['\\', '"']
  else if character = '\\' then ['\\', '\\']
  else if character = '\x08' then ['\\', 'b']
  else if character = '\x0c' then ['\\', 'f']
  else if character = '\n' then ['\\', 'n']
  else if character = '\r' then ['\\', 'r']
  else if character = '\t' then ['\\', 't']
  else if character.toNat < 0x20 then
    ['\\', 'u', '0', '0', Nat.digitChar (character.toNat / 16),
      Nat.digitChar (character.toNat % 16)]
  else [character]

def string (text : String) : String :=
  "\"" ++ String.ofList (text.toList.flatMap escape) ++ "\""

/-- An array of documents that are already written. -/
def array (items : List String) : String :=
  "[" ++ ",".intercalate items ++ "]"

/-- An object whose members are already written.  A name may occur twice. -/
def object (members : List (String × String)) : String :=
  "\x7b" ++ ",".intercalate (members.map fun member => string member.1 ++ ":" ++ member.2) ++ "\x7d"

end Json

/-! ## Cells -/

/-- The two shapes a cell can have. -/
inductive Kind where
  | number
  | text
  deriving DecidableEq, Repr

/-- One typed entry of a row. -/
inductive Cell where
  | number (word : Int64)
  | text (content : String)
  deriving DecidableEq

namespace Kind

def name : Kind → String
  | .number => "number"
  | .text => "text"

def json (kind : Kind) : String :=
  Json.string kind.name

end Kind

namespace Cell

def kind : Cell → Kind
  | .number _ => .number
  | .text _ => .text

def number? : Cell → Option Int64
  | .number word => some word
  | .text _ => none

def text? : Cell → Option String
  | .number _ => none
  | .text content => some content

/-- The bare text of a cell: a decimal, or the content as it is. -/
def display : Cell → String
  | .number word => Integer.decimalText word
  | .text content => content

/-- A cell as a JSON document, in which only texts are quoted. -/
def json : Cell → String
  | .number word => Integer.decimalText word
  | .text content => Json.string content

end Cell

/-! ## Rows -/

/-- One record: named cells in the order of their names' first insertion. -/
structure Row where
  columns : List String
  values : List Cell
  /-- Every column has a value. -/
  aligned : values.length = columns.length := by rfl
  /-- No name occurs twice. -/
  distinct : columns.Nodup := by decide

namespace Row

variable {row : Row} {name : String}

def empty : Row where
  columns := []
  values := []

instance : Inhabited Row := ⟨empty⟩

/-- The place of a name among the columns. -/
def place? (row : Row) (name : String) : Option Nat :=
  row.columns.idxOf? name

theorem place?_eq_none_iff : row.place? name = none ↔ name ∉ row.columns :=
  List.idxOf?_eq_none_iff

/-- Exchange the value at a place. -/
def setValue (row : Row) (place : Nat) (cell : Cell) : Row where
  columns := row.columns
  values := row.values.set place cell
  aligned := List.length_set.trans row.aligned
  distinct := row.distinct

theorem nodup_concat (row : Row) (absent : name ∉ row.columns) :
    (row.columns ++ [name]).Nodup := by
  refine List.nodup_append.mpr ⟨row.distinct, by simp, ?_⟩
  intro present listed last single equal
  rw [List.mem_singleton.mp single] at equal
  exact absent (equal ▸ listed)

/-- Append a column that is not there yet, with its value. -/
def push (row : Row) (name : String) (cell : Cell) (absent : row.place? name = none) : Row where
  columns := row.columns ++ [name]
  values := row.values ++ [cell]
  aligned := by rw [List.length_append, List.length_append, row.aligned]; rfl
  distinct := row.nodup_concat (place?_eq_none_iff.mp absent)

/-- Write a cell and hand back the one it replaces, if the name was present. -/
def replace (row : Row) (name : String) (cell : Cell) : Option Cell × Row :=
  match found : row.place? name with
  | some place => (row.values[place]?, row.setValue place cell)
  | none => (none, row.push name cell found)

def insert (row : Row) (name : String) (cell : Cell) : Row :=
  (row.replace name cell).2

/-- The row that results from writing the given cells one after another. -/
def ofCells (entries : List (String × Cell)) : Row :=
  entries.foldl (fun row entry => row.insert entry.1 entry.2) empty

/-- The value at the place of a name. -/
def get? (row : Row) (name : String) : Option Cell :=
  (row.place? name).bind fun place => row.values[place]?

def contains (row : Row) (name : String) : Bool :=
  (row.place? name).isSome

def size (row : Row) : Nat :=
  row.columns.length

def isEmpty (row : Row) : Bool :=
  row.columns.isEmpty

/-- The values together with their names. -/
def cells (row : Row) : List (String × Cell) :=
  row.columns.zip row.values

/-- Keep the given columns, in the given order.  Names without a cell are
passed over, and a repeated name counts once, at its first place. -/
def project (row : Row) (names : List String) : Row :=
  ofCells (names.filterMap fun name => (row.get? name).map (name, ·))

/-- Equality of finite maps: as many cells, and each cell of the left found
under the same name on the right. -/
instance : BEq Row where
  beq left right :=
    left.size == right.size && left.cells.all fun entry => right.get? entry.1 == some entry.2

/-- The printed form of one named cell.  Texts stand in single quotes, which
are not escaped. -/
def displayEntry : String × Cell → String
  | (name, .number word) => name ++ ": " ++ (Cell.number word).display
  | (name, .text content) => name ++ ": '" ++ content ++ "'"

def display (row : Row) : String :=
  "\x7b" ++ ", ".intercalate (row.cells.map displayEntry) ++ "\x7d"

/-- A row as a JSON object, its members in column order. -/
def json (row : Row) : String :=
  Json.object (row.cells.map fun entry => (entry.1, entry.2.json))

def jsonArray (rows : List Row) : String :=
  Json.array (rows.map json)

end Row
end Tabular
