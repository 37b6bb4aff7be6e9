import Mathlib.Data.List.Basic
import Mathlib.Data.List.Induction
import Tabular.Row

namespace Tabular

/-!
# Rows as finite maps

Writing changes the answer for the written name and for no other, so among cells
written under the same name the last one is found.  A name keeps the place at
which it was first written.  Order and answers together determine a row, and a
projection is described by these two.
-/

namespace Row

variable {name : String} {cell : Cell} {entries : List (String × Cell)} {row : Row} {place : Nat}

theorem lookup_of_mem {β : Type} {entries : List (String × β)} {value : β}
    (distinct : (entries.map Prod.fst).Nodup) (member : (name, value) ∈ entries) :
    entries.lookup name = some value := by
  rcases List.append_of_mem member with ⟨early, late, rfl⟩
  rw [List.lookup_eq_some_iff]
  refine ⟨early, late, rfl, ?_⟩
  intro entry before
  rw [List.map_append, List.map_cons, List.nodup_append] at distinct
  rw [bne_iff_ne]
  exact (distinct.2.2 entry.1 (List.mem_map_of_mem before) name List.mem_cons_self).symm

theorem mem_of_lookup {β : Type} {entries : List (String × β)} {value : β}
    (found : entries.lookup name = some value) : (name, value) ∈ entries := by
  rcases List.lookup_eq_some_iff.mp found with ⟨early, late, rfl, -⟩
  exact List.mem_append_right early List.mem_cons_self

theorem lookup_cons_eq_ite {β : Type} (entry : String × β) (rest : List (String × β))
    (name : String) :
    (entry :: rest).lookup name = if name = entry.1 then some entry.2 else rest.lookup name := by
  rw [List.lookup_cons]
  by_cases asked : name = entry.1
  · rw [if_pos asked, beq_iff_eq.mpr asked]
  · rw [if_neg asked, beq_eq_false_iff_ne.mpr asked]

theorem lookup_map {β γ : Type} (view : β → γ) (entries : List (String × β)) (name : String) :
    (entries.map fun entry => (entry.1, view entry.2)).lookup name =
      (entries.lookup name).map view := by
  induction entries with
  | nil => rfl
  | cons entry rest inductionHypothesis =>
      rw [List.map_cons, lookup_cons_eq_ite, lookup_cons_eq_ite, inductionHypothesis,
        apply_ite (Option.map view)]
      rfl

/-! ## Places -/

theorem lt_length_values (here : row.columns[place]? = some name) :
    place < row.values.length := by
  rw [row.aligned]
  exact (List.getElem?_eq_some_iff.mp here).1

/-- A name has no place but the one at which it stands. -/
theorem place?_eq_some_iff : row.place? name = some place ↔ row.columns[place]? = some name := by
  rw [place?, List.idxOf?_eq_some_iff, List.getElem?_eq_some_iff]
  constructor
  · rintro ⟨inside, here, -⟩
    exact ⟨inside, here⟩
  · rintro ⟨inside, here⟩
    refine ⟨inside, here, ?_⟩
    intro earlier before there
    exact List.pairwise_iff_getElem.mp row.distinct earlier place _ inside before
      (there.trans here.symm)

theorem exists_place (present : name ∈ row.columns) :
    ∃ place : Nat, row.columns[place]? = some name :=
  List.mem_iff_getElem?.mp present

/-- A row answers by the value at the place of the name. -/
theorem get?_of_column (here : row.columns[place]? = some name) :
    row.get? name = row.values[place]? := by
  rw [get?, place?_eq_some_iff.mpr here, Option.bind_some]

theorem get?_of_not_mem (absent : name ∉ row.columns) : row.get? name = none := by
  rw [get?, place?_eq_none_iff.mpr absent, Option.bind_none]

/-- The named cells of a row are what it answers. -/
theorem mem_cells_iff : (name, cell) ∈ row.cells ↔ row.get? name = some cell := by
  rw [List.mem_iff_getElem?]
  simp only [cells, List.getElem?_zip_eq_some]
  constructor
  · rintro ⟨place, here, value⟩
    rw [get?_of_column here, value]
  · intro found
    by_cases present : name ∈ row.columns
    · rcases exists_place present with ⟨place, here⟩
      exact ⟨place, here, (get?_of_column here).symm.trans found⟩
    · rw [get?_of_not_mem present] at found
      cases found

theorem map_fst_cells (row : Row) : row.cells.map Prod.fst = row.columns :=
  List.map_fst_zip (Nat.le_of_eq row.aligned.symm)

theorem map_snd_cells (row : Row) : row.cells.map Prod.snd = row.values :=
  List.map_snd_zip (Nat.le_of_eq row.aligned)

/-- A row is determined by its named cells in their order. -/
theorem cells_injective : Function.Injective cells := by
  intro left right same
  have columns := congrArg (List.map Prod.fst) same
  have values := congrArg (List.map Prod.snd) same
  rw [map_fst_cells, map_fst_cells] at columns
  rw [map_snd_cells, map_snd_cells] at values
  cases left
  cases right
  cases columns
  cases values
  rfl

theorem length_cells (row : Row) : row.cells.length = row.size := by
  rw [← List.length_map Prod.fst, map_fst_cells, size]

theorem mem_columns_iff : name ∈ row.columns ↔ ∃ cell, row.get? name = some cell := by
  rw [← map_fst_cells]
  simp only [← mem_cells_iff, List.mem_map, Prod.exists, exists_and_right, exists_eq_right]

/-! ## One write -/

theorem replace_of_column (here : row.columns[place]? = some name) (cell : Cell) :
    row.replace name cell = (row.values[place]?, row.setValue place cell) := by
  have found := place?_eq_some_iff.mpr here
  unfold replace
  split
  · next other there =>
      cases found.symm.trans there
      rfl
  · next missing => cases found.symm.trans missing

theorem replace_of_not_mem (absent : name ∉ row.columns) (cell : Cell) :
    row.replace name cell = (none, row.push name cell (place?_eq_none_iff.mpr absent)) := by
  have missing := place?_eq_none_iff.mpr absent
  unfold replace
  split
  · next place there => cases missing.symm.trans there
  · rfl

theorem columns_insert (row : Row) (name : String) (cell : Cell) :
    (row.insert name cell).columns =
      if name ∈ row.columns then row.columns else row.columns ++ [name] := by
  by_cases present : name ∈ row.columns
  · rcases exists_place present with ⟨place, here⟩
    rw [if_pos present, insert, replace_of_column here]
    rfl
  · rw [if_neg present, insert, replace_of_not_mem present]
    rfl

theorem cells_push (row : Row) (cell : Cell) (absent : row.place? name = none) :
    (row.push name cell absent).cells = row.cells ++ [(name, cell)] :=
  List.zip_append row.aligned.symm

/-- Exchanging the value at the place of a name changes the answer for that name only. -/
theorem get?_setValue (here : row.columns[place]? = some name) (cell : Cell) (other : String) :
    (row.setValue place cell).get? other = if other = name then some cell else row.get? other := by
  by_cases asked : other = name
  · have there : (row.setValue place cell).columns[place]? = some other := asked ▸ here
    rw [if_pos asked, get?_of_column there]
    exact List.getElem?_set_self (lt_length_values here)
  · rw [if_neg asked]
    by_cases present : other ∈ row.columns
    · rcases exists_place present with ⟨elsewhere, there⟩
      have kept : (row.setValue place cell).columns[elsewhere]? = some other := there
      have apart : place ≠ elsewhere := by
        rintro rfl
        exact asked (Option.some.inj (there.symm.trans here))
      rw [get?_of_column kept, get?_of_column there]
      exact List.getElem?_set_ne apart
    · rw [get?_of_not_mem present]
      exact get?_of_not_mem present

theorem get?_push (absent : row.place? name = none) (cell : Cell) (other : String) :
    (row.push name cell absent).get? other =
      if other = name then some cell else row.get? other := by
  apply Option.ext
  intro found
  rw [← mem_cells_iff, cells_push, List.mem_append, List.mem_singleton, mem_cells_iff]
  by_cases asked : other = name
  · subst asked
    simp [get?_of_not_mem (place?_eq_none_iff.mp absent), eq_comm]
  · simp [asked]

/-- Writing a cell changes the answer for its name only. -/
theorem get?_insert (row : Row) (name other : String) (cell : Cell) :
    (row.insert name cell).get? other = if other = name then some cell else row.get? other := by
  by_cases present : name ∈ row.columns
  · rcases exists_place present with ⟨place, here⟩
    rw [insert, replace_of_column here, get?_setValue here]
  · rw [insert, replace_of_not_mem present, get?_push]

/-! ## All writes -/

/-- Among the cells written under one name the last is found. -/
theorem get?_ofCells (entries : List (String × Cell)) (name : String) :
    (ofCells entries).get? name = entries.reverse.lookup name := by
  suffices general : ∀ row : Row,
      (entries.foldl (fun row entry => row.insert entry.1 entry.2) row).get? name =
        (entries.reverse.lookup name).or (row.get? name) by
    rw [ofCells, general]
    exact Option.or_none
  induction entries with
  | nil => intro row; rfl
  | cons entry rest inductionHypothesis =>
      intro row
      rw [List.foldl_cons, inductionHypothesis, get?_insert, List.reverse_cons, List.lookup_append,
        Option.or_assoc, lookup_cons_eq_ite]
      by_cases asked : name = entry.1
      · rw [if_pos asked, if_pos asked]
        rfl
      · rw [if_neg asked, if_neg asked]
        rfl

/-- The cell found under a name is one behind which the name is not written again. -/
theorem get?_ofCells_eq_some_iff : (ofCells entries).get? name = some cell ↔
    ∃ earlier later, entries = earlier ++ (name, cell) :: later ∧
      name ∉ later.map Prod.fst := by
  have absent : ∀ later : List (String × Cell),
      (∀ entry ∈ later, (name != entry.1) = true) ↔ name ∉ later.map Prod.fst := by
    intro later
    simp only [bne_iff_ne, List.mem_map, not_exists, not_and]
    exact forall₂_congr fun entry _ => ne_comm
  -- Lookup runs from the end, so it is the cells behind that must not carry the name.
  rw [get?_ofCells, List.lookup_eq_some_iff]
  constructor
  · rintro ⟨later, earlier, reversed, different⟩
    refine ⟨earlier.reverse, later.reverse, ?_, ?_⟩
    · rw [List.reverse_eq_iff] at reversed
      rw [reversed, List.reverse_append, List.reverse_cons, List.append_assoc]
      rfl
    · rw [← absent]
      exact fun entry member => different entry (List.mem_reverse.mp member)
  · rintro ⟨earlier, later, rfl, different⟩
    refine ⟨later.reverse, earlier.reverse, ?_, ?_⟩
    · rw [List.reverse_append, List.reverse_cons, List.append_assoc]
      rfl
    · intro entry member
      exact (absent later).mpr different entry (List.mem_reverse.mp member)

/-- The cell written under a name at some place is found when the name is not written again. -/
theorem get?_ofCells_of_last {position : Nat} (written : entries[position]? = some (name, cell))
    (last : ∀ later, position < later → (entries.map Prod.fst)[later]? ≠ some name) :
    (ofCells entries).get? name = some cell := by
  rcases List.getElem?_eq_some_iff.mp written with ⟨inside, here⟩
  have split : entries = entries.take position ++ (name, cell) :: entries.drop (position + 1) := by
    rw [← here, ← List.drop_eq_getElem_cons inside, List.take_append_drop]
  rw [get?_ofCells_eq_some_iff]
  refine ⟨_, _, split, ?_⟩
  intro again
  rcases List.mem_iff_getElem?.mp again with ⟨offset, found⟩
  rw [List.map_drop, List.getElem?_drop] at found
  exact last (position + 1 + offset) (by omega) found

/-! ## Columns -/

theorem eraseDups_concat (names : List String) (name : String) : (names ++ [name]).eraseDups =
    if name ∈ names then names.eraseDups else names.eraseDups ++ [name] := by
  rw [List.eraseDups_append, List.cons_removeAll, List.nil_removeAll]
  by_cases present : name ∈ names
  · rw [if_pos present, if_neg (by simpa using present), List.eraseDups_nil, List.append_nil]
  · rw [if_neg present, if_pos (by simpa using present)]
    rfl

theorem ofCells_concat (entries : List (String × Cell)) (entry : String × Cell) :
    ofCells (entries ++ [entry]) = (ofCells entries).insert entry.1 entry.2 :=
  List.foldl_concat ..

/-- The columns of a row stand in the order in which they were first written. -/
theorem columns_ofCells (entries : List (String × Cell)) :
    (ofCells entries).columns = (entries.map Prod.fst).eraseDups := by
  induction entries using List.reverseRecOn with
  | nil => rfl
  | append_singleton entries entry inductionHypothesis =>
      rw [ofCells_concat, columns_insert, inductionHypothesis, List.map_append,
        List.map_singleton, eraseDups_concat]
      simp only [List.mem_eraseDups]

/-- Cells that are written under distinct names stand as they were written. -/
theorem cells_ofCells_of_nodup (distinct : (entries.map Prod.fst).Nodup) :
    (ofCells entries).cells = entries := by
  induction entries using List.reverseRecOn with
  | nil => rfl
  | append_singleton entries entry inductionHypothesis =>
      rw [List.map_append, List.map_singleton, List.nodup_append] at distinct
      have earlier := inductionHypothesis distinct.1
      have absent : entry.1 ∉ (ofCells entries).columns := by
        rw [← map_fst_cells, earlier]
        exact fun among => distinct.2.2 entry.1 among entry.1 List.mem_cons_self rfl
      rw [ofCells_concat, insert, replace_of_not_mem absent, cells_push, earlier]

/-- The values of a row are its answers to the columns, in their order. -/
theorem map_some_values (row : Row) : row.values.map some = row.columns.map row.get? := by
  apply List.ext_getElem
  · rw [List.length_map, List.length_map, row.aligned]
  · intro place inside within
    rw [List.length_map] at inside within
    have here := List.getElem?_eq_getElem within
    rw [List.getElem_map, List.getElem_map, get?_of_column here, List.getElem?_eq_getElem inside]

/-- A row is determined by its columns, in order, and the answers to them. -/
theorem eq_of_columns_of_get? {left right : Row} (columns : left.columns = right.columns)
    (answers : ∀ name ∈ left.columns, left.get? name = right.get? name) : left = right := by
  have same : left.values.map some = right.values.map some := by
    rw [map_some_values, map_some_values, ← columns]
    exact List.map_congr_left answers
  have values := List.map_injective_iff.mpr (fun _ _ => Option.some.inj) same
  apply cells_injective
  rw [cells, cells, columns, values]

/-! ## Projections -/

/-- Keeping the given names of a row, described by order and answers. -/
structure IsProjection (names : List String) (source result : Row) : Prop where
  /-- The names that the source has, each at its first place. -/
  columns : result.columns = (names.filter (· ∈ source.columns)).eraseDups
  answers : ∀ name ∈ result.columns, result.get? name = source.get? name

theorem IsProjection.unique {names : List String} {source left right : Row}
    (one : IsProjection names source left) (two : IsProjection names source right) :
    left = right := by
  have columns : left.columns = right.columns := one.columns.trans two.columns.symm
  apply eq_of_columns_of_get? columns
  intro name member
  rw [one.answers name member, two.answers name (columns ▸ member)]

theorem map_fst_project (row : Row) (names : List String) :
    (names.filterMap fun name => (row.get? name).map (name, ·)).map Prod.fst =
      names.filter (· ∈ row.columns) := by
  induction names with
  | nil => rfl
  | cons name names inductionHypothesis =>
      cases found : row.get? name with
      | none =>
          have absent : name ∉ row.columns := by simp [mem_columns_iff, found]
          simp [found, absent, inductionHypothesis]
      | some cell =>
          have present : name ∈ row.columns := mem_columns_iff.mpr ⟨cell, found⟩
          simp [found, present, inductionHypothesis]

/-- The projection of a row has the required order and answers, whatever the names are. -/
theorem isProjection_project (row : Row) (names : List String) :
    IsProjection names row (row.project names) where
  columns := by rw [project, columns_ofCells, map_fst_project]
  answers := by
    intro name member
    rcases mem_columns_iff.mp member with ⟨cell, found⟩
    rw [found]
    rw [project, get?_ofCells] at found
    have among := List.mem_reverse.mp (mem_of_lookup found)
    rcases List.mem_filterMap.mp among with ⟨asked, -, same⟩
    rcases Option.map_eq_some_iff.mp same with ⟨kept, answer, equal⟩
    cases equal
    exact answer.symm

theorem isProjection_iff {names : List String} {source result : Row} :
    IsProjection names source result ↔ result = source.project names := by
  constructor
  · intro described
    exact described.unique (isProjection_project source names)
  · rintro rfl
    exact isProjection_project source names

end Row
end Tabular
