import Mathlib.Order.Basic
import TreeScript.Name

/-!
How the table of names grows. Tables are ordered by growth: a later table has all texts of an
earlier one at the same places. Interning only adds to the table (`le_intern`), and the name that a
text has in a table it has in every later one (`find?_of_le`).
-/

namespace TreeScript.NameTable

variable {table later : NameTable} {text : String} {name : Name}

instance : Preorder NameTable where
  le earlier later := earlier.texts <+: later.texts
  le_refl _ := List.prefix_rfl
  le_trans _ _ _ h h' := h.trans h'

theorem le_def : table ≤ later ↔ table.texts <+: later.texts :=
  Iff.rfl

theorem le_intern (table : NameTable) (text : String) : table ≤ (table.intern text).2 := by
  cases h : table.find? text with
  | some name =>
    have hsame : (table.intern text).2 = table := by rw [intern, h]
    rw [hsame]
  | none =>
    rw [le_def, (intern_of_find?_eq_none h).2]
    exact List.prefix_append _ _

theorem index_lt_size (h : table.find? text = some name) : name.index < table.size :=
  (List.getElem?_eq_some_iff.1 (find?_eq_some_iff.1 h)).1

/-- A text keeps its name. -/
theorem find?_of_le (hle : table ≤ later) (h : table.find? text = some name) :
    later.find? text = some name := by
  obtain ⟨rest, hrest⟩ := le_def.1 hle
  rw [find?_eq_some_iff, ← hrest, List.getElem?_append_left (index_lt_size h)]
  exact find?_eq_some_iff.1 h

end TreeScript.NameTable
