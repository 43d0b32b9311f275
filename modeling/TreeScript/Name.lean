/-!
Names and the table that gives them out. A name is an index into a table of texts, so that scopes
compare numbers instead of texts; the empty text is always there, with index zero. Beside the texts
the table keeps the index of each of them, and each of the two lists is the inverse of the other
(`NameTable.Inverse`). Main statements: a text has a name exactly if it stands at the index of the
name (`find?_eq_some_iff`), a new text gets the next index (`intern_of_find?_eq_none`), and a text
that was interned has the name that it got (`find?_intern`).

Who binds values to identifiers needs not know how these are told apart (`Naming`): by names from a
table, or by their texts.
-/

namespace TreeScript

/-- An identifier, by its index in a table. -/
structure Name where
  index : Nat
  deriving DecidableEq, Repr

def Name.empty : Name := ⟨0⟩

/-- A text has an index exactly if it stands there. -/
def NameTable.Inverse (texts : List String) (indices : List (String × Nat)) : Prop :=
  ∀ text index, indices.lookup text = some index ↔ texts[index]? = some text

/-- The texts that have names, in the order in which they got them, and their indices. -/
structure NameTable where
  texts : List String
  indices : List (String × Nat)
  inverse : NameTable.Inverse texts indices
  deriving Repr

/-- Why a text gets no name. -/
inductive InternError where
  /-- The table has so many texts that there is no index for another one. -/
  | overflow (count : Nat)
  deriving DecidableEq, Repr

namespace NameTable

theorem getElem?_concat_eq_some_iff {texts : List String} {text other : String} {index : Nat} :
    (texts ++ [text])[index]? = some other ↔
      texts[index]? = some other ∨ (index = texts.length ∧ text = other) := by
  rcases Nat.lt_trichotomy index texts.length with hlt | rfl | hgt
  · rw [List.getElem?_append_left hlt]
    simp [Nat.ne_of_lt hlt]
  · simp
  · rw [List.getElem?_eq_none (by simp; omega), List.getElem?_eq_none (Nat.le_of_lt hgt)]
    simp [Nat.ne_of_gt hgt]

theorem Inverse.nil : Inverse [] [] := fun _ _ => by simp

/-- A text that has no index yet may be added at the end. -/
theorem Inverse.concat {texts : List String} {indices : List (String × Nat)} {text : String}
    (h : Inverse texts indices) (hnew : indices.lookup text = none) :
    Inverse (texts ++ [text]) ((text, texts.length) :: indices) := by
  intro other index
  rw [List.lookup_cons, getElem?_concat_eq_some_iff, ← h other index]
  by_cases hsame : other = text
  · subst hsame
    simp [hnew, eq_comm]
  · simp [beq_false_of_ne hsame, Ne.symm hsame]

/-- The table that holds only the empty text. -/
def new : NameTable :=
  ⟨[""], [("", 0)], Inverse.nil.concat rfl⟩

def find? (table : NameTable) (text : String) : Option Name :=
  (table.indices.lookup text).map Name.mk

/-- Adds a text at the end, with the next index, unless it is there: then it keeps its index. -/
def add (table : NameTable) (text : String) : Name × NameTable :=
  match h : table.indices.lookup text with
  | some index => (⟨index⟩, table)
  | none =>
    (⟨table.texts.length⟩,
      ⟨table.texts ++ [text], (text, table.texts.length) :: table.indices, table.inverse.concat h⟩)

def intern (table : NameTable) (text : String) : Name × NameTable :=
  match table.find? text with
  | some name => (name, table)
  | none => table.add text

/-- The table after some texts were interned, one after the other. -/
def ofTexts (texts : List String) : NameTable :=
  texts.foldl (fun table text => (table.intern text).2) .new

/-- The text of a name, empty if the table has not given the name out. -/
def text (table : NameTable) (name : Name) : String :=
  table.texts[name.index]?.getD ""

def size (table : NameTable) : Nat :=
  table.texts.length

/-- Whether no text but the empty one has a name. -/
def isEmpty (table : NameTable) : Bool :=
  table.size ≤ 1

/-- Every name given out so far, in order. -/
def names (table : NameTable) : List Name :=
  (List.range table.size).map Name.mk

/-! ### Interning within bounds -/

/-- The number of indices: they have 32 bits. -/
def capacity : Nat := 1 <<< 32

/-- The name of a text, unless the text is new and no index is left. -/
def tryIntern (table : NameTable) (text : String) : Except InternError (Name × NameTable) :=
  match table.find? text with
  | some name => .ok (name, table)
  | none => if table.size < capacity then .ok (table.add text) else .error (.overflow table.size)

/-! ### Interning and looking up -/

/-- A text has a name exactly if it stands at the index of the name. -/
theorem find?_eq_some_iff {table : NameTable} {text : String} {name : Name} :
    table.find? text = some name ↔ table.texts[name.index]? = some text := by
  rw [← table.inverse text name.index, find?, Option.map_eq_some_iff]
  constructor
  · rintro ⟨index, hindex, rfl⟩
    exact hindex
  · intro hindex
    exact ⟨name.index, hindex, rfl⟩

theorem find?_eq_none_iff {table : NameTable} {text : String} :
    table.find? text = none ↔ text ∉ table.texts := by
  rw [List.mem_iff_getElem?, Option.eq_none_iff_forall_ne_some, not_exists]
  exact ⟨fun h index hget => h ⟨index⟩ (find?_eq_some_iff.2 hget),
    fun h name hfind => h name.index (find?_eq_some_iff.1 hfind)⟩

/-- A new text gets the next index. -/
theorem intern_of_find?_eq_none {table : NameTable} {text : String} (h : table.find? text = none) :
    (table.intern text).1 = ⟨table.size⟩ ∧
      (table.intern text).2.texts = table.texts ++ [text] := by
  have hadd : table.intern text = table.add text := by rw [intern, h]
  rw [hadd, add]
  split
  · rename_i hindex
    rw [find?, hindex] at h
    cases h
  · exact ⟨rfl, rfl⟩

/-- A text that is interned has the name that it got. -/
theorem find?_intern (table : NameTable) (text : String) :
    (table.intern text).2.find? text = some (table.intern text).1 := by
  cases h : table.find? text with
  | some name => rw [intern, h]; exact h
  | none =>
    obtain ⟨hname, htexts⟩ := intern_of_find?_eq_none h
    rw [find?_eq_some_iff, htexts, hname]
    exact List.getElem?_concat_length

end NameTable

/-! ### Keys for texts -/

/-- How an identifier becomes the key under which a value is bound. A table may be kept of the keys
that were given out. -/
class Naming (N : Type) (T : outParam Type) where
  /-- The key of a text, and the table after that. -/
  intern : T → String → N × T

instance Naming.byTable : Naming Name NameTable where
  intern := NameTable.intern

/-- Texts are their own keys, and no table is kept. -/
instance Naming.byText : Naming String Unit where
  intern _ text := (text, ())

end TreeScript
