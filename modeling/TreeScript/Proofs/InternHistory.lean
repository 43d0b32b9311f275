import Mathlib.Data.Finset.Card
import Mathlib.Data.List.TakeWhile
import TreeScript.Proofs.Names

/-!
What a table of names gives out over its whole life. The table starts with the empty text, and
texts are interned one after the other (`History`); a text may come again. What a single call does
is said once (`tryIntern_cases`), and the rest follows by induction on the calls: which texts the
table has (`History.mem_texts_iff`), that a name given out stays the name of its text
(`History.find?_of_mem`), and that it counts the texts that came before (`History.index_eq`). With
fewer texts than there are indices no call fails (`exists_history`), and whatever was called, the
table keeps its `Laws` (`interning_history`).
-/

namespace TreeScript.NameTable

variable {table later : NameTable} {text : String} {name : Name} {calls : List (String × Name)}

/-! ### One call -/

/-- A call on a known text gives its name and changes nothing. -/
theorem tryIntern_of_find?_eq_some (h : table.find? text = some name) :
    table.tryIntern text = .ok (name, table) := by
  rw [tryIntern, h]

/-- A call that succeeds does what interning does that has no bound. -/
theorem intern_of_tryIntern (h : table.tryIntern text = .ok (name, later)) :
    table.intern text = (name, later) := by
  rw [tryIntern] at h
  split at h
  · rename_i found hfound
    rw [intern, hfound]
    exact Except.ok.inj h
  · rename_i hnone
    split at h
    · rw [intern, hnone]
      exact Except.ok.inj h
    · cases h

/-- A call that succeeds finds the text, or it adds the text at the end. -/
theorem tryIntern_cases (h : table.tryIntern text = .ok (name, later)) :
    (table.find? text = some name ∧ later = table) ∨
      (table.find? text = none ∧ name = ⟨table.size⟩ ∧ later.texts = table.texts ++ [text]) := by
  have hintern := intern_of_tryIntern h
  cases hfind : table.find? text with
  | some found =>
    rw [intern, hfind] at hintern
    obtain ⟨rfl, rfl⟩ := Prod.mk.inj hintern
    exact .inl ⟨rfl, rfl⟩
  | none =>
    obtain ⟨hname, htexts⟩ := intern_of_find?_eq_none hfind
    rw [hintern] at hname htexts
    exact .inr ⟨rfl, hname, htexts⟩

/-- After a call its text has the name that the call gave. -/
theorem find?_of_tryIntern (h : table.tryIntern text = .ok (name, later)) :
    later.find? text = some name := by
  have hfind := table.find?_intern text
  rwa [intern_of_tryIntern h] at hfind

theorem le_of_tryIntern (h : table.tryIntern text = .ok (name, later)) : table ≤ later := by
  have hle := table.le_intern text
  rwa [intern_of_tryIntern h] at hle

theorem mem_texts_of_tryIntern (h : table.tryIntern text = .ok (name, later)) (other : String) :
    other ∈ later.texts ↔ other ∈ table.texts ∨ other = text := by
  obtain ⟨hfound, rfl⟩ | ⟨-, -, htexts⟩ := tryIntern_cases h
  · refine (or_iff_left_of_imp ?_).symm
    rintro rfl
    exact List.mem_of_getElem? (find?_eq_some_iff.1 hfound)
  · rw [htexts, List.mem_append, List.mem_singleton]

/-! ### All calls -/

/-- The calls on a new table, each with its text and the name that it gave, and the table after
them. -/
inductive History : NameTable → List (String × Name) → Prop where
  | new : History .new []
  | call {table later : NameTable} {calls : List (String × Name)} {text : String} {name : Name} :
      History table calls → table.tryIntern text = .ok (name, later) →
      History later (calls ++ [(text, name)])

/-- The texts that a table has to know: the empty one, and those that were interned. -/
def known (calls : List (String × Name)) : List String :=
  "" :: calls.map Prod.fst

theorem known_concat (calls : List (String × Name)) (text : String) (name : Name) :
    known (calls ++ [(text, name)]) = known calls ++ [text] := by
  simp [known]

/-- The table has the texts that it has to know. -/
theorem History.mem_texts_iff (h : History table calls) (text : String) :
    text ∈ table.texts ↔ text ∈ known calls := by
  induction h with
  | new => rfl
  | call hbefore hcall ih =>
    rw [mem_texts_of_tryIntern hcall, ih, known_concat, List.mem_append, List.mem_singleton]

/-- The text of a call has the name of the call, also after all later calls. -/
theorem History.find?_of_mem (h : History table calls) (hmem : (text, name) ∈ calls) :
    table.find? text = some name := by
  induction h with
  | new => cases hmem
  | call hbefore hcall ih =>
    rw [List.mem_append, List.mem_singleton] at hmem
    obtain hmem | hlast := hmem
    · exact find?_of_le (le_of_tryIntern hcall) (ih hmem)
    · obtain ⟨rfl, rfl⟩ := Prod.mk.inj hlast
      exact find?_of_tryIntern hcall

/-- No text stands in a table twice. -/
theorem nodup_texts (table : NameTable) : table.texts.Nodup := by
  rw [List.nodup_iff_injective_get]
  intro i j hsame
  have hi := (table.inverse _ _).2 (List.getElem?_eq_getElem i.isLt)
  have hj := (table.inverse _ _).2 (List.getElem?_eq_getElem j.isLt)
  rw [← List.get_eq_getElem, hsame, List.get_eq_getElem, hj] at hi
  exact Fin.ext (Option.some.inj hi).symm

theorem card_concat_of_notMem {texts : List String} (h : text ∉ texts) :
    (texts ++ [text]).toFinset.card = texts.toFinset.card + 1 := by
  have hinsert : (texts ++ [text]).toFinset = insert text texts.toFinset := by
    ext other
    simp
  rw [hinsert, Finset.card_insert_of_notMem (by rwa [List.mem_toFinset])]

/-- The size of a table is the number of texts that it has to know. -/
theorem History.size_eq_card (h : History table calls) :
    table.size = (known calls).toFinset.card := by
  have hsame : (known calls).toFinset = table.texts.toFinset := by
    ext text
    rw [List.mem_toFinset, List.mem_toFinset, h.mem_texts_iff]
  rw [hsame, List.toFinset_card_of_nodup table.nodup_texts]
  rfl

/-! ### The order of names -/

/-- The texts that came before a text first came. -/
def earlier (text : String) (texts : List String) : Finset String :=
  (texts.takeWhile (· ≠ text)).toFinset

/-- What comes later does not count for a text that is there. -/
theorem earlier_append_of_mem {texts : List String} (h : text ∈ texts) (more : List String) :
    earlier text (texts ++ more) = earlier text texts := by
  rw [earlier, List.takeWhile_append, if_neg, earlier]
  intro hlength
  have hall := (List.takeWhile_prefix _).eq_of_length hlength
  exact absurd (List.takeWhile_eq_self_iff.1 hall text h) (by simp)

/-- Before a new text came all others. -/
theorem earlier_concat_of_notMem {texts : List String} (h : text ∉ texts) :
    earlier text (texts ++ [text]) = texts.toFinset := by
  rw [earlier, List.takeWhile_append_of_pos]
  · simp
  · intro other hmem
    exact decide_eq_true (ne_of_mem_of_not_mem hmem h)

/-- The index of a name is the number of texts that came before its own. -/
theorem History.index_eq (h : History table calls) (hfind : table.find? text = some name) :
    name.index = (earlier text (known calls)).card := by
  -- A text that was there before a call keeps its place; a new one comes behind all others.
  induction h generalizing text name with
  | new =>
    have hsingle : [""][name.index]? = some text := find?_eq_some_iff.1 hfind
    rw [List.getElem?_singleton] at hsingle
    split at hsingle
    · rename_i hzero
      obtain rfl := Option.some.inj hsingle
      exact hzero
    · cases hsingle
  | @call table later calls added given hbefore hcall ih =>
    have hkept (hknown : table.find? text = some name) :
        name.index = (earlier text (known (calls ++ [(added, given)]))).card := by
      have hmem := List.mem_of_getElem? (find?_eq_some_iff.1 hknown)
      rw [known_concat, earlier_append_of_mem ((hbefore.mem_texts_iff text).1 hmem)]
      exact ih hknown
    obtain ⟨-, rfl⟩ | ⟨hnone, -, htexts⟩ := tryIntern_cases hcall
    · exact hkept hfind
    · rw [find?_eq_some_iff, htexts, getElem?_concat_eq_some_iff] at hfind
      obtain hold | ⟨hindex, rfl⟩ := hfind
      · exact hkept (find?_eq_some_iff.2 hold)
      · have hnew : added ∉ known calls := by
          rw [← hbefore.mem_texts_iff]
          exact find?_eq_none_iff.1 hnone
        rw [known_concat, earlier_concat_of_notMem hnew, ← hbefore.size_eq_card]
        exact hindex

/-! ### Enough indices -/

/-- With fewer different texts than indices every call succeeds. -/
theorem exists_history (texts : List String) (hfew : texts.toFinset.card < capacity) :
    ∃ table calls, History table calls ∧ calls.map Prod.fst = texts := by
  induction texts using List.reverseRecOn with
  | nil => exact ⟨.new, [], .new, rfl⟩
  | append_singleton texts text ih =>
    have hsubset : texts.toFinset ⊆ (texts ++ [text]).toFinset := by simp
    obtain ⟨table, calls, hbefore, rfl⟩ := ih ((Finset.card_le_card hsubset).trans_lt hfew)
    suffices hcall : ∃ name later, table.tryIntern text = .ok (name, later) by
      obtain ⟨name, later, hcall⟩ := hcall
      exact ⟨later, _, hbefore.call hcall, by simp⟩
    cases hfind : table.find? text with
    | some name => exact ⟨name, table, tryIntern_of_find?_eq_some hfind⟩
    | none =>
      have hnew : text ∉ known calls := by
        rw [← hbefore.mem_texts_iff]
        exact find?_eq_none_iff.1 hfind
      rw [known, List.mem_cons, not_or] at hnew
      have hsize : table.size < capacity := by
        calc
          table.size = (known calls).toFinset.card := hbefore.size_eq_card
          _ ≤ (calls.map Prod.fst).toFinset.card + 1 := by
            rw [known, List.toFinset_cons]
            exact Finset.card_insert_le _ _
          _ = (calls.map Prod.fst ++ [text]).toFinset.card := (card_concat_of_notMem hnew.2).symm
          _ < capacity := hfew
      exact ⟨(table.add text).1, (table.add text).2, by rw [tryIntern, hfind, if_pos hsize]⟩

/-! ### The laws of a table -/

/-- What is true of a table and of all calls on it so far, those that came long before among
them. -/
structure Laws (table : NameTable) (calls : List (String × Name)) : Prop where
  /-- Two names are the same exactly if their texts are. -/
  name_eq_iff : ∀ text name text' name', (text, name) ∈ calls → (text', name') ∈ calls →
    (name = name' ↔ text = text')
  /-- A name has the text that it was given for. -/
  text_eq : ∀ text name, (text, name) ∈ calls → table.text name = text
  /-- The index of a name counts the different texts, the empty one first, that came before. -/
  index_eq : ∀ text name, (text, name) ∈ calls →
    name.index = (earlier text (known calls)).card
  /-- The indices are those below the size. The empty text has the first one, called for or not. -/
  index_lt_iff : ∀ index, index < table.size ↔ index = 0 ∨ ∃ text, (text, ⟨index⟩) ∈ calls
  /-- There are as many texts as different ones were called for, and the empty one. -/
  size_eq : table.size = 1 + ((calls.map Prod.fst).toFinset.erase "").card
  /-- A call on a text that was called for gives its name again and changes nothing. -/
  again : ∀ text name, (text, name) ∈ calls → table.tryIntern text = .ok (name, table)
  /-- So does a call on the empty text. -/
  empty : table.tryIntern "" = .ok (.empty, table)
  /-- Names that were not given out have no text. -/
  text_of_size_le : ∀ name : Name, table.size ≤ name.index → table.text name = ""

theorem History.find?_empty (h : History table calls) : table.find? "" = some .empty := by
  have hmem : "" ∈ table.texts := (h.mem_texts_iff "").2 List.mem_cons_self
  obtain ⟨index, hindex⟩ := List.mem_iff_getElem?.1 hmem
  have hfind : table.find? "" = some ⟨index⟩ := find?_eq_some_iff.2 hindex
  obtain rfl : index = 0 := h.index_eq hfind
  exact hfind

/-- The names of a table are that of the empty text and those that calls gave. -/
theorem History.find?_eq_some_iff (h : History table calls) :
    table.find? text = some name ↔ (text = "" ∧ name = .empty) ∨ (text, name) ∈ calls := by
  constructor
  · intro hfind
    have hmem := List.mem_of_getElem? (NameTable.find?_eq_some_iff.1 hfind)
    rw [h.mem_texts_iff, known, List.mem_cons, List.mem_map] at hmem
    obtain rfl | ⟨⟨other, given⟩, hcall, rfl⟩ := hmem
    · rw [h.find?_empty] at hfind
      exact .inl ⟨rfl, (Option.some.inj hfind).symm⟩
    · rw [h.find?_of_mem hcall] at hfind
      rw [← Option.some.inj hfind]
      exact .inr hcall
  · rintro (⟨rfl, rfl⟩ | hcall)
    · exact h.find?_empty
    · exact h.find?_of_mem hcall

theorem index_lt_size_iff {index : Nat} :
    index < table.size ↔ ∃ text, table.find? text = some ⟨index⟩ := by
  constructor
  · intro hlt
    exact ⟨_, find?_eq_some_iff.2 (List.getElem?_eq_getElem hlt)⟩
  · rintro ⟨text, hfind⟩
    exact index_lt_size hfind

theorem History.laws (h : History table calls) : Laws table calls where
  name_eq_iff := by
    intro text name text' name' hcall hcall'
    have hget := NameTable.find?_eq_some_iff.1 (h.find?_of_mem hcall)
    have hget' := NameTable.find?_eq_some_iff.1 (h.find?_of_mem hcall')
    constructor
    · rintro rfl
      exact Option.some.inj (hget.symm.trans hget')
    · rintro rfl
      exact Option.some.inj ((h.find?_of_mem hcall).symm.trans (h.find?_of_mem hcall'))
  text_eq := by
    intro text name hcall
    rw [NameTable.text, NameTable.find?_eq_some_iff.1 (h.find?_of_mem hcall), Option.getD_some]
  index_eq := by
    intro text name hcall
    exact h.index_eq (h.find?_of_mem hcall)
  index_lt_iff := by
    intro index
    simp only [index_lt_size_iff, h.find?_eq_some_iff, exists_or]
    simp [Name.empty]
  size_eq := by
    rw [h.size_eq_card, known, List.toFinset_cons,
      ← Finset.card_erase_add_one (Finset.mem_insert_self _ _), Finset.erase_insert_eq_erase,
      Nat.add_comm]
  again := by
    intro text name hcall
    exact tryIntern_of_find?_eq_some (h.find?_of_mem hcall)
  empty := tryIntern_of_find?_eq_some h.find?_empty
  text_of_size_le := by
    intro name hle
    rw [NameTable.text, List.getElem?_eq_none hle, Option.getD_none]

/-- Interning texts on a new table, fewer different ones than there are indices. Every call
succeeds, and whatever was called, texts and names are in one-to-one correspondence. -/
theorem interning_history (texts : List String) (hfew : texts.toFinset.card < capacity) :
    (∃ table calls, History table calls ∧ calls.map Prod.fst = texts) ∧
      ∀ table calls, History table calls → calls.map Prod.fst = texts → Laws table calls :=
  ⟨exists_history texts hfew, fun _ _ h _ => h.laws⟩

/-- Four calls, two of them on the same text and one on the empty text. -/
theorem interning_four_texts :
    ["x", "", "x", "y"].toFinset.card < capacity ∧
      ∃ table calls, History table calls ∧ calls.map Prod.fst = ["x", "", "x", "y"] ∧
        table.size = 3 := by
  have hfew : ["x", "", "x", "y"].toFinset.card < capacity := by decide
  obtain ⟨⟨table, calls, h, htexts⟩, hlaws⟩ := interning_history ["x", "", "x", "y"] hfew
  refine ⟨hfew, table, calls, h, htexts, ?_⟩
  rw [(hlaws table calls h htexts).size_eq, htexts]
  decide

end TreeScript.NameTable
