/-!
# Dictionaries

Maps with text keys: objects, named bindings, prefixes. Entries are kept in ascending key order, one
for each key, so that a dictionary has one form and prints in key order. Strings compare by code
point, which is also the order of their UTF-8 bytes.

* `Dict.insert`, `Dict.ofList`, `Dict.union` — build dictionaries; a later value replaces an earlier
  one.
* `Dict.find?`, `Dict.contains`, `Dict.keys` — read them.
* `Dict.Ordered` — the order that `insert` keeps (`ordered_insert`).
-/

namespace RecordFilter

/-- A map from text keys, as its entries in ascending key order. -/
abbrev Dict (α : Type) := List (String × α)

namespace Dict

variable {α : Type}

/-- The value of a key. -/
def find? (key : String) : Dict α → Option α
  | [] => none
  | (k, v) :: rest => if key = k then some v else find? key rest

/-- Whether a key has a value. -/
def contains (key : String) (d : Dict α) : Bool := (find? key d).isSome

/-- The keys, ascending. -/
def keys (d : Dict α) : List String := d.map (·.1)

/-- Sets the value of a key, in its place in the order. -/
def insert (key : String) (value : α) : Dict α → Dict α
  | [] => [(key, value)]
  | (k, v) :: rest =>
    if key < k then (key, value) :: (k, v) :: rest
    else if key = k then (key, value) :: rest
    else (k, v) :: insert key value rest

/-- The entries of `top` set in `base`, one after the other: where both have a key, `top` wins. -/
def union (base top : Dict α) : Dict α := top.foldl (fun d entry => insert entry.1 entry.2 d) base

/-- The dictionary of a list of entries in any order; of one key's entries the last counts. -/
def ofList (entries : List (String × α)) : Dict α := union [] entries

/-! ## The order -/

/-- Keys strictly ascend; hence every key occurs once. -/
def Ordered (d : Dict α) : Prop := d.Pairwise (fun a b => a.1 < b.1)

/-- An insertion brings in one entry; every other entry was there before. -/
theorem mem_insert {key : String} {value : α} {d : Dict α} {entry : String × α}
    (h : entry ∈ insert key value d) : entry = (key, value) ∨ entry ∈ d := by
  induction d with
  | nil => exact Or.inl (by simpa [insert] using h)
  | cons first rest ih =>
    obtain ⟨k, v⟩ := first
    unfold insert at h
    split at h
    · simpa using h
    · split at h
      · rcases List.mem_cons.1 h with h | h
        · exact Or.inl h
        · exact Or.inr (List.mem_cons_of_mem _ h)
      · rcases List.mem_cons.1 h with h | h
        · exact Or.inr (h ▸ List.mem_cons_self)
        · rcases ih h with h | h
          · exact Or.inl h
          · exact Or.inr (List.mem_cons_of_mem _ h)

/-- **Insertion keeps the order.** -/
theorem ordered_insert {key : String} {value : α} {d : Dict α} (h : Ordered d) :
    Ordered (insert key value d) := by
  induction d with
  | nil => simp [insert, Ordered]
  | cons first rest ih =>
    obtain ⟨k, v⟩ := first
    have hrest : ∀ entry ∈ rest, k < entry.1 := (List.pairwise_cons.1 h).1
    unfold insert
    split
    next hlt =>
      refine List.pairwise_cons.2 ⟨fun entry he => ?_, h⟩
      rcases List.mem_cons.1 he with rfl | he
      · exact hlt
      · exact String.lt_trans hlt (hrest entry he)
    next hlt =>
      split
      next heq =>
        refine List.pairwise_cons.2 ⟨fun entry he => heq ▸ hrest entry he, ?_⟩
        exact (List.pairwise_cons.1 h).2
      next hne =>
        refine List.pairwise_cons.2 ⟨fun entry he => ?_, ih (List.pairwise_cons.1 h).2⟩
        rcases mem_insert he with rfl | he
        · exact Std.lt_of_le_of_ne (String.not_lt.1 hlt) (Ne.symm hne)
        · exact hrest entry he

/-- Entries stay in order when others are put on top of them. -/
theorem ordered_union {base top : Dict α} (h : Ordered base) : Ordered (union base top) := by
  unfold union
  induction top generalizing base with
  | nil => exact h
  | cons entry rest ih => exact ih (ordered_insert h)

/-! ## Entries that are found -/

/-- A key that no entry has is not found. -/
theorem find?_eq_none_of_forall_ne {key : String} {entries : Dict α}
    (h : ∀ entry ∈ entries, key ≠ entry.1) :
    find? key entries = none := by
  induction entries with
  | nil => rfl
  | cons entry rest ih =>
    obtain ⟨k, value⟩ := entry
    rw [find?, if_neg (h _ List.mem_cons_self)]
    exact ih fun entry hentry => h entry (List.mem_cons_of_mem _ hentry)

/-- What is found is an entry. -/
theorem mem_of_find? {key : String} {value : α} {entries : Dict α}
    (h : find? key entries = some value) : (key, value) ∈ entries := by
  induction entries with
  | nil => cases h
  | cons entry rest ih =>
    obtain ⟨k, v⟩ := entry
    rw [find?] at h
    split at h
    next hk =>
      cases h
      exact hk ▸ List.mem_cons_self
    next => exact List.mem_cons_of_mem _ (ih h)

/-- The first entry comes before all others, so it is the only one of its key. -/
theorem Ordered.ne_of_mem {entry : String × α} {entries : Dict α}
    (h : Ordered (entry :: entries)) {other : String × α}
    (hother : other ∈ entries) : entry.1 ≠ other.1 :=
  Std.ne_of_lt ((List.pairwise_cons.1 h).1 other hother)

/-- In a dictionary every entry is the one that is found. -/
theorem Ordered.find?_eq {key : String} {entries : Dict α} (h : Ordered entries) {value : α}
    (hmem : (key, value) ∈ entries) : find? key entries = some value := by
  induction entries with
  | nil => cases hmem
  | cons entry rest ih =>
    obtain ⟨k, v⟩ := entry
    rcases List.mem_cons.1 hmem with heq | hmem
    · cases heq
      rw [find?, if_pos rfl]
    · have hne : key ≠ k := fun hkey => h.ne_of_mem hmem hkey.symm
      rw [find?, if_neg hne]
      exact ih (List.pairwise_cons.1 h).2 hmem

/-- What is inserted is found. -/
theorem find?_insert_self {key : String} {value : α} (d : Dict α) :
    find? key (insert key value d) = some value := by
  induction d with
  | nil => simp [insert, find?]
  | cons entry rest ih =>
    obtain ⟨k, v⟩ := entry
    rw [insert]
    split
    · simp [find?]
    · split
      · simp [find?]
      next hne => rw [find?, if_neg hne, ih]

/-- Other keys keep their values. -/
theorem find?_insert_of_ne {key : String} {value : α} {other : String} (h : other ≠ key)
    (d : Dict α) : find? other (insert key value d) = find? other d := by
  induction d with
  | nil => simp [insert, find?, h]
  | cons entry rest ih =>
    obtain ⟨k, v⟩ := entry
    rw [insert]
    split
    · rw [find?, if_neg h]
    · split
      next heq => rw [find?, find?, if_neg h, if_neg (heq ▸ h)]
      next => rw [find?, find?, ih]

end Dict

end RecordFilter
