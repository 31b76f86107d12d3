import Mathlib.Data.List.Sort
import RecordFilter.Dict

/-!
# Unions of dictionaries

A dictionary is what is found in it. So two dictionaries with the same values are equal, and what is
found in a union says how unions associate, and how they go with the choice of keys.

* `Dict.Ordered.ext` — dictionaries in which the same is found are equal.
* `Dict.find?_union` — the value of a key in a union is that of the top, or else that of the base.
* `Dict.filter_union` — **the entries of a union with certain keys** are the union of such entries.
* `Dict.union_assoc` — unions associate.
-/

namespace RecordFilter.Dict

variable {α : Type} {key : String} {d base top : Dict α}

/-! ## Dictionaries as what is found -/

/-- In order, an entry is what is found at its key. -/
theorem Ordered.mem_iff (h : Ordered d) {value : α} :
    (key, value) ∈ d ↔ find? key d = some value :=
  ⟨h.find?_eq, mem_of_find?⟩

/-- **Dictionaries in which the same is found are equal.** -/
theorem Ordered.ext {d' : Dict α} (h : Ordered d) (h' : Ordered d')
    (heq : ∀ key, find? key d = find? key d') : d = d' := by
  have hirrefl : Std.Irrefl fun a b : String × α => a.1 < b.1 := ⟨fun a => String.lt_irrefl a.1⟩
  have hantisymm : Std.Antisymm fun a b : String × α => a.1 < b.1 :=
    ⟨fun a b hab hba => absurd (String.lt_trans hab hba) (String.lt_irrefl a.1)⟩
  refine List.Pairwise.eq_of_mem_iff h h' fun entry => ?_
  rw [← Prod.mk.eta (p := entry), h.mem_iff, h'.mem_iff, heq]

/-! ## Unions -/

/-- **What is found in a union**: the value of the top, or else that of the base. -/
theorem find?_union (htop : Ordered top) (key : String) (base : Dict α) :
    find? key (union base top) = (find? key top).or (find? key base) := by
  induction top generalizing base with
  | nil => rfl
  | cons entry rest ih =>
    obtain ⟨k, value⟩ := entry
    have hunion : union base ((k, value) :: rest) = union (insert k value base) rest := rfl
    rw [hunion, ih (List.pairwise_cons.1 htop).2]
    by_cases hkey : key = k
    · subst hkey
      have hrest : find? key rest = none := find?_eq_none_of_forall_ne fun _ => htop.ne_of_mem
      rw [hrest, find?_insert_self, find?, if_pos rfl, Option.none_or, Option.some_or]
    · rw [find?_insert_of_ne hkey, find?, if_neg hkey]

/-- Unions associate. -/
theorem union_assoc {d : Dict α} (hd : Ordered d) (hbase : Ordered base) (htop : Ordered top) :
    union (union d base) top = union d (union base top) := by
  refine (ordered_union (ordered_union hd)).ext (ordered_union hd) fun key => ?_
  rw [find?_union htop, find?_union hbase, find?_union (ordered_union hbase), find?_union htop,
    Option.or_assoc]

/-! ## Entries with certain keys -/

section

variable (p : String → Bool)

/-- Entries stay in order when some are left out. -/
theorem Ordered.filter (h : Ordered d) : Ordered (d.filter fun entry => p entry.1) :=
  h.sublist List.filter_sublist

/-- What is found among the entries with certain keys. -/
theorem find?_filter (key : String) (d : Dict α) :
    find? key (d.filter fun entry => p entry.1) = if p key then find? key d else none := by
  induction d with
  | nil => simp [find?]
  | cons entry rest ih =>
    obtain ⟨k, value⟩ := entry
    rw [List.filter_cons]
    by_cases hkey : key = k
    · subst hkey
      split
      next hp => rw [find?, find?, if_pos rfl, if_pos rfl]
      next hp => rw [ih, if_neg hp]
    · have hfind : find? key ((k, value) :: rest) = find? key rest := by rw [find?, if_neg hkey]
      rw [hfind]
      split
      · rw [find?, if_neg hkey, ih]
      · exact ih

/-- **Choosing keys goes with unions.** -/
theorem filter_union (hbase : Ordered base) (htop : Ordered top) :
    (union base top).filter (fun entry => p entry.1) =
      union (base.filter fun entry => p entry.1) (top.filter fun entry => p entry.1) := by
  refine ((ordered_union hbase).filter p).ext (ordered_union (hbase.filter p)) fun key => ?_
  rw [find?_filter, find?_union htop, find?_union (htop.filter p), find?_filter, find?_filter]
  split <;> rfl

end

end RecordFilter.Dict
