import RecordFilter.Text.Separated

/-!
# Splitting and joining

Texts are split at a separator and joined with one; each undoes the other where no part has the
separator in it.

* `Text.splitAll_eq_cons_iff`, `Text.splitFirst?_eq_some_iff` — what a text is split into.
* `Text.splitAll_join` — parts that are joined and split again.
* `Text.mem_join`, `Text.join_ne_nil` — the characters of joined parts.
-/

namespace RecordFilter.Text

variable {c : Char} {cs : List Char}

/-! ## All parts -/

/-- A text without separators is one part. -/
theorem splitAll_of_not_mem {cs : List Char} (h : c ∉ cs) : splitAll c cs = [cs] := by
  induction cs with
  | nil => rfl
  | cons d rest ih =>
    rw [List.mem_cons, not_or] at h
    obtain ⟨hne, hrest⟩ := h
    rw [splitAll, if_neg (Ne.symm hne), ih hrest]

/-- The first separator ends the first part. -/
theorem splitAll_append_cons {cs : List Char} (h : c ∉ cs) (rest : List Char) :
    splitAll c (cs ++ c :: rest) = cs :: splitAll c rest := by
  induction cs with
  | nil => rw [List.nil_append, splitAll, if_pos rfl]
  | cons d cs ih =>
    rw [List.mem_cons, not_or] at h
    obtain ⟨hne, hcs⟩ := h
    rw [List.cons_append, splitAll, if_neg (Ne.symm hne), ih hcs]

/-- **What a text is split into**: the first part reaches to the first separator, if there is one,
and the others are the parts of what follows it. -/
theorem splitAll_eq_cons_iff {part : List Char} {parts : List (List Char)} :
    splitAll c cs = part :: parts ↔
      c ∉ part ∧
        (cs = part ∧ parts = [] ∨ ∃ rest, cs = part ++ c :: rest ∧ splitAll c rest = parts) := by
  constructor
  · intro h
    by_cases hmem : c ∈ cs
    · obtain ⟨before, rest, rfl, hbefore⟩ := List.eq_append_cons_of_mem hmem
      rw [splitAll_append_cons hbefore, List.cons.injEq] at h
      obtain ⟨rfl, hrest⟩ := h
      exact ⟨hbefore, .inr ⟨rest, rfl, hrest⟩⟩
    · rw [splitAll_of_not_mem hmem, List.cons.injEq] at h
      obtain ⟨rfl, hnil⟩ := h
      exact ⟨hmem, .inl ⟨rfl, hnil.symm⟩⟩
  · rintro ⟨hpart, ⟨rfl, rfl⟩ | ⟨rest, rfl, hrest⟩⟩
    · exact splitAll_of_not_mem hpart
    · rw [splitAll_append_cons hpart, hrest]

/-- Every text has a part. -/
theorem splitAll_ne_nil (c : Char) (cs : List Char) : splitAll c cs ≠ [] := by
  by_cases hmem : c ∈ cs
  · obtain ⟨before, rest, rfl, hbefore⟩ := List.eq_append_cons_of_mem hmem
    rw [splitAll_append_cons hbefore]
    exact List.cons_ne_nil _ _
  · rw [splitAll_of_not_mem hmem]
    exact List.cons_ne_nil _ _

/-- Three parts have two separators between them. -/
theorem splitAll_eq_three_iff {x y z : List Char} :
    splitAll c cs = [x, y, z] ↔ c ∉ x ∧ c ∉ y ∧ c ∉ z ∧ cs = x ++ c :: (y ++ c :: z) := by
  constructor
  · intro h
    obtain ⟨hx, ⟨-, hparts⟩ | ⟨afterX, rfl, hyz⟩⟩ := splitAll_eq_cons_iff.1 h
    · cases hparts
    obtain ⟨hy, ⟨-, hparts⟩ | ⟨afterY, rfl, hz⟩⟩ := splitAll_eq_cons_iff.1 hyz
    · cases hparts
    obtain ⟨hz, ⟨rfl, -⟩ | ⟨afterZ, -, hparts⟩⟩ := splitAll_eq_cons_iff.1 hz
    · exact ⟨hx, hy, hz, rfl⟩
    · exact absurd hparts (splitAll_ne_nil c afterZ)
  · rintro ⟨hx, hy, hz, rfl⟩
    rw [splitAll_append_cons hx, splitAll_append_cons hy, splitAll_of_not_mem hz]

/-! ## The first separator -/

/-- A text without the character is not split at it. -/
theorem splitFirst?_of_not_mem {cs : List Char} (h : c ∉ cs) : splitFirst? c cs = none := by
  induction cs with
  | nil => rfl
  | cons d rest ih =>
    rw [List.mem_cons, not_or] at h
    obtain ⟨hne, hrest⟩ := h
    rw [splitFirst?, if_neg (Ne.symm hne), ih hrest, Option.map_none]

/-- A text is split at the first such character. -/
theorem splitFirst?_append_cons {before : List Char} (h : c ∉ before) (after : List Char) :
    splitFirst? c (before ++ c :: after) = some (before, after) := by
  induction before with
  | nil => rw [List.nil_append, splitFirst?, if_pos rfl]
  | cons d before ih =>
    rw [List.mem_cons, not_or] at h
    obtain ⟨hne, hbefore⟩ := h
    rw [List.cons_append, splitFirst?, if_neg (Ne.symm hne), ih hbefore, Option.map_some]

/-- **Where a text is split first**: the part before has no separator. -/
theorem splitFirst?_eq_some_iff {before after : List Char} :
    splitFirst? c cs = some (before, after) ↔ c ∉ before ∧ cs = before ++ c :: after := by
  constructor
  · intro h
    by_cases hmem : c ∈ cs
    · obtain ⟨first, rest, rfl, hfirst⟩ := List.eq_append_cons_of_mem hmem
      rw [splitFirst?_append_cons hfirst, Option.some.injEq, Prod.mk.injEq] at h
      obtain ⟨rfl, rfl⟩ := h
      exact ⟨hfirst, rfl⟩
    · rw [splitFirst?_of_not_mem hmem] at h
      cases h
  · rintro ⟨hbefore, rfl⟩
    exact splitFirst?_append_cons hbefore after

/-- Where a string is split first. -/
theorem splitOnce?_eq_some_iff {text before after : String} :
    splitOnce? c text = some (before, after) ↔
      c ∉ before.toList ∧ text.toList = before.toList ++ c :: after.toList := by
  rw [← splitFirst?_eq_some_iff, splitOnce?, Option.map_eq_some_iff]
  constructor
  · rintro ⟨⟨before, after⟩, hsplit, heq⟩
    cases heq
    rwa [String.toList_ofList, String.toList_ofList]
  · intro hsplit
    exact ⟨_, hsplit, by simp only [String.ofList_toList]⟩

/-- A text is not split exactly if the character is not in it. -/
theorem splitOnce?_eq_none_iff {text : String} : splitOnce? c text = none ↔ c ∉ text.toList := by
  rw [splitOnce?, Option.map_eq_none_iff]
  constructor
  · intro hnone hmem
    obtain ⟨before, after, heq, hbefore⟩ := List.eq_append_cons_of_mem hmem
    rw [heq, splitFirst?_append_cons hbefore] at hnone
    cases hnone
  · exact splitFirst?_of_not_mem

/-! ## Joined parts -/

/-- Two parts and more are joined with the separator between them. -/
theorem join_cons_cons (separator part next : String) (rest : List String) :
    join separator (part :: next :: rest) = part ++ separator ++ join separator (next :: rest) :=
  rfl

/-- **Parts that are joined are split again**, if the separator is in none of them. -/
theorem splitAll_join {separator : String} (hsep : separator.toList = [c]) {parts : List String}
    (hne : parts ≠ []) (h : ∀ part ∈ parts, c ∉ part.toList) :
    splitAll c (join separator parts).toList = parts.map String.toList := by
  induction parts with
  | nil => exact absurd rfl hne
  | cons part rest ih =>
    have hpart := h part List.mem_cons_self
    cases rest with
    | nil => exact splitAll_of_not_mem hpart
    | cons next rest =>
      have hrest := ih (List.cons_ne_nil _ _) fun p hp => h p (List.mem_cons_of_mem _ hp)
      rw [join_cons_cons, String.toList_append, String.toList_append, hsep, List.append_assoc,
        List.singleton_append, splitAll_append_cons hpart, hrest]
      rfl

/-- The characters of joined parts. -/
theorem mem_join {separator : String} {parts : List String} {x : Char}
    (h : x ∈ (join separator parts).toList) :
    x ∈ separator.toList ∨ ∃ part ∈ parts, x ∈ part.toList := by
  induction parts with
  | nil => cases h
  | cons part rest ih =>
    cases rest with
    | nil => exact .inr ⟨part, List.mem_cons_self, h⟩
    | cons next rest =>
      rw [join_cons_cons, String.toList_append, String.toList_append] at h
      rcases List.mem_append.1 h with h | h
      · rcases List.mem_append.1 h with h | h
        · exact .inr ⟨part, List.mem_cons_self, h⟩
        · exact .inl h
      · rcases ih h with h | ⟨p, hp, h⟩
        · exact .inl h
        · exact .inr ⟨p, List.mem_cons_of_mem _ hp, h⟩

/-- Texts that are not empty are not empty when joined. -/
theorem join_ne_nil {separator : String} {parts : List String} (hne : parts ≠ [])
    (h : ∀ part ∈ parts, part.toList ≠ []) : (join separator parts).toList ≠ [] := by
  obtain ⟨part, rest, rfl⟩ := List.exists_cons_of_ne_nil hne
  have hpart := h part List.mem_cons_self
  cases rest with
  | nil => exact hpart
  | cons next rest =>
    rw [join_cons_cons, String.toList_append, String.toList_append, List.append_assoc]
    exact List.append_ne_nil_of_left_ne_nil hpart _

end RecordFilter.Text
