import TenderClient.Ident
/-!
# Sets of identifiers

A finite set of identifiers, kept as a strictly increasing list, so that its list is its
canonical form: two sets with the same members have the same list, and a set is written in
ascending order.

Main statements: `mem_insert`, `mem_erase`, `mem_union` and `mem_diff` say what each
operation does to membership; sortedness is a field of the type, kept by every operation.
-/

set_option autoImplicit false

namespace TenderClient

/-- A finite set of identifiers, as a strictly increasing list. -/
structure IdSet where
  toList : List Ident
  sorted : toList.Pairwise (· < ·)

namespace IdSet

/-- The set without members. -/
def empty : IdSet := ⟨[], List.Pairwise.nil⟩

instance : Membership Ident IdSet := ⟨fun s i => i ∈ s.toList⟩

/-- Whether an identifier is a member. -/
def contains (s : IdSet) (i : Ident) : Bool := s.toList.contains i

/-- The number of members. -/
def size (s : IdSet) : Nat := s.toList.length

/-- Puts an identifier into its place in an increasing list, unless it is there. -/
def insertInto (i : Ident) : List Ident → List Ident
  | [] => [i]
  | j :: rest =>
    if i < j then i :: j :: rest
    else if i = j then j :: rest
    else j :: insertInto i rest

theorem mem_insertInto (i x : Ident) (l : List Ident) :
    x ∈ insertInto i l ↔ x = i ∨ x ∈ l := by
  induction l with
  | nil => simp [insertInto]
  | cons j rest ih =>
    simp only [insertInto]
    split
    · simp
    · split
      · rename_i h
        subst h
        simp
      · simp only [List.mem_cons, ih]
        exact or_left_comm

theorem lt_of_not_lt_of_ne {i j : Ident} (h1 : ¬ i < j) (h2 : ¬ i = j) : j < i := by
  have hv : i.val ≠ j.val := fun h => h2 (Ident.ext h)
  simp only [Ident.lt_iff] at h1 ⊢
  omega

theorem lt_trans' {i j k : Ident} (h1 : i < j) (h2 : j < k) : i < k := by
  simp only [Ident.lt_iff] at h1 h2 ⊢
  omega

theorem sorted_insertInto (i : Ident) (l : List Ident) (h : l.Pairwise (· < ·)) :
    (insertInto i l).Pairwise (· < ·) := by
  induction l with
  | nil => simp [insertInto]
  | cons j rest ih =>
    rw [List.pairwise_cons] at h
    obtain ⟨hj, hrest⟩ := h
    simp only [insertInto]
    split
    · rename_i hij
      refine List.Pairwise.cons ?_ (List.Pairwise.cons hj hrest)
      intro x hx
      rcases List.mem_cons.mp hx with rfl | hx
      · exact hij
      · exact lt_trans' hij (hj x hx)
    · split
      · exact List.Pairwise.cons hj hrest
      · rename_i hlt heq
        refine List.Pairwise.cons ?_ (ih hrest)
        intro x hx
        rcases (mem_insertInto i x rest).mp hx with rfl | hx
        · exact lt_of_not_lt_of_ne hlt heq
        · exact hj x hx

/-- Adds a member. -/
def insert (i : Ident) (s : IdSet) : IdSet :=
  ⟨insertInto i s.toList, sorted_insertInto i s.toList s.sorted⟩

/-- Removes a member. -/
def erase (i : Ident) (s : IdSet) : IdSet :=
  ⟨s.toList.filter (fun j => j != i), s.sorted.filter _⟩

/-- The members of both. -/
def union (s t : IdSet) : IdSet := t.toList.foldl (fun acc i => acc.insert i) s

/-- The members of `s` that are not in `t`. -/
def diff (s t : IdSet) : IdSet :=
  ⟨s.toList.filter (fun j => !t.contains j), s.sorted.filter _⟩

/-- The set of the members of a list. -/
def ofList (l : List Ident) : IdSet := l.foldl (fun acc i => acc.insert i) empty

theorem mem_iff (s : IdSet) (i : Ident) : i ∈ s ↔ i ∈ s.toList := Iff.rfl

theorem contains_iff (s : IdSet) (i : Ident) : s.contains i = true ↔ i ∈ s := by
  simp [contains, mem_iff]

theorem contains_eq_false_iff (s : IdSet) (i : Ident) : s.contains i = false ↔ ¬ i ∈ s := by
  rw [← contains_iff]
  simp

@[simp] theorem not_mem_empty (i : Ident) : ¬ i ∈ empty := by
  simp [mem_iff, empty]

@[simp] theorem mem_insert (i x : Ident) (s : IdSet) : x ∈ s.insert i ↔ x = i ∨ x ∈ s := by
  simp [mem_iff, insert, mem_insertInto]

@[simp] theorem mem_erase (i x : Ident) (s : IdSet) : x ∈ s.erase i ↔ x ≠ i ∧ x ∈ s := by
  simp [mem_iff, erase, and_comm]

@[simp] theorem mem_diff (s t : IdSet) (x : Ident) : x ∈ s.diff t ↔ x ∈ s ∧ ¬ x ∈ t := by
  simp [mem_iff, diff, contains]

theorem mem_foldl_insert (l : List Ident) (s : IdSet) (x : Ident) :
    x ∈ l.foldl (fun acc i => acc.insert i) s ↔ x ∈ s ∨ x ∈ l := by
  induction l generalizing s with
  | nil => simp
  | cons j rest ih =>
    simp only [List.foldl_cons, ih, mem_insert, List.mem_cons]
    grind

theorem mem_foldl_erase (l : List Ident) (s : IdSet) (x : Ident) :
    x ∈ l.foldl (fun acc i => acc.erase i) s ↔ x ∈ s ∧ x ∉ l := by
  induction l generalizing s with
  | nil => simp
  | cons j rest ih =>
    simp only [List.foldl_cons, ih, mem_erase, List.mem_cons, not_or]
    grind

@[simp] theorem mem_union (s t : IdSet) (x : Ident) : x ∈ s.union t ↔ x ∈ s ∨ x ∈ t := by
  unfold union
  rw [mem_foldl_insert]
  rfl

@[simp] theorem mem_ofList (l : List Ident) (x : Ident) : x ∈ ofList l ↔ x ∈ l := by
  simp [ofList, mem_foldl_insert]

end IdSet

end TenderClient
