/-!
# Tags

A tag map holds text under text keys, each key once, in ascending order of the keys.  The order is
part of the type: `Tags` carries the proof that its keys are ascending, so equal maps are equal
lists, and a statement about all tags need not ask for anything.

`Tags.insert` puts a value under a key, in place of the value that is there.  The work is done by
`insertEntry` on the list, and `sorted_insertEntry` is what makes its result a `Tags` again.
`Tags.ofList` inserts pairs in order, so that of a repeated key the last value stays.

The order is that of the code points of the keys.  It is the order in which labels are written and
tags are joined to a key, so that the same tags always give the same text.
-/

set_option autoImplicit false

namespace MetricsAgent

/-- Keys in strictly ascending order, each with its value. -/
structure Tags where
  entries : List (String × String)
  sorted : entries.Pairwise (fun a b ↦ a.1 < b.1)
  deriving DecidableEq

namespace Tags

/-- No tags. -/
def empty : Tags := ⟨[], .nil⟩

instance : Inhabited Tags := ⟨empty⟩
instance : EmptyCollection Tags := ⟨empty⟩

/-- The number of tags. -/
def size (t : Tags) : Nat := t.entries.length

/-- The value under a key. -/
def get? (t : Tags) (key : String) : Option String := t.entries.lookup key

/-- Whether a key has a value. -/
def contains (t : Tags) (key : String) : Bool := (t.get? key).isSome

/-- The keys in ascending order. -/
def keys (t : Tags) : List String := t.entries.map (·.1)

theorem nodup_keys (t : Tags) : (t.entries.map (·.1)).Nodup := by
  rw [List.Nodup, List.pairwise_map]
  exact t.sorted.imp fun {a b} h (same : a.1 = b.1) ↦ String.lt_irrefl b.1 (same ▸ h)

/-- Tags are equal when they have the same entries. -/
theorem eq_of_perm {s t : Tags} (h : s.entries.Perm t.entries) : s = t := by
  have same : s.entries = t.entries := by
    refine List.Perm.eq_of_pairwise (fun a b _ _ hab hba ↦ ?_) s.sorted t.sorted h
    exact absurd (String.lt_trans hab hba) (String.lt_irrefl _)
  cases s
  cases t
  cases same
  rfl

/-- Put a value under a key of an ascending list, in place of the value that is there. -/
def insertEntry (key value : String) : List (String × String) → List (String × String)
  | [] => [(key, value)]
  | e :: rest =>
    if key < e.1 then (key, value) :: e :: rest
    else if key = e.1 then (key, value) :: rest
    else e :: insertEntry key value rest

theorem lt_of_not_lt_of_ne {a b : String} (h : ¬a < b) (hne : a ≠ b) : b < a := by
  by_cases hba : b < a
  · exact hba
  · exact absurd (String.le_antisymm (String.not_lt.1 hba) (String.not_lt.1 h)) hne

theorem mem_insertEntry {key value : String} {l : List (String × String)} {e : String × String}
    (h : e ∈ insertEntry key value l) : e = (key, value) ∨ e ∈ l := by
  induction l with
  | nil => simpa [insertEntry] using h
  | cons x xs ih =>
    unfold insertEntry at h
    split at h
    · simpa using h
    · split at h
      · rcases List.mem_cons.1 h with h | h
        · exact .inl h
        · exact .inr (List.mem_cons_of_mem _ h)
      · rcases List.mem_cons.1 h with h | h
        · exact .inr (h ▸ List.mem_cons_self)
        · exact (ih h).imp_right (List.mem_cons_of_mem _)

theorem sorted_insertEntry (key value : String) {l : List (String × String)}
    (h : l.Pairwise (fun a b ↦ a.1 < b.1)) :
    (insertEntry key value l).Pairwise (fun a b ↦ a.1 < b.1) := by
  induction l with
  | nil => simp [insertEntry]
  | cons x xs ih =>
    obtain ⟨hx, hxs⟩ := List.pairwise_cons.1 h
    unfold insertEntry
    split
    · rename_i hlt
      refine List.pairwise_cons.2 ⟨fun e he ↦ ?_, h⟩
      rcases List.mem_cons.1 he with rfl | he
      · exact hlt
      · exact String.lt_trans hlt (hx e he)
    · split
      · rename_i heq
        exact List.pairwise_cons.2 ⟨fun e he ↦ heq ▸ hx e he, hxs⟩
      · rename_i hlt hne
        refine List.pairwise_cons.2 ⟨fun e he ↦ ?_, ih hxs⟩
        rcases mem_insertEntry he with rfl | he
        · exact lt_of_not_lt_of_ne hlt hne
        · exact hx e he

/-- Put a value under a key, in place of the value that is there. -/
def insert (t : Tags) (key value : String) : Tags :=
  ⟨insertEntry key value t.entries, sorted_insertEntry key value t.sorted⟩

/-- Insert pairs in order; of a repeated key the last value stays. -/
def ofList (l : List (String × String)) : Tags := l.foldl (fun t e ↦ t.insert e.1 e.2) empty

end Tags

end MetricsAgent
