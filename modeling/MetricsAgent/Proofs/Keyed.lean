import Mathlib.Data.List.Nodup

/-!
# Lists of numbered things

Tasks, cycles, calls and exports are kept in lists, are found by their numbers, and are replaced in
place.  Every model of this library does so, and the lemmas here are what all of them share.  They
are about a list, a function `key` that gives the number of an entry, and the first entry with a
number.

* `find?_map`, `find?_replace` and `find?_filter_ne` say what is found after a change of all
  entries, of one entry, and after one entry is gone.
* `exists_fresh` gives a number that is not in use, which a run from outside needs before it can
  begin anything.
-/

set_option autoImplicit false

namespace MetricsAgent

namespace Keyed

variable {β : Type} {key : β → Nat}

/-- Changes that keep the numbers do not change what is found, but for the change itself. -/
theorem find?_map {f : β → β} (hf : ∀ b, key (f b) = key b) (l : List β) (n : Nat) :
    (l.map f).find? (fun b ↦ key b = n) = (l.find? fun b ↦ key b = n).map f := by
  rw [List.find?_map]
  have h : (fun b ↦ decide (key b = n)) ∘ f = fun b ↦ decide (key b = n) := by
    funext b
    simp [hf]
  rw [h]

/-- What is found under a number has it. -/
theorem key_of_find? {l : List β} {n : Nat} {b : β} (h : l.find? (fun b ↦ key b = n) = some b) :
    key b = n := by
  simpa using List.find?_some h

/-- A thing put in place of the one with its number is found under it. -/
theorem find?_replace {l : List β} {b c : β} (h : l.find? (fun b ↦ key b = key c) = some b) :
    (l.map fun b ↦ if key b = key c then c else b).find? (fun b ↦ key b = key c) = some c := by
  rw [find?_map fun b ↦ by split <;> simp_all, h, Option.map_some, if_pos (key_of_find? h)]

/-- A thing put in place of the one with its number changes nothing that is found under another. -/
theorem find?_replace_of_ne {l : List β} {c : β} {n : Nat} (h : key c ≠ n) :
    (l.map fun b ↦ if key b = key c then c else b).find? (fun b ↦ key b = n) =
      l.find? fun b ↦ key b = n := by
  rw [find?_map fun b ↦ by split <;> simp_all]
  cases hb : l.find? fun b ↦ key b = n with
  | none => rfl
  | some b => rw [Option.map_some, if_neg fun e ↦ h (e.symm.trans (key_of_find? hb))]

/-- What is found among the others. -/
theorem find?_filter_ne (l : List β) (n k : Nat) :
    (l.filter fun b ↦ key b ≠ k).find? (fun b ↦ key b = n) =
      if n = k then none else l.find? fun b ↦ key b = n := by
  rw [List.find?_filter]
  split
  · rename_i same
    subst same
    rw [List.find?_eq_none]
    simp
  · rename_i other
    congr 1
    funext b
    by_cases hb : key b = n <;> simp [hb, other]

/-- There is always another number. -/
theorem exists_fresh (key : β → Nat) (l : List β) : ∃ n, ∀ b ∈ l, key b ≠ n := by
  have bounded : ∃ n, ∀ b ∈ l, key b < n := by
    induction l with
    | nil => exact ⟨0, by simp⟩
    | cons b l ih =>
      obtain ⟨n, hn⟩ := ih
      refine ⟨max n (key b + 1), fun c hc ↦ ?_⟩
      rcases List.mem_cons.mp hc with rfl | hc
      · omega
      · have := hn c hc
        omega
  obtain ⟨n, hn⟩ := bounded
  exact ⟨n, fun b hb ↦ Nat.ne_of_lt (hn b hb)⟩

/-! ## Lists without repeated numbers

With different numbers an entry and its number are one thing.  An entry in the list is found
(`find?_of_mem`), the list is the entry and the others up to order (`perm_cons_filter`), and what is
counted over the list is counted over the two parts (`countP_eq_add`).  That last fact is how a
counter that changes with one entry is followed through a step. -/

/-- A thing in the list is found under its number. -/
theorem find?_of_mem {l : List β} (h : (l.map key).Nodup) {a : β} (ha : a ∈ l) :
    l.find? (fun b ↦ key b = key a) = some a := by
  cases hf : l.find? fun b ↦ key b = key a with
  | none => exact absurd (decide_eq_true rfl) (List.find?_eq_none.mp hf a ha)
  | some b =>
    rw [List.inj_on_of_nodup_map h (List.mem_of_find?_eq_some hf) ha (key_of_find? hf)]

/-- Things that are made of others, and that keep their numbers. -/
theorem nodup_filterMap {γ : Type} {key' : γ → Nat} {f : β → Option γ}
    (hf : ∀ b c, f b = some c → key' c = key b) {l : List β} (h : (l.map key).Nodup) :
    ((l.filterMap f).map key').Nodup := by
  refine h.sublist ?_
  clear h
  induction l with
  | nil => exact .slnil
  | cons b l ih =>
    cases hb : f b with
    | none => rw [List.filterMap_cons_none hb]; exact ih.cons _
    | some c =>
      rw [List.filterMap_cons_some hb, List.map_cons, List.map_cons, hf b c hb];
      exact ih.cons_cons _

/-- A thing and the others. -/
theorem perm_cons_filter {l : List β} (h : (l.map key).Nodup) {a : β} (ha : a ∈ l) :
    l.Perm (a :: l.filter fun b ↦ key b ≠ key a) := by
  induction l with
  | nil => cases ha
  | cons b l ih =>
    obtain ⟨hb, hl⟩ := List.nodup_cons.mp h
    have differs : ∀ c ∈ l, key c ≠ key b := fun c hc e ↦ hb (List.mem_map.mpr ⟨c, hc, e⟩)
    rcases List.mem_cons.mp ha with rfl | ha
    · rw [List.filter_cons_of_neg (by simp), List.filter_eq_self.mpr fun c hc ↦ by
        simpa using differs c hc]
    · rw [List.filter_cons_of_pos (by simpa using (differs a ha).symm)]
      exact ((ih hl ha).cons b).trans (.swap a b _)

/-- To count things is to count one of them and the others. -/
theorem countP_eq_add {l : List β} (h : (l.map key).Nodup) {a : β} (ha : a ∈ l) (p : β → Bool) :
    l.countP p = (l.filter fun b ↦ key b ≠ key a).countP p + if p a then 1 else 0 := by
  rw [(perm_cons_filter h ha).countP_eq, List.countP_cons]

/-- Only one thing is replaced. -/
theorem map_replace {l : List β} (h : (l.map key).Nodup) {a : β} (ha : a ∈ l) (f : β → β) :
    (l.map fun b ↦ if key b = key a then f a else b) =
      l.map fun b ↦ if key b = key a then f b else b := by
  refine List.map_congr_left fun b hb ↦ ?_
  split
  · rename_i same
    rw [List.inj_on_of_nodup_map h hb ha same]
  · rfl

end Keyed

end MetricsAgent
