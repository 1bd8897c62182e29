import Mathlib.Data.List.Pairwise
import MetricsAgent.Proofs.Exposition.Grouping

/-!
# The exposition text and the order of the batch

A batch comes in the order in which its collectors were done.  The order shows in the text only
where two measurements get in each other's way: measurements of one sanitized name that are of
different kinds, of which the first one decides, or that have the same label block, so that they
keep the order of the batch.  Without any such (`Exposition.IsUnambiguous`) the text is the same for
every order of the batch (`Exposition.render_eq_of_perm`).

The condition is decidable, and it is the weakest one can ask for by names, kinds and label blocks:
with either kind of collision there are two measurements whose order matters.
-/

set_option autoImplicit false

namespace MetricsAgent.Exposition

/-- Two measurements go together: if they have one sanitized name, they are of one kind and differ
in their label blocks. -/
def GoTogether (a b : Measurement) : Prop :=
  sanitizeName a.name = sanitizeName b.name → a.kind = b.kind ∧ seriesKey a ≠ seriesKey b

/-- The measurements of one sanitized name are of one kind, and differ in their label blocks. -/
def IsUnambiguous (batch : List Measurement) : Prop := batch.Pairwise GoTogether

instance (a b : Measurement) : Decidable (GoTogether a b) :=
  inferInstanceAs (Decidable (_ → _ ∧ _))

instance (batch : List Measurement) : Decidable (IsUnambiguous batch) :=
  inferInstanceAs (Decidable (batch.Pairwise GoTogether))

instance : Std.Symm GoTogether where
  symm _ _ together same := (together same.symm).imp Eq.symm Ne.symm

section Unambiguous

variable {batch batch' : List Measurement} {a b : Measurement}

/-- Measurements of one sanitized name are of one kind. -/
theorem IsUnambiguous.kind_eq (h : IsUnambiguous batch) (ha : a ∈ batch) (hb : b ∈ batch)
    (same : sanitizeName a.name = sanitizeName b.name) : a.kind = b.kind := by
  by_cases one : a = b
  · rw [one]
  · exact (List.Pairwise.forall h ha hb one same).1

/-- A label block belongs to one measurement of a sanitized name. -/
theorem IsUnambiguous.eq_of_seriesKey_eq (h : IsUnambiguous batch) (ha : a ∈ batch) (hb : b ∈ batch)
    (same : sanitizeName a.name = sanitizeName b.name) (key : seriesKey a = seriesKey b) :
    a = b := by
  by_contra two
  exact (List.Pairwise.forall h ha hb two same).2 key

end Unambiguous

/-! ## Families

Two orders of a batch have families of the same names, of the same kinds, with the same members up
to order.  Members of one family have different label blocks, so sorting by these puts them into one
order only, and two lists that are sorted and have the same members are equal. -/

section Families

variable {batch batch' : List Measurement} {fs fs' : List Family} {f f' : Family}

/-- The order of the batch does not show in the names of the families. -/
theorem Grouped.names_eq (h : Grouped batch fs) (h' : Grouped batch' fs') (p : batch.Perm batch') :
    fs.map (·.name) = fs'.map (·.name) := by
  have nodup {names : List String} (ascending : names.Pairwise (· < ·)) : names.Nodup :=
    ascending.imp fun {a b} (lt : a < b) ↦ String.ne_of_lt lt
  refine List.Perm.eq_of_pairwise
    (fun a b _ _ ab ba ↦ absurd (String.lt_trans ab ba) (String.lt_irrefl a))
    h.ascending h'.ascending ?_
  refine (List.perm_ext_iff_of_nodup (nodup h.ascending) (nodup h'.ascending)).mpr fun name ↦ ?_
  rw [h.names, h'.names]
  exact exists_congr fun m ↦ and_congr_left fun _ ↦ p.mem_iff

/-- The first measurement of a family. -/
theorem Grouped.exists_first (h : Grouped batch fs) (hf : f ∈ fs) :
    ∃ m ∈ batch, sanitizeName m.name = f.name ∧ m.kind = f.kind := by
  obtain ⟨first, found, kind⟩ := h.kinds f hf
  exact ⟨first, List.mem_of_find?_eq_some found, by simpa using List.find?_some found, kind⟩

theorem Grouped.mem_members (h : Grouped batch fs) (hf : f ∈ fs) {m : Measurement} :
    m ∈ f.members ↔ m ∈ batch ∧ sanitizeName m.name = f.name ∧ m.kind = f.kind := by
  rw [h.members f hf, List.mem_filter, decide_eq_true_eq]

/-- **The series of a family** do not depend on the order of the batch. -/
theorem Grouped.series_eq (h : Grouped batch fs) (h' : Grouped batch' fs') (p : batch.Perm batch')
    (distinct : IsUnambiguous batch) (hf : f ∈ fs) (hf' : f' ∈ fs') (name : f.name = f'.name)
    (kind : f.kind = f'.kind) : f.series = f'.series := by
  have order := inOrder_series f
  have order' := inOrder_series f'
  have members : f.members.Perm f'.members := by
    rw [h.members f hf, h'.members f' hf', name, kind]
    exact p.filter _
  refine List.Perm.eq_of_pairwise (fun a b ha hb ab ba ↦ ?_) order.sorted order'.sorted
    (order.perm.trans (members.trans order'.perm.symm))
  obtain ⟨ha, name_a, -⟩ := (h.mem_members hf).mp (order.perm.mem_iff.mp ha)
  obtain ⟨hb, name_b, -⟩ := (h'.mem_members hf').mp (order'.perm.mem_iff.mp hb)
  exact distinct.eq_of_seriesKey_eq ha (p.mem_iff.mpr hb) (name_a.trans (name.trans name_b.symm))
    (String.le_antisymm ab ba)

/-- **A family** is written in the same way for every order of the batch. -/
theorem Grouped.render_eq (h : Grouped batch fs) (h' : Grouped batch' fs') (p : batch.Perm batch')
    (distinct : IsUnambiguous batch) (hf : f ∈ fs) (hf' : f' ∈ fs') (name : f.name = f'.name) :
    f.render = f'.render := by
  obtain ⟨m, hm, name_m, kind_m⟩ := h.exists_first hf
  obtain ⟨m', hm', name_m', kind_m'⟩ := h'.exists_first hf'
  have kind : f.kind = f'.kind := by
    rw [← kind_m, ← kind_m']
    exact distinct.kind_eq hm (p.mem_iff.mpr hm') (name_m.trans (name.trans name_m'.symm))
  rw [Family.render, Family.render, Family.samples, Family.samples, name, kind,
    h.series_eq h' p distinct hf hf' name kind]

/-- Families that are alike where their names are, one by one. -/
theorem map_eq_of_names_eq {α : Type} {g : Family → α} (names : fs.map (·.name) = fs'.map (·.name))
    (alike : ∀ f ∈ fs, ∀ f' ∈ fs', f.name = f'.name → g f = g f') : fs.map g = fs'.map g := by
  induction fs generalizing fs' with
  | nil => rw [List.map_eq_nil_iff.mp names.symm]
  | cons f fs ih =>
    cases fs' with
    | nil => cases names
    | cons f' fs' =>
      obtain ⟨name, names⟩ := List.cons.inj names
      rw [List.map_cons, List.map_cons,
        alike f (List.mem_cons_self ..) f' (List.mem_cons_self ..) name,
        ih names fun g hg g' hg' ↦
        alike g (List.mem_cons_of_mem _ hg) g' (List.mem_cons_of_mem _ hg')]

end Families

/-- **The text does not depend on the order of the batch**, if the measurements of one sanitized
name are of one kind and differ in their label blocks. -/
theorem render_eq_of_perm {batch batch' : List Measurement} (p : batch.Perm batch')
    (distinct : IsUnambiguous batch) : render batch = render batch' := by
  have grouped := grouped_families batch
  have grouped' := grouped_families batch'
  rw [render, render, map_eq_of_names_eq (grouped.names_eq grouped' p) fun f hf f' hf' name ↦
    grouped.render_eq grouped' p distinct hf hf' name]

/-- Two series of one family that have different names before they are sanitized, and a
histogram. -/
def twoCores : List Measurement :=
  [(Measurement.gauge "cpu.usage" 12.5).withTag "core" "1", .histogram "latency" [⟨0.5, 3⟩] 1 4,
    (Measurement.gauge "cpu-usage" 3).withTag "core" "0"]

/-- The other way round they make the same text. -/
theorem render_eq_of_perm_reversed :
    twoCores.Perm twoCores.reverse ∧ IsUnambiguous twoCores ∧
      render twoCores = render twoCores.reverse :=
  have distinct : IsUnambiguous twoCores := by decide +kernel
  ⟨(List.reverse_perm _).symm, distinct, render_eq_of_perm (List.reverse_perm _).symm distinct⟩

end MetricsAgent.Exposition
