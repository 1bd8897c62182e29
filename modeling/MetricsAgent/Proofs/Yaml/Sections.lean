import Mathlib.Data.List.Forall2
import Mathlib.Data.List.Nodup
import MetricsAgent.Yaml.Typed

/-!
# Sections of a document

A section is a mapping of which some keys are known.  `Shape` says which keys those are, on all
levels, and `Fits` that a document has mappings where sections are expected, with different texts as
keys.

`Varies` relates the documents that differ in the order of the keys of mappings, and in keys that
are not known.  What stands under a path of known keys does not see the difference
(`Varies.at?_eq`), and neither do the readers of values (`Steady`).

With this at hand a statement about how a configuration is read can be made about paths: the value
of a leaf is what is found under its path, or the default (`MetricsAgent.Proofs.Config.Overlay`).
The condition that keys are different texts is needed, since a known key that is given twice is
refused, and an unknown key that is no text stops the reader too.
-/

set_option autoImplicit false

namespace MetricsAgent.Yaml

/-! ## Keys and what stands under them

`Node.at?` follows a path of keys from mapping to mapping.  It is what one means by the value that a
document has for a field, and it is defined without any of the readers. -/

namespace Node

/-- The text of a node that is a key. -/
def key? : Node → Option String
  | scalar text _ _ => some text
  | _ => none

/-- The value of the entry with a text as its key. -/
def valueOf (name : String) (es : List (Node × Node)) : Option Node :=
  (es.find? fun e ↦ e.1.key? = some name).map (·.2)

/-- What stands under a path of keys. -/
def at? (n : Node) : List String → Option Node
  | [] => some n
  | name :: path =>
    match n with
    | mapping es => (valueOf name es).bind (·.at? path)
    | _ => none

theorem at?_mapping (es : List (Node × Node)) (name : String) (path : List String) :
    (mapping es).at? (name :: path) = (valueOf name es).bind (·.at? path) := rfl

theorem at?_singleton (es : List (Node × Node)) (name : String) :
    (mapping es).at? [name] = valueOf name es :=
  Option.bind_fun_some _

theorem at?_cons (n : Node) (name : String) (path : List String) :
    n.at? (name :: path) = (n.at? [name]).bind (·.at? path) := by
  cases n with
  | mapping es => rw [at?_mapping, at?_singleton]
  | _ => rfl

theorem valueOf_cons (name : String) (e : Node × Node) (es : List (Node × Node)) :
    valueOf name (e :: es) = if e.1.key? = some name then some e.2 else valueOf name es := by
  rw [valueOf, List.find?_cons]
  by_cases h : e.1.key? = some name <;> simp [h, valueOf]

end Node

/-! ## Shapes

A shape is a tree like the configuration itself: everything counts below a value, and in a section
only the known keys do. -/

/-- What counts in a part of a document: everything, or the known fields of a section. -/
inductive Shape where
  | value
  | fields (known : List (String × Shape))

namespace Shape

/-- Fields that are values. -/
def values (names : List String) : List (String × Shape) := names.map (·, value)

/-- The shape under a key; `none` where the key does not count. -/
def under : Shape → String → Option Shape
  | value, _ => some value
  | fields known, name => known.lookup name

/-- The shape under a path of keys. -/
def at? (s : Shape) : List String → Option Shape
  | [] => some s
  | name :: path => (s.under name).bind (·.at? path)

/-- The shape under a node that is a key. All counts that is under no text. -/
def ofKey (s : Shape) (key : Node) : Option Shape := key.key?.elim (some value) s.under

theorem ofKey_value (key : Node) : value.ofKey key = some value := by
  rw [ofKey]
  cases key.key? <;> rfl

end Shape

/-- Where sections are expected there are mappings, and their keys are different texts. -/
inductive Fits : Shape → Node → Prop where
  | value (n : Node) : Fits .value n
  | fields {known : List (String × Shape)} {es : List (Node × Node)}
    (texts : ∀ e ∈ es, e.1.key?.isSome = true)
    (different : es.Pairwise fun d e ↦ d.1.key? ≠ e.1.key?)
    (below : ∀ e ∈ es, ∀ s, (Shape.fields known).ofKey e.1 = some s → Fits s e.2) :
    Fits (.fields known) (.mapping es)

/-- Where all known fields are values there is nothing below to look at. -/
theorem fits_values {names : List String} {es : List (Node × Node)}
    (texts : ∀ e ∈ es, e.1.key?.isSome = true)
    (different : es.Pairwise fun d e ↦ d.1.key? ≠ e.1.key?) :
    Fits (.fields (Shape.values names)) (.mapping es) := by
  refine .fields texts different fun e he s shape ↦ ?_
  obtain ⟨name, key⟩ := Option.isSome_iff_exists.mp (texts e he)
  rw [Shape.ofKey, key] at shape
  obtain ⟨before, after, parts, -⟩ := List.lookup_eq_some_iff.mp shape
  have field : (name, s) ∈ names.map (·, Shape.value) := by
    rw [← Shape.values, parts]
    simp
  obtain ⟨_, -, same⟩ := List.mem_map.mp field
  cases same
  exact .value e.2

/-- Entries of a mapping in another order, with other values, or with other keys that do not
count. -/
inductive EntriesVary (R : Shape → Node → Node → Prop) :
    List (Node × Node) → List (Node × Node) → Shape → Prop where
  | same (s : Shape) (es : List (Node × Node)) : EntriesVary R es es s
  | entry {s t : Shape} {k v w : Node} {es fs : List (Node × Node)} (counts : s.ofKey k = some t)
    (value : R t v w) (rest : EntriesVary R es fs s) : EntriesVary R ((k, v) :: es) ((k, w) :: fs) s
  | swap {s : Shape} {d e : Node × Node} {es : List (Node × Node)}
    (different : d.1.key? = none ∨ d.1.key? ≠ e.1.key?) :
    EntriesVary R (d :: e :: es) (e :: d :: es) s
  | unknown {s : Shape} {e : Node × Node} {es : List (Node × Node)} (unknown : s.ofKey e.1 = none) :
    EntriesVary R (e :: es) es s
  | symm {s : Shape} {es fs : List (Node × Node)} (h : EntriesVary R es fs s) :
    EntriesVary R fs es s
  | trans {s : Shape} {es fs gs : List (Node × Node)} (h : EntriesVary R es fs s)
    (h' : EntriesVary R fs gs s) : EntriesVary R es gs s

/-- The same document but for the order of the keys in its mappings and for keys that do not
count. -/
inductive Varies : Shape → Node → Node → Prop where
  | same (s : Shape) (n : Node) : Varies s n n
  | sequence {xs ys : List Node} (h : List.Forall₂ (Varies .value) xs ys) :
    Varies .value (.sequence xs) (.sequence ys)
  | mapping {s : Shape} {es fs : List (Node × Node)} (h : EntriesVary Varies es fs s) :
    Varies s (.mapping es) (.mapping fs)

theorem EntriesVary.cons {R : Shape → Node → Node → Prop} {s : Shape} (same : ∀ t n, R t n n)
    (e : Node × Node) {es fs : List (Node × Node)} (h : EntriesVary R es fs s) :
    EntriesVary R (e :: es) (e :: fs) s := by
  cases counts : s.ofKey e.1 with
  | none => exact (EntriesVary.unknown counts).trans (h.trans (EntriesVary.unknown counts).symm)
  | some t => exact .entry counts (same t e.2) h

/-- Different keys may come in any order. -/
theorem Varies.of_perm {s : Shape} {es fs : List (Node × Node)} (h : es.Perm fs)
    (different : es.Pairwise fun d e ↦ d.1.key? ≠ e.1.key?) :
    Varies s (.mapping es) (.mapping fs) := by
  refine .mapping ?_
  induction h with
  | nil => exact .same s []
  | cons e _ ih => exact .cons .same e (ih different.of_cons)
  | swap d e es => exact .swap (.inr (List.rel_of_pairwise_cons different List.mem_cons_self))
  | trans first _ ih ih' =>
    exact (ih different).trans (ih' ((first.pairwise_iff fun ne ↦ Ne.symm ne).mp different))

theorem Varies.key?_eq {v w : Node} (h : Varies .value v w) : v.key? = w.key? := by
  cases h <;> rfl

/-! ## Paths

The induction is on the path.  One step looks a known key up in two related mappings, and what it
finds there is related again. -/

section Paths

variable {R : Shape → Node → Node → Prop} {s t : Shape} {es fs : List (Node × Node)} {β : Type}

/-- The values of a known key are related. -/
theorem EntriesVary.valueOf_eq (h : EntriesVary R es fs s) {name : String}
    (known : s.under name = some t) {view : Node → β} (alike : ∀ v w, R t v w → view v = view w) :
    (Node.valueOf name es).map view = (Node.valueOf name fs).map view := by
  induction h with
  | same => rfl
  | @entry s u k v w es fs counts value rest ih =>
    rw [Node.valueOf_cons, Node.valueOf_cons]
    split
    next key =>
      rw [Shape.ofKey, key] at counts
      obtain rfl : u = t := Option.some.inj (counts.symm.trans known)
      exact congrArg some (alike v w value)
    next => exact ih known
  | @swap s d e es different =>
    simp only [Node.valueOf_cons]
    split
    next first =>
      -- The swapped entries have different keys, so at most one of them is the one looked up.
      have second : ¬ e.1.key? = some name := by
        rintro second
        rcases different with text | ne
        · cases text.symm.trans first
        · exact ne (first.trans second.symm)
      rw [if_neg second]
    next => rfl
  | @unknown s e es unknown =>
    have ne : ¬ e.1.key? = some name := by
      intro key
      rw [Shape.ofKey, key] at unknown
      cases unknown.symm.trans known
    rw [Node.valueOf_cons, if_neg ne]
  | symm _ ih => exact (ih known).symm
  | trans _ _ ih ih' => exact (ih known).trans (ih' known)

/-- What stands under a path of known keys does not depend on the order of keys and on unknown
ones. -/
theorem Varies.at?_eq {n n' : Node} (h : Varies s n n') {path : List String}
    (leads : s.at? path = some .value) {view : Node → β}
    (alike : ∀ v w, Varies .value v w → view v = view w) :
    (n.at? path).map view = (n'.at? path).map view := by
  induction path generalizing s n n' with
  | nil =>
    obtain rfl := Option.some.inj leads
    exact congrArg some (alike n n' h)
  | cons name path ih =>
    obtain ⟨t, known, leads⟩ := Option.bind_eq_some_iff.mp leads
    cases h with
    | same | sequence => rfl
    | mapping h =>
      have below : (Node.valueOf name _).map (fun v ↦ (v.at? path).map view) =
          (Node.valueOf name _).map fun v ↦ (v.at? path).map view :=
        h.valueOf_eq known fun v w hv ↦ ih hv leads
      have joined := congrArg (Option.bind · id) below
      rw [Option.bind_map, Option.bind_map] at joined
      rw [Node.at?_mapping, Node.at?_mapping, Option.map_bind, Option.map_bind]
      exact joined

end Paths

/-! ## Readers of values

A reader is steady if it answers alike on documents that vary in everything below counting.  Readers
of scalars are steady since they refuse everything that has keys, and lists are steady item by
item. -/

/-- A reader to which all documents are alike that differ in the order of keys only. -/
def Steady {α : Type} (read : Node → Except TypeError α) : Prop :=
  ∀ v w, Varies .value v w → (read v).toOption = (read w).toOption

section Readers

variable {α β : Type} {read : Node → Except TypeError α}

theorem toOption_bind {ε : Type} (x : Except ε α) (f : α → Except ε β) :
    (x >>= f).toOption = x.toOption.bind fun a ↦ (f a).toOption := by
  cases x <;> rfl

theorem toOption_eq_some_iff {ε : Type} {x : Except ε α} {a : α} :
    x.toOption = some a ↔ x = .ok a := by
  cases x with
  | error e => exact iff_of_false nofun nofun
  | ok b => exact ⟨fun h ↦ congrArg _ (Option.some.inj h), fun h ↦ congrArg _ (Except.ok.inj h)⟩

theorem toOption_mapM {ε γ : Type} (f : γ → Except ε α) (xs : List γ) :
    (xs.mapM f).toOption = xs.mapM fun x ↦ (f x).toOption := by
  induction xs with
  | nil => rfl
  | cons x xs ih =>
    rw [List.mapM_cons, List.mapM_cons, toOption_bind, ← ih]
    exact congrArg _ (funext fun _ ↦ toOption_bind ..)

/-- Two readings in one. -/
theorem mapM_bind_mapM {γ : Type} (f : α → Option β) (g : β → Option γ) (xs : List α) :
    (xs.mapM f).bind (·.mapM g) = xs.mapM fun x ↦ (f x).bind g := by
  induction xs with
  | nil => rfl
  | cons x xs ih =>
    rw [List.mapM_cons, List.mapM_cons, ← ih]
    cases f x with
    | none => rfl
    | some y =>
      cases xs.mapM f with
      | none => cases h : g y <;> simp [h]
      | some ys => simp [List.mapM_cons]

/-- A reader that takes neither sequences nor mappings has no keys to look at. -/
theorem steady_of_scalars (sequence : ∀ xs, (read (.sequence xs)).toOption = none)
    (mapping : ∀ es, (read (.mapping es)).toOption = none) : Steady read := by
  intro v w h
  cases h with
  | same => rfl
  | sequence => rw [sequence, sequence]
  | mapping => rw [mapping, mapping]

theorem steady_text : Steady Node.text := steady_of_scalars (fun _ ↦ rfl) fun _ ↦ rfl

theorem steady_flag : Steady Node.flag := steady_of_scalars (fun _ ↦ rfl) fun _ ↦ rfl

theorem steady_unsigned (limit : Nat) : Steady (Node.unsigned limit) :=
  steady_of_scalars (fun _ ↦ rfl) fun _ ↦ rfl

theorem steady_real : Steady Node.real := steady_of_scalars (fun _ ↦ rfl) fun _ ↦ rfl

theorem steady_name (names : String → Option α) : Steady (Node.name names) :=
  steady_of_scalars (fun _ ↦ rfl) fun _ ↦ rfl

theorem steady_optional (steady : Steady read) : Steady (Node.optional read) := by
  have toOption_map (x : Except TypeError α) : (x.map some).toOption = x.toOption.map some := by
    cases x <;> rfl
  intro v w h
  have alike := steady v w h
  cases h with
  | same => rfl
  | sequence | mapping =>
    rw [Node.optional, Node.optional, toOption_map, toOption_map, alike]
    all_goals nofun

theorem steady_list (steady : Steady read) : Steady (Node.list read) := by
  intro v w h
  cases h with
  | same => rfl
  | mapping => rfl
  | sequence h =>
    rw [Node.list, Node.list, toOption_mapM, toOption_mapM]
    induction h with
    | nil => rfl
    | cons first _ ih => rw [List.mapM_cons, List.mapM_cons, steady _ _ first, ih]

end Readers

/-! ## Fields

`Node.fields` looks at the whole mapping before any field is read, and this is where the condition
on the keys comes in: without repeated keys it succeeds, and what it has found under a name is what
stands there. -/

section Fields

variable {known : List (String × Shape)} {es : List (Node × Node)}

/-- The entries of a mapping whose keys are texts. -/
def members (es : List (Node × Node)) : List (String × Node) :=
  es.filterMap fun e ↦ e.1.key?.map (·, e.2)

theorem entries_eq_ok (texts : ∀ e ∈ es, e.1.key?.isSome = true) :
    (Node.mapping es).entries = .ok (members es) := by
  rw [Node.entries]
  induction es with
  | nil => rfl
  | cons e es ih =>
    obtain ⟨k, v⟩ := e
    obtain ⟨first, rest⟩ := List.forall_mem_cons.mp texts
    cases k with
    | scalar text style tag =>
      rw [List.mapM_cons, ih rest]
      rfl
    | _ => cases first

theorem nodup_keys_members (different : es.Pairwise fun d e ↦ d.1.key? ≠ e.1.key?) :
    ((members es).map Prod.fst).Nodup := by
  have keys : (members es).map Prod.fst = es.filterMap (·.1.key?) := by
    rw [members, List.map_filterMap]
    congr 1
    funext e
    cases e.1.key? <;> rfl
  rw [keys, List.Nodup, List.pairwise_filterMap]
  exact different.imp fun ne a ha b hb same ↦ ne (ha.trans (same ▸ hb.symm))

/-- Names that are asked for are found among the entries that are left. -/
theorem lookup_filter_members {names : List String} {name : String} (asked : name ∈ names)
    (es : List (Node × Node)) :
    ((members es).filter fun e ↦ names.contains e.1).lookup name = Node.valueOf name es := by
  induction es with
  | nil => rfl
  | cons e es ih =>
    rw [Node.valueOf_cons, ← ih, members, List.filterMap_cons]
    cases key : e.1.key? with
    | none => rfl
    | some first =>
      by_cases same : first = name
      · subst same
        simp [asked]
      · have ne : ¬ name = first := fun h ↦ same h.symm
        simp only [Option.map_some, Option.some_inj, same, if_false]
        rw [List.filter_cons]
        split
        · rw [List.lookup_cons, beq_false_of_ne ne]
          rfl
        · rfl

/-- Where the keys differ no field is repeated. -/
theorem fields_eq_ok {n : Node} (names : List String) {ms : List (String × Node)}
    (entries : n.entries = .ok ms) (different : (ms.map Prod.fst).Nodup) :
    n.fields names = .ok (ms.filter fun e ↦ names.contains e.1) := by
  have once (name : String) : (ms.filter fun e ↦ names.contains e.1).countP (·.1 = name) ≤ 1 := by
    have nodup : ((ms.filter fun e ↦ names.contains e.1).map Prod.fst).Nodup :=
      different.sublist (List.filter_sublist.map _)
    have count := List.nodup_iff_count_le_one.mp nodup name
    rw [List.count, List.countP_map] at count
    exact count
  have unrepeated : (names.find? fun name ↦
      1 < (ms.filter fun e ↦ names.contains e.1).countP (·.1 = name)) = none :=
    List.find?_eq_none.mpr fun name _ ↦ by simpa using once name
  simp only [Node.fields, entries, bind, Except.bind, unrepeated]
  rfl

/-- The fields of a section are found under their names. -/
theorem Fits.fields_eq {n : Node} (fits : Fits (.fields known) n) :
    ∃ fs, n.fields (known.map Prod.fst) = .ok fs ∧
      ∀ name ∈ known.map Prod.fst, fs.lookup name = n.at? [name] := by
  cases fits with
  | fields texts different =>
    refine ⟨_, fields_eq_ok _ (entries_eq_ok texts) (nodup_keys_members different),
      fun name asked ↦ ?_⟩
    rw [Node.at?_singleton, lookup_filter_members asked]

/-- What stands under a known key has the shape that is expected there. -/
theorem Fits.at? {n v : Node} {name : String} {s : Shape} (fits : Fits (.fields known) n)
    (there : n.at? [name] = some v) (shape : known.lookup name = some s) : Fits s v := by
  cases fits with
  | fields _ _ below =>
    rw [Node.at?_singleton] at there
    obtain ⟨e, found, rfl⟩ := Option.map_eq_some_iff.mp there
    have key : e.1.key? = some name := by simpa using List.find?_some found
    refine below e (List.mem_of_find?_eq_some found) s ?_
    rw [Shape.ofKey, key]
    exact shape

end Fields

end MetricsAgent.Yaml
