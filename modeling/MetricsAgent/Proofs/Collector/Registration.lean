import Mathlib.Data.List.Induction
import Mathlib.Data.List.Nodup
import MetricsAgent.Collector.Registry

/-!
# What registrations make of a registry

Modules are registered one after the other, and some are refused.  `Registry.Enrolls` lists what one
registration may answer and which registry it leaves.  A refusal leaves the registry as it was, so
that after any registrations the registry has the modules of `CollectorModule.accepted`, a list that
is read off without a registry: those with different collectors, the first with each name.

That no two collectors of a registry have one name and one module follows from two checks: the
modules differ in their names, and so do the collectors of each module.
`Registry.stays_well_formed` has this with the list and the number of all collectors, and with the
answers of all registrations on the way.
-/

set_option autoImplicit false

namespace MetricsAgent

/-- The names of the collectors of a module. -/
def CollectorModule.collectorNames (m : CollectorModule) : List String := m.collectors.map (·.name)

/-- The modules that registrations should accept: of those with different collectors the first with
each name. -/
def CollectorModule.accepted : List CollectorModule → List CollectorModule
  | [] => []
  | m :: ms =>
    if m.collectorNames.Nodup then m :: (accepted ms).filter (·.name ≠ m.name) else accepted ms

namespace Registry

variable {r r' : Registry} {m : CollectorModule} {ms : List CollectorModule}

/-- The names of the modules. -/
def names (r : Registry) : List String := r.modules.map (·.name)

/-! ## One registration

A registration is written with a state and an exception.  `run_enroll` says what it does without
either, and the inductive has a constructor for each answer. -/

theorem firstDuplicate?_eq_none_iff {seen names : List String} :
    firstDuplicate? seen names = none ↔ names.Nodup ∧ seen.Disjoint names := by
  induction names generalizing seen with
  | nil => simp [firstDuplicate?]
  | cons n ns ih =>
    rw [firstDuplicate?, List.nodup_cons, List.disjoint_cons_right]
    split
    next known => simp [known]
    next new =>
      rw [ih, List.disjoint_cons_left]
      tauto

/-- All names before the first duplicate are different, and it is one of them. -/
theorem exists_of_firstDuplicate? {seen names : List String} {c : String}
    (h : firstDuplicate? seen names = some c) : ∃ before after, names = before ++ c :: after ∧
      before.Nodup ∧ seen.Disjoint before ∧ c ∈ seen ++ before := by
  induction names generalizing seen with
  | nil => cases h
  | cons n ns ih =>
    rw [firstDuplicate?] at h
    split at h
    next known =>
      cases h
      exact ⟨[], ns, rfl, .nil, List.disjoint_nil_right seen, List.mem_append_left [] known⟩
    next new =>
      obtain ⟨before, after, rfl, different, apart, again⟩ := ih h
      rw [List.disjoint_cons_left] at apart
      refine ⟨n :: before, after, rfl, List.nodup_cons.mpr ⟨apart.1, different⟩,
        List.disjoint_cons_right.mpr ⟨new, apart.2⟩, ?_⟩
      exact List.perm_middle.symm.subset again

/-- What a registration answers, and the registry that it leaves. -/
inductive Enrolls (r : Registry) (m : CollectorModule) :
    Except RegistrationError Unit × Registry → Prop
  where
  /-- The module comes after the others. -/
  | accepted (new : m.name ∉ r.names) (different : m.collectorNames.Nodup) :
    Enrolls r m (.ok (), ⟨r.modules ++ [m]⟩)
  | moduleExists (known : m.name ∈ r.names) : Enrolls r m (.error (.moduleExists m.name), r)
  /-- Told is the first collector with a name that came before. -/
  | duplicateCollector {before after : List String} {c : String} (new : m.name ∉ r.names)
    (names : m.collectorNames = before ++ c :: after) (different : before.Nodup)
    (again : c ∈ before) : Enrolls r m (.error (.duplicateCollector c m.name), r)

/-- What a registration does, without the state that it is written with. -/
theorem run_enroll (r : Registry) (m : CollectorModule) : (enroll m).run.run r =
    if r.modules.any (·.name = m.name) then (.error (.moduleExists m.name), r)
    else match firstDuplicate? [] m.collectorNames with
      | some c => (.error (.duplicateCollector c m.name), r)
      | none => (.ok (), ⟨r.modules ++ [m]⟩) := by
  have get_bind (f : Registry → ExceptT RegistrationError (StateM Registry) Unit) :
      (get >>= f).run.run r = (f r).run.run r := rfl
  rw [enroll, get_bind, CollectorModule.collectorNames]
  cases r.modules.any (·.name = m.name) <;>
    cases firstDuplicate? [] (m.collectors.map (·.name)) <;> rfl

/-- A registration does one of these. -/
theorem enrolls (r : Registry) (m : CollectorModule) : Enrolls r m ((enroll m).run.run r) := by
  have any_iff : r.modules.any (·.name = m.name) = true ↔ m.name ∈ r.names := by simp [names]
  rw [run_enroll]
  split
  next known => exact .moduleExists (any_iff.mp known)
  next unknown =>
    have new : m.name ∉ r.names := mt any_iff.mpr unknown
    split
    next c found =>
      obtain ⟨before, after, names, different, -, again⟩ := exists_of_firstDuplicate? found
      exact .duplicateCollector new names different again
    next found => exact .accepted new (firstDuplicate?_eq_none_iff.mp found).1

/-- A registration succeeds where the name is new and the collectors are different. -/
theorem enroll_ok_iff (r : Registry) (m : CollectorModule) :
    ((enroll m).run.run r).1 = .ok () ↔ m.name ∉ r.names ∧ m.collectorNames.Nodup := by
  generalize answered : (enroll m).run.run r = answer
  cases answered ▸ enrolls r m with
  | accepted new different => simp [new, different]
  | moduleExists known => simp [known]
  | duplicateCollector new names _ again =>
    have repeated : ¬ m.collectorNames.Nodup := fun different ↦
      (List.nodup_append.mp (names ▸ different)).2.2 _ again _ List.mem_cons_self rfl
    simp [repeated]

/-- The modules after a registration. -/
theorem modules_registerOrKeep (r : Registry) (m : CollectorModule) : (r.registerOrKeep m).modules =
    if m.name ∉ r.names ∧ m.collectorNames.Nodup then r.modules ++ [m] else r.modules := by
  have ok_iff := enroll_ok_iff r m
  rw [registerOrKeep]
  generalize answered : (enroll m).run.run r = answer at ok_iff ⊢
  cases answered ▸ enrolls r m with
  | accepted => rw [if_pos (ok_iff.mp rfl)]
  | moduleExists | duplicateCollector => rw [if_neg (mt ok_iff.mpr nofun)]

/-! ## Any registrations

The induction is on the modules offered so far, from their end: a module more is accepted just if
its name is new among the accepted ones and its collectors are different. -/

/-- The registry after registrations one after the other, whatever they answered. -/
def registered (ms : List CollectorModule) : Registry := ms.foldl registerOrKeep empty

theorem registered_concat (ms : List CollectorModule) (m : CollectorModule) :
    registered (ms ++ [m]) = (registered ms).registerOrKeep m :=
  List.foldl_concat ..

end Registry

namespace CollectorModule

variable {m : CollectorModule} {ms : List CollectorModule}

/-- One module more is accepted where its name is new and its collectors are different. -/
theorem accepted_concat (ms : List CollectorModule) (m : CollectorModule) : accepted (ms ++ [m]) =
    if m.name ∉ (accepted ms).map (·.name) ∧ m.collectorNames.Nodup then accepted ms ++ [m]
    else accepted ms := by
  induction ms with
  | nil => simp [accepted]
  | cons k ms ih =>
    rw [List.cons_append, accepted, accepted, ih]
    by_cases clear : k.collectorNames.Nodup
    · have known_iff : m.name ∈ (k :: (accepted ms).filter (·.name ≠ k.name)).map (·.name) ↔
          m.name = k.name ∨ m.name ∈ (accepted ms).map (·.name) := by
        simp only [List.map_cons, List.mem_cons, List.mem_map, List.mem_filter, decide_eq_true_eq]
        refine or_congr_right' fun ne ↦ exists_congr fun a ↦ ?_
        exact ⟨fun ⟨⟨ha, _⟩, e⟩ ↦ ⟨ha, e⟩, fun ⟨ha, e⟩ ↦ ⟨⟨ha, e ▸ ne⟩, e⟩⟩
      simp only [if_pos clear, known_iff, not_or, and_assoc]
      -- Where `m` has the name of `k` it is filtered out again, whether or not it was accepted.
      by_cases same : m.name = k.name
      · simp only [same, not_true_eq_false, false_and, if_false]
        split
        · simp [same]
        · rfl
      · simp only [same, not_false_eq_true, true_and]
        split
        · simp [same]
        · rfl
    · rw [if_neg clear, if_neg clear]

/-- The accepted modules differ in their names, and so do the collectors of each of them. -/
theorem accepted_differ (ms : List CollectorModule) : ((accepted ms).map (·.name)).Nodup ∧
    ∀ m ∈ accepted ms, m.collectorNames.Nodup := by
  induction ms with
  | nil => simp [accepted]
  | cons k ms ih =>
    rw [accepted]
    split
    next clear =>
      refine ⟨?_, List.forall_mem_cons.mpr ⟨clear, fun m hm ↦ ih.2 m (List.mem_of_mem_filter hm)⟩⟩
      rw [List.map_cons, List.nodup_cons]
      refine ⟨?_, ih.1.sublist (List.filter_sublist.map _)⟩
      simp
    next => exact ih

end CollectorModule

namespace Registry

theorem modules_registered (ms : List CollectorModule) :
    (registered ms).modules = CollectorModule.accepted ms := by
  induction ms using List.reverseRecOn with
  | nil => rfl
  | append_singleton ms m ih =>
    rw [registered_concat, modules_registerOrKeep, CollectorModule.accepted_concat, names, ih]

/-- In a registry of different modules with different collectors no name of a collector occurs twice
with one name of a module. -/
theorem nodup_list (r : Registry) (names : r.names.Nodup)
    (collectors : ∀ m ∈ r.modules, m.collectorNames.Nodup) : r.list.Nodup := by
  rw [list, List.nodup_flatMap]
  constructor
  · intro m hm
    have pairs :
        m.collectors.map (fun c ↦ (m.name, c.name)) = m.collectorNames.map (m.name, ·) := by
      rw [CollectorModule.collectorNames, List.map_map]
      rfl
    rw [pairs]
    exact (collectors m hm).map fun _ _ h ↦ (Prod.mk.inj h).2
  · refine (List.pairwise_map.mp names).imp fun {k m} ne ↦ ?_
    intro pair hk hm
    obtain ⟨c, -, rfl⟩ := List.mem_map.mp hk
    obtain ⟨d, -, e⟩ := List.mem_map.mp hm
    exact ne (Prod.mk.inj e).1.symm

theorem length_list (r : Registry) : r.list.length = r.collectorCount := by
  rw [collectorCount_eq_length, list, List.length_flatMap, List.length_flatMap]
  simp only [List.length_map]

/-- **A registry stays well formed.** After any registrations it has the modules that should be
accepted, which differ in their names, and lists their collectors in order, none of them twice. The
next registration succeeds where the name of the module is new and its collectors are different, and
adds it at the end. A refusal says why, and leaves the registry as it was. -/
theorem stays_well_formed (ms : List CollectorModule) :
    (registered ms).modules = CollectorModule.accepted ms ∧
    (registered ms).names.Nodup ∧
    (registered ms).list.Nodup ∧
    (registered ms).list =
      (CollectorModule.accepted ms).flatMap (fun m ↦ m.collectors.map fun c ↦ (m.name, c.name)) ∧
    (registered ms).list.length = (registered ms).collectorCount ∧
    ∀ m, (((enroll m).run.run (registered ms)).1 = .ok () ↔
        m.name ∉ (registered ms).names ∧ m.collectorNames.Nodup) ∧
      (((enroll m).run.run (registered ms)).1 ≠ .ok () → registered (ms ++ [m]) = registered ms) ∧
      Enrolls (registered ms) m ((enroll m).run.run (registered ms)) := by
  have modules := modules_registered ms
  obtain ⟨different, clear⟩ := CollectorModule.accepted_differ ms
  rw [← modules] at different clear
  refine ⟨modules, different, nodup_list _ different clear, by rw [list, modules], length_list _,
    fun m ↦ ⟨enroll_ok_iff _ m, fun refused ↦ ?_, enrolls _ m⟩⟩
  rw [registered_concat, registerOrKeep]
  generalize answered : (enroll m).run.run (registered ms) = answer at refused ⊢
  cases answered ▸ enrolls (registered ms) m with
  | accepted => exact absurd rfl refused
  | moduleExists | duplicateCollector => rfl

end Registry

end MetricsAgent
