import MetricsAgent.Config.Load
import MetricsAgent.Proofs.Config.Startup
import MetricsAgent.Proofs.Yaml.Sections

/-!
# Reading lays a document over the defaults

The values of a configuration are its leaves.  A `Leaf` is found under a path of keys and has a
reader.  A document lays a configuration over a default (`Overlays`) when each leaf is what is read
from the node under its path, or that of the default where there is none.

A reader that does so is an `Overlay`.  There is one for each section, and where the fields of a
section have defaults of their own, it is here that they are compared with the default value of the
section.  `Overlay.overlays_under` makes a section a part of another one, and `Config.overlay` reads
configurations.  Neither the order of keys nor unknown ones matter to what stands under a path, so
that documents that differ in nothing else are read alike (`Overlay.overlays_congr`).

The main statement is `Config.reading_overlays_default`.  It is about the documents with mappings
where sections are expected, whose keys are different texts; of any other document the reader may
say that it has the wrong type.

An `Overlay` is a structure that carries its own proof: the shape of a section, its leaves, the
reader, and that the reader lays the leaves over the default.  A section that gets one field more
needs one leaf more, and nothing else changes.
-/

set_option autoImplicit false

namespace MetricsAgent.Config

open Yaml (Node TypeError Shape Fits Varies EntriesVary Steady)

/-! ## Leaves

The leaves are enough to tell a record from the default, so two readers that lay the same leaves are
one reader. -/

/-- A value of a record that a document may give: the keys that lead to it, and how it is read. -/
structure Leaf (σ : Type) where
  {α : Type}
  path : List String
  read : Node → Except TypeError α
  get : σ → α
  steady : Steady read

/-- A value is what is read from a node, or the default where there is none. -/
def Laid {α : Type} (node : Option Node) (read : Node → Except TypeError α)
    (default value : α) : Prop :=
  match node with
  | some n => read n = .ok value
  | none => value = default

/-- A record has what a document gives, and all else from a default. -/
def Overlays {σ : Type} (leaves : List (Leaf σ)) (default : σ) (n : Node) (a : σ) : Prop :=
  ∀ l ∈ leaves, Laid (n.at? l.path) l.read (l.get default) (l.get a)

/-- A leaf of a part of a record. -/
def Leaf.under {σ τ : Type} (name : String) (part : τ → σ) (l : Leaf σ) : Leaf τ :=
  ⟨name :: l.path, l.read, fun a ↦ l.get (part a), l.steady⟩

/-- A reader of sections that lays what it finds over a default, and nothing else. -/
structure Overlay {σ : Type} (read : Node → Except TypeError σ) (default : σ) where
  known : List (String × Shape)
  leaves : List (Leaf σ)
  paths : ∀ l ∈ leaves, (Shape.fields known).at? l.path = some .value
  overlays : ∀ {n : Node}, Fits (.fields known) n → ∀ a, read n = .ok a ↔
    Overlays leaves default n a

@[simp]
theorem field_eq_ok_iff {α : Type} {fs : List (String × Node)} {name : String}
    {read : Node → Except TypeError α} {default a : α} :
    Yaml.field fs name read default = .ok a ↔ Laid (fs.lookup name) read default a := by
  rw [Yaml.field]
  cases fs.lookup name with
  | some n => rfl
  | none => exact ⟨fun h ↦ (Except.ok.inj h).symm, fun h ↦ congrArg _ h.symm⟩

@[simp]
theorem map_eq_ok_iff {ε α β : Type} {f : α → β} {x : Except ε α} {b : β} :
    f <$> x = .ok b ↔ ∃ a, x = .ok a ∧ f a = b := by
  cases x with
  | error e => exact iff_of_false nofun fun ⟨_, same, _⟩ ↦ nomatch same
  | ok a =>
    exact ⟨fun h ↦ ⟨a, rfl, Except.ok.inj h⟩, fun ⟨_, same, h⟩ ↦ Except.ok.inj same ▸ congrArg _ h⟩

section Parts

variable {σ τ : Type} {read : Node → Except TypeError σ} {default : σ} (o : Overlay read default)
  {known : List (String × Shape)} {n : Node}

theorem Overlay.path_ne_nil {l : Leaf σ} (h : l ∈ o.leaves) : l.path ≠ [] := by
  intro empty
  have leads := o.paths l h
  rw [empty] at leads
  cases leads

/-- The leaves tell a record from the default. -/
theorem Overlay.eq_default_iff {a : σ} : a = default ↔ ∀ l ∈ o.leaves, l.get a = l.get default := by
  have nothing : Fits (.fields o.known) (.mapping []) := .fields nofun .nil nofun
  have reads (b : σ) : read (.mapping []) = .ok b ↔ ∀ l ∈ o.leaves, l.get b = l.get default := by
    rw [o.overlays nothing]
    refine forall₂_congr fun l hl ↦ ?_
    cases path : l.path with
    | nil => exact absurd path (o.path_ne_nil hl)
    | cons => rfl
  constructor
  · rintro rfl l -
    rfl
  · intro same
    exact Except.ok.inj (((reads a).mpr same).symm.trans ((reads default).mpr fun _ _ ↦ rfl))

/-- A record that is a part of another one is laid over its default, whether or not its section is
there. -/
theorem Overlay.overlays_under (fits : Fits (.fields known) n) {name : String}
    (shape : known.lookup name = some (.fields o.known)) (part : τ → σ) {whole : τ}
    (same : part whole = default) (a : τ) :
    Overlays (o.leaves.map (Leaf.under name part)) whole n a ↔
      Laid (n.at? [name]) read default (part a) := by
  subst same
  have leaves : Overlays (o.leaves.map (Leaf.under name part)) whole n a ↔ ∀ l ∈ o.leaves,
      Laid ((n.at? [name]).bind (·.at? l.path)) l.read (l.get (part whole)) (l.get (part a)) := by
    rw [Overlays, List.forall_mem_map]
    exact forall₂_congr fun l _ ↦ by rw [← Node.at?_cons]; rfl
  rw [leaves]
  cases there : n.at? [name] with
  | some v => exact (o.overlays (fits.at? there shape) (part a)).symm
  | none => exact o.eq_default_iff.symm

theorem overlays_append {ls ls' : List (Leaf σ)} {a : σ} : Overlays (ls ++ ls') default n a ↔
    Overlays ls default n a ∧ Overlays ls' default n a :=
  List.forall_mem_append

end Parts

/-! ## Headers

Headers are one leaf, with free keys below it.  They may be put in in any order, as long as those
with one name keep theirs. -/

/-- Entries with different names may be put in in any order. -/
theorem insertHeader_comm {a b : String × String} (different : a.1 ≠ b.1)
    (hs : List (String × String)) :
    insertHeader b (insertHeader a hs) = insertHeader a (insertHeader b hs) := by
  induction hs with
  | nil => grind [insertHeader]
  | cons c hs ih => grind [insertHeader]

/-- A name with its value, where both are texts. -/
def header? (e : Node × Node) : Option (String × String) :=
  e.1.key?.bind fun name ↦ e.2.key?.map (name, ·)

theorem key?_of_header? {e : Node × Node} {h : String × String} (there : header? e = some h) :
    e.1.key? = some h.1 := by
  obtain ⟨name, key, value⟩ := Option.bind_eq_some_iff.mp there
  obtain ⟨text, -, rfl⟩ := Option.map_eq_some_iff.mp value
  exact key

/-- The headers of entries, put to others. -/
def headersOver (hs : List (String × String)) (es : List (Node × Node)) :
    Option (List (String × String)) :=
  (es.mapM header?).map (·.foldl (fun hs h ↦ insertHeader h hs) hs)

theorem headersOver_cons (hs : List (String × String)) (e : Node × Node) (es : List (Node × Node)) :
    headersOver hs (e :: es) = (header? e).bind fun h ↦ headersOver (insertHeader h hs) es := by
  rw [headersOver, List.mapM_cons]
  cases header? e with
  | none => rfl
  | some h => cases read : es.mapM header? <;> simp [headersOver, read]

theorem toOption_headers (es : List (Node × Node)) :
    (headers (.mapping es)).toOption = headersOver [] es := by
  rw [headers, Node.entries]
  simp only [Yaml.toOption_bind, Yaml.toOption_mapM]
  rw [← Option.bind_assoc, Yaml.mapM_bind_mapM, headersOver, Option.map_eq_bind]
  congr 2
  funext e
  obtain ⟨k, v⟩ := e
  cases k <;> cases v <;> rfl

/-- Entries may be put in in any order, as long as those with one name keep theirs. -/
theorem headersOver_eq {es fs : List (Node × Node)} {s : Shape} (value : s = .value)
    (h : EntriesVary Varies es fs s) (hs : List (String × String)) :
    headersOver hs es = headersOver hs fs := by
  induction h generalizing hs with
  | same => rfl
  | @entry s t k v w es fs counts alike _ ih =>
    have same : header? (k, v) = header? (k, w) := by
      obtain rfl : t = .value := Option.some.inj (counts.symm.trans (value ▸ Shape.ofKey_value k))
      rw [header?, header?, alike.key?_eq]
    rw [headersOver_cons, headersOver_cons, same]
    exact congrArg _ (funext fun h ↦ ih value (insertHeader h hs))
  | @swap s d e es different =>
    simp only [headersOver_cons]
    cases first : header? d with
    | none => cases header? e <;> rfl
    | some p =>
      cases second : header? e with
      | none => rfl
      | some q =>
        have key := key?_of_header? first
        have ne : p.1 ≠ q.1 := fun same ↦ by
          rcases different with text | different
          · cases text.symm.trans key
          · exact different
              (key.trans ((key?_of_header? second).trans (congrArg some same.symm)).symm)
        exact congrArg (headersOver · es) (insertHeader_comm ne hs)
  | @unknown s e es unknown => cases unknown.symm.trans (value ▸ Shape.ofKey_value e.1)
  | symm _ ih => exact (ih value hs).symm
  | trans _ _ ih ih' => exact (ih value hs).trans (ih' value hs)

theorem steady_headers : Steady headers := by
  intro v w h
  cases h with
  | same => rfl
  | sequence => rfl
  | mapping h => rw [toOption_headers, toOption_headers, headersOver_eq rfl h]

theorem steady_duration : Steady duration := Yaml.steady_of_scalars (fun _ ↦ rfl) fun _ ↦ rfl

/-! ## Sections

One overlay for each section, from its fields.  Where a field has a default of its own, the proof
that it is the one of the section's default is a computation. -/

/-- The section about the server. -/
def Server.overlay : Overlay Server.ofNode .default where
  known := Shape.values ["bind", "port"]
  leaves := [⟨["bind"], Node.text, Server.bind, Yaml.steady_text⟩,
    ⟨["port"], Node.unsigned 65536, Server.port, Yaml.steady_unsigned _⟩]
  paths := List.map_inj_left.mp rfl
  overlays := by
    intro n fits a
    obtain ⟨fs, fields, found⟩ := fits.fields_eq
    simp only [Shape.values, List.map_cons, List.map_nil, List.forall_mem_cons] at fields found
    cases a
    -- A value that is found is no case distinction, also where it is a truth value.
    simp [-Bool.exists_bool, Server.ofNode, fields, found, bind_eq_ok_iff, Overlays]

/-- The section about cycles. -/
def Schedule.overlay : Overlay Schedule.ofNode .default where
  known := Shape.values ["interval", "parallel", "parallelism", "collector_timeout", "cancel_fast"]
  leaves := [⟨["interval"], duration, Schedule.interval, steady_duration⟩,
    ⟨["parallel"], Node.flag, Schedule.parallel, Yaml.steady_flag⟩,
    ⟨["parallelism"], Node.optional (Node.unsigned UInt64.size), Schedule.parallelism,
      Yaml.steady_optional (Yaml.steady_unsigned _)⟩,
    ⟨["collector_timeout"], duration, Schedule.collectorTimeout, steady_duration⟩,
    ⟨["cancel_fast"], Node.flag, Schedule.cancelFast, Yaml.steady_flag⟩]
  paths := List.map_inj_left.mp rfl
  overlays := by
    intro n fits a
    obtain ⟨fs, fields, found⟩ := fits.fields_eq
    simp only [Shape.values, List.map_cons, List.map_nil, List.forall_mem_cons] at fields found
    cases a
    simp [-Bool.exists_bool, Schedule.ofNode, Schedule.default, fields, found,
      bind_eq_ok_iff, Overlays]

/-- The section about sampling. -/
def Sampling.overlay : Overlay Sampling.ofNode .default where
  known := Shape.values ["rate", "include", "exclude"]
  leaves := [⟨["rate"], Node.real, Sampling.rate, Yaml.steady_real⟩,
    ⟨["include"], Node.list Node.text, Sampling.included, Yaml.steady_list Yaml.steady_text⟩,
    ⟨["exclude"], Node.list Node.text, Sampling.excluded, Yaml.steady_list Yaml.steady_text⟩]
  paths := List.map_inj_left.mp rfl
  overlays := by
    intro n fits a
    obtain ⟨fs, fields, found⟩ := fits.fields_eq
    simp only [Shape.values, List.map_cons, List.map_nil, List.forall_mem_cons] at fields found
    cases a
    simp [-Bool.exists_bool, Sampling.ofNode, Sampling.default, fields, found,
      bind_eq_ok_iff, Overlays]

/-- The section about sending. -/
def Push.overlay : Overlay Push.ofNode .default where
  known :=
    Shape.values
    ["enabled", "endpoint", "headers", "request_timeout", "queue_capacity", "full_mode",
      "max_batch_size", "empty_queue_delay"]
  leaves := [⟨["enabled"], Node.flag, Push.enabled, Yaml.steady_flag⟩,
    ⟨["endpoint"], Node.optional Node.text, Push.endpoint, Yaml.steady_optional Yaml.steady_text⟩,
    ⟨["headers"], Config.headers, Push.headers, steady_headers⟩,
    ⟨["request_timeout"], duration, Push.requestTimeout, steady_duration⟩,
    ⟨["queue_capacity"], Node.unsigned UInt64.size, Push.queueCapacity, Yaml.steady_unsigned _⟩,
    ⟨["full_mode"], Node.name fullMode?, Push.fullMode, Yaml.steady_name _⟩,
    ⟨["max_batch_size"], Node.unsigned UInt64.size, Push.maxBatchSize, Yaml.steady_unsigned _⟩,
    ⟨["empty_queue_delay"], duration, Push.emptyQueueDelay, steady_duration⟩]
  paths := List.map_inj_left.mp rfl
  overlays := by
    intro n fits a
    obtain ⟨fs, fields, found⟩ := fits.fields_eq
    simp only [Shape.values, List.map_cons, List.map_nil, List.forall_mem_cons] at fields found
    cases a
    simp [-Bool.exists_bool, Push.ofNode, Push.default, fields, found, bind_eq_ok_iff, Overlays]

/-- The section about retries. -/
def Retry.overlay : Overlay Retry.ofNode .default where
  known := Shape.values ["max_attempts", "base_delay", "max_delay"]
  leaves :=
    [⟨["max_attempts"], Node.unsigned UInt32.size, Retry.maxAttempts, Yaml.steady_unsigned _⟩,
    ⟨["base_delay"], duration, Retry.baseDelay, steady_duration⟩,
    ⟨["max_delay"], duration, Retry.maxDelay, steady_duration⟩]
  paths := List.map_inj_left.mp rfl
  overlays := by
    intro n fits a
    obtain ⟨fs, fields, found⟩ := fits.fields_eq
    simp only [Shape.values, List.map_cons, List.map_nil, List.forall_mem_cons] at fields found
    cases a
    simp [-Bool.exists_bool, Retry.ofNode, Retry.default, fields, found, bind_eq_ok_iff, Overlays]

/-- The section about the agent's own metrics. -/
def SelfMetrics.overlay : Overlay SelfMetrics.ofNode .default where
  known := Shape.values ["enabled", "prefix"]
  leaves := [⟨["enabled"], Node.flag, SelfMetrics.enabled, Yaml.steady_flag⟩,
    ⟨["prefix"], Node.text, SelfMetrics.lead, Yaml.steady_text⟩]
  paths := List.map_inj_left.mp rfl
  overlays := by
    intro n fits a
    obtain ⟨fs, fields, found⟩ := fits.fields_eq
    simp only [Shape.values, List.map_cons, List.map_nil, List.forall_mem_cons] at fields found
    cases a
    simp [-Bool.exists_bool, SelfMetrics.ofNode, SelfMetrics.default, fields, found,
      bind_eq_ok_iff, Overlays]

/-- Whether a collector is on. -/
def toggleOverlay : Overlay toggle true where
  known := Shape.values ["enabled"]
  leaves := [⟨["enabled"], Node.flag, id, Yaml.steady_flag⟩]
  paths := List.map_inj_left.mp rfl
  overlays := by
    intro n fits a
    obtain ⟨fs, fields, found⟩ := fits.fields_eq
    simp only [Shape.values, List.map_cons, List.map_nil, List.forall_mem_cons] at fields found
    simp [-Bool.exists_bool, toggle, fields, found, bind_eq_ok_iff, Overlays]

/-- The settings of the collector of network rates. -/
def Network.overlay : Overlay Network.ofNode .default where
  known := Shape.values ["enabled", "min_window"]
  leaves := [⟨["enabled"], Node.flag, Network.enabled, Yaml.steady_flag⟩,
    ⟨["min_window"], duration, Network.minWindow, steady_duration⟩]
  paths := List.map_inj_left.mp rfl
  overlays := by
    intro n fits a
    obtain ⟨fs, fields, found⟩ := fits.fields_eq
    simp only [Shape.values, List.map_cons, List.map_nil, List.forall_mem_cons] at fields found
    cases a
    simp [-Bool.exists_bool, Network.ofNode, Network.default, fields, found,
      bind_eq_ok_iff, Overlays]

/-- The section about the collectors of the host. -/
def Collectors.overlay : Overlay Collectors.ofNode .default where
  known := [("cpu", .fields toggleOverlay.known), ("memory", .fields toggleOverlay.known),
    ("network", .fields Network.overlay.known)]
  leaves := toggleOverlay.leaves.map (.under "cpu" Collectors.cpu) ++
    toggleOverlay.leaves.map (.under "memory" Collectors.memory) ++
    Network.overlay.leaves.map (.under "network" Collectors.network)
  paths := List.map_inj_left.mp rfl
  overlays := by
    intro n fits a
    obtain ⟨fs, fields, found⟩ := fits.fields_eq
    simp only [List.map_cons, List.map_nil, List.forall_mem_cons] at fields found
    rw [overlays_append, overlays_append, toggleOverlay.overlays_under fits rfl Collectors.cpu rfl,
      toggleOverlay.overlays_under fits rfl Collectors.memory rfl,
      Network.overlay.overlays_under fits rfl Collectors.network rfl]
    cases a
    simp [-Bool.exists_bool, Collectors.ofNode, Collectors.default, fields, found,
      bind_eq_ok_iff, and_assoc]

/-- A configuration. -/
def overlay : Overlay ofNode .default where
  known := [("server", .fields Server.overlay.known), ("scheduler", .fields Schedule.overlay.known),
    ("sampling", .fields Sampling.overlay.known), ("push", .fields Push.overlay.known),
    ("retry", .fields Retry.overlay.known), ("self_metrics", .fields SelfMetrics.overlay.known),
    ("collectors", .fields Collectors.overlay.known)]
  leaves := Server.overlay.leaves.map (.under "server" Config.server) ++
    Schedule.overlay.leaves.map (.under "scheduler" Config.scheduler) ++
    Sampling.overlay.leaves.map (.under "sampling" Config.sampling) ++
    Push.overlay.leaves.map (.under "push" Config.push) ++
    Retry.overlay.leaves.map (.under "retry" Config.retry) ++
    SelfMetrics.overlay.leaves.map (.under "self_metrics" Config.selfMetrics) ++
    Collectors.overlay.leaves.map (.under "collectors" Config.collectors)
  paths := List.map_inj_left.mp rfl
  overlays := by
    intro n fits a
    obtain ⟨fs, fields, found⟩ := fits.fields_eq
    simp only [List.map_cons, List.map_nil, List.forall_mem_cons] at fields found
    simp only [overlays_append]
    rw [Server.overlay.overlays_under fits rfl Config.server rfl,
      Schedule.overlay.overlays_under fits rfl Config.scheduler rfl,
      Sampling.overlay.overlays_under fits rfl Config.sampling rfl,
      Push.overlay.overlays_under fits rfl Config.push rfl,
      Retry.overlay.overlays_under fits rfl Config.retry rfl,
      SelfMetrics.overlay.overlays_under fits rfl Config.selfMetrics rfl,
      Collectors.overlay.overlays_under fits rfl Config.collectors rfl]
    cases a
    simp [-Bool.exists_bool, ofNode, Config.default, fields, found, bind_eq_ok_iff, and_assoc]

example : overlay.leaves.map (·.path) =
    [["server", "bind"], ["server", "port"], ["scheduler", "interval"], ["scheduler", "parallel"],
      ["scheduler", "parallelism"], ["scheduler", "collector_timeout"],
      ["scheduler", "cancel_fast"], ["sampling", "rate"], ["sampling", "include"],
      ["sampling", "exclude"], ["push", "enabled"], ["push", "endpoint"], ["push", "headers"],
      ["push", "request_timeout"], ["push", "queue_capacity"], ["push", "full_mode"],
      ["push", "max_batch_size"], ["push", "empty_queue_delay"], ["retry", "max_attempts"],
      ["retry", "base_delay"], ["retry", "max_delay"], ["self_metrics", "enabled"],
      ["self_metrics", "prefix"], ["collectors", "cpu", "enabled"],
      ["collectors", "memory", "enabled"], ["collectors", "network", "enabled"],
      ["collectors", "network", "min_window"]] := rfl

/-! ## Configurations

All sections are put under their keys, and the checks are made of what was read. -/

section Documents

variable {σ : Type} {default a : σ} {n n' : Node} {c : Config}

/-- Which values are laid depends on the nodes only as far as they are read. -/
theorem laid_congr {α : Type} {read : Node → Except TypeError α} {d b : α}
    {node node' : Option Node}
    (same : node.map (fun n ↦ (read n).toOption) = node'.map fun n ↦ (read n).toOption) :
    Laid node read d b ↔ Laid node' read d b := by
  cases node with
  | none =>
    cases node' with
    | none => rfl
    | some => cases same
  | some n =>
    cases node' with
    | none => cases same
    | some n' =>
      have same : (read n).toOption = (read n').toOption := Option.some.inj same
      rw [Laid, Laid, ← Yaml.toOption_eq_some_iff, ← Yaml.toOption_eq_some_iff, same]

/-- Documents that differ in the order of keys and in unknown ones give the same values. -/
theorem Overlay.overlays_congr {read : Node → Except TypeError σ} (o : Overlay read default)
    (h : Varies (.fields o.known) n n') : Overlays o.leaves default n a ↔
      Overlays o.leaves default n' a :=
  forall₂_congr fun l hl ↦ laid_congr (h.at?_eq (o.paths l hl) l.steady)

/-- A document is accepted when it can be read and what it says is accepted. -/
theorem read_eq_ok_iff {env : Environment} :
    read env (some n) = .ok c ↔ ofNode n = .ok c ∧ Accepted env c := by
  rw [read, ofDocument, ← check_eq_ok_iff]
  cases ofNode n with
  | error e => simp only [reduceCtorEq, false_and]
  | ok b =>
    simp only [Except.ok.injEq]
    cases checked : b.check env with
    | error f =>
      simp only [reduceCtorEq, false_iff, not_and]
      rintro rfl passed
      cases checked.symm.trans passed
    | ok =>
      simp only [Except.ok.injEq]
      exact ⟨fun same ↦ ⟨same, same ▸ checked⟩, And.left⟩

/-- **Reading lays a document over the default.** A document with mappings where sections are
expected is accepted with a configuration just if that has what the document gives, and all else
from the default, and passes the checks. Another document that differs in the order of keys and in
unknown ones is accepted with the same. -/
theorem reading_overlays_default (env : Environment) (fits : Fits (.fields overlay.known) n) :
    (∀ c, read env (some n) = .ok c ↔ Overlays overlay.leaves .default n c ∧ Accepted env c) ∧
    ∀ n', Fits (.fields overlay.known) n' → Varies (.fields overlay.known) n n' →
      (read env (some n')).toOption = (read env (some n)).toOption := by
  have accepts {n : Node} (fits : Fits (.fields overlay.known) n) (c : Config) :
      read env (some n) = .ok c ↔ Overlays overlay.leaves .default n c ∧ Accepted env c := by
    rw [read_eq_ok_iff, overlay.overlays fits]
  refine ⟨accepts fits, fun n' fits' varies ↦ Option.ext fun c ↦ ?_⟩
  rw [Yaml.toOption_eq_some_iff, Yaml.toOption_eq_some_iff, accepts fits, accepts fits',
    overlay.overlays_congr varies]

end Documents

/-- A plain text. -/
def plain (text : String) : Node := .scalar text .plain none

/-- Some fields of two sections, an empty section, and a key that is no field. -/
def blocking : Node :=
  .mapping [
    (plain "push", .mapping [
      (plain "headers", .mapping [(plain "b", plain "2"), (plain "a", plain "1")]),
      (plain "full_mode", plain "block")]),
    (plain "server", .mapping [(plain "port", plain "8080"), (plain "colour", plain "red")]),
    (plain "retry", .mapping [])]

/-- The same fields in another order, and another key that is no field. -/
def blockingReordered : Node :=
  .mapping [
    (plain "zone", plain "eu"),
    (plain "server", .mapping [(plain "port", plain "8080")]),
    (plain "push", .mapping [
      (plain "full_mode", plain "block"),
      (plain "headers", .mapping [(plain "a", plain "1"), (plain "b", plain "2")])]),
    (plain "retry", .mapping [])]

/-- What both of them say over the default. -/
def blockingConfig : Config :=
  { Config.default with
    server := { Server.default with port := 8080 }
    push := { Push.default with headers := [("a", "1"), ("b", "2")], fullMode := .block } }

/-- Two documents that differ in the order of keys and in unknown ones are accepted with one
configuration. -/
theorem reading_overlays_default_reordered :
    Fits (.fields overlay.known) blocking ∧ Fits (.fields overlay.known) blockingReordered ∧
    Varies (.fields overlay.known) blocking blockingReordered ∧
    Overlays overlay.leaves .default blocking blockingConfig ∧
    Accepted (fun _ ↦ none) blockingConfig ∧
    read (fun _ ↦ none) (some blockingReordered) = .ok blockingConfig := by
  have fits : Fits (.fields overlay.known) blocking := by
    refine .fields (by decide) (by decide) ?_
    simp only [List.forall_mem_cons]
    refine ⟨?_, ?_, ?_, nofun⟩ <;> intro s shape <;> cases shape <;>
      exact Yaml.fits_values (by decide) (by decide)
  have fits' : Fits (.fields overlay.known) blockingReordered := by
    refine .fields (by decide) (by decide) ?_
    simp only [List.forall_mem_cons]
    refine ⟨nofun, ?_, ?_, ?_, nofun⟩ <;> intro s shape <;> cases shape <;>
      exact Yaml.fits_values (by decide) (by decide)
  -- The variation is built part by part: the keys of push swapped, an unknown key left out of
  -- server.
  have push : Varies (.fields Push.overlay.known)
      (.mapping [(plain "headers", .mapping [(plain "b", plain "2"), (plain "a", plain "1")]),
        (plain "full_mode", plain "block")])
      (.mapping [(plain "full_mode", plain "block"),
        (plain "headers", .mapping [(plain "a", plain "1"), (plain "b", plain "2")])]) :=
    .mapping ((EntriesVary.entry rfl (.of_perm (.swap ..) (by decide)) (.same _ _)).trans
      (.swap (.inr (by decide))))
  have server : Varies (.fields Server.overlay.known)
      (.mapping [(plain "port", plain "8080"), (plain "colour", plain "red")])
      (.mapping [(plain "port", plain "8080")]) :=
    .mapping (.entry rfl (.same _ _) (.unknown rfl))
  have varies : Varies (.fields overlay.known) blocking blockingReordered :=
    .mapping ((EntriesVary.entry rfl push (.entry rfl server (.same _ _))).trans
      ((EntriesVary.swap (.inr (by decide))).trans (.symm (.unknown rfl))))
  -- Of what the checks read, only the port is not the default's.
  have accepted : Accepted (fun _ ↦ none) blockingConfig :=
    { check_eq_ok_iff.mp (@check_sideBySide (fun _ ↦ none) none nofun) with
      port := by decide }
  have reads : read (fun _ ↦ none) (some blocking) = .ok blockingConfig :=
    read_eq_ok_iff.mpr ⟨rfl, accepted⟩
  obtain ⟨accepts, alike⟩ := reading_overlays_default (fun _ ↦ none) fits
  refine ⟨fits, fits', varies, ((accepts _).mp reads).1, accepted, Yaml.toOption_eq_some_iff.mp ?_⟩
  rw [alike blockingReordered fits' varies, reads]
  rfl

end MetricsAgent.Config
