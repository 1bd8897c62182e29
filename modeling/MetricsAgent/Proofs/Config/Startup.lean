import MetricsAgent.Config.Validate
import MetricsAgent.Proofs.Double.Order

/-!
# What a checked configuration is good for

`Config.check` asks one question after the other, and `Config.check_eq_ok_iff` says that it accepts
just the configurations for which all of them are answered well (`Config.Accepted`).  What a program
builds from a configuration has conditions of its own (`Config.CanStart`).

`Config.checked_starts_iff` compares the two: all that is built from an accepted configuration can
be built, but for the scheduler, whose pool may be too large.  Nothing asks about that, so a check
that succeeds does not promise that the program starts (`not_checked_starts`).  The bound is far
beyond any number of collectors that one would want side by side; it is the condition of the
statement, and nothing else is.
-/

set_option autoImplicit false

namespace MetricsAgent

/-- A rate between zero and one is used as it is. -/
theorem SamplingPolicy.effectiveRate_eq_self {rate : Float} (low : 0.0 ≤ rate) (high : rate ≤ 1.0) :
    effectiveRate rate = rate := by
  have number : rate.isNaN = false := Double.not_isNaN_of_le high
  rw [effectiveRate, number, if_neg Bool.false_ne_true, if_neg (Double.not_lt_of_le low),
    if_neg (Double.not_lt_of_le high)]

namespace Config

/-! ## What is checked

Each section has a lemma that says when its check succeeds, and the chain of checks succeeds when
all of them do. -/

/-- The conditions of a configuration in an environment, in the order in which they are checked. -/
structure Accepted (env : Environment) (c : Config) : Prop where
  address : isIpAddress c.server.bind = true
  port : c.server.port ≠ 0
  interval : c.scheduler.interval ≠ .zero
  parallelism : c.scheduler.parallelism ≠ some 0
  rate : 0.0 ≤ c.sampling.rate ∧ c.sampling.rate ≤ 1.0
  patterns : ∃ f, c.sampling.filter = .ok f
  capacity : c.push.queueCapacity ≠ 0
  batchSize : c.push.maxBatchSize ≠ 0
  requestTimeout : c.push.requestTimeout ≠ .zero
  endpoint : c.push.enabled = true → ∃ u, c.push.endpointUrl env = .ok u
  delays : c.retry.baseDelay ≤ c.retry.maxDelay
  window : c.collectors.network.enabled = true → c.collectors.network.minWindow ≠ .zero

section Steps

variable {ε α β : Type}

/-- Checks are made one after the other until one fails. -/
theorem bind_eq_ok_iff {x : Except ε α} {f : α → Except ε β} {b : β} :
    x >>= f = .ok b ↔ ∃ a, x = .ok a ∧ f a = .ok b := by
  cases x with
  | error e => exact iff_of_false nofun fun ⟨_, same, _⟩ ↦ nomatch same
  | ok a => exact ⟨fun h ↦ ⟨a, rfl, h⟩, fun ⟨_, same, h⟩ ↦ Except.ok.inj same ▸ h⟩

theorem exists_eq_ok_of_toBool {x : Except ε α} (h : x.toBool = true) : ∃ a, x = .ok a := by
  cases x with
  | error e => cases h
  | ok a => exact ⟨a, rfl⟩

theorem require_eq_ok_iff {condition : Bool} {f : ConfigFault} :
    require condition f = .ok () ↔ condition = true := by
  cases condition with
  | true => exact iff_of_true rfl rfl
  | false => exact iff_of_false nofun Bool.false_ne_true

/-- A check in front of others. -/
theorem check_bind_eq_ok_iff {x : Except ConfigFault Unit} {rest : Except ConfigFault β} {b : β} :
    (x >>= fun _ ↦ rest) = .ok b ↔ x = .ok () ∧ rest = .ok b := by
  rw [bind_eq_ok_iff]
  exact ⟨fun ⟨(), passed, last⟩ ↦ ⟨passed, last⟩, fun ⟨passed, last⟩ ↦ ⟨(), passed, last⟩⟩

theorem require_bind_eq_ok_iff {condition : Bool} {f : ConfigFault}
    {rest : Except ConfigFault β} {b : β} :
    (require condition f >>= fun _ ↦ rest) = .ok b ↔ condition = true ∧ rest = .ok b := by
  rw [check_bind_eq_ok_iff, require_eq_ok_iff]

end Steps

section Sections

variable {env : Environment}

theorem Server.check_eq_ok_iff {s : Server} :
    s.check = .ok () ↔ isIpAddress s.bind = true ∧ s.port ≠ 0 := by
  rw [Server.check, require_bind_eq_ok_iff, require_eq_ok_iff, decide_eq_true_iff]

theorem Schedule.check_eq_ok_iff {s : Schedule} :
    s.check = .ok () ↔ s.interval ≠ .zero ∧ s.parallelism ≠ some 0 := by
  rw [Schedule.check, require_bind_eq_ok_iff, require_eq_ok_iff, decide_eq_true_iff,
    decide_eq_true_iff]

/-- A filter is made of a rate between zero and one and of patterns that can be read. -/
theorem Sampling.toFilter_eq_ok_iff {s : Sampling} {f : NameFilter} :
    s.toFilter = .ok f ↔ (0.0 ≤ s.rate ∧ s.rate ≤ 1.0) ∧ s.filter = .ok f := by
  rw [Sampling.toFilter, require_bind_eq_ok_iff, Bool.and_eq_true, decide_eq_true_iff,
    decide_eq_true_iff]
  refine and_congr_right fun _ ↦ ?_
  cases s.filter with
  | error e => exact iff_of_false nofun nofun
  | ok g =>
    exact ⟨fun same ↦ congrArg _ (Except.ok.inj same), fun same ↦ congrArg _ (Except.ok.inj same)⟩

theorem Push.check_eq_ok_iff {p : Push} : p.check env = .ok () ↔
    p.queueCapacity ≠ 0 ∧ p.maxBatchSize ≠ 0 ∧ p.requestTimeout ≠ .zero ∧
      (p.enabled = true → ∃ u, p.endpointUrl env = .ok u) := by
  rw [Push.check, require_bind_eq_ok_iff, require_bind_eq_ok_iff, require_bind_eq_ok_iff,
    decide_eq_true_iff, decide_eq_true_iff, decide_eq_true_iff]
  refine and_congr_right fun _ ↦ and_congr_right fun _ ↦ and_congr_right fun _ ↦ ?_
  cases p.enabled with
  | false => exact iff_of_true rfl fun on ↦ absurd on Bool.false_ne_true
  | true =>
    rw [if_pos rfl, bind_eq_ok_iff]
    exact ⟨fun ⟨u, made, _⟩ _ ↦ ⟨u, made⟩, fun h ↦ (h rfl).imp fun _ made ↦ ⟨made, rfl⟩⟩

theorem Retry.check_eq_ok_iff {r : Retry} : r.check = .ok () ↔ r.baseDelay ≤ r.maxDelay := by
  rw [Retry.check, require_eq_ok_iff, decide_eq_true_iff]

theorem Collectors.check_eq_ok_iff {c : Collectors} :
    c.check = .ok () ↔ (c.network.enabled = true → c.network.minWindow ≠ .zero) := by
  rw [Collectors.check, require_eq_ok_iff, Bool.or_eq_true, Bool.not_eq_true', decide_eq_true_iff,
    ← Bool.not_eq_true, ← imp_iff_not_or]

/-- **A configuration is accepted just if it meets all conditions.** -/
theorem check_eq_ok_iff {c : Config} : c.check env = .ok () ↔ Accepted env c := by
  have order : c.check env = .ok () ↔ c.server.check = .ok () ∧ c.scheduler.check = .ok () ∧
      (∃ f, c.sampling.toFilter = .ok f) ∧ c.push.check env = .ok () ∧ c.retry.check = .ok () ∧
      c.collectors.check = .ok () := by
    rw [check, check_bind_eq_ok_iff, check_bind_eq_ok_iff, bind_eq_ok_iff]
    simp only [check_bind_eq_ok_iff, exists_and_right]
  rw [order, Server.check_eq_ok_iff, Schedule.check_eq_ok_iff, Push.check_eq_ok_iff,
    Retry.check_eq_ok_iff, Collectors.check_eq_ok_iff]
  simp only [Sampling.toFilter_eq_ok_iff, exists_and_left]
  constructor
  · rintro ⟨⟨address, port⟩, ⟨interval, parallelism⟩, ⟨rate, patterns⟩,
      ⟨capacity, batchSize, requestTimeout, endpoint⟩, delays, window⟩
    exact ⟨address, port, interval, parallelism, rate, patterns, capacity,
      batchSize, requestTimeout, endpoint, delays, window⟩
  · intro h
    exact ⟨⟨h.address, h.port⟩, ⟨h.interval, h.parallelism⟩, ⟨h.rate, h.patterns⟩,
      ⟨h.capacity, h.batchSize, h.requestTimeout, h.endpoint⟩, h.delays, h.window⟩

end Sections

/-! ## What is built

A policy, a scheduler, a queue, a client for the endpoint.  Each is built by a function of the
model, and the question is whether that function can fail on values that were accepted. -/

/-- What is built from a configuration can be built, in an environment and on a host with a number
of processors. -/
structure CanStart (env : Environment) (processors : Nat) (c : Config) : Prop where
  scheduler : (c.scheduler.toScheduler processors).isBuildable = true
  /-- The loop of the agent can be started. -/
  ticker : c.toAgent.isRunnable = true
  /-- There is a policy, and it has the rate of the configuration. -/
  policy : ∀ random, ∃ p, c.sampling.toPolicy random = .ok p ∧ p.rate = c.sampling.rate
  pipeline : ∀ metrics, ∃ q, c.push.toChannel metrics = .ok q
  endpoint : c.push.enabled = true → ∃ u, c.push.endpointUrl env = .ok u
  delays : ∀ jitter, (c.retry.toPolicy jitter).baseDelay ≤ (c.retry.toPolicy jitter).maxDelay

/-- A scheduler can be built if its pool is not too large. A pool of one permit never is. -/
theorem Schedule.isBuildable_iff {s : Schedule} {processors : Nat} :
    (s.toScheduler processors).isBuildable = true ↔
      s.parallelism.getD processors ≤ SchedulerConfig.maxPermits := by
  rw [SchedulerConfig.isBuildable, decide_eq_true_iff, SchedulerConfig.permits, Nat.max_le]
  exact and_iff_right (by decide)

/-- A rate and patterns that are accepted make a policy with that rate. -/
theorem Sampling.toPolicy_eq_ok {s : Sampling} (rate : 0.0 ≤ s.rate ∧ s.rate ≤ 1.0)
    (patterns : ∃ f, s.filter = .ok f) (random : Nat → Float) :
    ∃ p, s.toPolicy random = .ok p ∧ p.rate = s.rate := by
  obtain ⟨f, read⟩ := patterns
  have made : s.toFilter = .ok f := Sampling.toFilter_eq_ok_iff.mpr ⟨rate, read⟩
  refine ⟨.filtered s.rate f random, ?_, SamplingPolicy.effectiveRate_eq_self rate.1 rate.2⟩
  rw [Sampling.toPolicy, made]
  rfl

/-- A queue that holds anything can be made. -/
theorem Push.toChannel_eq_ok {p : Push} (capacity : p.queueCapacity ≠ 0)
    (metrics : MetricsAgent.SelfMetrics) : ∃ q, p.toChannel metrics = .ok q := by
  rw [Push.toChannel, Channel.new, BoundedQueue.new?, dif_pos (Nat.pos_of_ne_zero capacity)]
  exact ⟨_, rfl⟩

/-- **A configuration that was accepted can be started** in the same environment, for every number
of processors, just if the number of collectors that run side by side is one that a pool can have
permits for. -/
theorem checked_starts_iff {env : Environment} {c : Config} (checked : c.check env = .ok ())
    (processors : Nat) : CanStart env processors c ↔
      c.scheduler.parallelism.getD processors ≤ SchedulerConfig.maxPermits := by
  have accepted := check_eq_ok_iff.mp checked
  refine ⟨fun starts ↦ Schedule.isBuildable_iff.mp starts.scheduler, fun small ↦ ?_⟩
  exact
    { scheduler := Schedule.isBuildable_iff.mpr small
      ticker := decide_eq_true accepted.interval
      policy := Sampling.toPolicy_eq_ok accepted.rate accepted.patterns
      pipeline := Push.toChannel_eq_ok accepted.capacity
      endpoint := accepted.endpoint
      delays := fun _ ↦ accepted.delays }

/-- The default with another number of collectors that run side by side. -/
def sideBySide (parallelism : Option Nat) : Config :=
  { Config.default with scheduler := { Schedule.default with parallelism := parallelism } }

/-- The default is accepted everywhere, with any number of collectors side by side but zero. -/
theorem check_sideBySide (env : Environment) {parallelism : Option Nat}
    (some_run : parallelism ≠ some 0) : (sideBySide parallelism).check env = .ok () :=
  check_eq_ok_iff.mpr
    { address := (rfl : isIpAddress Server.default.bind = true)
      port := (by decide : Server.default.port ≠ 0)
      interval := (by decide : Schedule.default.interval ≠ .zero)
      parallelism := some_run
      rate := (by decide : 0.0 ≤ Sampling.default.rate ∧ Sampling.default.rate ≤ 1.0)
      patterns := ⟨⟨[], []⟩, rfl⟩
      capacity := (by decide : Push.default.queueCapacity ≠ 0)
      batchSize := (by decide : Push.default.maxBatchSize ≠ 0)
      requestTimeout := (by decide : Push.default.requestTimeout ≠ .zero)
      endpoint := fun on ↦ absurd on Bool.false_ne_true
      delays := (by decide : Retry.default.baseDelay ≤ Retry.default.maxDelay)
      window := fun _ ↦ (by decide : Network.default.minWindow ≠ .zero) }

/-- Four collectors side by side, and an endpoint on a host that the environment names. -/
def pushing : Config :=
  { Config.default with
    scheduler := { Schedule.default with parallelism := some 4 }
    push :=
      { Push.default with
        enabled := true
        endpoint := some "https://${PUSH_HOST}/v1/metrics" } }

/-- An environment that names the host. -/
def namesHost : Environment := fun name ↦
  if name = "PUSH_HOST" then some "push.example.org" else none

theorem check_pushing : pushing.check namesHost = .ok () := by
  have reads : (pushing.push.endpointUrl namesHost).toBool = true := by decide +kernel
  have usual := check_eq_ok_iff.mp (@check_sideBySide namesHost (some 4) (by decide))
  exact check_eq_ok_iff.mpr { usual with endpoint := fun _ ↦ exists_eq_ok_of_toBool reads }

/-- It starts there, on a host with a single processor too. -/
theorem checked_starts_iff_pushing :
    pushing.check namesHost = .ok () ∧ CanStart namesHost 1 pushing :=
  ⟨check_pushing, (checked_starts_iff check_pushing 1).mpr (Nat.le_of_ble_eq_true rfl)⟩

/-- It is not so that every configuration that is accepted can be started: the pool for `2 ^ 61`
collectors side by side is too large. -/
theorem not_checked_starts : ¬∀ (env : Environment) (c : Config) (processors : Nat),
    c.check env = .ok () → CanStart env processors c := by
  intro starts
  have checked := @check_sideBySide (fun _ ↦ none) (some 2305843009213693952) (by decide)
  have small := Schedule.isBuildable_iff.mp (starts _ _ 1 checked).scheduler
  exact absurd small (Nat.not_le_of_not_ble_eq_true (by decide))

end Config

end MetricsAgent
