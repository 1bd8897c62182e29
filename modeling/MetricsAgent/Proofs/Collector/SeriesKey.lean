import Mathlib.Data.List.Basic
import Mathlib.Data.List.TakeWhile
import MetricsAgent.Proofs.Collector.Samples

/-!
# Counters told apart by their keys

A tracker tells series apart by a text, the key, in which the name and the tags follow each other
without any escaping.  Two series may have one key, and then a counter of the one is compared with a
value of the other.  `DeltaTracker.deltas_separate_iff` says that deltas mix series in no other way:
among some series they never do just if no two of these have one key.  Series whose texts are free
of the marks that a key is made with are such series (`CounterSeries.IsPlain.eq_of_key_eq`).

The smallest case in which series are mixed has an interface in a tag and a counter whose name reads
like it (`not_deltas_separate`): the key does not tell a name from a tag.  Counters of the host have
no such names, so the agent's own collectors are on the safe side.
-/

set_option autoImplicit false

namespace MetricsAgent

/-- What a counter is a reading of. -/
structure CounterSeries where
  name : String
  tags : Tags
  deriving DecidableEq

/-- The series of a counter. -/
def RawCounter.series (c : RawCounter) : CounterSeries := ⟨c.name, c.tags⟩

/-- The value that a sample holds for a series; of a repeated series the last. -/
def CounterSample.held? (b : CounterSample) (x : CounterSeries) : Option UInt64 :=
  (b.counters.reverse.find? (·.series = x)).map (·.value)

namespace CounterSeries

/-- The key of a series, which is that of each of its counters. -/
def key (x : CounterSeries) : String := (RawCounter.mk x.name x.tags 0).seriesKey

/-- The texts of a series are free of the marks that a key is made with: of that before a tag, and
the key of a tag also of that before its value. -/
structure IsPlain (x : CounterSeries) : Prop where
  name : '|' ∉ x.name.toList
  keys : ∀ e ∈ x.tags.entries, '|' ∉ e.1.toList ∧ '=' ∉ e.1.toList
  values : ∀ e ∈ x.tags.entries, '|' ∉ e.2.toList

/-! ## Reading a key

With one mark put behind it, a key is a list of parts with a mark after each.  A text that is free
of the mark is read up to it in one way, so plain series can be read off their keys. -/

/-- A tag as it stands in a key. -/
def pair (e : String × String) : List Char := e.1.toList ++ '=' :: e.2.toList

/-- With one mark more, each part of a key is followed by a mark. -/
theorem toList_key_append (x : CounterSeries) : x.key.toList ++ ['|'] =
    x.name.toList ++ '|' :: x.tags.entries.flatMap (pair · ++ ['|']) := by
  have tags : ∀ entries : List (String × String),
      ((entries.map fun e ↦ "|" ++ e.1 ++ "=" ++ e.2).flatMap String.toList) ++ ['|'] =
        '|' :: entries.flatMap (pair · ++ ['|']) := by
    intro entries
    induction entries with
    | nil => rfl
    | cons e rest ih =>
      rw [List.map_cons, List.flatMap_cons, List.flatMap_cons, List.append_assoc, ih]
      simp [pair]
  rw [key, RawCounter.seriesKey, String.toList_append, String.toList_join, List.append_assoc, tags]

/-- A text is read up to its first mark in one way. -/
theorem append_cons_inj {a b u v : List Char} {mark : Char} (ha : mark ∉ a) (hb : mark ∉ b)
    (same : a ++ mark :: u = b ++ mark :: v) : a = b ∧ u = v := by
  have read {a u : List Char} (ha : mark ∉ a) : (a ++ mark :: u).takeWhile (· ≠ mark) = a := by
    rw [List.takeWhile_append_of_pos fun c hc ↦ decide_eq_true (ne_of_mem_of_not_mem hc ha)]
    simp
  obtain rfl : a = b := by rw [← read ha, same, read hb]
  exact ⟨rfl, List.tail_eq_of_cons_eq (List.append_cancel_left same)⟩

/-- What is free of a mark is read off when it is written one after the other with a mark after
each. -/
theorem flatMap_inj {β : Type} {f : β → List Char} {mark : Char} {l m : List β}
    (hl : ∀ x ∈ l, mark ∉ f x) (hm : ∀ y ∈ m, mark ∉ f y)
    (inj : ∀ x ∈ l, ∀ y ∈ m, f x = f y → x = y)
    (same : l.flatMap (f · ++ [mark]) = m.flatMap (f · ++ [mark])) : l = m := by
  induction l generalizing m with
  | nil =>
    cases m with
    | nil => rfl
    | cons y m => simp at same
  | cons x l ih =>
    cases m with
    | nil => simp at same
    | cons y m =>
      rw [List.forall_mem_cons] at hl hm
      simp only [List.flatMap_cons, List.append_assoc, List.singleton_append] at same
      obtain ⟨first, rest⟩ := append_cons_inj hl.1 hm.1 same
      rw [inj x List.mem_cons_self y List.mem_cons_self first, ih hl.2 hm.2 ?_ rest]
      exact fun a ha b hb ↦ inj a (List.mem_cons_of_mem _ ha) b (List.mem_cons_of_mem _ hb)

theorem IsPlain.not_mem_pair {x : CounterSeries} (plain : x.IsPlain) :
    ∀ e ∈ x.tags.entries, '|' ∉ pair e := by
  intro e he
  simp [pair, (plain.keys e he).1, plain.values e he]

/-- **Plain series with one key are one series.** -/
theorem IsPlain.eq_of_key_eq {x y : CounterSeries} (hx : x.IsPlain) (hy : y.IsPlain)
    (same : x.key = y.key) : x = y := by
  have marked := congrArg (fun k : String ↦ k.toList ++ ['|']) same
  simp only [toList_key_append] at marked
  obtain ⟨name, rest⟩ := append_cons_inj hx.name hy.name marked
  have entries : x.tags.entries = y.tags.entries := by
    refine flatMap_inj hx.not_mem_pair hy.not_mem_pair (fun d hd e he pairs ↦ ?_) rest
    obtain ⟨key, value⟩ := append_cons_inj (hx.keys d hd).2 (hy.keys e he).2 pairs
    exact Prod.ext (String.toList_inj.mp key) (String.toList_inj.mp value)
  obtain ⟨n, t⟩ := x
  obtain ⟨n', t'⟩ := y
  obtain rfl : n = n' := String.toList_inj.mp name
  obtain rfl : t = t' := Tags.eq_of_perm (.of_eq entries)
  rfl

end CounterSeries

/-! ## Which deltas are reported

One direction is general: keys that tell some series apart keep them apart in every run.  For the
other a run is given: two samples, one with a counter of each series. -/

namespace DeltaTracker

/-- The deltas of the counters whose series a sample holds, each against the value that the sample
holds. -/
def growths (b : CounterSample) (counters : List RawCounter) : List CounterDelta :=
  counters.filterMap fun c ↦ (b.held? c.series).map fun v ↦ ⟨c.name, c.tags, clampedDelta v c.value⟩

/-- After some samples, another one that gives deltas gives those of the counters whose series the
last accepted sample holds, and no others. -/
def Separates (window : Duration) (earlier : List Intake) (s : Intake) : Prop :=
  ∀ elapsed ds, (((new window).after earlier).take s).1 = .ready elapsed ds →
    ∃ b, ((new window).accepted earlier).getLast? = some b ∧ ds = growths b.toSample s.counters

/-- Samples whose counters are of some series separate them, in every run. -/
def SeparatesAll (U : CounterSeries → Prop) : Prop :=
  ∀ window earlier s, (∀ i ∈ s :: earlier, ∀ c ∈ i.counters, U c.series) →
    Separates window earlier s

/-- A sample that gives deltas gives those against the last accepted sample. -/
theorem eq_deltas_of_take {window : Duration} {earlier : List Intake} {s : Intake}
    {elapsed : Duration} {ds : List CounterDelta}
    (ready : (((new window).after earlier).take s).1 = .ready elapsed ds) :
    ∃ b, ((new window).accepted earlier).getLast? = some b ∧ ds = deltas b.toSample s.counters := by
  rcases take_cases
    ((new window).after earlier) s with ⟨-, nothing⟩ | ⟨-, -, ⟨-, nothing⟩ | ⟨b, known, told, -⟩⟩
  · rw [nothing] at ready
    cases ready
  · rw [nothing] at ready
    cases ready
  · rw [baseline_after] at known
    obtain ⟨a, last, rfl⟩ := Option.map_eq_some_iff.mp ((Option.or_none).symm.trans known)
    rw [told] at ready
    cases ready
    exact ⟨a, last, rfl⟩

/-- Where keys tell the series of two samples apart, no delta mixes them. -/
theorem deltas_eq_growths {b : CounterSample} {counters : List RawCounter}
    (apart : ∀ x ∈ b.counters, ∀ c ∈ counters, x.seriesKey = c.seriesKey → x.series = c.series) :
    deltas b counters = growths b counters := by
  refine List.filterMap_congr fun c hc ↦ ?_
  have same : b.value? c.seriesKey = b.held? c.series := by
    rw [CounterSample.value?, CounterSample.held?, ← List.head?_filter, ← List.head?_filter]
    congr 2
    refine List.filter_congr fun x hx ↦
      decide_eq_decide.mpr ⟨apart x (List.mem_reverse.mp hx) c hc, ?_⟩
    exact fun e ↦ congrArg CounterSeries.key e
  rw [same]

/-- A sample with one counter, of a series. -/
def lone (x : CounterSeries) : Intake := ⟨.zero, [⟨x.name, x.tags, 0⟩]⟩

/-- Where no time has to pass, a sample is compared with the first one. -/
theorem take_lone (x y : CounterSeries) :
    (((new .zero).after [lone y]).take (lone x)).1 = comparison (lone y).toSample (lone x) := by
  rw [after_cons, after_nil, take_of_none (s := lone y) rfl, take_of_not_lt rfl (Nat.not_lt_zero _)]

/-- Two series with one key are mixed: a counter of the one is compared with one of the other. -/
theorem eq_of_separates {x y : CounterSeries} (same : x.key = y.key)
    (separates : Separates .zero [lone y] (lone x)) : x = y := by
  obtain ⟨b, last, told⟩ := separates _ _ (take_lone x y)
  obtain rfl : lone y = b := Option.some.inj last
  by_contra other
  have compared : deltas (lone y).toSample (lone x).counters ≠ [] := by
    have key :
        (RawCounter.mk y.name y.tags 0).seriesKey = (RawCounter.mk x.name x.tags 0).seriesKey :=
      same.symm
    simp [deltas, lone, Intake.toSample, CounterSample.value?, key]
  have unknown : growths (lone y).toSample (lone x).counters = [] := by
    have apart : (RawCounter.mk y.name y.tags 0).series ≠ (RawCounter.mk x.name x.tags 0).series :=
      Ne.symm other
    simp [growths, lone, Intake.toSample, CounterSample.held?, apart]
  exact compared (told.trans unknown)

/-- Keys that tell some series apart keep them apart in every run. -/
theorem separates_of_inj {U : CounterSeries → Prop}
    (inj : ∀ x y, U x → U y → x.key = y.key → x = y) : SeparatesAll U := by
  intro window earlier s all elapsed ds ready
  obtain ⟨b, last, rfl⟩ := eq_deltas_of_take ready
  have there : b ∈ earlier := (accepted_sublist _ _).subset (List.mem_of_getLast? last)
  refine ⟨b, last, deltas_eq_growths fun x hx c hc ↦ ?_⟩
  exact inj _ _ (all b (List.mem_cons_of_mem _ there) x hx) (all s List.mem_cons_self c hc)

/-- **Deltas never mix some series just if no two of these have one key**, and so they never mix
plain ones. -/
theorem deltas_separate_iff (U : CounterSeries → Prop) :
    (SeparatesAll U ↔ ∀ x y, U x → U y → x.key = y.key → x = y) ∧
      ((∀ x, U x → x.IsPlain) → SeparatesAll U) := by
  refine ⟨⟨fun separates x y hx hy same ↦ ?_, separates_of_inj⟩, fun plain ↦ ?_⟩
  · exact eq_of_separates same (separates _ _ _ (by simpa [lone] using ⟨hx, hy⟩))
  · exact separates_of_inj fun x y hx hy ↦ (plain x hx).eq_of_key_eq (plain y hy)

/-- The received bytes of an interface. -/
def tagged : CounterSeries := ⟨"net.rx", .ofList [("if", "eth0")]⟩

/-- A counter without tags, whose name reads like the interface. -/
def named : CounterSeries := ⟨"net.rx|if=eth0", .empty⟩

/-- It is not so that deltas never mix series: the key does not tell a name from a tag. -/
theorem not_deltas_separate : ¬∀ window earlier s, Separates window earlier s := by
  intro separates
  have same : named.key = tagged.key := by decide
  exact absurd (eq_of_separates same (separates _ _ _)) (by decide)

end DeltaTracker

end MetricsAgent
