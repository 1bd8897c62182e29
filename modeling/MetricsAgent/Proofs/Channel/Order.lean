/-!
# Items that pass through a queue

Items go into a queue at its end and leave it at its front, where each is either taken or evicted.
`Fifo.PassThrough accepted evicted taken queue` is that account of a queue: the items that have
left, in order, followed by those in the queue, are the accepted ones.  It follows that what was
taken, followed by what is in the queue, are the accepted items without the evicted ones
(`Fifo.PassThrough.survivors`).

Equal items may be accepted several times, so one cannot say *which* of them were evicted by naming
the items.  The account marks places instead: there is a list of marks beside the accepted items,
and the marked ones are the evicted ones, in order.

It is kept by every operation — accepting, evicting, taking one item or several — and each of these
is one short lemma.  Nothing here is about a particular queue, mode or capacity.
-/

set_option autoImplicit false

namespace MetricsAgent

namespace Fifo

variable {α : Type}

/-- The marked items of a list, in order. -/
def marked (l : List (α × Bool)) : List α := (l.filter (·.2)).map Prod.fst

/-- The items of a list that are not marked, in order. -/
def unmarked (l : List (α × Bool)) : List α := (l.filter (!·.2)).map Prod.fst

theorem marked_append (l m : List (α × Bool)) : marked (l ++ m) = marked l ++ marked m := by
  simp [marked]

theorem unmarked_append (l m : List (α × Bool)) : unmarked (l ++ m) = unmarked l ++ unmarked m := by
  simp [unmarked]

@[simp] theorem marked_map_false (l : List α) : marked (l.map (·, false)) = [] := by
  induction l with
  | nil => rfl
  | cons x l ih => simp [marked]

@[simp] theorem unmarked_map_false (l : List α) : unmarked (l.map (·, false)) = l := by
  induction l with
  | nil => rfl
  | cons x l ih => simpa [unmarked] using ih

/-- The `accepted` items, with the `evicted` ones marked, leave the `rest` unmarked. -/
def Survive (accepted evicted rest : List α) : Prop :=
  ∃ l : List (α × Bool), l.map Prod.fst = accepted ∧ marked l = evicted ∧ unmarked l = rest

/-- The `accepted` items are those that have left the queue, in order, and then those in the
`queue`; of the former, some were `evicted` and the others `taken`. -/
def PassThrough (accepted evicted taken queue : List α) : Prop :=
  ∃ left : List (α × Bool),
    left.map Prod.fst ++ queue = accepted ∧ marked left = evicted ∧ unmarked left = taken

namespace PassThrough

variable {accepted evicted taken queue : List α}

theorem nil : PassThrough ([] : List α) [] [] [] := ⟨[], rfl, rfl, rfl⟩

/-- An item goes in. -/
theorem accept (h : PassThrough accepted evicted taken queue) (x : α) :
    PassThrough (accepted ++ [x]) evicted taken (queue ++ [x]) := by
  obtain ⟨left, ha, he, ht⟩ := h
  exact ⟨left, by rw [← ha, List.append_assoc], he, ht⟩

/-- The oldest item is evicted. -/
theorem evict {x : α} (h : PassThrough accepted evicted taken (x :: queue)) :
    PassThrough accepted (evicted ++ [x]) taken queue := by
  obtain ⟨left, ha, he, ht⟩ := h
  refine ⟨left ++ [(x, true)], ?_, ?_, ?_⟩
  · rw [← ha]; simp
  · rw [marked_append, he]; rfl
  · rw [unmarked_append, ht]; exact List.append_nil taken

/-- The oldest item is taken. -/
theorem take {x : α} (h : PassThrough accepted evicted taken (x :: queue)) :
    PassThrough accepted evicted (taken ++ [x]) queue := by
  obtain ⟨left, ha, he, ht⟩ := h
  refine ⟨left ++ [(x, false)], ?_, ?_, ?_⟩
  · rw [← ha]; simp
  · rw [marked_append, he]; exact List.append_nil evicted
  · rw [unmarked_append, ht]; rfl

/-- The oldest items are taken, one by one. -/
theorem takeAll {l : List α} (h : PassThrough accepted evicted taken (l ++ queue)) :
    PassThrough accepted evicted (taken ++ l) queue := by
  induction l generalizing taken with
  | nil => rw [List.append_nil]; exact h
  | cons x l ih =>
    rw [List.append_cons]
    exact ih h.take

/-- **What was taken, followed by what is in the queue, are the accepted items without the evicted
ones.** -/
theorem survivors (h : PassThrough accepted evicted taken queue) :
    Survive accepted evicted (taken ++ queue) := by
  obtain ⟨left, ha, he, ht⟩ := h
  refine ⟨left ++ queue.map (·, false), ?_, ?_, ?_⟩
  · rw [List.map_append, List.map_map, ← ha]
    exact congrArg _ (List.map_id queue)
  · rw [marked_append, marked_map_false, he, List.append_nil]
  · rw [unmarked_append, unmarked_map_false, ht]

end PassThrough

end Fifo

end MetricsAgent
