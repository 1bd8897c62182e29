import MetricsAgent.Push.Client

/-!
# Remote ends that keep what they are given

A sender relies on little: an envelope whose submission succeeds is kept and one whose submission
fails is not, and a flush delivers what was kept if it succeeds and discards it if it fails.
`RemoteClient.Follows` says this of any remote end, by what it keeps and what it has delivered.

* `RemoteClient.Follows` is a condition on the states of a remote end, and is stated with two
  functions of them, `buffer` and `delivered`.  Nothing is asked of the times and the results of the
  calls.
* `Buffered.client` follows it, for any client that tells the results of its calls.  So every
  sequence of results and times comes from a remote end that does so, and what is proved from the
  condition is proved of all of them.

The condition describes the remote end and not the sender.  That a batch arrives in one delivery,
and what else is in this delivery, is worked out in `Proofs.Push.Delivery`.
-/

set_option autoImplicit false

namespace MetricsAgent

/-- A remote end keeps the envelopes it is given in `buffer` until a flush, and `delivered` are the
deliveries it has made. -/
structure RemoteClient.Follows {σ : Type} (client : RemoteClient σ) (buffer : σ → List Envelope)
    (delivered : σ → List (List Envelope)) : Prop where
  submit_ok : ∀ {s : σ} {e : Envelope}, (client.submit s e).2.result = .ok () →
    buffer (client.submit s e).1 = buffer s ++ [e]
  submit_error : ∀ {s : σ} {e : Envelope} {err : ExportError},
    (client.submit s e).2.result = .error err → buffer (client.submit s e).1 = buffer s
  submit_delivered : ∀ (s : σ) (e : Envelope), delivered (client.submit s e).1 = delivered s
  flush_buffer : ∀ s : σ, buffer (client.flush s).1 = []
  flush_ok : ∀ {s : σ}, (client.flush s).2.result = .ok () →
    delivered (client.flush s).1 = delivered s ++ [buffer s]
  flush_error : ∀ {s : σ} {err : ExportError}, (client.flush s).2.result = .error err →
    delivered (client.flush s).1 = delivered s

/-- A remote end with states `σ`, what it keeps, and what it has delivered. -/
structure Buffered (σ : Type) where
  inner : σ
  buffer : List Envelope
  delivered : List (List Envelope)

namespace Buffered

variable {σ : Type}

/-- Nothing was kept or delivered yet. -/
def start (inner : σ) : Buffered σ := ⟨inner, [], []⟩

/-- A remote end that answers as `client` does, and keeps and delivers accordingly. -/
def client (client : RemoteClient σ) : RemoteClient (Buffered σ) where
  submit s e :=
    let (inner, call) := client.submit s.inner e
    match call.result with
    | .ok () => (⟨inner, s.buffer ++ [e], s.delivered⟩, call)
    | .error _ => (⟨inner, s.buffer, s.delivered⟩, call)
  flush s :=
    let (inner, call) := client.flush s.inner
    match call.result with
    | .ok () => (⟨inner, [], s.delivered ++ [s.buffer]⟩, call)
    | .error _ => (⟨inner, [], s.delivered⟩, call)

theorem client_follows (client : RemoteClient σ) :
    (Buffered.client client).Follows buffer delivered where
  submit_ok {s e} h := by
    cases hr : (client.submit s.inner e).2.result <;> simp_all [Buffered.client]
  submit_error {s e err} h := by
    cases hr : (client.submit s.inner e).2.result <;> simp_all [Buffered.client]
  submit_delivered s e := by
    cases hr : (client.submit s.inner e).2.result <;> simp [Buffered.client, hr]
  flush_buffer s := by
    cases hr : (client.flush s.inner).2.result <;> simp [Buffered.client, hr]
  flush_ok {s} h := by
    cases hr : (client.flush s.inner).2.result <;> simp_all [Buffered.client]
  flush_error {s err} h := by
    cases hr : (client.flush s.inner).2.result <;> simp_all [Buffered.client]

end Buffered

end MetricsAgent
