import Esp32Eye.Lib.Mutex
import Esp32Eye.Proof.Frames

/-!
# The mutex, and who waits for what

Where a task is decides what its next statement does as far as other tasks are concerned: take the
mutex, give it back, block on something, or none of that (`Call`). It also decides whether the task
is inside a critical section (`holds`). `step_mutex` reads every step of the six tasks as a step of
the mutex library, which makes the flag of a task and the owner of the mutex the same thing in
every reachable state.

The rest is a wait-for argument. The owner is never at a statement that blocks. A frame that is out
is in one of five places, and wherever it is, one of the tasks it has to pass can move: the queue in
front of the capture task is empty when it sends, a full recycle queue is one the recycle task can
take from, and a send task that waits for the mutex waits for an owner that can go on.
-/

namespace Esp32Eye

open Lib

/-! ## Program points -/

/-- What the next statement of a task does that concerns the others. -/
inductive Call
  | take
  | give
  | accept
  | poll
  | delay
  | eventWait
  | queue
  | other
  deriving DecidableEq, Repr

/-- The mutex calls of a statement of task `t`. -/
def Call.mutexCalls (t : Task) : Call → List (MutexCall Task)
  | .take => [.take t]
  | .give => [.give t]
  | _ => []

namespace AcceptPc

def call : AcceptPc → Call
  | .enter | .registerTake _ _ => .take
  | .capacity | .register _ _ => .give
  | .accept => .accept
  | _ => .other

/-- Between a take and its give. -/
def holds : AcceptPc → Bool
  | .capacity | .register _ _ => true
  | _ => false

/-- In the body of the task, outside `server_accept_connections`. -/
def inBody : AcceptPc → Bool
  | .enter | .clientsCount | .setAvailable _ | .setConnected => true
  | _ => false

theorem call_of_holds {pc : AcceptPc} (h : pc.holds = true) : pc.call = .give := by
  cases pc with
  | capacity | register => rfl
  | _ => cases h

theorem not_holds_of_inBody {pc : AcceptPc} (h : pc.inBody = true) : pc.holds = false := by
  cases pc with
  | capacity | register => cases h
  | _ => rfl

end AcceptPc

namespace RequestPc

def call : RequestPc → Call
  | .wait => .eventWait
  | .snapshotTake | .scanTake _ | .updateTake _ _ _ | .countTake | .interestTake => .take
  | .snapshot | .update _ _ _ | .count | .interest => .give
  | .poll _ => .poll
  | .scan _ i _ => if i < maxConnections then .other else .give
  | _ => .other

def holds : RequestPc → Bool
  | .snapshot | .scan _ _ _ | .update _ _ _ | .count | .interest => true
  | _ => false

/-- In the body of the task, outside the functions it calls. -/
def inBody : RequestPc → Bool
  | .wait | .snapshotTake | .dispatch _ | .updateTake _ _ _ | .countTake | .countClear _
  | .interestTake | .interestClear _ => true
  | _ => false

theorem call_of_holds {pc : RequestPc} (h : pc.holds = true) :
    pc.call = .give ∨ pc.call = .other := by
  cases pc with
  | snapshot | update | count | interest => exact Or.inl rfl
  | scan fds i requests =>
    by_cases hi : i < maxConnections
    · exact Or.inr (if_pos hi)
    · exact Or.inl (if_neg hi)
  | _ => cases h

theorem not_holds_of_inBody {pc : RequestPc} (h : pc.inBody = true) : pc.holds = false := by
  cases pc with
  | snapshot | scan | update | count | interest => cases h
  | _ => rfl

end RequestPc

def CapturePc.call : CapturePc → Call
  | .wait => .eventWait
  | .check | .enqueue _ _ => .queue
  | .delay _ => .delay
  | _ => .other

namespace SendPc

def call : SendPc → Call
  | .receive | .enqueue _ => .queue
  | .take _ _ => .take
  | .send _ _ => .give
  | _ => .other

def holds : SendPc → Bool
  | .send _ _ => true
  | _ => false

theorem call_of_holds {pc : SendPc} (h : pc.holds = true) : pc.call = .give := by
  cases pc with
  | send => rfl
  | _ => cases h

end SendPc

def RecyclePc.call : RecyclePc → Call
  | .receive => .queue
  | .fbReturn _ => .other

def BroadcastPc.call : BroadcastPc → Call
  | .send => .other
  | .delay => .delay

/-- The task that makes the step; `none` for a call of `server_disconnect_client` from outside. -/
def Action.task : Action → Option Task
  | .network (.accept _) => some .acceptNewClients
  | .network (.request _) => some .handleRequests
  | .network (.disconnect _) => none
  | .pipeline (.capture _) => some .captureCameraImage
  | .pipeline (.send _) => some .sendCameraImage
  | .pipeline .recycle => some .recycleCameraImage
  | .broadcast => some .sendBroadcasts

namespace System

def call (s : System) : Task → Call
  | .acceptNewClients => s.network.accept.call
  | .handleRequests => s.network.request.call
  | .sendBroadcasts => s.broadcast.call
  | .captureCameraImage => s.pipeline.capture.call
  | .recycleCameraImage => s.pipeline.recycle.call
  | .sendCameraImage => s.pipeline.send.call

def holds (s : System) : Task → Bool
  | .acceptNewClients => s.network.accept.holds
  | .handleRequests => s.network.request.holds
  | .sendCameraImage => s.pipeline.send.holds
  | _ => false

/-- No function that takes the mutex has been entered and not returned. -/
def inBody (s : System) : Task → Bool
  | .acceptNewClients => s.network.accept.inBody
  | .handleRequests => s.network.request.inBody
  | .sendCameraImage => !s.pipeline.send.holds
  | _ => true

/-- The mutex calls of a step. -/
def mutexCalls (s : System) (a : Action) : List (MutexCall Task) :=
  match a.task with
  | some t => (s.call t).mutexCalls t
  | none => []

end System

/-! ## One step -/

theorem Network.Rule.accept_mutex {n n' : Network} {m m' : Option Task} {input : AcceptInput}
    {es : List NetworkEvent} (hr : n.Rule m (.accept input) m' n' es) :
    MutexStep Task.acceptNewClients m n.accept.holds
        (n.accept.call.mutexCalls .acceptNewClients) m' n'.accept.holds ∧
      n'.request = n.request := by
  cases hr with
  | enter hpc | registerTake hpc => rw [hpc]; exact ⟨.take rfl, rfl⟩
  | full hpc | room hpc | register hpc | registerFull hpc => rw [hpc]; exact ⟨.give rfl, rfl⟩
  | acceptFailed hpc | accepted hpc | hello hpc | clientsCount hpc | setAvailable hpc
  | setNothing hpc | setConnected hpc => rw [hpc]; exact ⟨.keep, rfl⟩

theorem Network.Rule.request_mutex {n n' : Network} {m m' : Option Task} {input : RequestInput}
    {es : List NetworkEvent} (hr : n.Rule m (.request input) m' n' es) :
    MutexStep Task.handleRequests m n.request.holds
        (n.request.call.mutexCalls .handleRequests) m' n'.request.holds ∧
      n'.accept = n.accept := by
  cases hr with
  | snapshotTake hpc | scanTake hpc | updateTake hpc | countTake hpc | interestTake hpc =>
    rw [hpc]; exact ⟨.take rfl, rfl⟩
  | snapshot hpc | update hpc | count hpc | interest hpc => rw [hpc]; exact ⟨.give rfl, rfl⟩
  | @scanSkip _ fds i _ hpc | @scanReceived _ fds i _ _ hpc =>
    rw [hpc, RequestPc.call, if_pos i.isLt]; exact ⟨.keep, rfl⟩
  | scanDone hpc hk => rw [hpc, RequestPc.call, if_neg (not_lt.mpr hk)]; exact ⟨.give rfl, rfl⟩
  | wait hpc | polled hpc | dispatchDone hpc | dispatchVideo hpc | dispatchOther hpc
  | updateEvent hpc | clearAvailable hpc | keepAvailable hpc | clearInterested hpc
  | keepInterested hpc => rw [hpc]; exact ⟨.keep, rfl⟩

theorem Network.Rule.disconnect_mutex {n n' : Network} {m m' : Option Task} {clientIndex : ℤ}
    {es : List NetworkEvent} (hr : n.Rule m (.disconnect clientIndex) m' n' es) :
    m' = m ∧ n'.accept = n.accept ∧ n'.request = n.request := by
  cases hr with
  | disconnect => exact ⟨rfl, rfl, rfl⟩

theorem Pipeline.Rule.send_mutex {p p' : Pipeline} {n : Network} {m m' : Option Task}
    {input : SendInput} {es : List PipelineEvent} (hr : Rule p n m (.send input) m' p' es) :
    MutexStep Task.sendCameraImage m p.send.holds
      (p.send.call.mutexCalls .sendCameraImage) m' p'.send.holds := by
  cases hr with
  | take hpc => rw [hpc]; exact .take rfl
  | send hpc => rw [hpc]; exact .give rfl
  | consume hpc | start hpc | finish hpc | recycle hpc => rw [hpc]; exact .keep

theorem Pipeline.Rule.other_mutex {p p' : Pipeline} {n : Network} {m m' : Option Task}
    {a : PipelineAction} {es : List PipelineEvent} (hr : Rule p n m a m' p' es)
    (ha : ∀ input, a ≠ .send input) : m' = m ∧ p'.send = p.send := by
  cases hr with
  | take | send | consume | start | finish | recycle => exact absurd rfl (ha _)
  | _ => exact ⟨rfl, rfl⟩

theorem CapturePc.mutexCalls_nil (pc : CapturePc) (t : Task) : pc.call.mutexCalls t = [] := by
  cases pc <;> rfl

theorem RecyclePc.mutexCalls_nil (pc : RecyclePc) (t : Task) : pc.call.mutexCalls t = [] := by
  cases pc <;> rfl

theorem BroadcastPc.mutexCalls_nil (pc : BroadcastPc) (t : Task) : pc.call.mutexCalls t = [] := by
  cases pc <;> rfl

namespace System

variable {s s' : System} {a : Action} {es : List Event} {t : Task}

/-- What a step is to the mutex: its task takes it, gives it back or leaves it alone, and no other
    task is concerned. A call from outside takes and gives in one step. -/
inductive StepsMutex (s : System) (a : Action) (s' : System) : Prop
  | task (t : Task) (ha : a.task = some t)
      (ht : MutexStep t s.mutex (s.holds t) ((s.call t).mutexCalls t) s'.mutex (s'.holds t))
      (ho : ∀ u, u ≠ t → s'.holds u = s.holds u)
  | outside (ha : a.task = none) (hm : s'.mutex = s.mutex) (ho : ∀ u, s'.holds u = s.holds u)

theorem mutexCalls_task (ha : a.task = some t) : s.mutexCalls a = (s.call t).mutexCalls t := by
  unfold mutexCalls
  rw [ha]

theorem mutexCalls_outside (ha : a.task = none) : s.mutexCalls a = [] := by
  unfold mutexCalls
  rw [ha]

theorem network_mutex {a : NetworkAction} {m : Option Task} {n : Network} {es : List NetworkEvent}
    (hr : s.network.Rule s.mutex a m n es) :
    StepsMutex s (.network a) { s with mutex := m, network := n } := by
  cases a with
  | accept input =>
    obtain ⟨hm, hreq⟩ := hr.accept_mutex
    refine .task .acceptNewClients rfl hm fun u hu => ?_
    cases u with
    | acceptNewClients => exact absurd rfl hu
    | handleRequests => exact congrArg RequestPc.holds hreq
    | _ => rfl
  | request input =>
    obtain ⟨hm, hacc⟩ := hr.request_mutex
    refine .task .handleRequests rfl hm fun u hu => ?_
    cases u with
    | handleRequests => exact absurd rfl hu
    | acceptNewClients => exact congrArg AcceptPc.holds hacc
    | _ => rfl
  | disconnect clientIndex =>
    obtain ⟨hm, hacc, hreq⟩ := hr.disconnect_mutex
    refine .outside rfl hm fun u => ?_
    cases u with
    | acceptNewClients => exact congrArg AcceptPc.holds hacc
    | handleRequests => exact congrArg RequestPc.holds hreq
    | _ => rfl

/-- A task that never calls the mutex. -/
theorem StepsMutex.idle {t : Task} (ha : a.task = some t) (hc : (s.call t).mutexCalls t = [])
    (hm : s'.mutex = s.mutex) (ho : ∀ u, s'.holds u = s.holds u) : StepsMutex s a s' := by
  refine .task t ha ?_ fun u _ => ho u
  rw [hc, hm, ho t]
  exact .keep

theorem pipeline_mutex {a : PipelineAction} {m : Option Task} {p : Pipeline}
    {es : List PipelineEvent} (hr : Pipeline.Rule s.pipeline s.network s.mutex a m p es) :
    StepsMutex s (.pipeline a) { s with mutex := m, pipeline := p } := by
  have hsame : p.send = s.pipeline.send →
      ∀ u, ({ s with mutex := m, pipeline := p } : System).holds u = s.holds u := by
    intro hsend u
    cases u with
    | sendCameraImage => exact congrArg SendPc.holds hsend
    | _ => rfl
  cases a with
  | send input =>
    refine .task .sendCameraImage rfl hr.send_mutex fun u hu => ?_
    cases u with
    | sendCameraImage => exact absurd rfl hu
    | _ => rfl
  | capture input =>
    obtain ⟨hm, hsend⟩ := hr.other_mutex nofun
    exact .idle rfl (CapturePc.mutexCalls_nil _ _) hm (hsame hsend)
  | recycle =>
    obtain ⟨hm, hsend⟩ := hr.other_mutex nofun
    exact .idle rfl (RecyclePc.mutexCalls_nil _ _) hm (hsame hsend)

/-- **A step, as a step of the mutex.** -/
theorem step_mutex (h : s.step a = some (s', es)) : StepsMutex s a s' := by
  cases moved_of_step h with
  | network hr => exact network_mutex hr
  | pipeline hp => exact pipeline_mutex (Pipeline.Rule.of_step hp)
  | broadcast =>
    refine .idle rfl (BroadcastPc.mutexCalls_nil _ _) rfl fun u => ?_
    cases u <;> rfl

theorem StepsMutex.of_task (h : StepsMutex s a s') (ha : a.task = some t) :
    MutexStep t s.mutex (s.holds t) ((s.call t).mutexCalls t) s'.mutex (s'.holds t) := by
  cases h with
  | task u hu ht =>
    have hut : u = t := Option.some.inj (hu.symm.trans ha)
    exact hut ▸ ht
  | outside hnone => rw [hnone] at ha; cases ha

theorem exact_step (h : s.step a = some (s', es)) (hx : Exact s.mutex s.holds) :
    Exact s'.mutex s'.holds := by
  cases step_mutex h with
  | task t _ ht ho => exact hx.step ht ho
  | outside _ hm ho =>
    rw [hm, funext ho]
    exact hx

theorem balanced_step {calls : List (MutexCall Task)} (h : s.step a = some (s', es))
    (hx : Exact s.mutex s.holds) (hb : Balanced calls s.holds) :
    Balanced (s.mutexCalls a ++ calls) s'.holds := by
  cases step_mutex h with
  | task t ha ht ho =>
    rw [mutexCalls_task ha]
    exact Balanced.step hx hb ht ho
  | outside ha _ ho =>
    rw [mutexCalls_outside ha, funext ho]
    exact hb

/-! ## Every run -/

theorem exact_appRun (b : Boot) : Exact (appRun b).mutex (appRun b).holds := by
  intro t
  cases t <;> simp [appRun, holds, AcceptPc.holds, RequestPc.holds, SendPc.holds]

section

variable {p : System → Action → Bool} {b : Boot} {tr : List Event}

theorem SystemRun.exact (h : SystemRun p (appRun b) tr s) : Exact s.mutex s.holds := by
  refine h.invariant (I := fun _ s => Exact s.mutex s.holds) (exact_appRun b) ?_
  intro tr s a s' es hs _ hstep
  exact exact_step hstep hs

/-- The calls of a run, seen through its mutex calls. -/
theorem balanced_of_observing {calls : List (MutexCall Task)}
    (h : Run (Observing (StepOf step) mutexCalls) (fun s a => p s a = true) (appRun b) calls s) :
    Balanced calls s.holds := by
  have hboth : Exact s.mutex s.holds ∧ Balanced calls s.holds := by
    refine h.invariant (I := fun calls s => Exact s.mutex s.holds ∧ Balanced calls s.holds)
      ⟨exact_appRun b, fun t => ?_⟩ ?_
    · cases t <;> rfl
    · rintro calls s a s' _ ⟨hx, hb⟩ - ⟨⟨es, hstep⟩, rfl⟩
      exact ⟨exact_step hstep hx, balanced_step hstep hx hb⟩
  exact hboth.2

end

/-! ## The owner -/

/-- In a critical section there is nothing to wait for. -/
theorem call_of_holds (h : s.holds t = true) : s.call t = .give ∨ s.call t = .other := by
  cases t with
  | acceptNewClients => exact Or.inl (AcceptPc.call_of_holds h)
  | handleRequests => exact RequestPc.call_of_holds h
  | sendCameraImage => exact Or.inl (SendPc.call_of_holds h)
  | sendBroadcasts | captureCameraImage | recycleCameraImage => cases h

theorem not_holds_of_inBody (h : s.inBody t = true) : s.holds t = false := by
  cases t with
  | acceptNewClients => exact AcceptPc.not_holds_of_inBody h
  | handleRequests => exact RequestPc.not_holds_of_inBody h
  | sendCameraImage => exact Bool.not_eq_true' _ |>.mp h
  | sendBroadcasts | captureCameraImage | recycleCameraImage => rfl

end System
end Esp32Eye
