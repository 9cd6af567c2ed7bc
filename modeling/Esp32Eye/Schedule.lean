import Esp32Eye.System

/-!
# Schedules

A schedule is a list of actions, and `exec` runs it from the state `app_run` leaves the tasks in.
A particular run, the one a counterexample is about or the one a theorem is applied to, is given
by its schedule: `reaches` turns the evaluation of the schedule into a run and a fact about the
state it ends in. The pieces schedules are put together from are one round of the accept task and
one round of the request task up to its dispatch loop.
-/

namespace Esp32Eye

open Lib

def RequestPc.atWait : RequestPc → Bool
  | .wait => true
  | _ => false

theorem RequestPc.atWait_iff {pc : RequestPc} : pc.atWait = true ↔ pc = .wait := by
  cases pc <;> simp [atWait]

def RequestPc.inPoll : RequestPc → Bool
  | .poll _ => true
  | _ => false

theorem RequestPc.inPoll_iff {pc : RequestPc} : pc.inPoll = true ↔ ∃ fds, pc = .poll fds := by
  cases pc <;> simp [inPoll]

/-- A well-formed interest message: the header in network byte order and one byte. -/
def interestMessage (b : Bool) : List UInt8 := [0xAA, 0xDC, 0xFB, 0xED, if b then 1 else 0]

/-- What a `recv` that delivers `data` returns. -/
def delivered (data : List UInt8) : Option RecvResult :=
  if h : data.length ≤ maxRequestSize then some (.bytes data h) else none

namespace System

/-- Executes `a` after `app_run`, every step under the contract `p`. -/
def after (p : System → Action → Bool) (b : Boot) (a : List Action) :
    Option (System × List Event) := exec step p a (appRun b) []

theorem run_of_after {p : System → Action → Bool} {b : Boot} {a : List Action} {s : System}
    {tr : List Event} (h : after p b a = some (s, tr)) : SystemRun p (appRun b) tr s :=
  run_of_exec .start h

/-- What the evaluation of a schedule says is true of a run. -/
theorem reaches {p : System → Action → Bool} {b : Boot} {a : List Action}
    {q : System → List Event → Bool} (h : ((after p b a).any fun r => q r.1 r.2) = true) :
    ∃ tr s, SystemRun p (appRun b) tr s ∧ q s tr = true := by
  cases hr : after p b a with
  | none => rw [hr] at h; cases h
  | some r =>
    obtain ⟨s, tr⟩ := r
    rw [hr] at h
    exact ⟨tr, s, run_of_after hr, h⟩

/-- The same for two runs that are continued by one schedule. -/
theorem reaches_both {p r : System → Action → Bool} {b : Boot} {a d c : List Action}
    {q : System → System → System × List Event → System × List Event → Bool}
    (h : ((after p b a).any fun x => (after p b d).any fun y =>
      (exec step r c x.1 []).any fun u => (exec step r c y.1 []).any fun v =>
        q x.1 y.1 u v) = true) :
    ∃ tr s tr' t u v, SystemRun p (appRun b) tr s ∧ SystemRun p (appRun b) tr' t ∧
      exec step r c s [] = some u ∧ exec step r c t [] = some v ∧ q s t u v = true := by
  simp only [Option.any_eq_true] at h
  obtain ⟨⟨s, tr⟩, hs, ⟨t, tr'⟩, ht, u, hu, v, hv, hq⟩ := h
  exact ⟨tr, s, tr', t, u, v, run_of_after hs, run_of_after ht, hu, hv, hq⟩

/-- A start in which every call of `server_start` succeeded; lwIP counts its descriptors from 54. -/
def started : Boot where
  serverSocket := 56
  rtpSocket := 54
  broadcastSocket := 55
  deviceName := [99, 97, 109]
  ssidRandom := 7
  sequenceRandom := 0
  timestampRandom := 0

/-- `k` steps of the accept task that need nothing from outside. -/
def acceptSteps (k : ℕ) : List Action := List.replicate k (.network (.accept .go))

/-- `k` steps of the request task that need nothing from outside. -/
def requestSteps (k : ℕ) : List Action := List.replicate k (.network (.request .go))

/-- The accept task comes to `accept`, and a client connects: from the head of its loop to the
    point where the descriptor is about to be registered. -/
def arrival (fd : ℤ) : List Action :=
  acceptSteps 2 ++ [.network (.accept (.accepted fd { sinPort := 0, sinAddr := 1 }))]
    ++ acceptSteps 2

/-- One whole round of the accept task. -/
def acceptRound (fd : ℤ) : List Action := arrival fd ++ acceptSteps 4

/-- The request task from the head of its loop into `poll`. -/
def intoPoll : List Action := requestSteps 3

/-- `poll` returns and the second loop runs: for each slot what `recv` returns there, if the slot
    is reported readable. -/
def serve (results : List (Option RecvResult)) : List Action :=
  .network (.request (.polled fun i => if (results.getD i none).isSome then pollIn else 0))
    :: requestSteps 1
    ++ (List.finRange maxConnections).map (fun i =>
        match results.getD i none with
        | some r => .network (.request (.received r))
        | none => .network (.request .go))
    ++ requestSteps 1

/-- One recorded interest request is applied, from the dispatch loop back to it. -/
def dispatchSteps : List Action := requestSteps 4

/-- From an empty dispatch loop to the head of the outer one. -/
def finishSteps : List Action := requestSteps 7

/-- A client connects and turns its video on. -/
def watching : List Action :=
  acceptRound 57 ++ intoPoll ++ serve [delivered (interestMessage true)] ++ dispatchSteps

/-- A client comes, says whether it wants video and leaves, and another one comes into its slot. -/
def replaced (b : Bool) : List Action :=
  acceptRound 57 ++ intoPoll ++ serve [delivered (interestMessage b)] ++ dispatchSteps
    ++ finishSteps ++ intoPoll ++ serve [delivered []] ++ finishSteps ++ acceptRound 58

/-- The capture task obtains a frame and puts it on the produce queue. -/
def captureFrame (address : ℕ) : List Action :=
  [.pipeline (.capture .go), .pipeline (.capture (.clock 0)),
    .pipeline (.capture (.fbGet (some (address, [0xFF, 0xD8])))), .pipeline (.capture .go)]

/-- The rest of its round. -/
def captureRest : List Action := [.pipeline (.capture (.clock 0)), .pipeline (.capture .go)]

/-- One whole round of the send task. -/
def sendFrame : List Action :=
  [.pipeline (.send .go), .pipeline (.send (.clock 0)), .pipeline (.send .go),
    .pipeline (.send (.sendmsg fun _ => 18)), .pipeline (.send (.clock 1000)),
    .pipeline (.send .go)]

/-- One whole round of the recycle task. -/
def recycleFrame : List Action := [.pipeline .recycle, .pipeline .recycle]

end System
end Esp32Eye
