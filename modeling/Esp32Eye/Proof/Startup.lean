import Esp32Eye.Startup

/-!
# What `server_start` guarantees

The property start-up should have comes in three parts, each a predicate on the results of the
calls: the status says whether everything succeeded (`StatusRight`), a failure leaves no descriptor
open (`FailureClean`), and `app_run` creates tasks only after a success (`TasksAfterSuccess`). For
each part there is the exact set of results for which the code has it. The three tests of a
descriptor differ (`!fd` twice, `fd < 0` once), nothing is ever closed, and `app_run` does not look
at the status; that is all that goes wrong.
-/

namespace Esp32Eye

open Lib

/-- Every call got what it needs, as `server_start` tests it. -/
def StartResults.Passed (r : StartResults) : Prop :=
  r.rtpSocket ≠ 0 ∧ 0 ≤ r.broadcastSocket ∧ 0 ≤ r.setBroadcast ∧ r.serverSocket ≠ 0 ∧
    0 ≤ r.bind ∧ 0 ≤ r.listen

/-- The three sockets are there, broadcasting is permitted, and the server socket is bound and
    listens. -/
def ServerSockets.Ready (s : ServerSockets) : Prop :=
  0 ≤ s.rtpSocket ∧ 0 ≤ s.broadcastSocket ∧ 0 ≤ s.serverSocket ∧ s.broadcasting = true ∧
    s.boundTo.isSome = true ∧ s.backlog.isSome = true

/-- `ST_SUCCESS` exactly when everything is ready. -/
def StatusRight (r : StartResults) : Prop :=
  (serverStart r).1 = .success ↔ (serverStart r).2.Ready

/-- A failure leaves no descriptor open. -/
def FailureClean (r : StartResults) : Prop :=
  (serverStart r).1 = .serverInitializationFailed → (serverStart r).2.opened = []

/-- `app_run` creates a task only after `ST_SUCCESS`. -/
def TasksAfterSuccess (r : StartResults) : Prop :=
  ∀ t, .createTask t ∈ App.run r → (serverStart r).1 = .success

/-! ## The result and what is left behind -/

section

variable {r : StartResults}

theorem mem_socketOpened {fd : ℤ} {opened : List ℤ} (h : 0 ≤ fd) :
    fd ∈ socketOpened fd opened := by
  unfold socketOpened
  rw [if_pos h]
  exact List.mem_cons_self

theorem mem_socketOpened_of_mem {fd fd' : ℤ} {opened : List ℤ} (h : fd ∈ opened) :
    fd ∈ socketOpened fd' opened := by
  unfold socketOpened
  split
  · exact List.mem_cons_of_mem _ h
  · exact h

/-- The early returns, told apart by what is open at them. -/
inductive StartFailed (r : StartResults) : Prop
  | rtp (h : r.rtpSocket = 0) (ho : 0 ∈ (serverStart r).2.opened)
  | broadcast (h : r.rtpSocket ≠ 0) (hb : r.broadcastSocket < 0)
      (ho : (serverStart r).2.opened = socketOpened r.rtpSocket [])
  | later (h : r.rtpSocket ≠ 0) (hb : 0 ≤ r.broadcastSocket)
      (ho : r.broadcastSocket ∈ (serverStart r).2.opened)

/-- **The ways through `server_start`**: one to the end, the others back early. -/
theorem serverStart_cases (r : StartResults) :
    (r.Passed ∧ (serverStart r).1 = .success ∧
      (serverStart r).2.rtpSocket = r.rtpSocket ∧
      (serverStart r).2.broadcastSocket = r.broadcastSocket ∧
      (serverStart r).2.serverSocket = r.serverSocket ∧
      (serverStart r).2.broadcasting = true ∧ (serverStart r).2.boundTo.isSome = true ∧
      (serverStart r).2.backlog.isSome = true) ∨
    (¬ r.Passed ∧ (serverStart r).1 = .serverInitializationFailed ∧
      (serverStart r).2.backlog = none ∧ StartFailed r) := by
  unfold StartResults.Passed
  by_cases hr : r.rtpSocket = 0
  · refine Or.inr ⟨fun h => h.1 hr, ?_, ?_, .rtp hr ?_⟩
    · simp [serverStart, hr]
    · simp [serverStart, hr]
    · simp [serverStart, hr, mem_socketOpened]
  by_cases hb : r.broadcastSocket < 0
  · refine Or.inr ⟨fun h => absurd h.2.1 (not_le.mpr hb), ?_, ?_, .broadcast hr hb ?_⟩
    · simp [serverStart, hr, hb]
    · simp [serverStart, hr, hb]
    · simp [serverStart, hr, hb, socketOpened, not_le.mpr hb]
  have hb₀ := not_lt.mp hb
  by_cases hp : r.setBroadcast < 0
  · refine Or.inr ⟨fun h => absurd h.2.2.1 (not_le.mpr hp), ?_, ?_, .later hr hb₀ ?_⟩
    · simp [serverStart, hr, hb, hp]
    · simp [serverStart, hr, hb, hp]
    · simp [serverStart, hr, hb, hp, mem_socketOpened hb₀]
  by_cases hs : r.serverSocket = 0
  · refine Or.inr ⟨fun h => h.2.2.2.1 hs, ?_, ?_, .later hr hb₀ ?_⟩
    · simp [serverStart, hr, hb, hp, hs]
    · simp [serverStart, hr, hb, hp, hs]
    · simp [serverStart, hr, hb, hp, hs, mem_socketOpened_of_mem, mem_socketOpened hb₀]
  by_cases hbind : r.bind < 0
  · refine Or.inr ⟨fun h => absurd h.2.2.2.2.1 (not_le.mpr hbind), ?_, ?_, .later hr hb₀ ?_⟩
    · simp [serverStart, hr, hb, hp, hs, hbind]
    · simp [serverStart, hr, hb, hp, hs, hbind]
    · simp [serverStart, hr, hb, hp, hs, hbind, mem_socketOpened_of_mem, mem_socketOpened hb₀]
  by_cases hl : r.listen < 0
  · refine Or.inr ⟨fun h => absurd h.2.2.2.2.2 (not_le.mpr hl), ?_, ?_, .later hr hb₀ ?_⟩
    · simp [serverStart, hr, hb, hp, hs, hbind, hl]
    · simp [serverStart, hr, hb, hp, hs, hbind, hl]
    · simp [serverStart, hr, hb, hp, hs, hbind, hl, mem_socketOpened_of_mem, mem_socketOpened hb₀]
  · refine Or.inl ⟨⟨hr, hb₀, not_lt.mp hp, hs, not_lt.mp hbind, not_lt.mp hl⟩, ?_⟩
    simp [serverStart, hr, hb, hp, hs, hbind, hl]

theorem serverStart_success_iff : (serverStart r).1 = .success ↔ r.Passed := by
  rcases serverStart_cases r with ⟨hp, hs, -⟩ | ⟨hp, hs, -⟩
  · exact iff_of_true hs hp
  · exact iff_of_false (by rw [hs]; exact nofun) hp

theorem serverStart_ready_iff :
    (serverStart r).2.Ready ↔ r.Passed ∧ 0 ≤ r.rtpSocket ∧ 0 ≤ r.serverSocket := by
  unfold ServerSockets.Ready
  rcases serverStart_cases r with ⟨hp, -, hr, hb, hs, hperm, hbound, hlog⟩ | ⟨hp, -, hlog, -⟩
  · rw [hr, hb, hs, hperm, hbound, hlog]
    exact ⟨fun h => ⟨hp, h.1, h.2.2.1⟩, fun h => ⟨h.2.1, hp.2.1, h.2.2, rfl, rfl, rfl⟩⟩
  · rw [hlog]
    exact iff_of_false (fun h => by cases h.2.2.2.2.2) (fun h => hp h.1)

/-! ## When each part holds -/

theorem statusRight_iff : StatusRight r ↔ (r.Passed → 0 < r.rtpSocket ∧ 0 < r.serverSocket) := by
  unfold StatusRight
  rw [serverStart_success_iff, serverStart_ready_iff]
  constructor
  · intro h hp
    obtain ⟨-, hr, hs⟩ := h.mp hp
    exact ⟨lt_of_le_of_ne hr hp.1.symm, lt_of_le_of_ne hs hp.2.2.2.1.symm⟩
  · intro h
    refine ⟨fun hp => ?_, fun hr => hr.1⟩
    exact ⟨hp, (h hp).1.le, (h hp).2.le⟩

theorem failureClean_iff :
    FailureClean r ↔ r.Passed ∨ (r.rtpSocket < 0 ∧ r.broadcastSocket < 0) := by
  unfold FailureClean
  rcases serverStart_cases r with ⟨hp, hs, -⟩ | ⟨hp, hs, -, hf⟩
  · rw [hs]
    exact iff_of_true nofun (Or.inl hp)
  · rw [hs, or_iff_right hp, imp_iff_right rfl]
    cases hf with
    | rtp h ho =>
      refine iff_of_false (fun hnil => ?_) (fun hneg => by omega)
      rw [hnil] at ho
      cases ho
    | broadcast h hb ho =>
      rw [ho]
      unfold socketOpened
      split
      · exact iff_of_false nofun (fun hneg => by omega)
      · exact iff_of_true rfl ⟨by omega, hb⟩
    | later h hb ho =>
      refine iff_of_false (fun hnil => ?_) (fun hneg => by omega)
      rw [hnil] at ho
      cases ho

theorem tasksAfterSuccess_iff : TasksAfterSuccess r ↔ r.Passed := by
  unfold TasksAfterSuccess
  rw [serverStart_success_iff]
  exact ⟨fun h => h .sendCameraImage (by simp [App.run]), fun h _ _ => h⟩

/-- What the tasks find after a start-up that went well; the descriptors the socket layer hands
    out while they are open are different. -/
theorem App.boot_started {deviceName : List UInt8} {sequenceRandom timestampRandom : UInt32}
    (hp : r.Passed) (hr : 0 ≤ r.rtpSocket) (hs : 0 ≤ r.serverSocket)
    (hrb : r.rtpSocket ≠ r.broadcastSocket) (hrs : r.rtpSocket ≠ r.serverSocket)
    (hbs : r.broadcastSocket ≠ r.serverSocket) :
    (App.boot r deviceName sequenceRandom timestampRandom).Started := by
  rcases serverStart_cases r with ⟨-, -, h₁, h₂, h₃, -⟩ | ⟨hnp, -⟩
  · unfold System.Boot.Started App.boot
    rw [h₁, h₂, h₃]
    exact ⟨hs, hr, hp.2.1, hrs.symm, hbs.symm, hrb⟩
  · exact absurd hp hnp

end

namespace App

/-- **When start-up is all or nothing**, as a whole and part by part. -/
theorem start_all_or_nothing (r : StartResults) :
    (StatusRight r ∧ FailureClean r ∧ TasksAfterSuccess r ↔
      0 < r.rtpSocket ∧ 0 ≤ r.broadcastSocket ∧ 0 ≤ r.setBroadcast ∧ 0 < r.serverSocket ∧
        0 ≤ r.bind ∧ 0 ≤ r.listen) ∧
    (StatusRight r ↔ (r.Passed → 0 < r.rtpSocket ∧ 0 < r.serverSocket)) ∧
    (FailureClean r ↔ r.Passed ∨ (r.rtpSocket < 0 ∧ r.broadcastSocket < 0)) ∧
    (TasksAfterSuccess r ↔ r.Passed) := by
  refine ⟨?_, statusRight_iff, failureClean_iff, tasksAfterSuccess_iff⟩
  rw [statusRight_iff, failureClean_iff, tasksAfterSuccess_iff]
  constructor
  · rintro ⟨hstatus, -, hp⟩
    obtain ⟨hr, hs⟩ := hstatus hp
    exact ⟨hr, hp.2.1, hp.2.2.1, hs, hp.2.2.2.2⟩
  · rintro ⟨hr, hb, hperm, hs, hcalls⟩
    have hp : r.Passed := ⟨hr.ne', hb, hperm, hs.ne', hcalls⟩
    exact ⟨fun _ => ⟨hr, hs⟩, Or.inl hp, hp⟩

/-- The first `socket` returns -1 and every other call succeeds. -/
def rtpSocketFails : StartResults where
  rtpSocket := -1
  rtpSsid := 7
  broadcastSocket := 54
  setBroadcast := 0
  serverSocket := 55
  bind := 0
  listen := 0

/-- Every `socket` returns a descriptor, and `bind` fails. -/
def bindFails : StartResults where
  rtpSocket := 54
  rtpSsid := 7
  broadcastSocket := 55
  setBroadcast := 0
  serverSocket := 56
  bind := -1
  listen := 0

/-- `ST_SUCCESS` without an RTP socket; and a failure after which three descriptors are open and
    the tasks run. -/
theorem start_not_all_or_nothing :
    ((serverStart rtpSocketFails).1 = .success ∧
      (serverStart rtpSocketFails).2.rtpSocket = -1 ∧ ¬ StatusRight rtpSocketFails) ∧
    ((serverStart bindFails).1 = .serverInitializationFailed ∧
      (serverStart bindFails).2.opened = [56, 55, 54] ∧
      ¬ FailureClean bindFails ∧ ¬ TasksAfterSuccess bindFails) := by
  refine ⟨⟨by decide, by decide, ?_⟩, by decide, by decide, ?_, ?_⟩
  · rw [statusRight_iff]
    unfold StartResults.Passed
    decide
  · unfold FailureClean
    decide
  · rw [tasksAfterSuccess_iff]
    unfold StartResults.Passed
    decide

end App
end Esp32Eye
