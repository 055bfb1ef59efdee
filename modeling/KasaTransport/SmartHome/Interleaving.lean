import KasaTransport.SmartHome.Query

/-!
Concurrent `query` calls on one `TPLinkSmartHomeProtocol`, cut at their `await`s: the wait for
`query_lock`, `open_connection`, `drain` and the two `readexactly` calls of `_execute_query`.
Each await can complete, raise an `Exception` (an `OSError`, a timeout, the end of the stream),
or deliver the `CancelledError` of cancelling the caller. The decision at the end of a pass is
`queryIteration`'s, the one-caller model of `Query`. The device answers every complete request
frame on a connection with one response frame, in order.

Every connection carries whole frames. But a cancelled caller is not an `Exception`: it skips
`close`, so the connection keeps its request, and the next query on it reads that request's
answer as its own.
-/

namespace KasaTransport
namespace TPLinkSmartHomeProtocol

/-- A TCP connection: every byte written on it, the bytes the device has not read yet, and the
bytes the device sent that were not read yet. -/
structure Connection where
  written : Bytes
  toDevice : Bytes
  fromDevice : Bytes

def Connection.empty : Connection := ⟨[], [], []⟩

/-- Where a task running `query` waits. -/
inductive Stage where
  | waitingForLock
  /-- In `_connect` of pass `retry`, on `open_connection`. -/
  | connecting (retry : Nat)
  /-- In `_execute_query` of pass `retry`, on `drain` after writing the request. -/
  | draining (retry : Nat)
  /-- On `readexactly(4)`. -/
  | readingHeader (retry : Nat)
  /-- On `readexactly(length)`. -/
  | readingBody (retry : Nat) (length : Nat)

/-- A call `query(request, retry_count)` in progress. -/
structure Query where
  request : String
  retryCount : Int
  stage : Stage

/-- How a call ended. -/
inductive Outcome where
  | returned (json : Json)
  | raised (e : PyException)
  | cancelled

/-- The protocol object shared by the tasks, the holder of `query_lock`, the connections opened
so far (the next one gets number `opened`), the calls running, and the finished calls with the
request each was made with. -/
structure Tasks where
  protocol : TPLinkSmartHomeProtocol
  lockHolder : Option Nat
  connections : Nat → Connection
  opened : Nat
  running : Nat → Option Query
  outcomes : Nat → Option (String × Outcome)

/-- What happens next: a call starts, an await of a task completes (`connected`, `drained`,
`received`), raises an `Exception`, or is cancelled, or the device answers on a connection. -/
inductive Action where
  | start (task : Nat) (request : String) (retryCount : Int)
  | acquire (task : Nat)
  | connected (task : Nat)
  | drained (task : Nat)
  | received (task : Nat)
  | fail (task : Nat) (ex : QueryFailure)
  | cancel (task : Nat)
  | answer (connection : Nat)

namespace Tasks

def start (p : TPLinkSmartHomeProtocol) : Tasks :=
  ⟨p, none, fun _ => Connection.empty, 0, fun _ => none, fun _ => none⟩

def suspend (w : Tasks) (task : Nat) (q : Query) (p : TPLinkSmartHomeProtocol) (stage : Stage) :
    Tasks :=
  { w with protocol := p, running := Function.update w.running task (some { q with stage }) }

def finish (w : Tasks) (task : Nat) (q : Query) (p : TPLinkSmartHomeProtocol) (outcome : Outcome) :
    Tasks :=
  { w with
    protocol := p
    lockHolder := if w.lockHolder = some task then none else w.lockHolder
    running := Function.update w.running task none
    outcomes := Function.update w.outcomes task (some (q.request, outcome)) }

def updateConnection (w : Tasks) (c : Nat) (f : Connection → Connection) : Tasks :=
  { w with connections := Function.update w.connections c (f (w.connections c)) }

/-- The end of pass `retry`, as `queryIteration` decides it: return, raise, or go on to the next
pass, whose `_connect` finds the streams closed and opens a connection; past the last pass, the
raise after the loop. -/
def leave (w : Tasks) (task : Nat) (q : Query) (retry : Nat) :
    TPLinkSmartHomeProtocol × LoopExit → Tasks
  | (p, .returned json) => w.finish task q p (.returned json)
  | (p, .raised e) => w.finish task q p (.raised e)
  | (p, .continued) =>
      if retry + 1 < (q.retryCount + 1).toNat then w.suspend task q p.close (.connecting (retry + 1))
      else w.finish task q p.close (.raised (.smartDeviceException unreachableMessage))

variable (P : Primitives)

def structErrorText : String := "\x27I\x27 format requires 0 <= number <= 4294967295"

/-- `_execute_query` up to `drain`: the two asserts, then the request frame written in one go.
A failing assert or `struct.pack` raises at once. -/
def write (w : Tasks) (task : Nat) (q : Query) (retry : Nat) : Tasks :=
  match w.protocol.reader, w.protocol.writer with
  | some _, some c =>
      match encrypt P q.request with
      | some frame =>
          (w.updateConnection c fun conn =>
            { conn with written := conn.written ++ frame, toDevice := conn.toDevice ++ frame }).suspend
            task q w.protocol (.draining retry)
      | none => w.leave task q retry
          (queryIteration w.protocol q.retryCount retry (.ok c) (.error structErrorText))
  | _, _ => w.leave task q retry (queryIteration w.protocol q.retryCount retry (.ok 0) (.error ""))

/-- `query` with the lock taken: the loop starts; `_connect` returns at once on an open writer. -/
def enterLoop (w : Tasks) (task : Nat) (q : Query) : Tasks :=
  if 0 < (q.retryCount + 1).toNat then
    if w.protocol.writer.isSome then write P w task q 0
    else w.suspend task q w.protocol.close (.connecting 0)
  else w.finish task q w.protocol.close (.raised (.smartDeviceException unreachableMessage))

end Tasks

section Semantics

variable (P : Primitives) (respond : String → String)

open Tasks in
/-- One step of the system. A step that the state does not enable (a task that is still running
another call, or is not waiting there, a read with too few bytes, a device with no complete
frame) changes nothing. -/
def interleave (w : Tasks) : Action → Tasks
  | .start task request retryCount =>
      match w.running task with
      | some _ => w
      | none =>
          { w with running := Function.update w.running task (some ⟨request, retryCount, .waitingForLock⟩) }
  | .acquire task =>
      match w.running task, w.lockHolder with
      | some q, none =>
          match q.stage with
          | .waitingForLock => enterLoop P { w with lockHolder := some task } task q
          | _ => w
      | _, _ => w
  | .connected task =>
      match w.running task with
      | some q =>
          match q.stage with
          | .connecting retry =>
              write P { w with
                protocol := { w.protocol with reader := some w.opened, writer := some w.opened }
                opened := w.opened + 1 } task q retry
          | _ => w
      | none => w
  | .drained task =>
      match w.running task with
      | some q =>
          match q.stage with
          | .draining retry => w.suspend task q w.protocol (.readingHeader retry)
          | _ => w
      | none => w
  | .received task =>
      match w.running task, w.protocol.reader with
      | some q, some c =>
          match q.stage with
          | .readingHeader retry =>
              match readExactly 4 (w.connections c).fromDevice with
              | some (header, rest) =>
                  (w.updateConnection c fun conn => { conn with fromDevice := rest }).suspend task q
                    w.protocol (.readingBody retry (structUnpackU32 header))
              | none => w
          | .readingBody retry length =>
              match readExactly length (w.connections c).fromDevice with
              | some (buffer, rest) =>
                  let w := w.updateConnection c fun conn => { conn with fromDevice := rest }
                  let executed := match decrypt P buffer with
                    | none => .error "invalid utf-8"
                    | some response => (P.jsonLoads response).elim (.error "invalid json") .ok
                  w.leave task q retry (queryIteration w.protocol q.retryCount retry (.ok c) executed)
              | none => w
          | _ => w
      | _, _ => w
  | .fail task ex =>
      match w.running task with
      | some q =>
          match q.stage with
          | .connecting retry =>
              w.leave task q retry (queryIteration w.protocol q.retryCount retry (.error ex) (.error ""))
          | .draining retry | .readingHeader retry | .readingBody retry _ =>
              w.leave task q retry
                (queryIteration w.protocol q.retryCount retry (.error ex) (.error ex.text))
          | .waitingForLock => w
      | none => w
  | .cancel task =>
      match w.running task with
      | some q => w.finish task q w.protocol .cancelled
      | none => w
  | .answer c =>
      match readFrame P (w.connections c).toDevice with
      | some (request, rest) =>
          w.updateConnection c fun conn =>
            { conn with
              toDevice := rest
              fromDevice := conn.fromDevice ++ (encrypt P (respond request)).getD [] }
      | none => w

def interleaveAll (w : Tasks) (actions : List Action) : Tasks :=
  actions.foldl (interleave P respond) w

end Semantics

/-- Bytes that are whole request frames one after another, as `encrypt` writes them. -/
def Framed (P : Primitives) (bytes : Bytes) : Prop :=
  ∃ frames : List Bytes, bytes = frames.flatten ∧ ∀ frame ∈ frames, ∃ request, encrypt P request = some frame

theorem Framed.append_frame {P : Primitives} {bytes frame : Bytes} (h : Framed P bytes)
    {request : String} (hframe : encrypt P request = some frame) : Framed P (bytes ++ frame) := by
  obtain ⟨frames, rfl, hframes⟩ := h
  refine ⟨frames ++ [frame], by simp, fun f hf => ?_⟩
  rcases List.mem_append.mp hf with hf | hf
  · exact hframes f hf
  · exact ⟨request, (List.mem_singleton.mp hf) ▸ hframe⟩

/-- From `w` to `w'` every connection's log of written bytes stayed or grew by one frame. -/
def WrittenGrows (P : Primitives) (w w' : Tasks) : Prop :=
  ∀ c, (w'.connections c).written = (w.connections c).written ∨
    ∃ request frame, encrypt P request = some frame ∧
      (w'.connections c).written = (w.connections c).written ++ frame

theorem WrittenGrows.of_connections_eq {P : Primitives} {w w' : Tasks}
    (h : w'.connections = w.connections) : WrittenGrows P w w' :=
  fun c => .inl (by rw [h])

theorem WrittenGrows.of_written_eq {P : Primitives} {w w' : Tasks}
    (h : ∀ c, (w'.connections c).written = (w.connections c).written) : WrittenGrows P w w' :=
  fun c => .inl (h c)

namespace Tasks

@[simp] theorem suspend_protocol (w : Tasks) (task : Nat) (q : Query) (p : TPLinkSmartHomeProtocol)
    (stage : Stage) : (w.suspend task q p stage).protocol = p := rfl

@[simp] theorem suspend_lockHolder (w : Tasks) (task : Nat) (q : Query)
    (p : TPLinkSmartHomeProtocol) (stage : Stage) :
    (w.suspend task q p stage).lockHolder = w.lockHolder := rfl

@[simp] theorem suspend_opened (w : Tasks) (task : Nat) (q : Query) (p : TPLinkSmartHomeProtocol)
    (stage : Stage) : (w.suspend task q p stage).opened = w.opened := rfl

@[simp] theorem suspend_running (w : Tasks) (task : Nat) (q : Query) (p : TPLinkSmartHomeProtocol)
    (stage : Stage) :
    (w.suspend task q p stage).running = Function.update w.running task (some { q with stage }) :=
  rfl

@[simp] theorem suspend_outcomes (w : Tasks) (task : Nat) (q : Query)
    (p : TPLinkSmartHomeProtocol) (stage : Stage) :
    (w.suspend task q p stage).outcomes = w.outcomes := rfl

@[simp] theorem finish_protocol (w : Tasks) (task : Nat) (q : Query) (p : TPLinkSmartHomeProtocol)
    (outcome : Outcome) : (w.finish task q p outcome).protocol = p := rfl

@[simp] theorem finish_lockHolder (w : Tasks) (task : Nat) (q : Query)
    (p : TPLinkSmartHomeProtocol) (outcome : Outcome) :
    (w.finish task q p outcome).lockHolder =
      if w.lockHolder = some task then none else w.lockHolder := rfl

@[simp] theorem finish_opened (w : Tasks) (task : Nat) (q : Query) (p : TPLinkSmartHomeProtocol)
    (outcome : Outcome) : (w.finish task q p outcome).opened = w.opened := rfl

@[simp] theorem finish_running (w : Tasks) (task : Nat) (q : Query) (p : TPLinkSmartHomeProtocol)
    (outcome : Outcome) : (w.finish task q p outcome).running = Function.update w.running task none :=
  rfl

@[simp] theorem finish_outcomes (w : Tasks) (task : Nat) (q : Query)
    (p : TPLinkSmartHomeProtocol) (outcome : Outcome) :
    (w.finish task q p outcome).outcomes =
      Function.update w.outcomes task (some (q.request, outcome)) := rfl

@[simp] theorem updateConnection_protocol (w : Tasks) (c : Nat) (f : Connection → Connection) :
    (w.updateConnection c f).protocol = w.protocol := rfl

@[simp] theorem updateConnection_lockHolder (w : Tasks) (c : Nat) (f : Connection → Connection) :
    (w.updateConnection c f).lockHolder = w.lockHolder := rfl

@[simp] theorem updateConnection_opened (w : Tasks) (c : Nat) (f : Connection → Connection) :
    (w.updateConnection c f).opened = w.opened := rfl

@[simp] theorem updateConnection_running (w : Tasks) (c : Nat) (f : Connection → Connection) :
    (w.updateConnection c f).running = w.running := rfl

@[simp] theorem updateConnection_outcomes (w : Tasks) (c : Nat) (f : Connection → Connection) :
    (w.updateConnection c f).outcomes = w.outcomes := rfl

@[simp] theorem updateConnection_connections (w : Tasks) (c : Nat) (f : Connection → Connection) :
    (w.updateConnection c f).connections = Function.update w.connections c (f (w.connections c)) :=
  rfl

theorem updateConnection_written (w : Tasks) (c : Nat) {f : Connection → Connection}
    (hf : ∀ conn, (f conn).written = conn.written) (c' : Nat) :
    ((w.updateConnection c f).connections c').written = (w.connections c').written := by
  by_cases hc : c' = c
  · subst hc
    simp [updateConnection, hf]
  · simp [updateConnection, Function.update_noteq hc]

@[simp] theorem suspend_connections (w : Tasks) (task : Nat) (q : Query)
    (p : TPLinkSmartHomeProtocol) (stage : Stage) : (w.suspend task q p stage).connections = w.connections :=
  rfl

@[simp] theorem finish_connections (w : Tasks) (task : Nat) (q : Query)
    (p : TPLinkSmartHomeProtocol) (outcome : Outcome) :
    (w.finish task q p outcome).connections = w.connections := rfl

@[simp] theorem leave_connections (w : Tasks) (task : Nat) (q : Query) (retry : Nat)
    (r : TPLinkSmartHomeProtocol × LoopExit) : (w.leave task q retry r).connections = w.connections := by
  obtain ⟨p, _ | _ | _⟩ := r
  · rfl
  · rfl
  · simp only [leave]
    split <;> rfl

theorem write_writtenGrows (P : Primitives) (w : Tasks) (task : Nat) (q : Query) (retry : Nat) :
    WrittenGrows P w (write P w task q retry) := by
  unfold write
  split
  · rename_i c _ _
    split
    · rename_i frame hframe
      intro c'
      by_cases hc : c' = c
      · subst hc
        exact .inr ⟨q.request, frame, hframe, by simp [updateConnection]⟩
      · exact .inl (by simp [updateConnection, Function.update_noteq hc])
    · exact WrittenGrows.of_connections_eq (leave_connections _ _ _ _ _)
  · exact WrittenGrows.of_connections_eq (leave_connections _ _ _ _ _)

theorem enterLoop_writtenGrows (P : Primitives) (w : Tasks) (task : Nat) (q : Query) :
    WrittenGrows P w (enterLoop P w task q) := by
  unfold enterLoop
  split
  · split
    · exact write_writtenGrows P w task q 0
    · exact WrittenGrows.of_connections_eq rfl
  · exact WrittenGrows.of_connections_eq rfl

end Tasks

theorem interleave_writtenGrows (P : Primitives) (respond : String → String) (w : Tasks)
    (a : Action) : WrittenGrows P w (interleave P respond w a) := by
  cases a with
  | start | drained | cancel =>
      simp only [interleave]
      repeat' split
      all_goals exact WrittenGrows.of_connections_eq rfl
  | acquire task =>
      simp only [interleave]
      repeat' split
      all_goals first
        | exact WrittenGrows.of_connections_eq rfl
        | exact Tasks.enterLoop_writtenGrows P _ task _
  | connected task =>
      simp only [interleave]
      repeat' split
      all_goals first
        | exact WrittenGrows.of_connections_eq rfl
        | exact Tasks.write_writtenGrows P _ task _ _
  | received task =>
      simp only [interleave]
      repeat' split
      all_goals first
        | exact WrittenGrows.of_connections_eq rfl
        | exact WrittenGrows.of_written_eq fun c' => by
            simp only [Tasks.suspend_connections, Tasks.leave_connections]
            apply Tasks.updateConnection_written
            intro
            rfl
  | fail task ex =>
      simp only [interleave]
      repeat' split
      all_goals first
        | exact WrittenGrows.of_connections_eq rfl
        | exact WrittenGrows.of_connections_eq (Tasks.leave_connections _ _ _ _ _)
  | answer c =>
      simp only [interleave]
      split
      · exact WrittenGrows.of_written_eq fun c' => by
          apply Tasks.updateConnection_written
          intro
          rfl
      · exact WrittenGrows.of_connections_eq rfl

/-- Every connection carries whole request frames, in every interleaving of any calls with any
outcomes of their awaits, cancellations included: `_execute_query` writes its frame in one
`write` before its first `await`. -/
theorem interleaveAll_written_framed (P : Primitives) (respond : String → String)
    (p : TPLinkSmartHomeProtocol) (actions : List Action) (c : Nat) :
    Framed P ((interleaveAll P respond (Tasks.start p) actions).connections c).written := by
  induction actions using List.reverseRecOn with
  | nil => exact ⟨[], rfl, by simp⟩
  | append_singleton actions a ih =>
      rw [interleaveAll, List.foldl_append, List.foldl_cons, List.foldl_nil]
      rcases interleave_writtenGrows P respond _ a c with h | ⟨request, frame, hframe, h⟩
      · rw [h]
        exact ih
      · rw [h]
        exact Framed.append_frame ih hframe

/-- A query is cancelled after writing its request; the next query takes the lock and reuses
the connection, which `close` never ran on. The device answers the first request, and the
second query returns that answer as its own. -/
theorem cancelled_query_answer_read_by_next (P : Primitives) (respond : String → String)
    (p : TPLinkSmartHomeProtocol) (hp : p.writer = none) (requestA requestB : String)
    (hA : (P.utf8.encode requestA).length < 2 ^ 32) (hB : (P.utf8.encode requestB).length < 2 ^ 32)
    (hR : (P.utf8.encode (respond requestA)).length < 2 ^ 32) {json : Json}
    (hjson : P.jsonLoads (respond requestA) = some json) :
    let w := interleaveAll P respond (Tasks.start p)
      [.start 0 requestA 0, .acquire 0, .connected 0, .cancel 0, .start 1 requestB 0, .acquire 1,
        .answer 0, .drained 1, .received 1, .received 1]
    w.outcomes 0 = some (requestA, .cancelled) ∧ w.outcomes 1 = some (requestB, .returned json) := by
  intro w
  have hframeA := encrypt_eq P requestA hA
  have hframeB := encrypt_eq P requestB hB
  have hframeR := encrypt_eq P (respond requestA) hR
  have hheader : readExactly 4 (beBytes 4 (P.utf8.encode (respond requestA)).length ++
      xorPayload (P.utf8.encode (respond requestA))) =
        some (beBytes 4 (P.utf8.encode (respond requestA)).length,
          xorPayload (P.utf8.encode (respond requestA))) :=
    readExactly_append (beBytes_length 4 _) _
  have hbody : readExactly (P.utf8.encode (respond requestA)).length
      (xorPayload (P.utf8.encode (respond requestA))) =
        some (xorPayload (P.utf8.encode (respond requestA)), []) := by
    simpa using readExactly_append (xorPayloadFrom_length _ _) []
  simp [w, interleaveAll, interleave, Tasks.start, Tasks.enterLoop, Tasks.write,
    Tasks.suspend, Tasks.finish, Tasks.updateConnection, Tasks.leave, Function.update_apply, hp,
    hframeA, hframeB, hframeR, Connection.empty, readFrame_encrypt P requestA hA, hheader, hbody,
    structUnpackU32_beBytes hR, decrypt_xorPayload, hjson, queryIteration_eq, attempt, connect]

theorem cancelled_query_answer_read_by_next_sample :
    (init "192.0.2.1" none none).writer = none ∧
      (interleaveAll Primitives.sample (fun request => "re:" ++ request)
        (Tasks.start (init "192.0.2.1" none none))
        [.start 0 "a" 0, .acquire 0, .connected 0, .cancel 0, .start 1 "b" 0, .acquire 1, .answer 0,
          .drained 1, .received 1, .received 1]).outcomes 1 =
        some ("b", .returned (.string ("re:" ++ "a"))) :=
  ⟨rfl, (cancelled_query_answer_read_by_next Primitives.sample (fun request => "re:" ++ request)
    (init "192.0.2.1" none none) rfl "a" "b" (by decide) (by decide) (by decide) rfl).2⟩

end TPLinkSmartHomeProtocol
end KasaTransport
