import KasaTransport.SmartHome.Interleaving

/-!
What `query_lock` guarantees. The lock holder's request is the only exchange in flight on the
open connection, stage by stage of its `_execute_query`; every other call waits for the lock; and
with the lock free the open connection is quiet, because every failing pass closes it.
Cancelling a call that waits for the lock, or that waits on `open_connection`, leaves nothing
behind: no stream is open, so the next holder connects afresh. So in every interleaving in which
no call is cancelled once `_execute_query` has written its request frame, from a protocol object
with no open connection, each query that returns, returns the device's answer to its own
request. A call cancelled while it waits on `drain` or on either `readexactly` leaves the answer
to it on the connection, for the next call to read (`cancelled_query_answer_read_by_next`).
-/

namespace KasaTransport
namespace TPLinkSmartHomeProtocol

section Invariant

variable (P : Primitives) (respond : String → String)

/-- The holder's request is on the wire: its frame unread by the device, or the device's answer
unread by the holder. -/
def InFlight (conn : Connection) (request : String) : Prop :=
  ∃ frame, encrypt P request = some frame ∧
    (conn.toDevice = frame ∧ conn.fromDevice = [] ∨
      conn.toDevice = [] ∧ conn.fromDevice = (encrypt P (respond request)).getD [])

/-- The exchange of the lock holder's request at each stage of its pass. -/
def HolderStage (w : Tasks) (q : Query) : Prop :=
  match q.stage with
  | .waitingForLock => False
  | .connecting _ => w.protocol.writer = none
  | .draining _ | .readingHeader _ =>
      ∃ c, w.protocol.writer = some c ∧ InFlight P respond (w.connections c) q.request
  | .readingBody _ length =>
      ∃ c, w.protocol.writer = some c ∧ (w.connections c).toDevice = [] ∧
        (w.connections c).fromDevice = xorPayload (P.utf8.encode (respond q.request)) ∧
        length = (P.utf8.encode (respond q.request)).length ∧
        (P.utf8.encode (respond q.request)).length < 2 ^ 32

/-- With the lock free, the open connection has nothing in flight. -/
def Quiet (w : Tasks) : Prop :=
  ∀ c, w.protocol.writer = some c → (w.connections c).toDevice = [] ∧ (w.connections c).fromDevice = []

/-- Every value a query returned is the device's answer to that query's request. -/
def AnswersOwn (w : Tasks) : Prop :=
  ∀ task request json, w.outcomes task = some (request, .returned json) →
    P.jsonLoads (respond request) = some json

structure LockInvariant (w : Tasks) : Prop where
  streams : w.protocol.reader = w.protocol.writer
  fresh : ∀ c, w.opened ≤ c → w.connections c = Connection.empty
  writerOpened : ∀ c, w.protocol.writer = some c → c < w.opened
  waiting : ∀ task q, w.running task = some q → w.lockHolder ≠ some task → q.stage = .waitingForLock
  free : w.lockHolder = none → Quiet w
  held : ∀ task, w.lockHolder = some task → ∃ q, w.running task = some q ∧ HolderStage P respond w q
  answers : AnswersOwn P respond w

end Invariant

section Preservation

variable {P : Primitives} {respond : String → String}

theorem update_fresh {w : Tasks}
    (hfresh : ∀ c, w.opened ≤ c → w.connections c = Connection.empty) {c : Nat} (hc : c < w.opened)
    (conn : Connection) (c' : Nat) (hc' : w.opened ≤ c') :
    Function.update w.connections c conn c' = Connection.empty := by
  rw [Function.update_noteq (by omega)]
  exact hfresh c' hc'

/-- The parts of the invariant that a pass of the holder `task` does not touch: fresh
connections, the other tasks waiting, and the answers returned so far. -/
structure Bystanders (P : Primitives) (respond : String → String) (w : Tasks) (task : Nat) :
    Prop where
  fresh : ∀ c, w.opened ≤ c → w.connections c = Connection.empty
  others : ∀ t q, w.running t = some q → t ≠ task → q.stage = .waitingForLock
  answers : AnswersOwn P respond w
  holder : w.lockHolder = some task

theorem Bystanders.finish_closed {w : Tasks} {task : Nat} (h : Bystanders P respond w task)
    (q : Query) {p : TPLinkSmartHomeProtocol} (hreader : p.reader = none) (hwriter : p.writer = none)
    {outcome : Outcome} (houtcome : ∀ json, outcome ≠ .returned json) :
    LockInvariant P respond (w.finish task q p outcome) where
  streams := by simp [hreader, hwriter]
  fresh := by simpa using h.fresh
  writerOpened := by simp [hwriter]
  waiting t q' hq' _ := by
    by_cases ht : t = task
    · subst ht
      simp at hq'
    · simp only [Tasks.finish_running, Function.update_noteq ht] at hq'
      exact h.others t q' hq' ht
  free _ := by simp [Quiet, hwriter]
  held t ht := by simp [h.holder] at ht
  answers t request json hret := by
    by_cases htask : t = task
    · subst htask
      simp only [Tasks.finish_outcomes, Function.update_same, Option.some.injEq, Prod.mk.injEq] at hret
      exact absurd hret.2 (houtcome json)
    · simp only [Tasks.finish_outcomes, Function.update_noteq htask] at hret
      exact h.answers t request json hret

theorem Bystanders.suspend_connecting {w : Tasks} {task : Nat} (h : Bystanders P respond w task)
    (q : Query) {p : TPLinkSmartHomeProtocol} (hreader : p.reader = none) (hwriter : p.writer = none)
    (retry : Nat) : LockInvariant P respond (w.suspend task q p (.connecting retry)) where
  streams := by simp [hreader, hwriter]
  fresh := by simpa using h.fresh
  writerOpened := by simp [hwriter]
  waiting t q' hq' hholder := by
    by_cases ht : t = task
    · subst ht
      simp [h.holder] at hholder
    · simp only [Tasks.suspend_running, Function.update_noteq ht] at hq'
      exact h.others t q' hq' ht
  free hfree := by simp [h.holder] at hfree
  held t ht := by
    simp only [Tasks.suspend_lockHolder, h.holder, Option.some.injEq] at ht
    subst ht
    exact ⟨{ q with stage := .connecting retry }, by simp, hwriter⟩
  answers := by simpa using h.answers

theorem Bystanders.leave_failed {w : Tasks} {task : Nat} (h : Bystanders P respond w task)
    (q : Query) (retry : Nat) {r : TPLinkSmartHomeProtocol × LoopExit}
    (hreader : r.1.reader = none) (hwriter : r.1.writer = none) (hret : ∀ json, r.2 ≠ .returned json) :
    LockInvariant P respond (w.leave task q retry r) := by
  obtain ⟨p, _ | e | _⟩ := r
  · exact absurd rfl (hret _)
  · exact h.finish_closed q hreader hwriter fun json => by simp
  · simp only [Tasks.leave]
    split
    · exact h.suspend_connecting q rfl rfl _
    · exact h.finish_closed q rfl rfl fun json => by simp

theorem Bystanders.leave_execute_error {w : Tasks} {task : Nat} (h : Bystanders P respond w task)
    (q : Query) (retry : Nat) (opened : Except QueryFailure Nat) (text : String) :
    LockInvariant P respond
      (w.leave task q retry (queryIteration w.protocol q.retryCount retry opened (.error text))) := by
  obtain ⟨hclosed, hret⟩ := queryIteration_execute_error w.protocol q.retryCount retry opened text
  exact h.leave_failed q retry (by rw [hclosed]; rfl) (by rw [hclosed]; rfl) hret

theorem LockInvariant.bystanders {w : Tasks} (h : LockInvariant P respond w) {task : Nat}
    (hholder : w.lockHolder = some task) : Bystanders P respond w task where
  fresh := h.fresh
  others t q hq ht := h.waiting t q hq (by rw [hholder]; exact fun heq => ht (Option.some.inj heq).symm)
  answers := h.answers
  holder := hholder

theorem LockInvariant.holder_of_stage {w : Tasks} (h : LockInvariant P respond w) {task : Nat}
    {q : Query} (hq : w.running task = some q) (hstage : q.stage ≠ .waitingForLock) :
    w.lockHolder = some task :=
  Classical.byContradiction fun hne => hstage (h.waiting task q hq hne)

theorem LockInvariant.holder_stage {w : Tasks} (h : LockInvariant P respond w) {task : Nat}
    {q : Query} (hq : w.running task = some q) (hstage : q.stage ≠ .waitingForLock) :
    w.lockHolder = some task ∧ HolderStage P respond w q := by
  have hholder := h.holder_of_stage hq hstage
  obtain ⟨q', hq', hheld⟩ := h.held task hholder
  rw [hq, Option.some.injEq] at hq'
  exact ⟨hholder, hq' ▸ hheld⟩

theorem Bystanders.updateConnection {w : Tasks} {task : Nat} (h : Bystanders P respond w task)
    {c : Nat} (hc : c < w.opened) (f : Connection → Connection) :
    Bystanders P respond (w.updateConnection c f) task where
  fresh := update_fresh h.fresh hc _
  others := h.others
  answers := h.answers
  holder := h.holder

theorem InFlight.answer {conn : Connection} {request request' : String} {rest : Bytes}
    (h : InFlight P respond conn request) (hread : readFrame P conn.toDevice = some (request', rest)) :
    InFlight P respond
      { conn with
        toDevice := rest
        fromDevice := conn.fromDevice ++ (encrypt P (respond request')).getD [] } request := by
  obtain ⟨frame, hframe, ⟨hto, hfrom⟩ | ⟨hto, -⟩⟩ := h
  · rw [hto, readFrame_of_encrypt hframe, Option.some.injEq, Prod.mk.injEq] at hread
    obtain ⟨rfl, rfl⟩ := hread
    exact ⟨frame, hframe, .inr ⟨rfl, by rw [hfrom, List.nil_append]⟩⟩
  · simp [hto] at hread

theorem LockInvariant.suspend_holder {w : Tasks} (h : LockInvariant P respond w) {task : Nat}
    (hholder : w.lockHolder = some task) (q : Query) (stage : Stage)
    (hstage : HolderStage P respond w { q with stage }) :
    LockInvariant P respond (w.suspend task q w.protocol stage) where
  streams := h.streams
  fresh := h.fresh
  writerOpened := h.writerOpened
  waiting t q' hq' hne := by
    by_cases ht : t = task
    · subst ht
      simp [hholder] at hne
    · simp only [Tasks.suspend_running, Function.update_noteq ht] at hq'
      exact h.waiting t q' hq' hne
  free hfree := by simp [hholder] at hfree
  held t ht := by
    simp only [Tasks.suspend_lockHolder, hholder, Option.some.injEq] at ht
    subst ht
    exact ⟨{ q with stage }, by simp, hstage⟩
  answers := h.answers

theorem Bystanders.write {w : Tasks} {task : Nat} (h : Bystanders P respond w task) (q : Query)
    (retry : Nat) (hstreams : w.protocol.reader = w.protocol.writer)
    (hwriterOpened : ∀ c, w.protocol.writer = some c → c < w.opened) (hquiet : Quiet w) :
    LockInvariant P respond (Tasks.write P w task q retry) := by
  unfold Tasks.write
  split
  · rename_i c _ hwriter
    split
    · rename_i frame hframe
      have hc := hwriterOpened c hwriter
      obtain ⟨htoDevice, hfromDevice⟩ := hquiet c hwriter
      exact {
        streams := hstreams
        fresh := update_fresh h.fresh hc _
        writerOpened := hwriterOpened
        waiting := fun t q' hq' hne => by
          by_cases ht : t = task
          · subst ht
            simp [h.holder] at hne
          · simp only [Tasks.suspend_running, Tasks.updateConnection_running,
              Function.update_noteq ht] at hq'
            exact h.others t q' hq' ht
        free := fun hfree => by simp [h.holder] at hfree
        held := fun t ht => by
          simp only [Tasks.suspend_lockHolder, Tasks.updateConnection_lockHolder, h.holder,
            Option.some.injEq] at ht
          subst ht
          refine ⟨{ q with stage := .draining retry }, by simp, c, hwriter, frame, hframe, .inl ?_⟩
          simp [htoDevice, hfromDevice]
        answers := by simpa using h.answers }
    · exact h.leave_execute_error q retry _ _
  · exact h.leave_execute_error q retry _ _

theorem LockInvariant.update_suspend_holder {w : Tasks} (h : LockInvariant P respond w)
    {task : Nat} (hholder : w.lockHolder = some task) {c : Nat} (hwriter : w.protocol.writer = some c)
    (f : Connection → Connection) (q : Query) (stage : Stage)
    (hstage : HolderStage P respond (w.updateConnection c f) { q with stage }) :
    LockInvariant P respond ((w.updateConnection c f).suspend task q w.protocol stage) where
  streams := h.streams
  fresh := update_fresh h.fresh (h.writerOpened c hwriter) _
  writerOpened := h.writerOpened
  waiting t q' hq' hne := by
    by_cases ht : t = task
    · subst ht
      simp [hholder] at hne
    · simp only [Tasks.suspend_running, Tasks.updateConnection_running,
        Function.update_noteq ht] at hq'
      exact h.waiting t q' hq' hne
  free hfree := by simp [hholder] at hfree
  held t ht := by
    simp only [Tasks.suspend_lockHolder, Tasks.updateConnection_lockHolder, hholder,
      Option.some.injEq] at ht
    subst ht
    exact ⟨{ q with stage }, by simp, hstage⟩
  answers := h.answers

theorem LockInvariant.finish_returned {w : Tasks} (h : LockInvariant P respond w) {task : Nat}
    (hholder : w.lockHolder = some task) {c : Nat} (hwriter : w.protocol.writer = some c)
    (htoDevice : (w.connections c).toDevice = []) (q : Query) {json : Json}
    (hjson : P.jsonLoads (respond q.request) = some json) :
    LockInvariant P respond ((w.updateConnection c fun conn => { conn with fromDevice := [] }).finish
      task q w.protocol (.returned json)) where
  streams := h.streams
  fresh := update_fresh h.fresh (h.writerOpened c hwriter) _
  writerOpened := h.writerOpened
  waiting t q' hq' _ := by
    by_cases ht : t = task
    · subst ht
      simp at hq'
    · simp only [Tasks.finish_running, Tasks.updateConnection_running,
        Function.update_noteq ht] at hq'
      exact h.waiting t q' hq' (by rw [hholder]; exact fun heq => ht (Option.some.inj heq).symm)
  free _ c' hc' := by
    simp only [Tasks.finish_protocol, Tasks.updateConnection_protocol, hwriter,
      Option.some.injEq] at hc'
    subst hc'
    simp [htoDevice]
  held t ht := by simp [hholder] at ht
  answers t request json' hret := by
    by_cases ht : t = task
    · subst ht
      simp only [Tasks.finish_outcomes, Tasks.updateConnection_outcomes, Function.update_same,
        Option.some.injEq, Prod.mk.injEq, Outcome.returned.injEq] at hret
      obtain ⟨rfl, rfl⟩ := hret
      exact hjson
    · simp only [Tasks.finish_outcomes, Tasks.updateConnection_outcomes,
        Function.update_noteq ht] at hret
      exact h.answers t request json' hret

theorem HolderStage.answer {w : Tasks} {q : Query} (h : HolderStage P respond w q) {c : Nat}
    {request : String} {rest : Bytes}
    (hread : readFrame P (w.connections c).toDevice = some (request, rest)) :
    HolderStage P respond (w.updateConnection c fun conn =>
      { conn with
        toDevice := rest
        fromDevice := conn.fromDevice ++ (encrypt P (respond request)).getD [] }) q := by
  have hflight : ∀ c0, InFlight P respond (w.connections c0) q.request →
      InFlight P respond ((w.updateConnection c fun conn =>
        { conn with
          toDevice := rest
          fromDevice := conn.fromDevice ++ (encrypt P (respond request)).getD [] }).connections c0)
        q.request := by
    intro c0 hc0
    by_cases hcc : c0 = c
    · subst hcc
      rw [Tasks.updateConnection_connections, Function.update_same]
      exact hc0.answer hread
    · rwa [Tasks.updateConnection_connections, Function.update_noteq hcc]
  unfold HolderStage at h ⊢
  split at h
  · exact h
  · exact h
  · obtain ⟨c0, hc0, hin⟩ := h
    exact ⟨c0, hc0, hflight c0 hin⟩
  · obtain ⟨c0, hc0, hin⟩ := h
    exact ⟨c0, hc0, hflight c0 hin⟩
  · obtain ⟨c0, hc0, hto, hbody⟩ := h
    have hcc : c0 ≠ c := by
      rintro rfl
      simp [hto] at hread
    refine ⟨c0, hc0, ?_⟩
    rw [Tasks.updateConnection_connections, Function.update_noteq hcc]
    exact ⟨hto, hbody⟩

end Preservation

def Action.cancels : Action → Bool
  | .cancel _ => true
  | _ => false

/-- Whether a move cancels a call whose request frame has been written: one waiting on `drain`
or on either `readexactly`. -/
def Action.cancelsAfterWrite (w : Tasks) : Action → Bool
  | .cancel task =>
      match w.running task with
      | some q =>
          match q.stage with
          | .draining _ | .readingHeader _ | .readingBody _ _ => true
          | .waitingForLock | .connecting _ => false
      | none => false
  | _ => false

/-- Whether some move of a run cancels a call whose request frame has been written. -/
def cancelsAfterWrite (P : Primitives) (respond : String → String) :
    Tasks → List Action → Bool
  | _, [] => false
  | w, a :: rest =>
      a.cancelsAfterWrite w || cancelsAfterWrite P respond (interleave P respond w a) rest

section Steps

variable {P : Primitives} {respond : String → String} {w : Tasks}

theorem LockInvariant.interleave_start (h : LockInvariant P respond w) (task : Nat)
    (request : String) (retryCount : Int) :
    LockInvariant P respond (interleave P respond w (.start task request retryCount)) := by
  simp only [interleave]
  split
  · exact h
  · rename_i hnone
    exact {
      streams := h.streams
      fresh := h.fresh
      writerOpened := h.writerOpened
      waiting := fun t q hq hne => by
        by_cases ht : t = task
        · subst ht
          simp only [Function.update_same, Option.some.injEq] at hq
          rw [← hq]
        · simp only [Function.update_noteq ht] at hq
          exact h.waiting t q hq hne
      free := h.free
      held := fun t ht => by
        obtain ⟨q, hq, hstage⟩ := h.held t ht
        have hne : t ≠ task := fun heq => by rw [heq, hnone] at hq; cases hq
        exact ⟨q, by simp [Function.update_noteq hne, hq], hstage⟩
      answers := h.answers }

theorem LockInvariant.interleave_acquire (h : LockInvariant P respond w) (task : Nat) :
    LockInvariant P respond (interleave P respond w (.acquire task)) := by
  simp only [interleave]
  split
  · rename_i q _ hfree
    split
    · have hb : Bystanders P respond { w with lockHolder := some task } task :=
        { fresh := h.fresh
          others := fun t q' hq' _ => h.waiting t q' hq' (by rw [hfree]; simp)
          answers := h.answers
          holder := rfl }
      unfold Tasks.enterLoop
      split
      · split
        · exact hb.write q 0 h.streams h.writerOpened (h.free hfree)
        · exact hb.suspend_connecting q rfl rfl 0
      · exact hb.finish_closed q rfl rfl fun json => by simp
    · exact h
  · exact h

theorem LockInvariant.interleave_connected (h : LockInvariant P respond w) (task : Nat) :
    LockInvariant P respond (interleave P respond w (.connected task)) := by
  simp only [interleave]
  split
  · rename_i q hq
    split
    · rename_i retry hstage
      have hholder := h.holder_of_stage hq (by rw [hstage]; simp)
      obtain ⟨q', hq', hheld⟩ := h.held task hholder
      rw [hq] at hq'
      cases hq'
      have hwriter : w.protocol.writer = none := by simpa [HolderStage, hstage] using hheld
      have hb : Bystanders P respond
          { w with
            protocol := { w.protocol with reader := some w.opened, writer := some w.opened }
            opened := w.opened + 1 } task :=
        { fresh := fun c hc => h.fresh c (by simp at hc; omega)
          others := (h.bystanders hholder).others
          answers := h.answers
          holder := hholder }
      refine hb.write q retry rfl (fun c hc => by cases hc; exact Nat.lt_succ_self _)
        fun c hc => ?_
      cases hc
      simp [h.fresh w.opened le_rfl, Connection.empty]
    · exact h
  · exact h

theorem LockInvariant.interleave_drained (h : LockInvariant P respond w) (task : Nat) :
    LockInvariant P respond (interleave P respond w (.drained task)) := by
  simp only [interleave]
  split
  · rename_i q hq
    split
    · rename_i retry hstage
      have hholder := h.holder_of_stage hq (by rw [hstage]; simp)
      obtain ⟨q', hq', hheld⟩ := h.held task hholder
      rw [hq] at hq'
      cases hq'
      exact h.suspend_holder hholder q _ (by simpa [HolderStage, hstage] using hheld)
    · exact h
  · exact h

theorem LockInvariant.interleave_fail (h : LockInvariant P respond w) (task : Nat)
    (ex : QueryFailure) : LockInvariant P respond (interleave P respond w (.fail task ex)) := by
  simp only [interleave]
  split
  · rename_i q hq
    split
    all_goals first
      | exact h
      | exact (h.bystanders (h.holder_of_stage hq (by simp [*]))).leave_execute_error q _ _ _
  · exact h

theorem LockInvariant.interleave_received (h : LockInvariant P respond w) (task : Nat) :
    LockInvariant P respond (interleave P respond w (.received task)) := by
  simp only [interleave]
  split
  · rename_i q c hq hreader
    have hwriter : w.protocol.writer = some c := h.streams ▸ hreader
    split
    · rename_i retry hstage
      obtain ⟨hholder, hheld⟩ := h.holder_stage hq (by rw [hstage]; simp)
      simp only [HolderStage, hstage, hwriter, Option.some.injEq, exists_eq_left'] at hheld
      obtain ⟨frame, -, hflight⟩ := hheld
      split
      · rename_i header rest hread
        rcases hflight with ⟨-, hfrom⟩ | ⟨hto, hfrom⟩
        · simp [hfrom, readExactly] at hread
        cases hR : encrypt P (respond q.request) with
        | none => simp [hfrom, hR, readExactly] at hread
        | some frameR =>
          obtain ⟨hlenR, rfl⟩ := encrypt_eq_some hR
          rw [hfrom, hR, Option.getD_some, readExactly_append (beBytes_length 4 _),
            Option.some.injEq, Prod.mk.injEq] at hread
          obtain ⟨rfl, rfl⟩ := hread
          refine h.update_suspend_holder hholder hwriter _ q _ ?_
          simp only [HolderStage]
          exact ⟨c, hwriter, by simpa using hto, by simp, structUnpackU32_beBytes hlenR, hlenR⟩
      · exact h
    · rename_i retry length hstage
      obtain ⟨hholder, hheld⟩ := h.holder_stage hq (by rw [hstage]; simp)
      simp only [HolderStage, hstage, hwriter, Option.some.injEq, exists_eq_left'] at hheld
      obtain ⟨hto, hfrom, rfl, -⟩ := hheld
      split
      · rename_i buffer rest hread
        rw [hfrom, ← List.append_nil (xorPayload _), readExactly_append (xorPayload_length _),
          Option.some.injEq, Prod.mk.injEq] at hread
        obtain ⟨rfl, rfl⟩ := hread
        simp only [decrypt_xorPayload]
        cases hjson : P.jsonLoads (respond q.request) with
        | none =>
          exact ((h.bystanders hholder).updateConnection (h.writerOpened c hwriter) _).leave_execute_error
            q retry (.ok c) "invalid json"
        | some json =>
          rw [Option.elim, Tasks.updateConnection_protocol, queryIteration_connected_ok _ _ _ _ _ hreader hwriter]
          exact h.finish_returned hholder hwriter hto q hjson
      · exact h
    · exact h
  · exact h

theorem LockInvariant.interleave_answer (h : LockInvariant P respond w) (c : Nat) :
    LockInvariant P respond (interleave P respond w (.answer c)) := by
  simp only [interleave]
  split
  · rename_i request rest hread
    have hc : c < w.opened :=
      Nat.lt_of_not_le fun hc => by simp [h.fresh c hc, Connection.empty] at hread
    exact {
      streams := h.streams
      fresh := update_fresh h.fresh hc _
      writerOpened := h.writerOpened
      waiting := h.waiting
      free := fun hfree c' hc' => by
        have hquiet := h.free hfree c' hc'
        by_cases hcc : c' = c
        · subst hcc
          simp [hquiet.1] at hread
        · simpa [Function.update_noteq hcc] using hquiet
      held := fun t ht => by
        obtain ⟨q, hq, hstage⟩ := h.held t ht
        exact ⟨q, hq, hstage.answer hread⟩
      answers := h.answers }
  · exact h

/-- Every move but a cancellation keeps the invariant. -/
theorem LockInvariant.interleave_uncancelled (h : LockInvariant P respond w) {a : Action}
    (ha : a.cancels = false) : LockInvariant P respond (interleave P respond w a) := by
  cases a with
  | start task request retryCount => exact h.interleave_start task request retryCount
  | acquire task => exact h.interleave_acquire task
  | connected task => exact h.interleave_connected task
  | drained task => exact h.interleave_drained task
  | received task => exact h.interleave_received task
  | fail task ex => exact h.interleave_fail task ex
  | cancel task => cases ha
  | answer c => exact h.interleave_answer c

theorem LockInvariant.finish_waiting (h : LockInvariant P respond w) {task : Nat} (q : Query)
    (hholder : w.lockHolder ≠ some task) {outcome : Outcome}
    (houtcome : ∀ json, outcome ≠ .returned json) :
    LockInvariant P respond (w.finish task q w.protocol outcome) where
  streams := h.streams
  fresh := by simpa using h.fresh
  writerOpened := h.writerOpened
  waiting t q' hq' hne := by
    by_cases ht : t = task
    · subst ht
      simp at hq'
    · simp only [Tasks.finish_running, Function.update_noteq ht] at hq'
      exact h.waiting t q' hq' (by simpa [hholder] using hne)
  free hfree := by simpa [Quiet] using h.free (by simpa [hholder] using hfree)
  held t ht := by
    have ht' : w.lockHolder = some t := by simpa [hholder] using ht
    obtain ⟨q', hq', hstage⟩ := h.held t ht'
    have htask : t ≠ task := fun heq => hholder (heq ▸ ht')
    exact ⟨q', by simpa [Function.update_noteq htask] using hq', hstage⟩
  answers t request json hret := by
    by_cases htask : t = task
    · subst htask
      simp only [Tasks.finish_outcomes, Function.update_same, Option.some.injEq,
        Prod.mk.injEq] at hret
      exact absurd hret.2 (houtcome json)
    · simp only [Tasks.finish_outcomes, Function.update_noteq htask] at hret
      exact h.answers t request json hret

/-- Cancelling a call before its request frame is written keeps the invariant: it waits for the
lock, or holds it with both streams closed. -/
theorem LockInvariant.interleave_cancel (h : LockInvariant P respond w) (task : Nat)
    (ha : (Action.cancel task).cancelsAfterWrite w = false) :
    LockInvariant P respond (interleave P respond w (.cancel task)) := by
  rcases hq : w.running task with _ | q
  · simpa [interleave, hq] using h
  simp only [interleave, hq]
  by_cases hholder : w.lockHolder = some task
  · obtain ⟨q', hq', hstage⟩ := h.held task hholder
    obtain rfl : q' = q := Option.some.inj (hq'.symm.trans hq)
    cases hs : q'.stage with
    | waitingForLock => simp [HolderStage, hs] at hstage
    | connecting =>
      simp only [HolderStage, hs] at hstage
      exact (h.bystanders hholder).finish_closed q' (h.streams.trans hstage) hstage
        fun _ => by simp
    | draining | readingHeader | readingBody => simp [Action.cancelsAfterWrite, hq, hs] at ha
  · exact h.finish_waiting q hholder fun _ => by simp

theorem LockInvariant.interleave_unless_cancelled_after_write (h : LockInvariant P respond w)
    {a : Action} (ha : a.cancelsAfterWrite w = false) :
    LockInvariant P respond (interleave P respond w a) := by
  cases a with
  | cancel task => exact h.interleave_cancel task ha
  | _ => exact h.interleave_uncancelled rfl

theorem LockInvariant.interleaveAll_unless_cancelled_after_write
    (h : LockInvariant P respond w) {actions : List Action}
    (hactions : cancelsAfterWrite P respond w actions = false) :
    LockInvariant P respond (interleaveAll P respond w actions) := by
  induction actions generalizing w with
  | nil => exact h
  | cons a rest ih =>
    simp only [cancelsAfterWrite, Bool.or_eq_false_iff] at hactions
    exact ih (h.interleave_unless_cancelled_after_write hactions.1) hactions.2

theorem Action.cancelsAfterWrite_of_cancels {a : Action} (ha : a.cancels = false) :
    a.cancelsAfterWrite w = false := by
  cases a <;> first | rfl | cases ha

theorem cancelsAfterWrite_of_uncancelled {actions : List Action}
    (hactions : ∀ a ∈ actions, a.cancels = false) :
    cancelsAfterWrite P respond w actions = false := by
  induction actions generalizing w with
  | nil => rfl
  | cons a rest ih =>
    simp only [cancelsAfterWrite, Bool.or_eq_false_iff]
    exact ⟨Action.cancelsAfterWrite_of_cancels (hactions a (.head _)),
      ih fun b hb => hactions b (.tail _ hb)⟩

theorem LockInvariant.start {p : TPLinkSmartHomeProtocol} (hreader : p.reader = none)
    (hwriter : p.writer = none) : LockInvariant P respond (Tasks.start p) where
  streams := hreader.trans hwriter.symm
  fresh _ _ := rfl
  writerOpened := by simp [Tasks.start, hwriter]
  waiting _ _ hq := by cases hq
  free _ := by simp [Quiet, Tasks.start, hwriter]
  held _ ht := by cases ht
  answers _ _ _ hret := by cases hret

end Steps

/-- Without cancellation the lock does its work: from a protocol object with no open
connection, in every interleaving of calls to `query`, each call that returns, returns the
device's answer to its own request. -/
theorem uncancelled_queries_return_own_answers (P : Primitives) (respond : String → String)
    (p : TPLinkSmartHomeProtocol) (hreader : p.reader = none) (hwriter : p.writer = none)
    (actions : List Action) (hactions : ∀ a ∈ actions, a.cancels = false) :
    AnswersOwn P respond (interleaveAll P respond (Tasks.start p) actions) :=
  ((LockInvariant.start hreader hwriter).interleaveAll_unless_cancelled_after_write
    (cancelsAfterWrite_of_uncancelled hactions)).answers

theorem uncancelled_queries_return_own_answers_sample :
    (∀ a ∈ [Action.start 0 "a" 0, .start 1 "b" 0, .acquire 0, .acquire 1, .connected 0, .answer 0,
      .drained 0, .received 0, .received 0, .acquire 1, .drained 1, .answer 0, .received 1,
      .received 1], a.cancels = false) ∧
    let w := interleaveAll Primitives.sample (fun request => "re:" ++ request)
      (Tasks.start (init "192.0.2.1" none none))
      [.start 0 "a" 0, .start 1 "b" 0, .acquire 0, .acquire 1, .connected 0, .answer 0, .drained 0,
        .received 0, .received 0, .acquire 1, .drained 1, .answer 0, .received 1, .received 1]
    AnswersOwn Primitives.sample (fun request => "re:" ++ request) w ∧
      w.outcomes 1 = some ("b", .returned (.string ("re:" ++ "b"))) :=
  ⟨by decide, uncancelled_queries_return_own_answers _ _ _ rfl rfl _ (by decide), rfl⟩

/-- Cancellation breaks `query_lock`'s guarantee only once a request frame is written: from a
protocol object with no open connection, in every interleaving of calls to `query`, with any
outcome of every await, in which no call is cancelled while it waits on `drain` or on a
`readexactly`, each call that returns, returns the device's answer to its own request. -/
theorem queries_return_own_answers_unless_cancelled_after_write (P : Primitives)
    (respond : String → String) (p : TPLinkSmartHomeProtocol) (hreader : p.reader = none)
    (hwriter : p.writer = none) (actions : List Action)
    (hactions : cancelsAfterWrite P respond (Tasks.start p) actions = false) :
    AnswersOwn P respond (interleaveAll P respond (Tasks.start p) actions) :=
  ((LockInvariant.start hreader hwriter).interleaveAll_unless_cancelled_after_write
    hactions).answers

theorem queries_return_own_answers_unless_cancelled_after_write_sample :
    cancelsAfterWrite Primitives.sample (fun request => "re:" ++ request)
      (Tasks.start (init "192.0.2.1" none none))
      [.start 0 "a" 0, .start 1 "b" 0, .start 2 "c" 0, .start 3 "d" 0, .acquire 3, .cancel 3,
        .cancel 2, .acquire 0, .connected 0, .answer 0, .drained 0, .received 0, .received 0,
        .acquire 1, .drained 1, .answer 0, .received 1, .received 1] = false ∧
    let w := interleaveAll Primitives.sample (fun request => "re:" ++ request)
      (Tasks.start (init "192.0.2.1" none none))
      [.start 0 "a" 0, .start 1 "b" 0, .start 2 "c" 0, .start 3 "d" 0, .acquire 3, .cancel 3,
        .cancel 2, .acquire 0, .connected 0, .answer 0, .drained 0, .received 0, .received 0,
        .acquire 1, .drained 1, .answer 0, .received 1, .received 1]
    AnswersOwn Primitives.sample (fun request => "re:" ++ request) w ∧
      w.outcomes 1 = some ("b", .returned (.string ("re:" ++ "b"))) :=
  ⟨rfl, queries_return_own_answers_unless_cancelled_after_write _ _ _ rfl rfl _ rfl, rfl⟩

end TPLinkSmartHomeProtocol
end KasaTransport
