import KasaTransport.SmartHome.QueryLock

/-!
`query_lock` cannot deadlock. From every state that concurrent `query` calls reach without a
cancellation, against a device whose answers fit in a frame, some schedule in which every await
completes (no failure, no cancellation, no new call) ends every pending call: the holder of the
lock can always move, and the calls that wait for it get it in turn. Each move of that schedule
lowers a count of the moves the pending calls have left.
-/

namespace KasaTransport
namespace TPLinkSmartHomeProtocol

def Action.task : Action → Option Nat
  | .start task _ _ | .acquire task | .connected task | .drained task | .received task
  | .fail task _ | .cancel task => some task
  | .answer _ => none

def Action.starts : Action → Bool
  | .start _ _ _ => true
  | _ => false

/-- The moves of a schedule without failures: every await completes and the device answers;
no call starts and none is cancelled. -/
def Action.completes : Action → Bool
  | .acquire _ | .connected _ | .drained _ | .received _ | .answer _ => true
  | _ => false

theorem Action.cancels_of_completes {a : Action} (h : a.completes = true) : a.cancels = false := by
  cases a <;> simp_all [Action.completes, Action.cancels]

theorem Action.starts_of_completes {a : Action} (h : a.completes = true) : a.starts = false := by
  cases a <;> simp_all [Action.completes, Action.starts]

namespace Tasks

variable {w : Tasks} {task t : Nat}

theorem leave_running_ne (ht : t ≠ task) (q : Query) (retry : Nat)
    (r : TPLinkSmartHomeProtocol × LoopExit) : (w.leave task q retry r).running t = w.running t := by
  obtain ⟨p, _ | _ | _⟩ := r <;> simp only [leave] <;> (try split) <;>
    simp [Function.update_noteq ht]

theorem write_running_ne (P : Primitives) (ht : t ≠ task) (q : Query) (retry : Nat) :
    (write P w task q retry).running t = w.running t := by
  unfold write
  split
  · split
    · simp [Function.update_noteq ht]
    · exact leave_running_ne ht q retry _
  · exact leave_running_ne ht q retry _

theorem enterLoop_running_ne (P : Primitives) (ht : t ≠ task) (q : Query) :
    (enterLoop P w task q).running t = w.running t := by
  unfold enterLoop
  split_ifs
  · exact write_running_ne P ht q 0
  all_goals simp [Function.update_noteq ht]

end Tasks

section Frame

variable (P : Primitives) (respond : String → String)

open Tasks in
theorem interleave_running_ne (w : Tasks) {a : Action} {t : Nat} (ht : a.task ≠ some t) :
    (interleave P respond w a).running t = w.running t := by
  cases a with
  | answer c =>
    simp only [interleave]
    split <;> rfl
  | start task | acquire task | connected task | drained task | received task | fail task
  | cancel task =>
    have htask : t ≠ task := fun h => ht (by rw [h]; rfl)
    simp only [interleave]
    repeat' split
    all_goals first
      | with_reducible rfl
      | with_reducible exact enterLoop_running_ne P htask _
      | with_reducible exact write_running_ne P htask _ _
      | with_reducible exact leave_running_ne htask _ _ _
      | exact leave_running_ne htask _ _ _
      | simp [Function.update_noteq htask]

theorem interleave_of_idle (w : Tasks) {a : Action} {t : Nat} (hrun : w.running t = none)
    (ha : a.task = some t) (hstart : a.starts = false) : interleave P respond w a = w := by
  cases a <;> simp only [Action.task, Action.starts, Option.some.injEq, reduceCtorEq] at ha hstart
  all_goals
    subst ha
    simp [interleave, hrun]

theorem interleaveAll_running_untouched (w : Tasks) {actions : List Action} {t : Nat}
    (ht : ∀ a ∈ actions, a.task ≠ some t) :
    (interleaveAll P respond w actions).running t = w.running t := by
  induction actions generalizing w with
  | nil => rfl
  | cons a rest ih =>
    exact (ih (interleave P respond w a) fun b hb => ht b (.tail _ hb)).trans
      (interleave_running_ne P respond w (ht a (.head _)))

theorem interleave_running_eq_none (w : Tasks) {a : Action} (ha : a.completes = true) {t : Nat}
    (h : w.running t = none) : (interleave P respond w a).running t = none := by
  by_cases hat : a.task = some t
  · rw [interleave_of_idle P respond w h hat (Action.starts_of_completes ha), h]
  · rw [interleave_running_ne P respond w hat, h]

end Frame

def unanswered (w : Tasks) : Bool :=
  match w.protocol.writer with
  | some c => !(w.connections c).toDevice.isEmpty
  | none => false

/-- The moves a call has left, at most: six for each pass still to run, counted down through the
awaits of the current one. -/
def Query.cost (q : Query) (w : Tasks) : Nat :=
  match q.stage with
  | .waitingForLock => 6 * (q.retryCount + 1).toNat + 6
  | .connecting retry => 6 * ((q.retryCount + 1).toNat - retry) + 5
  | .draining retry => 6 * ((q.retryCount + 1).toNat - retry) + 4
  | .readingHeader retry =>
      6 * ((q.retryCount + 1).toNat - retry) + if unanswered w then 3 else 2
  | .readingBody retry _ => 6 * ((q.retryCount + 1).toNat - retry) + 1

namespace Tasks

/-- A task's share of the moves left: none once its call has ended. -/
def pendingCost (w : Tasks) (t : Nat) : Nat :=
  match w.running t with
  | some q => q.cost w + 1
  | none => 0

/-- The moves left to the calls of the tasks in `S`. -/
def pending (w : Tasks) (S : Finset Nat) : Nat := ∑ t ∈ S, w.pendingCost t

variable {w : Tasks} {task : Nat} {q : Query}

theorem pendingCost_leave (retry : Nat) (r : TPLinkSmartHomeProtocol × LoopExit) :
    (w.leave task q retry r).pendingCost task ≤ 6 * ((q.retryCount + 1).toNat - retry) := by
  obtain ⟨p, _ | _ | _⟩ := r
  · simp [pendingCost, leave]
  · simp [pendingCost, leave]
  · simp only [leave]
    split_ifs with hnext
    · simp only [pendingCost, suspend_running, Function.update_same, Query.cost]
      omega
    · simp [pendingCost]

theorem pendingCost_write (P : Primitives) (retry : Nat) :
    (write P w task q retry).pendingCost task ≤ 6 * ((q.retryCount + 1).toNat - retry) + 5 := by
  unfold write
  split
  · split
    · simp [pendingCost, Query.cost]
    · exact (pendingCost_leave retry _).trans (Nat.le_add_right _ _)
  · exact (pendingCost_leave retry _).trans (Nat.le_add_right _ _)

theorem pendingCost_enterLoop (P : Primitives) :
    (enterLoop P w task q).pendingCost task ≤ 6 * (q.retryCount + 1).toNat + 6 := by
  unfold enterLoop
  split_ifs
  · exact (pendingCost_write P 0).trans (by omega)
  · simp [pendingCost, Query.cost]
  · simp [pendingCost]

theorem pendingCost_eq_of_waiting {w' : Tasks} {t : Nat} (hrunning : w'.running t = w.running t)
    (hwaiting : ∀ q, w.running t = some q → q.stage = .waitingForLock) :
    w'.pendingCost t = w.pendingCost t := by
  unfold pendingCost
  rw [hrunning]
  rcases hq : w.running t with _ | q
  · rfl
  · simp only [Query.cost, hwaiting q hq]

end Tasks

theorem Tasks.pending_lt {w w' : Tasks} {S : Finset Nat} {u : Nat} (hu : u ∈ S)
    (hlt : w'.pendingCost u < w.pendingCost u)
    (hrest : ∀ t, t ≠ u → w'.pendingCost t = w.pendingCost t) : w'.pending S < w.pending S :=
  Finset.sum_lt_sum (fun t _ => by
    by_cases htu : t = u
    · exact htu ▸ hlt.le
    · exact (hrest t htu).le) ⟨u, hu, hlt⟩

section Moves

variable {P : Primitives} {respond : String → String} {w : Tasks} {task : Nat} {q : Query}
  (hq : w.running task = some q)
include hq

open Tasks

theorem pendingCost_acquire (hfree : w.lockHolder = none) (hstage : q.stage = .waitingForLock) :
    (interleave P respond w (.acquire task)).pendingCost task < w.pendingCost task :=
  calc (interleave P respond w (.acquire task)).pendingCost task
      = (enterLoop P { w with lockHolder := some task } task q).pendingCost task := by
        simp only [interleave, hq, hfree, hstage]
    _ ≤ 6 * (q.retryCount + 1).toNat + 6 := pendingCost_enterLoop P
    _ < w.pendingCost task := by simp [pendingCost, hq, Query.cost, hstage]

theorem pendingCost_connected {retry : Nat} (hstage : q.stage = .connecting retry) :
    (interleave P respond w (.connected task)).pendingCost task < w.pendingCost task :=
  calc (interleave P respond w (.connected task)).pendingCost task
      = (write P { w with
          protocol := { w.protocol with reader := some w.opened, writer := some w.opened }
          opened := w.opened + 1 } task q retry).pendingCost task := by
        simp only [interleave, hq, hstage]
    _ ≤ 6 * ((q.retryCount + 1).toNat - retry) + 5 := pendingCost_write P retry
    _ < w.pendingCost task := by simp [pendingCost, hq, Query.cost, hstage]

theorem pendingCost_drained {retry : Nat} (hstage : q.stage = .draining retry) :
    (interleave P respond w (.drained task)).pendingCost task < w.pendingCost task := by
  simp only [interleave, hq, hstage]
  simp only [pendingCost, suspend_running, Function.update_same, hq, Query.cost, hstage]
  split <;> omega

theorem pendingCost_answer {retry c : Nat} {frame : Bytes} (hstage : q.stage = .readingHeader retry)
    (hwriter : w.protocol.writer = some c) (hframe : encrypt P q.request = some frame)
    (hto : (w.connections c).toDevice = frame) :
    (interleave P respond w (.answer c)).pendingCost task < w.pendingCost task := by
  have hread : readFrame P (w.connections c).toDevice = some (q.request, []) :=
    hto ▸ readFrame_of_encrypt hframe
  have hne : frame ≠ [] := by
    obtain ⟨-, rfl⟩ := encrypt_eq_some hframe
    rw [ne_eq, ← List.length_eq_zero]
    simp [beBytes_length]
  simp only [interleave, hread]
  simp [pendingCost, hq, Query.cost, hstage, unanswered, hwriter, hto, hne]

theorem pendingCost_received_header {retry c : Nat} (hstage : q.stage = .readingHeader retry)
    (hreader : w.protocol.reader = some c) (hwriter : w.protocol.writer = some c)
    (hto : (w.connections c).toDevice = []) (hlen : 4 ≤ (w.connections c).fromDevice.length) :
    (interleave P respond w (.received task)).pendingCost task < w.pendingCost task := by
  simp only [interleave, hq, hreader, hstage, readExactly, hlen, if_true]
  simp [pendingCost, hq, Query.cost, hstage, unanswered, hwriter, hto]

theorem pendingCost_received_body {retry length c : Nat}
    (hstage : q.stage = .readingBody retry length) (hreader : w.protocol.reader = some c)
    (hlen : length ≤ (w.connections c).fromDevice.length) :
    (interleave P respond w (.received task)).pendingCost task < w.pendingCost task := by
  simp only [interleave, hq, hreader, hstage, readExactly, hlen, if_true]
  refine (pendingCost_leave retry _).trans_lt ?_
  simp only [pendingCost, hq, Query.cost, hstage]
  omega

end Moves

section Progress

variable {P : Primitives} {respond : String → String} {w : Tasks}

open Tasks

/-- While a call is pending some completing move lowers the moves left: the holder of the lock
moves, or the device answers it, or with the lock free a waiting call takes it. The other
calls wait for the lock, so their share does not change. -/
theorem LockInvariant.progress (h : LockInvariant P respond w)
    (hresp : ∀ request, (P.utf8.encode (respond request)).length < 2 ^ 32) {t : Nat} {q : Query}
    (hq : w.running t = some q) :
    ∃ a u, a.completes = true ∧ w.running u ≠ none ∧
      (interleave P respond w a).pendingCost u < w.pendingCost u ∧
      ∀ t', t' ≠ u → (interleave P respond w a).pendingCost t' = w.pendingCost t' := by
  rcases hholder : w.lockHolder with _ | u
  · have hwaiting : ∀ t' q', w.running t' = some q' → q'.stage = .waitingForLock :=
      fun t' q' hq' => h.waiting t' q' hq' (by simp [hholder])
    refine ⟨.acquire t, t, rfl, by simp [hq], pendingCost_acquire hq hholder (hwaiting t q hq),
      fun t' ht' => pendingCost_eq_of_waiting ?_ (hwaiting t')⟩
    exact interleave_running_ne P respond w (by simp [Action.task, Ne.symm ht'])
  obtain ⟨qu, hqu, hheld⟩ := h.held u hholder
  have hframe : ∀ a : Action, a.task = none ∨ a.task = some u → ∀ t', t' ≠ u →
      (interleave P respond w a).pendingCost t' = w.pendingCost t' :=
    fun a ha t' ht' => pendingCost_eq_of_waiting
      (interleave_running_ne P respond w (by rcases ha with ha | ha <;> simp [ha, Ne.symm ht']))
      fun q' hq' => h.waiting t' q' hq' (by
        rw [hholder]
        exact fun e => ht' (Option.some.inj e).symm)
  have hrunning : w.running u ≠ none := by simp [hqu]
  cases hs : qu.stage with
  | waitingForLock => simp [HolderStage, hs] at hheld
  | connecting retry =>
    exact ⟨.connected u, u, rfl, hrunning, pendingCost_connected hqu hs, hframe _ (.inr rfl)⟩
  | draining retry =>
    exact ⟨.drained u, u, rfl, hrunning, pendingCost_drained hqu hs, hframe _ (.inr rfl)⟩
  | readingHeader retry =>
    simp only [HolderStage, hs] at hheld
    obtain ⟨c, hwriter, frame, hrequest, ⟨hto, -⟩ | ⟨hto, hfrom⟩⟩ := hheld
    · exact ⟨.answer c, u, rfl, hrunning, pendingCost_answer hqu hs hwriter hrequest hto,
        hframe _ (.inl rfl)⟩
    · have hlen : 4 ≤ (w.connections c).fromDevice.length := by
        rw [hfrom, encrypt_eq P _ (hresp qu.request)]
        simp [beBytes_length]
      exact ⟨.received u, u, rfl, hrunning,
        pendingCost_received_header hqu hs (h.streams.trans hwriter) hwriter hto hlen,
        hframe _ (.inr rfl)⟩
  | readingBody retry length =>
    simp only [HolderStage, hs] at hheld
    obtain ⟨c, hwriter, -, hfrom, hlength, -⟩ := hheld
    exact ⟨.received u, u, rfl, hrunning,
      pendingCost_received_body hqu hs (h.streams.trans hwriter) (by simp [hfrom, hlength]),
      hframe _ (.inr rfl)⟩

/-- From a state that keeps the lock's invariant, with the pending calls among the tasks `S`,
some schedule of completing moves ends every call: by induction on the moves left. -/
theorem LockInvariant.ends_all (h : LockInvariant P respond w)
    (hresp : ∀ request, (P.utf8.encode (respond request)).length < 2 ^ 32) (S : Finset Nat)
    (hS : ∀ t, t ∉ S → w.running t = none) :
    ∃ more : List Action, (∀ a ∈ more, a.completes = true) ∧
      ∀ t, (interleaveAll P respond w more).running t = none := by
  obtain ⟨n, hn⟩ : ∃ n, w.pending S = n := ⟨_, rfl⟩
  induction n using Nat.strong_induction_on generalizing w with
  | _ n ih =>
    by_cases hidle : ∀ t, w.running t = none
    · exact ⟨[], by simp, hidle⟩
    push_neg at hidle
    obtain ⟨t, ht⟩ := hidle
    obtain ⟨q, hq⟩ := Option.ne_none_iff_exists'.mp ht
    obtain ⟨a, u, ha, hu, hlt, hrest⟩ := h.progress hresp hq
    have huS : u ∈ S := by
      by_contra huS
      exact hu (hS u huS)
    have hS' : ∀ t, t ∉ S → (interleave P respond w a).running t = none :=
      fun t htS => interleave_running_eq_none P respond w ha (hS t htS)
    obtain ⟨more, hmore, hend⟩ := ih _ (hn ▸ pending_lt huS hlt hrest)
      (h.interleave_uncancelled (Action.cancels_of_completes ha)) hS' rfl
    exact ⟨a :: more, List.forall_mem_cons.mpr ⟨ha, hmore⟩, hend⟩

end Progress

/-- `query_lock` never deadlocks. Whatever calls were started and whatever their awaits met
(failures included, cancellation excepted), from a protocol object with no open connection and
against a device whose answers fit in a frame, some schedule in which every await completes
ends every pending call. -/
theorem uncancelled_queries_can_all_end (P : Primitives) (respond : String → String)
    (hresp : ∀ request, (P.utf8.encode (respond request)).length < 2 ^ 32)
    (p : TPLinkSmartHomeProtocol) (hreader : p.reader = none) (hwriter : p.writer = none)
    (actions : List Action) (hactions : ∀ a ∈ actions, a.cancels = false) :
    ∃ more : List Action, (∀ a ∈ more, a.completes = true) ∧
      ∀ t, (interleaveAll P respond (Tasks.start p) (actions ++ more)).running t = none := by
  have hS : ∀ t, t ∉ (actions.filterMap Action.task).toFinset →
      (interleaveAll P respond (Tasks.start p) actions).running t = none := fun t ht =>
    (interleaveAll_running_untouched P respond _ fun a ha hat =>
      ht (List.mem_toFinset.mpr (List.mem_filterMap.mpr ⟨a, ha, hat⟩))).trans rfl
  obtain ⟨more, hmore, hend⟩ :=
    ((LockInvariant.start hreader hwriter).interleaveAll_unless_cancelled_after_write
      (cancelsAfterWrite_of_uncancelled hactions)).ends_all hresp _ hS
  exact ⟨more, hmore, by simpa [interleaveAll, List.foldl_append] using hend⟩

theorem uncancelled_queries_can_all_end_sample :
    (Primitives.sample.utf8.encode "ok").length < 2 ^ 32 ∧
    (∀ a ∈ [Action.start 0 "a" 1, .start 1 "b" 0, .acquire 0, .acquire 1,
      .fail 0 (.osError none "timed out"), .connected 0], a.cancels = false) ∧
    ∃ more : List Action, (∀ a ∈ more, a.completes = true) ∧
      ∀ t, (interleaveAll Primitives.sample (fun _ => "ok")
        (Tasks.start (init "192.0.2.1" none none))
        ([.start 0 "a" 1, .start 1 "b" 0, .acquire 0, .acquire 1,
          .fail 0 (.osError none "timed out"), .connected 0] ++ more)).running t = none :=
  ⟨by decide, by decide,
    uncancelled_queries_can_all_end _ _ (fun _ => by decide) _ rfl rfl _ (by decide)⟩

end TPLinkSmartHomeProtocol
end KasaTransport
