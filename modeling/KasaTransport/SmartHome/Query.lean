import KasaTransport.SmartHome.Codec

/-!
`TPLinkSmartHomeProtocol._query`, the retry loop of the legacy transport, run by one caller:
one pass of the body per value of `range(retry_count + 1)`, each calling `_connect` and then
`_execute_query`, with what those two meet in each pass given as its outcome. From any state
and for every `retry_count ≥ 0` the loop leaves at one of its passes, never by the raise after
it: it returns the first query that succeeds with both streams set, raises at once on a refused
connection or an `errno` of `_NO_RETRY_ERRORS`, and otherwise gives up only in its last pass,
with both streams cleared. The interleaving of several callers is in `Interleaving`.
-/

namespace KasaTransport

/-- The fields of `TPLinkSmartHomeProtocol` that its query path reads and writes. `reader` and
`writer` are the two streams of the open TCP connection, each named by the connection's
number. -/
structure TPLinkSmartHomeProtocol where
  host : String
  port : Nat
  timeout : Nat
  reader : Option Nat
  writer : Option Nat
  deriving DecidableEq, Repr

namespace TPLinkSmartHomeProtocol

/-- `__init__`: a falsy port or timeout falls back to `DEFAULT_PORT` (9999) or
`DEFAULT_TIMEOUT` (5). -/
def init (host : String) (port timeout : Option Nat) : TPLinkSmartHomeProtocol where
  host := host
  port := match port with
    | some (n + 1) => n + 1
    | _ => 9999
  timeout := match timeout with
    | some (t + 1) => t + 1
    | _ => 5
  reader := none
  writer := none

/-- `_NO_RETRY_ERRORS`: `EHOSTDOWN`, `EHOSTUNREACH` and `ECONNREFUSED`, as Linux numbers them. -/
def noRetryErrors : List Nat := [112, 113, 111]

/-- An exception raised inside `_connect` or `_execute_query`, with the text `str(ex)` its
message quotes. -/
inductive QueryFailure where
  /-- `ConnectionRefusedError`, caught before the other `OSError`s. -/
  | connectionRefused (text : String)
  /-- Another `OSError`. From Python 3.11 the timeout of `asyncio_timeout` is one, with `errno`
  `None`; before it, it is an `other`, which the loop treats the same way. -/
  | osError (errno : Option Nat) (text : String)
  /-- Any other `Exception`. -/
  | other (text : String)
  deriving DecidableEq, Repr

def QueryFailure.text : QueryFailure → String
  | .connectionRefused text | .osError _ text | .other text => text

/-- The connect failures the loop gives up on at once, whatever the pass. -/
def QueryFailure.noRetry : QueryFailure → Bool
  | .connectionRefused _ => true
  | .osError errno _ => errno.any (· ∈ noRetryErrors)
  | .other _ => false

def connectFailedMessage (host : String) (port : Nat) (ex : String) : String :=
  s!"Unable to connect to the device: {host}:{port}: {ex}"

def queryFailedMessage (host : String) (port : Nat) (ex : String) : String :=
  s!"Unable to query the device {host}:{port}: {ex}"

def unreachableMessage : String := "Query reached somehow to unreachable"

/-- `_connect`: nothing to do while a writer is open; otherwise both streams are cleared and a
connection is opened, whose number `opened` gives, or the exception that opening it raised. -/
def connect (p : TPLinkSmartHomeProtocol) (opened : Except QueryFailure Nat) :
    TPLinkSmartHomeProtocol × Except QueryFailure Unit :=
  if p.writer.isSome then (p, .ok ())
  else
    match opened with
    | .ok connection => ({ p with reader := some connection, writer := some connection }, .ok ())
    | .error ex => ({ p with reader := none, writer := none }, .error ex)

/-- `close` (and `_reset`): both streams are dropped; the old writer is closed and errors of
`wait_closed` are suppressed. -/
def close (p : TPLinkSmartHomeProtocol) : TPLinkSmartHomeProtocol :=
  { p with reader := none, writer := none }

/-- How one pass of the loop body ends. -/
inductive LoopExit where
  | returned (json : Json)
  | raised (e : PyException)
  | continued

/-- One pass of the body of `_query` for `retry`, given what opening a connection gives and
what `_execute_query` gives in it. -/
def queryIteration (p : TPLinkSmartHomeProtocol) (retryCount : Int) (retry : Nat)
    (opened : Except QueryFailure Nat) (executed : Except String Json) :
    TPLinkSmartHomeProtocol × LoopExit :=
  match p.connect opened with
  | (p, .error ex) =>
      let giveUp :=
        (p.close, LoopExit.raised (.smartDeviceException (connectFailedMessage p.host p.port ex.text)))
      match ex with
      | .connectionRefused _ => giveUp
      | .osError errno _ =>
          if (errno.any (· ∈ noRetryErrors)) = true ∨ retryCount ≤ retry then giveUp
          else (p.close, .continued)
      | .other _ => if retryCount ≤ retry then giveUp else (p.close, .continued)
  | (p, .ok ()) =>
      let executed := if p.reader.isSome ∧ p.writer.isSome then executed else .error ""
      match executed with
      | .ok json => (p, .returned json)
      | .error text =>
          if retryCount ≤ retry then
            (p.close, .raised (.smartDeviceException (queryFailedMessage p.host p.port text)))
          else (p.close, .continued)

section Loop

variable (retryCount : Int) (opened : Nat → Except QueryFailure Nat)
  (executed : Nat → Except String Json)

/-- The `for retry in ...` loop over `retries`, then the raise after it. -/
def queryLoop : TPLinkSmartHomeProtocol → List Nat → TPLinkSmartHomeProtocol × Except PyException Json
  | p, [] => (p.close, .error (.smartDeviceException unreachableMessage))
  | p, retry :: retries =>
      match queryIteration p retryCount retry (opened retry) (executed retry) with
      | (p, .returned json) => (p, .ok json)
      | (p, .raised e) => (p, .error e)
      | (p, .continued) => queryLoop p retries

/-- `_query(request, retry_count, timeout)`, pass `retry` of whose loop meets `opened retry`
when it opens a connection and `executed retry` from `_execute_query`. The public `query`
holds `query_lock` around it. -/
def query (p : TPLinkSmartHomeProtocol) : TPLinkSmartHomeProtocol × Except PyException Json :=
  queryLoop retryCount opened executed p (List.range (retryCount + 1).toNat)

end Loop

/-- What one pass of the loop body meets: the exception of `_connect`, or else what
`_execute_query` gives behind the two asserts on the streams. -/
def attempt (p : TPLinkSmartHomeProtocol) (opened : Except QueryFailure Nat)
    (executed : Except String Json) : Except QueryFailure (Except String Json) :=
  match p.connect opened with
  | (_, .error ex) => .error ex
  | (p, .ok ()) => .ok (if p.reader.isSome ∧ p.writer.isSome then executed else .error "")

/-- A pass whose failure the loop retries while passes are left. -/
def Retried : Except QueryFailure (Except String Json) → Prop
  | .error ex => ex.noRetry = false
  | .ok (.error _) => True
  | .ok (.ok _) => False

@[simp] theorem close_close (p : TPLinkSmartHomeProtocol) : p.close.close = p.close := rfl

@[simp] theorem connect_fst_close (p : TPLinkSmartHomeProtocol)
    (opened : Except QueryFailure Nat) : (p.connect opened).1.close = p.close := by
  unfold connect
  split
  · rfl
  · cases opened <;> rfl

@[simp] theorem close_host (p : TPLinkSmartHomeProtocol) : p.close.host = p.host := rfl
@[simp] theorem close_port (p : TPLinkSmartHomeProtocol) : p.close.port = p.port := rfl
@[simp] theorem close_reader (p : TPLinkSmartHomeProtocol) : p.close.reader = none := rfl
@[simp] theorem close_writer (p : TPLinkSmartHomeProtocol) : p.close.writer = none := rfl

@[simp] theorem connect_fst_host (p : TPLinkSmartHomeProtocol)
    (opened : Except QueryFailure Nat) : (p.connect opened).1.host = p.host := by
  rw [← close_host, connect_fst_close, close_host]

@[simp] theorem connect_fst_port (p : TPLinkSmartHomeProtocol)
    (opened : Except QueryFailure Nat) : (p.connect opened).1.port = p.port := by
  rw [← close_port, connect_fst_close, close_port]

theorem queryIteration_eq (p : TPLinkSmartHomeProtocol) (retryCount : Int) (retry : Nat)
    (opened : Except QueryFailure Nat) (executed : Except String Json) :
    queryIteration p retryCount retry opened executed =
      match attempt p opened executed with
      | .ok (.ok json) => ((p.connect opened).1, .returned json)
      | .ok (.error text) =>
          if retryCount ≤ retry then
            (p.close, .raised (.smartDeviceException (queryFailedMessage p.host p.port text)))
          else (p.close, .continued)
      | .error ex =>
          if ex.noRetry = true ∨ retryCount ≤ retry then
            (p.close, .raised (.smartDeviceException (connectFailedMessage p.host p.port ex.text)))
          else (p.close, .continued) := by
  unfold queryIteration attempt
  have hclose := connect_fst_close p opened
  have hhost := connect_fst_host p opened
  have hport := connect_fst_port p opened
  rcases hc : p.connect opened with ⟨p', ex | _⟩ <;> rw [hc] at hclose hhost hport
  · cases ex <;> simp_all [QueryFailure.noRetry]
  · by_cases hs : p'.reader.isSome = true ∧ p'.writer.isSome = true
    · simp only [if_pos hs]
      cases executed <;> simp_all
    · simp only [if_neg hs]
      simp_all

theorem queryIteration_continued {p : TPLinkSmartHomeProtocol} {retryCount : Int} {retry : Nat}
    {opened : Except QueryFailure Nat} {executed : Except String Json}
    (h : (queryIteration p retryCount retry opened executed).2 = .continued) :
    Retried (attempt p opened executed) ∧ retry < retryCount ∧
      (queryIteration p retryCount retry opened executed).1 = p.close := by
  rw [queryIteration_eq] at h ⊢
  rcases ha : attempt p opened executed with ex | text | json <;> simp only [ha] at h ⊢
  · split_ifs at h ⊢ with hs
    simp only [not_or, Bool.not_eq_true] at hs
    exact ⟨hs.1, by omega, rfl⟩
  · split_ifs at h ⊢ with hs
    exact ⟨trivial, by omega, rfl⟩
  · cases h

theorem queryLoop_singleton (retryCount : Int) (opened : Nat → Except QueryFailure Nat)
    (executed : Nat → Except String Json) (p : TPLinkSmartHomeProtocol) (retry : Nat) :
    queryLoop retryCount opened executed p [retry] =
      match attempt p (opened retry) (executed retry) with
      | .ok (.ok json) => ((p.connect (opened retry)).1, .ok json)
      | .ok (.error text) =>
          (p.close, .error (if retryCount ≤ retry then
            .smartDeviceException (queryFailedMessage p.host p.port text)
            else .smartDeviceException unreachableMessage))
      | .error ex =>
          (p.close, .error (if ex.noRetry = true ∨ retryCount ≤ retry then
            .smartDeviceException (connectFailedMessage p.host p.port ex.text)
            else .smartDeviceException unreachableMessage)) := by
  simp only [queryLoop, queryIteration_eq]
  rcases attempt p (opened retry) (executed retry) with ex | text | json
  · by_cases hs : ex.noRetry = true ∨ retryCount ≤ retry <;> simp [hs]
  · by_cases hs : retryCount ≤ retry <;> simp [hs]
  · rfl

theorem queryLoop_range' (retryCount : Int) (opened : Nat → Except QueryFailure Nat)
    (executed : Nat → Except String Json) (count start : Nat) (p : TPLinkSmartHomeProtocol)
    (h : retryCount ≤ start + count) :
    ∃ k, start ≤ k ∧ k ≤ start + count ∧
      (∀ i, start ≤ i → i < k → (queryIteration (if i = start then p else p.close) retryCount i
        (opened i) (executed i)).2 = .continued) ∧
      (queryIteration (if k = start then p else p.close) retryCount k (opened k)
        (executed k)).2 ≠ .continued ∧
      queryLoop retryCount opened executed p (List.range' start (count + 1)) =
        queryLoop retryCount opened executed (if k = start then p else p.close) [k] := by
  induction count generalizing start p with
  | zero =>
      refine ⟨start, le_rfl, by omega, fun i h1 h2 => absurd h2 (by omega), fun hcont => ?_, by simp⟩
      have := (queryIteration_continued (by simpa using hcont)).2.1
      omega
  | succ count ih =>
      rw [List.range'_succ]
      rcases hit : queryIteration p retryCount start (opened start) (executed start) with
        ⟨p', _ | _ | _⟩
      · exact ⟨start, le_rfl, by omega, fun i h1 h2 => absurd h2 (by omega), by simp [hit],
          by simp [queryLoop, hit]⟩
      · exact ⟨start, le_rfl, by omega, fun i h1 h2 => absurd h2 (by omega), by simp [hit],
          by simp [queryLoop, hit]⟩
      · have hcont : (queryIteration p retryCount start (opened start) (executed start)).2 =
            .continued := by rw [hit]
        have hp' := (queryIteration_continued hcont).2.2
        rw [hit] at hp'
        subst hp'
        obtain ⟨k, hk1, hk2, hbefore, hexit, hloop⟩ := ih (start + 1) p.close (by omega)
        refine ⟨k, by omega, by omega, fun i h1 h2 => ?_,
          by simpa [show k ≠ start by omega] using hexit, ?_⟩
        · rcases Nat.eq_or_lt_of_le h1 with rfl | h1
          · simp [hit]
          · simpa [show i ≠ start by omega] using hbefore i h1 h2
        · rw [queryLoop.eq_2, hit]
          dsimp only
          rw [hloop, if_neg (show k ≠ start by omega), close_close, ite_self]

theorem attempt_eq_ok_ok {p : TPLinkSmartHomeProtocol} {opened : Except QueryFailure Nat}
    {executed : Except String Json} {json : Json}
    (h : attempt p opened executed = .ok (.ok json)) :
    executed = .ok json ∧ ∃ reader writer,
      (p.connect opened).1 = { p.close with reader := some reader, writer := some writer } := by
  have hclose := connect_fst_close p opened
  unfold attempt at h
  rcases hc : p.connect opened with ⟨p', _ | _⟩ <;> rw [hc] at h hclose
  · cases h
  · simp only at h hclose
    split_ifs at h with hs
    · cases h
      obtain ⟨r, hr⟩ := Option.isSome_iff_exists.1 hs.1
      obtain ⟨w, hw⟩ := Option.isSome_iff_exists.1 hs.2
      refine ⟨rfl, r, w, ?_⟩
      rw [← hclose]
      cases p'
      simp_all [close]
    · cases h

theorem queryIteration_execute_error (p : TPLinkSmartHomeProtocol) (retryCount : Int)
    (retry : Nat) (opened : Except QueryFailure Nat) (text : String) :
    (queryIteration p retryCount retry opened (.error text)).1 = p.close ∧
      ∀ json, (queryIteration p retryCount retry opened (.error text)).2 ≠ .returned json := by
  rw [queryIteration_eq]
  rcases ha : attempt p opened (.error text) with ex | text' | json
  · simp only
    split_ifs <;> simp
  · simp only
    split_ifs <;> simp
  · cases (attempt_eq_ok_ok ha).1

theorem queryIteration_connected_ok (p : TPLinkSmartHomeProtocol) (retryCount : Int)
    (retry : Nat) (opened : Except QueryFailure Nat) (json : Json) {c c' : Nat}
    (hreader : p.reader = some c') (hwriter : p.writer = some c) :
    queryIteration p retryCount retry opened (.ok json) = (p, .returned json) := by
  simp [queryIteration, connect, hreader, hwriter]

/-- The retry loop of `_query`, for every `retry_count ≥ 0`, from any state and whatever each
pass meets: it leaves at a pass `k ≤ retry_count`, never by the raise after the loop. Every pass
before `k` failed in a way the loop retries, each from the state with both streams closed but
the first. Pass `k` then returns the value its `_execute_query` gave, with both streams set, or
raises a `SmartDeviceException` with both streams cleared: at once on a connect failure the loop
does not retry, and otherwise only as the last pass. -/
theorem query_retry_exits (p : TPLinkSmartHomeProtocol) (retryCount : Int)
    (hcount : 0 ≤ retryCount) (opened : Nat → Except QueryFailure Nat)
    (executed : Nat → Except String Json) :
    ∃ k < retryCount.toNat + 1,
      (∀ i < k, Retried (attempt (if i = 0 then p else p.close) (opened i) (executed i))) ∧
      match attempt (if k = 0 then p else p.close) (opened k) (executed k) with
      | .ok (.ok json) =>
          (query retryCount opened executed p).2 = .ok json ∧
          ∃ reader writer, (query retryCount opened executed p).1 =
            { p with reader := some reader, writer := some writer }
      | .ok (.error text) =>
          k = retryCount.toNat ∧ query retryCount opened executed p =
            (p.close, .error (.smartDeviceException (queryFailedMessage p.host p.port text)))
      | .error ex =>
          (ex.noRetry = true ∨ k = retryCount.toNat) ∧ query retryCount opened executed p =
            (p.close, .error (.smartDeviceException (connectFailedMessage p.host p.port ex.text))) := by
  obtain ⟨k, -, hk, hbefore, hexit, hloop⟩ :=
    queryLoop_range' retryCount opened executed retryCount.toNat 0 p (by omega)
  refine ⟨k, by omega, fun i hi => (queryIteration_continued (hbefore i (Nat.zero_le i) hi)).1, ?_⟩
  have hq : query retryCount opened executed p =
      queryLoop retryCount opened executed (if k = 0 then p else p.close) [k] := by
    rw [query, List.range_eq_range', ← hloop, show (retryCount + 1).toNat = retryCount.toNat + 1 by
      omega]
  set q := if k = 0 then p else p.close with hqdef
  have hqclose : q.close = p.close := by rw [hqdef]; split <;> rfl
  have hqhost : q.host = p.host := by rw [hqdef]; split <;> rfl
  have hqport : q.port = p.port := by rw [hqdef]; split <;> rfl
  rw [queryIteration_eq] at hexit
  rw [hq, queryLoop_singleton]
  rcases ha : attempt q (opened k) (executed k) with ex | text | json <;> simp only [ha] at hexit ⊢
  · split_ifs at hexit ⊢ with hs
    · refine ⟨hs.imp_right fun hs => by omega, by rw [hqclose, hqhost, hqport]⟩
    · exact absurd rfl hexit
  · split_ifs at hexit ⊢ with hs
    · exact ⟨by omega, by rw [hqclose, hqhost, hqport]⟩
    · exact absurd rfl hexit
  · obtain ⟨-, reader, writer, hconn⟩ := attempt_eq_ok_ok ha
    exact ⟨by simp, reader, writer, by rw [hconn, hqclose]; rfl⟩

theorem query_retry_exits_sample :
    (0 : Int) ≤ 3 ∧ ∃ k < (3 : Int).toNat + 1, ∀ i < k,
      Retried (attempt (if i = 0 then init "192.0.2.1" none none else (init "192.0.2.1" none none).close)
        (if i < 2 then .error (.osError none "timed out") else .ok 0) (.ok .null)) :=
  have ⟨k, hk, hretried, _⟩ := query_retry_exits (init "192.0.2.1" none none) 3 (by decide)
    (fun i => if i < 2 then .error (.osError none "timed out") else .ok 0) (fun _ => .ok .null)
  ⟨by decide, k, hk, hretried⟩

end TPLinkSmartHomeProtocol
end KasaTransport
