import KasaTransport.Klap.Interleaving

/-!
`send`'s `if self._encryption_session is not None` guards under every interleaving. A handshake
sets `handshake_done` only together with a session, and no code path sets
`_encryption_session` back to `None`. So however the calls overlap, a send that passes the
`needs_handshake` check finds a session, and so does every send that waits on its POST when its
reply comes: `payload`, `seq` and `decrypted_response` are never unbound. What overlapping calls
do break is which `seq` a reply is decrypted under, not the session's presence.
-/

namespace KasaTransport
namespace KlapTransport

variable {V : KlapVariant}

/-- From `t` to `t'` a session in place stays in place, and `handshake_done` is left set only
with a session. -/
structure KeepsSession (t t' : KlapTransport V) : Prop where
  kept : t.encryptionSession.isSome → t'.encryptionSession.isSome
  done : HasSessionWhenDone t → HasSessionWhenDone t'

namespace KeepsSession

variable {t t' t'' : KlapTransport V}

theorem of_eq (hsession : t'.encryptionSession = t.encryptionSession)
    (hdone : t'.handshakeDone = t.handshakeDone) : KeepsSession t t' :=
  ⟨fun h => hsession ▸ h, fun h hd => hsession ▸ h (hdone ▸ hd)⟩

theorem refl (t : KlapTransport V) : KeepsSession t t := of_eq rfl rfl

theorem trans (h : KeepsSession t t') (h' : KeepsSession t' t'') : KeepsSession t t'' :=
  ⟨fun hs => h'.kept (h.kept hs), fun hd => h'.done (h.done hd)⟩

theorem of_isSome (hsession : t'.encryptionSession.isSome) : KeepsSession t t' :=
  ⟨fun _ => hsession, fun _ _ => hsession⟩

end KeepsSession

variable (t : KlapTransport V)

theorem keepsSession_clientPostResume (reply : PostReply) :
    KeepsSession t (t.clientPostResume reply).1 :=
  .of_eq (by cases reply <;> rfl) (by cases reply <;> rfl)

theorem keepsSession_performHandshakeBegin (localSeed : Bytes) :
    KeepsSession t (t.performHandshakeBegin localSeed).1 :=
  ⟨fun h => h, fun _ hd => by simp [performHandshakeBegin, performHandshake1Begin,
    clientPostBegin, resetSession] at hd⟩

theorem keepsSession_performHandshakeResume1 (localSeed : Bytes) (reply : PostReply) (now : Int) :
    KeepsSession t (t.performHandshakeResume1 localSeed reply now).1 := by
  obtain ⟨⟨-, -, hdone, hsession, -⟩, -⟩ := performHandshake1Resume_spec t localSeed reply
  have hkeep : KeepsSession t (t.performHandshake1Resume localSeed reply).1 :=
    (keepsSession_clientPostResume t reply).trans (.of_eq hsession hdone)
  unfold performHandshakeResume1
  split
  · next heq => simpa only [heq] using hkeep
  · next t1 _ _ _ heq =>
    have hkeep1 : KeepsSession t t1 := by simpa only [heq] using hkeep
    split
    · exact hkeep1
    · split
      · exact hkeep1
      · exact hkeep1.trans (.of_eq rfl rfl)

theorem keepsSession_performHandshakeResume2 (P : Primitives)
    (localSeed remoteSeed authHash : Bytes) (reply : PostReply) :
    KeepsSession t (t.performHandshakeResume2 P localSeed remoteSeed authHash reply).1 := by
  have hpost := keepsSession_clientPostResume t reply
  unfold performHandshakeResume2 performHandshake2Resume
  generalize t.clientPostResume reply = r at hpost
  obtain ⟨t1, e | ⟨status, data⟩⟩ := r
  · exact hpost
  · dsimp only
    split_ifs
    · exact hpost
    · exact .of_isSome rfl

theorem keepsSession_sendBegin (P : Primitives) (now : Int) (request : String) :
    KeepsSession t (t.sendBegin P now request).1 := by
  unfold sendBegin
  split
  · exact .refl t
  · split
    · exact .refl t
    · split <;> exact .of_isSome rfl

theorem keepsSession_sendResume (P : Primitives) (seq : Int) (reply : PostReply) :
    KeepsSession t (t.sendResume P seq reply).1 := by
  rw [sendResume_fst]
  refine ⟨id, fun h hd => h ?_⟩
  simp only [Bool.and_eq_true] at hd
  exact hd.1

namespace Tasks

/-- A session is in place whenever `handshake_done` is set, and while any send waits on its
POST. -/
structure SessionGuarded (w : Tasks V) : Prop where
  done : HasSessionWhenDone w.transport
  sends : ∀ task seq, w.suspended task = some (.send seq) → w.transport.encryptionSession.isSome

variable {w : Tasks V} {t : KlapTransport V}

theorem SessionGuarded.suspend (h : w.SessionGuarded) (hkeep : KeepsSession w.transport t)
    (task : Nat) {s : Suspended} (hs : ∀ seq, s = .send seq → t.encryptionSession.isSome)
    (post : PostRequest) : (w.suspend t task s post).SessionGuarded where
  done := hkeep.done h.done
  sends task' seq hs' := by
    by_cases ht : task' = task
    · subst ht
      simp only [Tasks.suspend, Function.update_same, Option.some.injEq] at hs'
      exact hs seq hs'
    · simp only [Tasks.suspend, Function.update_noteq ht] at hs'
      exact hkeep.kept (h.sends task' seq hs')

theorem SessionGuarded.finish (h : w.SessionGuarded) (hkeep : KeepsSession w.transport t)
    (task : Nat) (r : Finished) : (w.finish t task r).SessionGuarded where
  done := hkeep.done h.done
  sends task' seq hs' := by
    by_cases ht : task' = task
    · subst ht
      simp [Tasks.finish] at hs'
    · simp only [Tasks.finish, Function.update_noteq ht] at hs'
      exact hkeep.kept (h.sends task' seq hs')

end Tasks

open Tasks in
theorem Tasks.SessionGuarded.interleave_move (P : Primitives) (h : w.SessionGuarded)
    (a : Action) : (interleave P w a).SessionGuarded := by
  cases a with
  | startHandshake task localSeed =>
    exact h.suspend (keepsSession_performHandshakeBegin w.transport localSeed) task
      (fun _ h => by cases h) _
  | startSend task request =>
    have hkeep := keepsSession_sendBegin w.transport P w.now request
    simp only [interleave]
    split
    · next heq => exact h.finish (by simpa only [heq] using hkeep) task _
    · next t' post seq heq =>
      obtain ⟨session, hsession, -⟩ := sendBegin_eq_ok (congrArg Prod.snd heq)
      have hkeep' : KeepsSession w.transport t' := by simpa only [heq] using hkeep
      exact h.suspend hkeep' task (fun _ _ => hkeep'.kept (by simp [hsession])) post
  | deliver task reply =>
    simp only [interleave]
    split
    · exact h
    · next localSeed _ =>
      have hkeep := keepsSession_performHandshakeResume1 w.transport localSeed reply w.now
      split
      · next heq => exact h.finish (by simpa only [heq] using hkeep) task _
      · next heq =>
        exact h.suspend (by simpa only [heq] using hkeep) task (fun _ h => by cases h) _
    · exact h.finish (keepsSession_performHandshakeResume2 _ P _ _ _ reply) task _
    · exact h.finish (keepsSession_sendResume _ P _ reply) task _
  | close => exact ⟨h.done, h.sends⟩
  | tick seconds => exact ⟨h.done, h.sends⟩

theorem Tasks.SessionGuarded.interleaveAll_moves (P : Primitives) (h : w.SessionGuarded)
    (actions : List Action) : (interleaveAll P w actions).SessionGuarded := by
  induction actions generalizing w with
  | nil => exact h
  | cons a rest ih => exact ih (h.interleave_move P a)

/-- `send`'s session guards hold under every interleaving. From a transport that has a session
whenever `handshake_done` is set, as `__init__` leaves it, through any overlapping handshakes,
sends, closes and clock moves with any replies, `handshake_done` is set only with a session in
place, and a session is in place whenever a send waits on its POST. So a send that passes
`needs_handshake` reaches `encrypt`, and a send's 200 reply reaches `decrypt`. -/
theorem send_guards_find_session (P : Primitives) (t : KlapTransport V) (now : Int)
    (ht : t.handshakeDone = true → t.encryptionSession.isSome) (actions : List Action) :
    let w := interleaveAll P (Tasks.start t now) actions
    (w.transport.handshakeDone = true → w.transport.encryptionSession.isSome) ∧
      ∀ task seq, w.suspended task = some (.send seq) → w.transport.encryptionSession.isSome :=
  let h := Tasks.SessionGuarded.interleaveAll_moves (w := Tasks.start t now) P
    ⟨ht, fun _ _ hs => by simp [Tasks.start] at hs⟩ actions
  ⟨h.done, h.sends⟩

theorem send_guards_find_session_sample :
    ((init (v1 Primitives.sample) "device" none none).handshakeDone = true →
      (init (v1 Primitives.sample) "device" none none).encryptionSession.isSome) ∧
    let w := interleaveAll Primitives.sample
      (Tasks.start (init (v1 Primitives.sample) "device" none none) 0)
      [.startHandshake 0 (List.replicate 16 0),
        .deliver 0 (.response 200 (List.replicate 48 0) []),
        .startHandshake 1 (List.replicate 16 1), .deliver 0 (.response 200 [] []),
        .startSend 2 "{}", .close]
    (w.transport.handshakeDone = true → w.transport.encryptionSession.isSome) ∧
      ∀ task seq, w.suspended task = some (.send seq) → w.transport.encryptionSession.isSome :=
  ⟨(fun h => by cases h), send_guards_find_session Primitives.sample
    (init (v1 Primitives.sample) "device" none none) 0 (fun h => by cases h) _⟩

end KlapTransport
end KasaTransport
