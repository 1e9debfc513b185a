import TokenAgent.Agent.Handler
import TokenAgent.Proofs.Running

/-!
# What becomes of a message

A message is malformed, asks for the keys, or asks for a signature; a request for a signature is
for a key that is not on offer, has no readable challenge, or is carried out.  There is one lemma
for each of these cases, and all later results about `Agent.handle` are taken from them.
`Agent.envelope_of_handle` is what they have in common: every reply is one envelope.
-/

namespace TokenAgent

namespace Agent

open Running

variable {σ : Type} [Transport σ] {a : Agent σ} {message : Bytes} {request : SignRequest}

theorem handle_of_error {e : DecodeError} (h : Request.decode message = .error e) :
    handle message a = .error (.decode e) a := by
  rw [handle, h]
  exact bind_error (attempt_error Error.decode _ a)

theorem handle_identities (h : Request.decode message = .ok .identities) :
    handle message a = .ok a.identitiesAnswer a := by
  rw [handle, h]
  exact bind_ok (attempt_ok Error.decode _ a)

section Sign

variable (h : Request.decode message = .ok (.sign request))

include h

theorem handle_sign : handle message a = answerSign request a := by
  rw [handle, h]
  exact bind_ok (attempt_ok Error.decode _ a)

theorem handle_unknown (hkey : a.find? request.key = none) :
    handle message a = .ok Answer.failure a := by
  have hget : (get : EStateM Error (Agent σ) (Agent σ)) a = .ok a a := rfl
  rw [handle_sign h, answerSign, bind_ok hget, hkey]
  rfl

variable {i : Identity} (hkey : a.find? request.key = some i)

include hkey

theorem handle_unreadable {e : DecodeError} {left : SignRequest}
    (hchallenge : SignRequest.challenge request = .error e left) :
    handle message a = .error (.decode e) a := by
  have hget : (get : EStateM Error (Agent σ) (Agent σ)) a = .ok a a := rfl
  rw [handle_sign h, answerSign, bind_ok hget, hkey, hchallenge]
  rfl

theorem handle_readable {challenge : Bytes} {left : SignRequest}
    (hchallenge : SignRequest.challenge request = .ok challenge left) :
    handle message a = (do return Answer.signature (← sign i challenge)) a := by
  have hget : (get : EStateM Error (Agent σ) (Agent σ)) a = .ok a a := rfl
  rw [handle_sign h, answerSign, bind_ok hget, hkey, hchallenge]

end Sign

/-! ## Replies -/

/-- A reply lists the keys, reports a failure, or carries a signature. -/
theorem reply_of_handle {reply : Bytes} {after : Agent σ}
    (h : handle message a = .ok reply after) :
    reply = a.identitiesAnswer ∨ reply = Answer.failure ∨
      ∃ signature, reply = Answer.signature signature := by
  cases hdecode : Request.decode message with
  | error e =>
      rw [handle_of_error hdecode] at h
      cases h
  | ok r =>
      cases r with
      | identities =>
          rw [handle_identities hdecode] at h
          injection h with hreply _
          exact Or.inl hreply.symm
      | sign request =>
          cases hkey : a.find? request.key with
          | none =>
              rw [handle_unknown hdecode hkey] at h
              injection h with hreply _
              exact Or.inr (Or.inl hreply.symm)
          | some i =>
              cases hchallenge : SignRequest.challenge request with
              | error e left =>
                  rw [handle_unreadable hdecode hkey hchallenge] at h
                  cases h
              | ok challenge left =>
                  rw [handle_readable hdecode hkey hchallenge] at h
                  -- A reply goes out only when the signature is there.
                  cases hsign : sign i challenge a with
                  | error e a' =>
                      rw [bind_error hsign] at h
                      cases h
                  | ok signature a' =>
                      rw [bind_ok hsign] at h
                      injection h with hreply _
                      exact Or.inr (Or.inr ⟨signature, hreply.symm⟩)

theorem envelope_of_handle {reply : Bytes} {after : Agent σ}
    (h : handle message a = .ok reply after) : ∃ body, reply = Wire.envelope body := by
  rcases reply_of_handle h with rfl | rfl | ⟨signature, rfl⟩
  · exact ⟨_, rfl⟩
  · exact ⟨_, rfl⟩
  · exact ⟨_, rfl⟩

end Agent

end TokenAgent
