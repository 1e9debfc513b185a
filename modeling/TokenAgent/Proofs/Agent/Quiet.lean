import TokenAgent.Proofs.Agent.Log
import TokenAgent.Proofs.Connection.Serving

/-!
# Messages that leave the token alone

A message that asks for no signature, or for one that cannot be made, is quiet: its reply depends
on the identities only, and it changes nothing (`Agent.reply_of_quiet`).  Whatever messages an
agent has answered, its identities are the same (`Agent.exists_afterCalls`), so the reply to a
quiet message is the same at any time.
-/

namespace TokenAgent

namespace Agent

open Running

variable {σ : Type} {a : Agent σ} {message : Bytes}

/-- No signature is made for the message. -/
def Quiet (a : Agent σ) (message : Bytes) : Prop :=
  ∀ i challenge, ¬ Signs a message i challenge

theorem quiet_of_identities (h : Request.decode message = .ok .identities) : Quiet a message := by
  rintro i challenge ⟨request, hdecode, _⟩
  rw [h] at hdecode
  cases hdecode

theorem quiet_of_malformed {e : DecodeError} (h : Request.decode message = .error e) :
    Quiet a message := by
  rintro i challenge ⟨request, hdecode, _⟩
  rw [h] at hdecode
  cases hdecode

theorem quiet_of_unlisted {request : SignRequest} (h : Request.decode message = .ok (.sign request))
    (hunlisted : ∀ entry ∈ a.listed, entry.1.bytes ≠ request.key) : Quiet a message := by
  rintro i challenge ⟨request', hdecode, hkey, _⟩
  rw [h] at hdecode
  cases hdecode
  rw [find?_eq_none_iff.2 hunlisted] at hkey
  cases hkey

variable [Transport σ]

theorem call_of_settled {outcome : Except Error Bytes} {a' : Agent σ}
    (h : handle message a = settled outcome a') : a.call message = (outcome, a') := by
  rw [call, h]
  cases outcome with
  | error e => rfl
  | ok bytes => rfl

/-- A quiet message is replied to as it is at first, whatever became of the token. -/
theorem reply_of_quiet (h : Quiet a message) (token : σ) :
    { a with token := token }.reply message
      = ((a.reply message).1, { a with token := token }) := by
  rcases handle_of_not_signs h with ⟨outcome, hhandle⟩
  have hfirst : a.call message = (outcome, a) := call_of_settled (hhandle a.token)
  rw [reply_eq, reply_eq, call_of_settled (hhandle token), hfirst]

/-- Messages change nothing of an agent but its token. -/
theorem exists_afterCalls (a : Agent σ) (messages : List Bytes) :
    ∃ token, a.afterCalls messages = { a with token := token } := by
  induction messages generalizing a with
  | nil => exact ⟨a.token, rfl⟩
  | cons message rest ih =>
      rcases reaches_handle message a with ⟨outcome, token, hhandle⟩
      rcases ih { a with token := token } with ⟨token', hrest⟩
      refine ⟨token', ?_⟩
      rw [afterCalls_cons, call_of_settled hhandle, hrest]

/-! ## Calls in a row -/

theorem afterCalls_append (a : Agent σ) (earlier later : List Bytes) :
    a.afterCalls (earlier ++ later) = (a.afterCalls earlier).afterCalls later :=
  List.foldl_append

theorem replies_append (a : Agent σ) (earlier later : List Bytes) :
    a.replies (earlier ++ later)
      = a.replies earlier ++ (a.afterCalls earlier).replies later := by
  induction earlier generalizing a with
  | nil => rfl
  | cons message earlier ih =>
      rw [List.cons_append, replies_cons, ih, replies_cons, afterCalls_cons, List.cons_append]

end Agent

end TokenAgent
