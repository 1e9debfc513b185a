import TokenAgent.Exchange
import TokenAgent.Proofs.Frame.Arrival
import TokenAgent.Proofs.Running

/-!
# Waiting for a message

An exchange that has sent its command reads until a message is assembled.  Over any transport it
does nothing but read (`Exchange.exists_receive`).  Over a transport whose reads hand out a queue
(`Transport.IsFifo`) it comes to what all that waits assembles to, however it is cut into chunks
(`Exchange.receive_fifo`).
-/

namespace TokenAgent

namespace Transport

open Running

variable {σ : Type} [Transport σ]

/-- Reads lead from one state to the other. -/
inductive ReadsTo : σ → σ → Prop where
  | none (s : σ) : ReadsTo s s
  | read {wait : Duration} {outcome : Except TransportFault (Option Bytes)} {s s' s'' : σ}
      (first : Transport.read wait s = settled outcome s') (later : ReadsTo s' s'') :
      ReadsTo s s''

/-- Reads with these waits, one after the other, lead from one state to the other. -/
inductive ReadsWith : List Duration → σ → σ → Prop where
  | none (s : σ) : ReadsWith [] s s
  | read {wait : Duration} {waits : List Duration}
      {outcome : Except TransportFault (Option Bytes)} {s s' s'' : σ}
      (first : Transport.read wait s = settled outcome s') (later : ReadsWith waits s' s'') :
      ReadsWith (wait :: waits) s s''

theorem ReadsWith.readsTo {waits : List Duration} {s s' : σ} (h : ReadsWith waits s s') :
    ReadsTo s s' := by
  induction h with
  | none s => exact .none s
  | read first later ih => exact .read first ih

/-- Reads hand out a queue: each takes the first of the chunks that wait, whether they have
waited long or not, and nothing arrives once the queue is empty. -/
structure IsFifo (waiting : σ → List Bytes) : Prop where
  dry : ∀ {s}, waiting s = [] → ∀ wait,
    ∃ s', Transport.read wait s = .ok none s' ∧ waiting s' = []
  next : ∀ {s chunk rest}, waiting s = chunk :: rest → ∀ wait,
    ∃ s', Transport.read wait s = .ok (some chunk) s' ∧ waiting s' = rest
  backlog : ∀ s, Transport.backlog s = (waiting s).length

end Transport

namespace Exchange

open TokenAgent.Frame Running Transport

/-- What waiting for a message comes to, told by what all that arrives assembles to. -/
def awaited (deadline : Duration) : Except FramingError Assembly → Except Error Bytes
  | .ok (.complete message) => .ok message
  | .ok .incomplete => .error (.transport (.timeout deadline))
  | .error e => .error (.framing e)

variable {σ : Type} [Transport σ] {s s' : σ} {deadline wait : Duration} {reads : Nat}
  {buffer : Buffer}

/-! ## One read -/

theorem receiveWithin_of_none (h : Transport.read wait s = .ok none s') :
    receiveWithin deadline (reads + 1) wait buffer s
      = receiveWithin deadline reads .zero buffer s' := by
  have hread : ((Transport.read wait).adaptExcept
      fun fault => Error.transport (.readFailed fault)) s = .ok none s' :=
    adaptExcept_ok h
  rw [receiveWithin, bind_ok hread]

theorem receiveWithin_of_empty (h : Transport.read wait s = .ok (some []) s') :
    receiveWithin deadline (reads + 1) wait buffer s
      = receiveWithin deadline reads .zero buffer s' := by
  have hread : ((Transport.read wait).adaptExcept
      fun fault => Error.transport (.readFailed fault)) s = .ok (some []) s' :=
    adaptExcept_ok h
  rw [receiveWithin, bind_ok hread]

theorem receiveWithin_of_cons {b : UInt8} {more : Bytes}
    (h : Transport.read wait s = .ok (some (b :: more)) s') :
    receiveWithin deadline (reads + 1) wait buffer s =
      match assemble (buffer.bytes ++ b :: more) with
      | .ok (.complete message) => .ok message s'
      | .ok .incomplete => receiveWithin deadline reads .zero ⟨buffer.bytes ++ b :: more⟩ s'
      | .error e => .error (.framing e) s' := by
  have hread : ((Transport.read wait).adaptExcept
      fun fault => Error.transport (.readFailed fault)) s = .ok (some (b :: more)) s' :=
    adaptExcept_ok h
  rw [receiveWithin, bind_ok hread]
  simp only [Buffer.push]
  cases assemble (buffer.bytes ++ b :: more) with
  | error e => rfl
  | ok assembly =>
      cases assembly with
      | incomplete => rfl
      | complete message => rfl

theorem receiveWithin_of_fault {fault : TransportFault}
    (h : Transport.read wait s = .error fault s') :
    receiveWithin deadline (reads + 1) wait buffer s
      = .error (.transport (.readFailed fault)) s' := by
  rw [receiveWithin]
  exact bind_error (adaptExcept_error h)

/-- One chunk more is in the buffer, which is then assembled. -/
theorem receiveWithin_of_some {chunk : Bytes} (hwaiting : assemble buffer.bytes = .ok .incomplete)
    (h : Transport.read wait s = .ok (some chunk) s') :
    receiveWithin deadline (reads + 1) wait buffer s =
      match assemble (buffer.bytes ++ chunk) with
      | .ok (.complete message) => .ok message s'
      | .ok .incomplete => receiveWithin deadline reads .zero ⟨buffer.bytes ++ chunk⟩ s'
      | .error e => .error (.framing e) s' := by
  cases chunk with
  | nil =>
      -- An empty chunk is no arrival; it would not change the buffer either.
      simp only [receiveWithin_of_empty h, List.append_nil, hwaiting]
  | cons b more => exact receiveWithin_of_cons h

/-! ## Any transport -/

/-- The waits of `n` reads, of which only the first waits for something to arrive. -/
def waitsOf (wait : Duration) : Nat → List Duration
  | 0 => []
  | n + 1 => wait :: List.replicate n .zero

theorem waitsOf_zero (n : Nat) : waitsOf .zero n = List.replicate n .zero := by
  cases n with
  | zero => rfl
  | succ n => rfl

/-- However it ends, waiting for a message is reading, and there is a read if there is time for
one. -/
theorem exists_receiveWithin (deadline wait : Duration) (reads : Nat) (buffer : Buffer) (s : σ) :
    ∃ outcome s' n, receiveWithin deadline reads wait buffer s = settled outcome s' ∧
      ReadsWith (waitsOf wait n) s s' ∧ n ≤ reads ∧ (0 < reads → 0 < n) := by
  induction reads generalizing wait buffer s with
  | zero => exact ⟨.error (.transport (.timeout deadline)), s, 0, rfl, .none s, by simp⟩
  | succ reads ih =>
      rcases exists_settled (Transport.read wait) s with ⟨arrival, s₁, hread⟩
      -- Where the reading goes on, it goes on from the state that this read left.
      have hmore : ∀ buffer', ∃ outcome s' n, receiveWithin deadline reads .zero buffer' s₁
          = settled outcome s' ∧ ReadsWith (waitsOf wait n) s s' ∧ n ≤ reads + 1 ∧
            (0 < reads + 1 → 0 < n) := by
        intro buffer'
        rcases ih .zero buffer' s₁ with ⟨outcome, s', n, hreceive, hreads, hcount, _⟩
        rw [waitsOf_zero] at hreads
        exact ⟨outcome, s', n + 1, hreceive, .read hread hreads, Nat.succ_le_succ hcount,
          fun _ => Nat.succ_pos n⟩
      have hlast : ReadsWith (waitsOf wait 1) s s₁ ∧ 1 ≤ reads + 1 ∧ (0 < reads + 1 → 0 < 1) :=
        ⟨.read hread (.none s₁), Nat.succ_pos reads, fun _ => Nat.one_pos⟩
      cases arrival with
      | error fault =>
          exact ⟨.error (.transport (.readFailed fault)), s₁, 1, receiveWithin_of_fault hread, hlast⟩
      | ok arrival =>
          cases arrival with
          | none =>
              rw [receiveWithin_of_none hread]
              exact hmore buffer
          | some chunk =>
              cases chunk with
              | nil =>
                  rw [receiveWithin_of_empty hread]
                  exact hmore buffer
              | cons b more =>
                  rw [receiveWithin_of_cons hread]
                  cases assemble (buffer.bytes ++ b :: more) with
                  | error e => exact ⟨.error (.framing e), s₁, 1, rfl, hlast⟩
                  | ok assembly =>
                      cases assembly with
                      | complete message => exact ⟨.ok message, s₁, 1, rfl, hlast⟩
                      | incomplete => exact hmore _

theorem readsWithin_pos (deadline : Duration) (backlog : Nat) :
    0 < readsWithin deadline backlog := by
  rw [readsWithin]
  split
  · exact Nat.one_pos
  · exact Nat.succ_pos backlog

/-- The first read waits as long as the deadline and no other waits at all. -/
theorem exists_receive_waits (deadline : Duration) (s : σ) :
    ∃ outcome s' n, receive deadline s = settled outcome s' ∧
      ReadsWith (waitsOf deadline n) s s' ∧ 0 < n ∧ (deadline = .zero → n = 1) := by
  rcases exists_receiveWithin deadline deadline (readsWithin deadline (Transport.backlog s))
      .empty s with ⟨outcome, s', n, hreceive, hreads, hcount, hpos⟩
  have hsome : 0 < n := hpos (readsWithin_pos deadline (Transport.backlog s))
  refine ⟨outcome, s', n, hreceive, hreads, hsome, ?_⟩
  intro hzero
  rw [readsWithin, if_pos hzero] at hcount
  exact Nat.le_antisymm hcount hsome

theorem exists_receive (deadline : Duration) (s : σ) :
    ∃ outcome s', receive deadline s = settled outcome s' ∧ ReadsTo s s' := by
  rcases exists_receive_waits deadline s with ⟨outcome, s', _, hreceive, hreads, _⟩
  exact ⟨outcome, s', hreceive, hreads.readsTo⟩

/-- Once a command is sent, an exchange comes to what its message is split into. -/
theorem run_of_receive {timing : Timing} {command : Command} {t : σ} {message : Except Error Bytes}
    (hsend : send command s = .ok () t)
    (hreceive : receive timing.readTimeout t = settled message s') :
    run timing command s
      = settled (message >>= fun m => (Response.ofMessage m).mapError .framing) s' := by
  rw [run, bind_ok hsend]
  exact bind_settled hreceive fun m => attempt_eq Error.framing _ _

/-! ## Queues -/

section Fifo

variable {waiting : σ → List Bytes} (hfifo : IsFifo waiting)

include hfifo

/-- Reads until the queue has run dry, and one more, come to what all of it assembles to, as long
as the buffer waits for more. -/
theorem receiveWithin_fifo (deadline wait : Duration) {buffer : Buffer}
    (hwaiting : assemble buffer.bytes = .ok .incomplete) (s : σ) :
    ∃ s', receiveWithin deadline ((waiting s).length + 1) wait buffer s
      = settled (awaited deadline (assemble (buffer.bytes ++ (waiting s).flatten))) s' := by
  induction hqueue : waiting s generalizing s wait buffer with
  | nil =>
      rcases hfifo.dry hqueue wait with ⟨s', hread, _⟩
      refine ⟨s', ?_⟩
      rw [List.length_nil, receiveWithin_of_none hread, List.flatten_nil, List.append_nil, hwaiting]
      rfl
  | cons chunk rest ih =>
      rcases hfifo.next hqueue wait with ⟨s₁, hread, hrest⟩
      have hall : buffer.bytes ++ (chunk :: rest).flatten
          = (buffer.bytes ++ chunk) ++ rest.flatten := by
        simp
      rw [List.length_cons, receiveWithin_of_some hwaiting hread, hall]
      by_cases hmore : assemble (buffer.bytes ++ chunk) = .ok .incomplete
      · -- The buffer waits on, for what the rest of the queue brings.
        rcases ih .zero hmore s₁ hrest with ⟨s', hlater⟩
        refine ⟨s', ?_⟩
        rw [hmore]
        exact hlater
      · -- The answer is final, so the chunks that were not read have no part in it.
        refine ⟨s₁, ?_⟩
        rw [assemble_append hmore]
        cases hanswer : assemble (buffer.bytes ++ chunk) with
        | error e => rfl
        | ok assembly =>
            cases assembly with
            | incomplete => exact absurd hanswer hmore
            | complete message => rfl

theorem receive_fifo {deadline : Duration} (hdeadline : deadline ≠ .zero) (s : σ) :
    ∃ s', receive deadline s = settled (awaited deadline (assemble (waiting s).flatten)) s' ∧
      ReadsTo s s' := by
  -- An empty buffer waits, and there is time for every chunk of the queue.
  have hempty : assemble Buffer.empty.bytes = .ok .incomplete := assemble_nil
  have hreads : readsWithin deadline (Transport.backlog s) = (waiting s).length + 1 := by
    rw [readsWithin, if_neg hdeadline, hfifo.backlog]
  have hreceive : receive deadline s
      = receiveWithin deadline ((waiting s).length + 1) deadline .empty s :=
    congrArg (fun n => receiveWithin deadline n deadline .empty s) hreads
  rcases receiveWithin_fifo hfifo deadline deadline hempty s with ⟨s', hall⟩
  rcases exists_receive deadline s with ⟨outcome, s₁, hsettled, hreadsTo⟩
  refine ⟨s', hreceive.trans hall, ?_⟩
  rw [hreceive, hall] at hsettled
  rw [(settled_inj.1 hsettled).2]
  exact hreadsTo

end Fifo

end Exchange

end TokenAgent
