import Mathlib.Data.List.DropRight
import TokenAgent.Proofs.Exchange.Receiving
import TokenAgent.Proofs.Transport.Simulator

/-!
# One exchange with a simulated token

Sending a command to a token that works and waits for nothing makes the token receive exactly
this command (`Exchange.send_simulated`).  Reading until the token has run dry comes to what all
of its output assembles to (`Exchange.receive_simulated`); with no time to wait, only the first
chunk is read (`Exchange.receive_simulated_zero`).  Together they say what one exchange comes to:
it is told by what is read in time of the entry of the script that the command took
(`Exchange.run_in_time`), which is all of it as long as there is any time
(`Exchange.run_simulated`).
-/

namespace TokenAgent

theorem Command.length_toBytes_le (c : Command) : c.toBytes.length ≤ Frame.maxMessage := by
  have hpayload := c.payload_le
  simp only [Command.maxPayload] at hpayload
  simp only [toBytes, List.length_append, List.length_cons, List.length_nil, Frame.maxMessage]
  omega

namespace Exchange

open TokenAgent.Frame Running Transport

variable {s : Simulator}

/-! ## Sending -/

theorem offer_of_write {σ : Type} [Transport σ] {p : Packet} {s s' : σ}
    (h : Transport.write p.toReport s = .ok p.toReport.length s') : offer p s = .ok () s' := by
  have hwrite : ((Transport.write p.toReport).adaptExcept
      fun fault => Error.transport (.writeFailed fault)) s = .ok p.toReport.length s' :=
    adaptExcept_ok h
  rw [offer, bind_ok hwrite, if_pos rfl]
  rfl

/-- Every command can be declared, so sending one is writing its packets. -/
theorem send_eq {σ : Type} [Transport σ] (command : Command) (s : σ) :
    send command s = (packets command.toBytes).forM offer s := by
  have hpack : pack command.toBytes = .ok (packets command.toBytes) := by
    rw [pack, if_pos command.length_toBytes_le]
  rw [send, hpack, bind_ok (attempt_eq Error.framing _ s)]

/-- With the packets `done` of a command written, the token waits for those `todo`. -/
theorem forM_offer_simulated {m : Bytes} (hfits : m.length ≤ maxMessage) {done todo : List Packet}
    (hall : packets m = done ++ todo) (hmore : todo ≠ []) (hworks : s.failWrites = false)
    (hdone : s.incoming.bytes = done.flatMap Packet.toBytes) :
    todo.forM offer s = .ok () (s.receive m) := by
  induction todo generalizing s done with
  | nil => exact absurd rfl hmore
  | cons p rest ih =>
      have hroom : p.body.length ≤ laterRoom := by
        have hmem : p ∈ packets m := by
          simp [hall]
        exact body_length_le hmem
      have hbytes : s.incoming.bytes ++ p.toBytes = (done ++ [p]).flatMap Packet.toBytes := by
        simp [hdone]
      cases rest with
      | nil =>
          -- The last packet completes the command.
          have hcomplete : assemble (s.incoming.bytes ++ p.toBytes) = .ok (.complete m) := by
            rw [hbytes, ← hall]
            exact assemble_packets hfits
          have hoffer : offer p s = .ok () (s.receive m) :=
            offer_of_write (Simulator.write_of_complete hworks hroom hcomplete)
          exact bind_ok hoffer
      | cons q more =>
          -- Any other leaves the token waiting, with one packet more taken in.
          have hnext : packets m = (done ++ [p]) ++ (q :: more) := by
            simpa using hall
          have hcount : (done ++ [p]).length < (packets m).length := by
            rw [hnext, List.length_append]
            simp
          have hwaiting : assemble (s.incoming.bytes ++ p.toBytes) = .ok .incomplete := by
            have hcut := assemble_take_packets hfits hcount
            rw [hnext, List.take_left' rfl] at hcut
            rw [hbytes]
            exact hcut
          have hoffer : offer p s
              = .ok () { s with incoming := ⟨s.incoming.bytes ++ p.toBytes⟩ } :=
            offer_of_write (Simulator.write_of_incomplete hworks hroom hwaiting)
          have hrest := ih hnext (List.cons_ne_nil q more)
            (s := { s with incoming := ⟨s.incoming.bytes ++ p.toBytes⟩ }) hworks hbytes
          exact (bind_ok hoffer).trans hrest

theorem send_simulated (hworks : s.failWrites = false) (hidle : s.incoming = .empty)
    (command : Command) : send command s = .ok () (s.receive command.toBytes) := by
  have hdone : s.incoming.bytes = ([] : List Packet).flatMap Packet.toBytes := by
    rw [hidle]
    rfl
  rw [send_eq]
  exact forM_offer_simulated command.length_toBytes_le (List.nil_append _).symm (List.cons_ne_nil _ _) hworks hdone

/-! ## Receiving -/

theorem read_of_nil (hdry : s.pending = []) (wait : Duration) :
    Transport.read wait s = .ok none s := by
  change Simulator.read s = _
  rw [Simulator.read, hdry]

theorem read_of_cons {chunk : Bytes} {rest : List Bytes} (hnext : s.pending = chunk :: rest)
    (wait : Duration) : Transport.read wait s = .ok (some chunk) { s with pending := rest } := by
  change Simulator.read s = _
  rw [Simulator.read, hnext]

theorem isFifo_simulator : IsFifo Simulator.pending where
  dry := by
    intro s hdry wait
    exact ⟨s, read_of_nil hdry wait, hdry⟩
  next := by
    intro s chunk rest hnext wait
    exact ⟨_, read_of_cons hnext wait, rfl⟩
  backlog := by
    intro s
    rfl

/-- Reads change nothing of a token but what is still to be read. -/
theorem pending_of_readsTo {s' : Simulator} (h : ReadsTo s s') :
    ∃ left, s' = { s with pending := left } := by
  induction h with
  | none s => exact ⟨s.pending, rfl⟩
  | @read wait outcome s s₁ s' first later ih =>
      have hfirst : ∃ left, s₁ = { s with pending := left } := by
        cases hpending : s.pending with
        | nil =>
            have hsame : settled outcome s₁ = settled (.ok none) s :=
              first.symm.trans (read_of_nil hpending wait)
            exact ⟨s.pending, (settled_inj.1 hsame).2⟩
        | cons chunk rest =>
            have hsame : settled outcome s₁ = settled (.ok (some chunk)) { s with pending := rest } :=
              first.symm.trans (read_of_cons hpending wait)
            exact ⟨rest, (settled_inj.1 hsame).2⟩
      rcases hfirst with ⟨_, rfl⟩
      rcases ih with ⟨left, rfl⟩
      exact ⟨left, rfl⟩

theorem receive_simulated {deadline : Duration} (hdeadline : deadline ≠ .zero) (s : Simulator) :
    ∃ left, receive deadline s
      = settled (awaited deadline (assemble s.pending.flatten)) { s with pending := left } := by
  rcases receive_fifo isFifo_simulator hdeadline s with ⟨s', hreceive, hreads⟩
  rcases pending_of_readsTo hreads with ⟨left, rfl⟩
  exact ⟨left, hreceive⟩

/-- With no time at all there is one read, which brings the first chunk. -/
theorem receive_simulated_zero (s : Simulator) :
    ∃ left, receive .zero s = settled (awaited .zero (assemble (s.pending.head?.getD [])))
      { s with pending := left } := by
  have hreceive : receive .zero s = receiveWithin .zero (0 + 1) .zero .empty s := rfl
  rw [hreceive]
  cases hpending : s.pending with
  | nil =>
      refine ⟨s.pending, ?_⟩
      rw [receiveWithin_of_none (read_of_nil hpending .zero), List.head?_nil, Option.getD_none,
        assemble_nil]
      rfl
  | cons chunk rest =>
      refine ⟨rest, ?_⟩
      have hempty : assemble Buffer.empty.bytes = .ok .incomplete := assemble_nil
      have hbuffer : Buffer.empty.bytes ++ chunk = chunk := List.nil_append chunk
      rw [receiveWithin_of_some hempty (read_of_cons hpending .zero), hbuffer, List.head?_cons,
        Option.getD_some]
      cases assemble chunk with
      | error e => rfl
      | ok assembly =>
          cases assembly with
          | incomplete => rfl
          | complete message => rfl

/-! ## The whole exchange -/

/-- What an exchange comes to, told by the entry of the script that its command took: the
message of the reply without its last two bytes, which are the status word. -/
def answered (deadline : Duration) : Option Simulator.Reply → Except Error Response
  | some (.raw raw) =>
      match assemble raw with
      | .ok (.complete message) =>
          if message.length < 2 then .error (.framing (.missingStatus message.length))
          else .ok ⟨message.rdrop 2, ⟨UInt16.ofNat (Bytes.ofBigEndian (message.rtake 2))⟩⟩
      | .ok .incomplete => .error (.transport (.timeout deadline))
      | .error e => .error (.framing e)
  | some .silence => .error (.transport (.timeout deadline))
  | none => .error (.transport (.timeout deadline))

theorem mapError_ofMessage (message : Bytes) :
    (Response.ofMessage message).mapError Error.framing =
      if message.length < 2 then .error (.framing (.missingStatus message.length))
      else .ok ⟨message.rdrop 2, ⟨UInt16.ofNat (Bytes.ofBigEndian (message.rtake 2))⟩⟩ := by
  rw [Response.ofMessage]
  by_cases hshort : message.length < 2
  · rw [if_pos hshort, if_pos hshort]
    rfl
  · rw [if_neg hshort, if_neg hshort]
    rfl

/-- A payload with a status behind it is split where the status begins. -/
theorem ofMessage_append (payload : Bytes) (status : Status) :
    Response.ofMessage (payload ++ Bytes.bigEndian 2 status.code.toNat)
      = .ok ⟨payload, status⟩ := by
  have hlength : (payload ++ Bytes.bigEndian 2 status.code.toNat).length = payload.length + 2 := by
    rw [List.length_append, Bytes.length_bigEndian]
  have hlong : ¬ payload.length + 2 < 2 := Nat.not_lt.2 (Nat.le_add_left 2 payload.length)
  have hstatus : Bytes.ofBigEndian (Bytes.bigEndian 2 status.code.toNat) = status.code.toNat :=
    Bytes.ofBigEndian_bigEndian status.code.toNat_lt
  rw [Response.ofMessage, hlength, if_neg hlong]
  simp only [Nat.add_sub_cancel, List.take_left, List.drop_left, hstatus, UInt16.ofNat_toNat]

theorem answered_eq (deadline : Duration) (entry : Option Simulator.Reply) :
    answered deadline entry = (do
      let message ← awaited deadline (assemble (Simulator.handedOut entry))
      (Response.ofMessage message).mapError .framing) := by
  have hnothing : awaited deadline (assemble []) = .error (.transport (.timeout deadline)) := by
    rw [assemble_nil]
    rfl
  cases entry with
  | none =>
      rw [Simulator.handedOut, hnothing]
      rfl
  | some reply =>
      cases reply with
      | silence =>
          rw [Simulator.handedOut, hnothing]
          rfl
      | raw raw =>
          rw [answered, Simulator.handedOut]
          cases assemble raw with
          | error e => rfl
          | ok assembly =>
              cases assembly with
              | incomplete => rfl
              | complete message => exact (mapError_ofMessage message).symm

/-- A reply that carries a message comes to the response that the message is. -/
theorem answered_wire (deadline : Duration) {m : Bytes} (hfits : m.length ≤ maxMessage) :
    answered deadline (some (.raw (wire m))) = (Response.ofMessage m).mapError .framing := by
  have hwire : assemble (wire m) = .ok (.complete m) := by
    simpa using assemble_wire hfits []
  rw [answered, hwire]
  exact (mapError_ofMessage m).symm

/-- A reply that carries a response comes to it. -/
theorem answered_response (deadline : Duration) {payload : Bytes}
    (hfits : payload.length + 2 ≤ maxMessage) (status : Status) :
    answered deadline (some (.raw (wire (payload ++ Bytes.bigEndian 2 status.code.toNat))))
      = .ok ⟨payload, status⟩ := by
  have hmessage : (payload ++ Bytes.bigEndian 2 status.code.toNat).length ≤ maxMessage := by
    simpa using hfits
  rw [answered_wire deadline hmessage, ofMessage_append]
  rfl

/-- What is read of a reply in time: all of it, or with no time at all its first chunk. -/
def inTime (deadline : Duration) (chunkSize : Nat) : Simulator.Reply → Simulator.Reply
  | .raw bytes => .raw (if deadline = .zero then bytes.take (max chunkSize 1) else bytes)
  | .silence => .silence

theorem map_inTime {deadline : Duration} (hdeadline : deadline ≠ .zero) (chunkSize : Nat)
    (entry : Option Simulator.Reply) : entry.map (inTime deadline chunkSize) = entry := by
  cases entry with
  | none => rfl
  | some reply =>
      cases reply with
      | raw bytes => rw [Option.map_some, inTime, if_neg hdeadline]
      | silence => rfl

theorem handedOut_inTime_zero (chunkSize : Nat) (entry : Option Simulator.Reply) :
    Simulator.handedOut (entry.map (inTime .zero chunkSize))
      = (Simulator.handedOut entry).take (max chunkSize 1) := by
  cases entry with
  | none => exact List.take_nil.symm
  | some reply =>
      cases reply with
      | raw bytes => simp [inTime, Simulator.handedOut]
      | silence => exact List.take_nil.symm

/-- However the answer to a command is cut, what is read of it in time is what counts. -/
theorem receive_in_time {entry : Option Simulator.Reply}
    (hpending : s.pending = Bytes.chunks s.chunkSize (Simulator.handedOut entry))
    (deadline : Duration) :
    ∃ left, receive deadline s = settled
      (awaited deadline (assemble (Simulator.handedOut (entry.map (inTime deadline s.chunkSize)))))
      { s with pending := left } := by
  by_cases hdeadline : deadline = .zero
  · subst hdeadline
    rw [handedOut_inTime_zero, ← Bytes.head?_chunks, ← hpending]
    exact receive_simulated_zero s
  · rw [map_inTime hdeadline, ← Bytes.flatten_chunks s.chunkSize (Simulator.handedOut entry),
      ← hpending]
    exact receive_simulated hdeadline s

/-- A working token that waits for nothing receives the command, takes one entry of its script,
and waits for nothing again; what is read of the entry in time tells what the exchange comes to. -/
theorem run_in_time (hworks : s.failWrites = false) (hidle : s.incoming = .empty)
    (timing : Timing) (command : Command) :
    ∃ left, run timing command s = settled
      (answered timing.readTimeout (s.script.head?.map (inTime timing.readTimeout s.chunkSize)))
      { s with
        script := s.script.tail
        pending := left
        commands := s.commands ++ [command.toBytes] } := by
  have hsend := send_simulated hworks hidle command
  have hreceived := Simulator.receive_eq s command.toBytes
  have hpending : (s.receive command.toBytes).pending = Bytes.chunks
      (s.receive command.toBytes).chunkSize (Simulator.handedOut s.script.head?) := by
    rw [hreceived]
  rcases receive_in_time hpending timing.readTimeout with ⟨left, hreceive⟩
  -- Reading changes nothing but what is still to be read.
  have hstate : { s.receive command.toBytes with pending := left } = { s with
      script := s.script.tail
      pending := left
      commands := s.commands ++ [command.toBytes] } := by
    rw [hreceived, hidle]
  have hsize : (s.receive command.toBytes).chunkSize = s.chunkSize := by
    rw [hreceived]
  rw [hstate, hsize] at hreceive
  refine ⟨left, ?_⟩
  rw [answered_eq]
  exact run_of_receive hsend hreceive

/-- With time to wait, the entry alone tells what the exchange comes to. -/
theorem run_simulated (hworks : s.failWrites = false) (hidle : s.incoming = .empty)
    {timing : Timing} (hdeadline : timing.readTimeout ≠ .zero) (command : Command) :
    ∃ left, run timing command s = settled (answered timing.readTimeout s.script.head?)
      { s with
        script := s.script.tail
        pending := left
        commands := s.commands ++ [command.toBytes] } := by
  simpa only [map_inTime hdeadline] using run_in_time hworks hidle timing command

end Exchange

end TokenAgent
