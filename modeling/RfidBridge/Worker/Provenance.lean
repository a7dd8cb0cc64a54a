import RfidBridge.Worker.Ownership

/-!
What the requests on a connection say about the reader, and what the history says about
the tag frames: for which session the START request of a connection was sent, and from
which connection each frame of the pending buffer was received.
-/

namespace RfidBridge

theorem requestCommand_of_build {address : Int} {sequence : Int} {command : UInt8}
    {payload request : Bytes} {status : Int}
    (built : buildFrame address sequence command.toNat payload status = .ok request) :
    requestCommand request = some command := by
  obtain ⟨⟨-, -, -, -, short⟩, rfl⟩ := (buildFrame_eq_ok_iff _ _ _ _ _ _).mp built
  rw [requestCommand, parseFrame_frameBytes _ _ _ _ _ short]
  simp

namespace ReaderLine
variable {l l' : ReaderLine} {connection other : Nat} {request : Bytes}

/-- The reader is not inventorying, and no START request is on its way. -/
structure Quiet (l : ReaderLine) : Prop where
  idle : l.inventorying = false
  none : ∀ r ∈ l.wire, requestCommand r.2 ≠ some commandStartInventory

/-- No START request is behind a STOP of this connection, so the reader is quiet once it
has answered one. -/
structure Settles (l : ReaderLine) (connection : Nat) : Prop where
  behind : l.wire.Pairwise fun r r' => r.1 = connection → requestCommand r.2 = some commandStop →
    requestCommand r'.2 ≠ some commandStartInventory
  answered : connection ∈ l.answered → l.Quiet

/-- Nothing has been sent on this connection. -/
structure Unused (l : ReaderLine) (connection : Nat) : Prop where
  wire : ∀ r ∈ l.wire, r.1 ≠ connection
  answered : connection ∉ l.answered

/-- Every connection in use has been opened. -/
structure Numbered (l : ReaderLine) : Prop where
  wire : ∀ r ∈ l.wire, r.1 < l.nextConnection
  answered : ∀ connection ∈ l.answered, connection < l.nextConnection

/-- The line with one more request on it. -/
def push (l : ReaderLine) (connection : Nat) (request : Bytes) : ReaderLine :=
  { l with wire := l.wire ++ [(connection, request)] }

/-- The line with one more connection. -/
def open_ (l : ReaderLine) : ReaderLine := { l with nextConnection := l.nextConnection + 1 }

/-- The reader takes the oldest request off the line. -/
theorem cases_of_step (step : ReaderStep l l') :
    ∃ r, l.wire = r :: l'.wire ∧ l'.nextConnection = l.nextConnection ∧
      (requestCommand r.2 = some commandStartInventory ∧ l'.answered = l.answered ∨
        requestCommand r.2 = some commandStop ∧ l'.inventorying = false ∧
          l'.answered = r.1 :: l.answered ∨
        l'.inventorying = l.inventorying ∧ l'.answered = l.answered) := by
  cases step with
  | started wire start => exact ⟨_, wire, rfl, .inl ⟨start, rfl⟩⟩
  | stopped wire stop => exact ⟨_, wire, rfl, .inr (.inl ⟨stop, rfl, rfl⟩)⟩
  | dropped wire => exact ⟨_, wire, rfl, .inr (.inr ⟨rfl, rfl⟩)⟩

theorem Quiet.step (h : l.Quiet) (step : ReaderStep l l') : l'.Quiet := by
  obtain ⟨r, wire, -, cases⟩ := cases_of_step step
  have none := h.none
  rw [wire] at none
  refine ⟨?_, fun r' later => none r' (List.mem_cons_of_mem _ later)⟩
  obtain ⟨start, -⟩ | ⟨-, idle, -⟩ | ⟨same, -⟩ := cases
  · exact absurd start (none r (List.mem_cons_self ..))
  · exact idle
  · exact same.trans h.idle

theorem Settles.step (h : l.Settles connection) (step : ReaderStep l l') :
    l'.Settles connection := by
  obtain ⟨r, wire, -, cases⟩ := cases_of_step step
  have behind := h.behind
  rw [wire, List.pairwise_cons] at behind
  refine ⟨behind.2, fun answered => ?_⟩
  obtain ⟨-, same⟩ | ⟨stop, idle, same⟩ | ⟨-, same⟩ := cases
  · exact (h.answered (same ▸ answered)).step step
  · rw [same] at answered
    obtain rfl | before := List.mem_cons.mp answered
    · exact ⟨idle, fun r' later => behind.1 r' later rfl stop⟩
    · exact (h.answered before).step step
  · exact (h.answered (same ▸ answered)).step step

theorem Unused.step (h : l.Unused connection) (step : ReaderStep l l') :
    l'.Unused connection := by
  obtain ⟨r, wire, -, cases⟩ := cases_of_step step
  have unused := h.wire
  rw [wire] at unused
  refine ⟨fun r' later => unused r' (List.mem_cons_of_mem _ later), fun answered => ?_⟩
  obtain ⟨-, same⟩ | ⟨-, -, same⟩ | ⟨-, same⟩ := cases
  · exact h.answered (same ▸ answered)
  · rw [same] at answered
    obtain rfl | before := List.mem_cons.mp answered
    · exact unused r (List.mem_cons_self ..) rfl
    · exact h.answered before
  · exact h.answered (same ▸ answered)

theorem Numbered.step (h : l.Numbered) (step : ReaderStep l l') : l'.Numbered := by
  obtain ⟨r, wire, next, cases⟩ := cases_of_step step
  have numbered := h.wire
  rw [wire] at numbered
  refine ⟨fun r' later => next ▸ numbered r' (List.mem_cons_of_mem _ later), ?_⟩
  rw [next]
  obtain ⟨-, same⟩ | ⟨-, -, same⟩ | ⟨-, same⟩ := cases
  · exact same ▸ h.answered
  · rw [same]
    exact List.forall_mem_cons.mpr ⟨numbered r (List.mem_cons_self ..), h.answered⟩
  · exact same ▸ h.answered

/-- A connection that is opened now is unused. -/
theorem Numbered.unused (h : l.Numbered) : l.open_.Unused l.nextConnection :=
  ⟨fun r sent => Nat.ne_of_lt (h.wire r sent),
    fun answered => Nat.lt_irrefl _ (h.answered _ answered)⟩

theorem Numbered.opened (h : l.Numbered) : l.open_.Numbered :=
  ⟨fun r sent => Nat.lt_succ_of_lt (h.wire r sent),
    fun connection answered => Nat.lt_succ_of_lt (h.answered connection answered)⟩

theorem Numbered.push (h : l.Numbered) (opened : connection < l.nextConnection) :
    (l.push connection request).Numbered := by
  refine ⟨?_, h.answered⟩
  simp only [ReaderLine.push, List.forall_mem_append, List.forall_mem_singleton]
  exact ⟨h.wire, opened⟩

theorem Unused.settles (h : l.Unused connection) : l.Settles connection := by
  refine ⟨?_, fun answered => absurd answered h.answered⟩
  apply List.pairwise_of_forall_mem_list
  exact fun r sent _ _ same => absurd same (h.wire r sent)

theorem Quiet.push (h : l.Quiet) (stop : requestCommand request ≠ some commandStartInventory) :
    (l.push connection request).Quiet := by
  refine ⟨h.idle, ?_⟩
  simp only [ReaderLine.push, List.forall_mem_append, List.forall_mem_singleton]
  exact ⟨h.none, stop⟩

theorem Settles.push (h : l.Settles connection)
    (stop : requestCommand request ≠ some commandStartInventory) :
    (l.push other request).Settles connection := by
  refine ⟨?_, fun answered => (h.answered answered).push stop⟩
  simp only [ReaderLine.push, List.pairwise_append]
  refine ⟨h.behind, List.pairwise_singleton _ _, fun r _ r' last => ?_⟩
  obtain rfl := List.mem_singleton.mp last
  exact fun _ _ => stop

/-- The first request on a connection may be a START. -/
theorem Unused.settles_push (h : l.Unused connection) :
    (l.push connection request).Settles connection := by
  refine ⟨?_, fun answered => absurd answered h.answered⟩
  simp only [ReaderLine.push, List.pairwise_append]
  refine ⟨h.settles.behind, List.pairwise_singleton _ _, fun r sent _ _ same => ?_⟩
  exact absurd same (h.wire r sent)

/-- A line behind which the reader is as quiet as before. -/
structure Follows (l l' : ReaderLine) : Prop where
  quiet : l.Quiet → l'.Quiet
  settles : ∀ connection, l.Settles connection → l'.Settles connection
  opened : l.nextConnection ≤ l'.nextConnection

theorem Follows.refl (l : ReaderLine) : l.Follows l := ⟨id, fun _ => id, Nat.le_refl _⟩

theorem Follows.step (step : ReaderStep l l') : l.Follows l' := by
  refine ⟨fun h => h.step step, fun _ h => h.step step, ?_⟩
  obtain ⟨_, -, next, -⟩ := cases_of_step step
  exact Nat.le_of_eq next.symm

theorem Follows.opens (l : ReaderLine) : l.Follows l.open_ :=
  ⟨fun h => ⟨h.idle, h.none⟩, fun _ h => ⟨h.behind, fun answered =>
    ⟨(h.answered answered).idle, (h.answered answered).none⟩⟩, Nat.le_succ _⟩

theorem Follows.push (l : ReaderLine) (connection : Nat)
    (stop : requestCommand request ≠ some commandStartInventory) :
    l.Follows (l.push connection request) :=
  ⟨fun h => h.push stop, fun _ h => h.push stop, Nat.le_refl _⟩

end ReaderLine

/-- What the history says about the connections and the tag frames. -/
structure Provenance where
  /-- The session for which the START request of a connection was sent. -/
  started : Nat → Option String := fun _ => none
  /-- What a thread has received last, and from which connection. -/
  receives : Thread → Option (Nat × List RFIDFrame) := fun _ => none
  /-- The frames of the pending buffer, with the connection that each was received on. -/
  pending : List (RFIDFrame × Option Nat) := []
  /-- The frames that a thread has taken from the buffer last. -/
  taken : Thread → List (RFIDFrame × Option Nat) := fun _ => []

namespace Provenance

/-- The connection that has delivered a frame which a thread puts into the buffer. -/
def origin (p : Provenance) (t : Thread) (frame : RFIDFrame) : Option Nat :=
  match p.receives t with
  | some (connection, frames) => if frame ∈ frames then some connection else none
  | none => none

/-- The frame was received on a connection whose START request was for this session. -/
def Of (p : Provenance) (key : String) (x : RFIDFrame × Option Nat) : Prop :=
  ∃ connection, x.2 = some connection ∧ p.started connection = some key

end Provenance

def Entry.traced (p : Provenance) : Entry → Provenance
  | ⟨_, .send connection request label, _⟩ =>
      if requestCommand request = some commandStartInventory then
        { p with started := Function.update p.started connection label }
      else p
  | ⟨t, .receive connection _, .ok frames⟩ =>
      { p with receives := Function.update p.receives t (some (connection, frames)) }
  | ⟨t, .appendPendingTagFrame frame, .ok _⟩ =>
      { p with pending := p.pending ++ [(frame, p.origin t frame)] }
  | ⟨t, .readPendingTagFrames, .ok _⟩ => { p with taken := Function.update p.taken t p.pending }
  | ⟨_, .clearPendingTagFrames, .ok _⟩ => { p with pending := [] }
  | _ => p

/-- The provenance that a history shows. -/
def provenance : List Entry → Provenance
  | [] => {}
  | entry :: older => entry.traced (provenance older)

abbrev World.provenance (w : World) : Provenance := RfidBridge.provenance w.trace

/-- The operations that the provenance is read off. -/
def BridgeOp.isTraced : BridgeOp → Bool
  | .send .. | .receive .. | .appendPendingTagFrame _ | .readPendingTagFrames
  | .clearPendingTagFrames => true
  | _ => false

section
variable {env : BridgeEnv} {t : Thread} {op : BridgeOp} {w w' : World}
  {answer : Except PyException op.Answer}

theorem provenance_of_step (step : BridgeStep env t op w answer w') :
    w'.provenance = Entry.traced w.provenance ⟨t, op, answer⟩ := by
  rw [World.provenance, step.frame.2]
  rfl

theorem provenance_of_untraced (untraced : op.isTraced = false)
    (step : BridgeStep env t op w answer w') : w'.provenance = w.provenance := by
  rw [provenance_of_step step]
  cases op <;> first | rfl | cases untraced

/-- Only a send changes for which session a connection was started. -/
theorem started_of_step (unsent : ∀ connection request label, op ≠ .send connection request label)
    (step : BridgeStep env t op w answer w') : w'.provenance.started = w.provenance.started := by
  rw [provenance_of_step step]
  cases op with
  | send connection request label => exact absurd rfl (unsent connection request label)
  | _ => cases answer <;> rfl

/-- The frames of the buffer change where the buffer does. -/
theorem pending_of_step (unwritten : op.writes ≠ some .pendingTagFrames)
    (step : BridgeStep env t op w answer w') : w'.provenance.pending = w.provenance.pending := by
  rw [provenance_of_step step]
  cases op with
  | appendPendingTagFrame _ | clearPendingTagFrames => exact absurd rfl unwritten
  | send _ request _ =>
      rw [Entry.traced]
      split <;> rfl
  | _ => cases answer <;> rfl

end
end RfidBridge
