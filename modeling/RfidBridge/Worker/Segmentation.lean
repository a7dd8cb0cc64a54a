import RfidBridge.Protocol.Arrivals
import RfidBridge.Worker.Handshake
import RfidBridge.Worker.System

/-!
The handshakes of the executor on a real session: every batch of frames comes from
TCPReaderSession.receive, which reads at most 32 chunks, and at most 32 batches are
awaited. Whether a handshake succeeds therefore depends on the way the stream of the
reader is cut into chunks.
-/

namespace RfidBridge
open PersistentActiveReaderExecutor

/-- The executor and the session object behind its connection. -/
structure ReaderLink where
  fields : ExecutorFields := {}
  session : TCPReaderSession := {}

/-- What the operations of the executor answer when the connection opens, requests are sent
and the socket gives these results. -/
def ReaderLink.answer (socket : Socket) :
    (op : BridgeOp) → ReaderLink → Except PyException op.Answer × ReaderLink
  | .readSession, link => (.ok link.fields.session, link)
  | .writeSession session, link => (.ok (), { link with fields := { link.fields with session } })
  | .readActiveSessionKey, link => (.ok link.fields.activeSessionKey, link)
  | .writeActiveSessionKey key, link =>
      (.ok (), { link with fields := { link.fields with activeSessionKey := key } })
  | .readPendingTagFrames, link => (.ok link.fields.pendingTagFrames, link)
  | .appendPendingTagFrame frame, link =>
      (.ok (), { link with fields := { link.fields with
        pendingTagFrames := link.fields.pendingTagFrames ++ [frame] } })
  | .clearPendingTagFrames, link =>
      (.ok (), { link with fields := { link.fields with pendingTagFrames := [] } })
  | .connect, link => (.ok 0, { link with session := {} })
  | .send .., link => (.ok (), link)
  | .receive _ expectedCommands, link =>
      ((link.session.receive socket expectedCommands 32 true).1,
        { link with session := (link.session.receive socket expectedCommands 32 true).2 })
  | .closeSession _, link =>
      (.ok (), { link with session := { link.session with isOpen := false } })
  | _, link => (.error ⟨.runtimeError, "not an operation of the reader executor"⟩, link)

/-- How many chunks each batch of frames takes when every batch ends with the first chunk
that completes one of its frames. -/
def batchReads : Nat → List Bool → List Nat
  | _, [] => []
  | reads, true :: flags => (reads + 1) :: batchReads 0 flags
  | reads, false :: flags => batchReads (reads + 1) flags

/-- At most 32 batches of at most 32 chunks each. -/
def WithinBudget (flags : List Bool) : Prop :=
  (batchReads 0 flags).length ≤ 32 ∧ ∀ reads ∈ batchReads 0 flags, reads ≤ 32

instance (flags : List Bool) : Decidable (WithinBudget flags) :=
  inferInstanceAs (Decidable (_ ∧ _))

theorem batchReads_skip (reads skipped : Nat) (flags : List Bool) :
    batchReads reads (List.replicate skipped false ++ true :: flags) =
      (reads + skipped + 1) :: batchReads 0 flags := by
  induction skipped generalizing reads with
  | zero => rfl
  | succ skipped ih =>
      rw [List.replicate_succ, List.cons_append, batchReads, ih]
      congr 1
      omega

namespace Segmentation

/-- The frames of a burst that a receive hands over. -/
def matching (expectedCommands : List UInt8) (burst : List RFIDFrame) : List RFIDFrame :=
  burst.filter (·.command ∈ expectedCommands)

section
variable {socket : Socket} {expectedCommands : List UInt8}

theorem receiveLoop_step {session : TCPReaderSession} {burst : List RFIDFrame}
    {bursts : List (List RFIDFrame)} (expectedCommands : List UInt8)
    (delivers : TCPReaderSession.Delivers socket session (burst :: bursts)) (reads : Nat) :
    ∃ after, TCPReaderSession.Delivers socket after bursts ∧ after.isOpen = session.isOpen ∧
      TCPReaderSession.receiveLoop socket expectedCommands true (reads + 1) [] session =
        if matching expectedCommands burst ≠ [] then
          (.ok (matching expectedCommands burst), after)
        else TCPReaderSession.receiveLoop socket expectedCommands true reads [] after := by
  obtain ⟨b, data, result, rfl, rest⟩ := delivers
  refine ⟨_, rest, rfl, ?_⟩
  rw [TCPReaderSession.receiveLoop, result]
  dsimp only
  rw [List.nil_append, ← matching.eq_def]
  split
  · rfl
  · rename_i nothing
    rw [not_not.mp nothing]

/-- One receive on bursts of which the first ones bring nothing that is expected. -/
theorem receiveLoop_batch (skipped : List (List RFIDFrame)) {burst : List RFIDFrame}
    {bursts : List (List RFIDFrame)} {session : TCPReaderSession} (reads : Nat)
    (delivers : TCPReaderSession.Delivers socket session (skipped ++ burst :: bursts))
    (idle : ∀ b ∈ skipped, matching expectedCommands b = [])
    (found : matching expectedCommands burst ≠ []) :
    (skipped.length < reads → ∃ after,
      TCPReaderSession.receiveLoop socket expectedCommands true reads [] session =
        (.ok (matching expectedCommands burst), after) ∧
      TCPReaderSession.Delivers socket after bursts ∧ after.isOpen = session.isOpen) ∧
    (reads ≤ skipped.length → ∃ exc after,
      TCPReaderSession.receiveLoop socket expectedCommands true reads [] session =
        (.error exc, after) ∧ exc.isException = true) := by
  induction skipped generalizing session reads with
  | nil =>
      cases reads with
      | zero =>
          obtain ⟨exc, failed, exception⟩ := TCPReaderSession.noResponse_eq_error session
          rw [TCPReaderSession.receiveLoop, failed]
          exact ⟨fun few => absurd few (Nat.not_lt_zero _), fun _ => ⟨exc, _, rfl, exception⟩⟩
      | succ reads =>
          obtain ⟨after, rest, opened, step⟩ :=
            receiveLoop_step expectedCommands delivers reads
          rw [if_pos found] at step
          exact ⟨fun _ => ⟨after, step, rest, opened⟩, fun many => absurd many (by simp)⟩
  | cons quiet skipped ih =>
      cases reads with
      | zero =>
          obtain ⟨exc, failed, exception⟩ := TCPReaderSession.noResponse_eq_error session
          rw [TCPReaderSession.receiveLoop, failed]
          exact ⟨fun few => absurd few (Nat.not_lt_zero _), fun _ => ⟨exc, _, rfl, exception⟩⟩
      | succ reads =>
          obtain ⟨after, rest, opened, step⟩ :=
            receiveLoop_step expectedCommands delivers reads
          rw [if_neg (not_not.mpr (idle quiet (List.mem_cons_self ..)))] at step
          rw [step, ← opened]
          have later := ih reads rest fun b member => idle b (List.mem_cons_of_mem _ member)
          simpa only [List.length_cons, Nat.add_lt_add_iff_right, Nat.add_le_add_iff_right]
            using later

theorem receive_eq_loop {session : TCPReaderSession} (opened : session.isOpen = true)
    (expected : expectedCommands ≠ []) :
    session.receive socket expectedCommands 32 true =
      TCPReaderSession.receiveLoop socket expectedCommands true 32 [] session := by
  rw [TCPReaderSession.receive, if_neg (by simp [opened]), if_neg expected, if_neg (by decide)]
  rfl

/-- The first burst that brings an expected frame. -/
theorem first_match (bursts : List (List RFIDFrame))
    (some_match : matching expectedCommands bursts.flatten ≠ []) :
    ∃ skipped burst later, bursts = skipped ++ burst :: later ∧
      (∀ b ∈ skipped, matching expectedCommands b = []) ∧
      matching expectedCommands burst ≠ [] ∧
      matching expectedCommands bursts.flatten =
        matching expectedCommands burst ++ matching expectedCommands later.flatten := by
  induction bursts with
  | nil => exact absurd rfl some_match
  | cons first bursts ih =>
      have split : matching expectedCommands (first :: bursts).flatten =
          matching expectedCommands first ++ matching expectedCommands bursts.flatten := by
        rw [List.flatten_cons, matching, List.filter_append, ← matching.eq_def, ← matching.eq_def]
      by_cases nothing : matching expectedCommands first = []
      · rw [split, nothing, List.nil_append] at some_match ⊢
        obtain ⟨skipped, burst, later, rfl, idle, found, whole⟩ := ih some_match
        refine ⟨first :: skipped, burst, later, rfl, ?_, found, whole⟩
        exact List.forall_mem_cons.mpr ⟨nothing, idle⟩
      · exact ⟨[], first, bursts, rfl, nofun, nothing, split⟩

end

/-- A tag frame as the configured reader sends it during inventory. -/
structure TagFrame (device : ReaderDevice) (frame : RFIDFrame) : Prop where
  command : frame.command = commandActiveTag
  status : frame.status = 0
  address : frame.address.toNat = device.deviceAddress

section
variable {socket : Socket} {device : ReaderDevice} {wait : Handshake}

theorem eval_validateFrameAddress {frame : RFIDFrame} (link : ReaderLink)
    (address : frame.address.toNat = device.deviceAddress) :
    (Prog.ofExcept (validateFrameAddress device frame) : Bridge Unit).eval
      (ReaderLink.answer socket) link = (.ok (), link) := by
  rw [validateFrameAddress, if_neg (not_not.mpr address)]
  rfl

theorem eval_captureTagFrame {frame : RFIDFrame} (link : ReaderLink) (tag : TagFrame device frame) :
    (captureTagFrame device frame).eval (ReaderLink.answer socket) link =
      (.ok (), { link with fields := { link.fields with
        pendingTagFrames := link.fields.pendingTagFrames ++ [frame] } }) := by
  change (Prog.bind _ _).eval _ _ = _
  rw [Prog.eval_bind, eval_validateFrameAddress link tag.address]
  dsimp only
  rw [if_neg (not_not.mpr tag.command), if_neg (not_not.mpr tag.status), Prog.eval_perform]
  rfl

/-- Tag frames in front of a batch are captured. -/
theorem eval_scanBatch_tags (socket : Socket) (wait : Handshake) (tags more : List RFIDFrame)
    (link : ReaderLink) (expected : tags ≠ [] → commandActiveTag ∈ wait.expectedCommands)
    (allTags : ∀ tag ∈ tags, TagFrame device tag) :
    (scanBatch device wait (tags ++ more)).eval (ReaderLink.answer socket) link =
      (scanBatch device wait more).eval (ReaderLink.answer socket)
        { link with fields := { link.fields with
          pendingTagFrames := link.fields.pendingTagFrames ++ tags } } := by
  induction tags generalizing link with
  | nil => rw [List.append_nil]; rfl
  | cons tag tags ih =>
      have first := allTags tag (List.mem_cons_self ..)
      rw [List.cons_append]
      change (Prog.bind _ _).eval _ _ = _
      rw [Prog.eval_bind, eval_validateFrameAddress link first.address]
      dsimp only
      rw [if_pos ⟨expected (List.cons_ne_nil _ _), first.command⟩]
      change (Prog.bind _ _).eval _ _ = _
      rw [Prog.eval_bind, eval_captureTagFrame link first]
      dsimp only
      rw [ih _ (fun _ => expected (List.cons_ne_nil _ _))
        fun t member => allTags t (List.mem_cons_of_mem _ member)]
      simp only [List.append_assoc, List.singleton_append]

theorem eval_scanBatch_response {response : RFIDFrame} (link : ReaderLink)
    (accepted : Accepted device wait response) (plain : wait.response ≠ commandActiveTag) :
    (scanBatch device wait [response]).eval (ReaderLink.answer socket) link =
      (.ok (some response), link) := by
  change (Prog.bind _ _).eval _ _ = _
  rw [Prog.eval_bind, eval_validateFrameAddress link accepted.address]
  dsimp only
  have other : ¬ (commandActiveTag ∈ wait.expectedCommands ∧
      response.command = commandActiveTag) := by
    rintro ⟨-, tag⟩
    exact plain (accepted.response.symm.trans tag)
  rw [if_neg other, if_neg (not_not.mpr accepted.response),
    if_neg (not_not.mpr accepted.status)]
  rfl

/-- For each burst whether it brings an expected frame. -/
def flags (expectedCommands : List UInt8) (bursts : List (List RFIDFrame)) : List Bool :=
  bursts.map fun burst => !(matching expectedCommands burst).isEmpty

theorem flags_split {expectedCommands : List UInt8} {skipped : List (List RFIDFrame)}
    (later : List (List RFIDFrame)) {burst : List RFIDFrame}
    (idle : ∀ b ∈ skipped, matching expectedCommands b = [])
    (found : matching expectedCommands burst ≠ []) :
    flags expectedCommands (skipped ++ burst :: later) =
      List.replicate skipped.length false ++ true :: flags expectedCommands later := by
  have quiet : flags expectedCommands skipped = List.replicate skipped.length false := by
    rw [flags, ← List.map_const']
    exact List.map_congr_left fun b member => by rw [idle b member]; rfl
  rw [flags, List.map_append, List.map_cons, ← flags.eq_def, ← flags.eq_def, quiet,
    List.isEmpty_eq_false_iff.mpr found, Bool.not_false]

/-- The first batch takes every chunk up to the first one that is flagged. -/
theorem batchReads_flags {expectedCommands : List UInt8} {skipped : List (List RFIDFrame)}
    (later : List (List RFIDFrame)) {burst : List RFIDFrame}
    (idle : ∀ b ∈ skipped, matching expectedCommands b = [])
    (found : matching expectedCommands burst ≠ []) :
    batchReads 0 (flags expectedCommands (skipped ++ burst :: later)) =
      (skipped.length + 1) :: batchReads 0 (flags expectedCommands later) := by
  rw [flags_split later idle found, batchReads_skip, Nat.zero_add]

/-- The program returns if the condition holds, and raises otherwise. -/
def Decided {α : Type} (socket : Socket) (program : Bridge α) (link : ReaderLink)
    (fits : Prop) : Prop :=
  (fits → ∃ value after, program.eval (ReaderLink.answer socket) link = (.ok value, after)) ∧
  (¬ fits → ∃ exc after, program.eval (ReaderLink.answer socket) link = (.error exc, after) ∧
    exc.isException = true)

variable (device wait) in
/-- One more attempt, after what it received. -/
theorem eval_awaitResponse {receiveBatch : Bridge (List RFIDFrame)} {link link' : ReaderLink}
    (attempts : Nat) {frames : List RFIDFrame}
    (received : receiveBatch.eval (ReaderLink.answer socket) link = (.ok frames, link')) :
    (awaitResponse device wait receiveBatch (attempts + 1)).eval (ReaderLink.answer socket) link =
      ((scanBatch device wait frames).bind fun found =>
        match found with
        | some frame => pure frame
        | none => awaitResponse device wait receiveBatch attempts).eval
          (ReaderLink.answer socket) link' := by
  change (Prog.bind _ _).eval _ _ = _
  rw [Prog.eval_bind, received]
  rfl

/-- Waiting for a response behind tag frames: it is found exactly within the budget. -/
theorem awaitResponse_outcome (connection : Option Nat) {receiveBatch : Bridge (List RFIDFrame)}
    (receives : ∀ link, link.fields.session = connection →
      receiveBatch.eval (ReaderLink.answer socket) link =
        ((link.session.receive socket wait.expectedCommands 32 true).1,
          { link with session := (link.session.receive socket wait.expectedCommands 32 true).2 }))
    {response : RFIDFrame} (accepted : Accepted device wait response)
    (plain : wait.response ≠ commandActiveTag) (expected : wait.expectedCommands ≠ [])
    (attempts : Nat) (bursts : List (List RFIDFrame)) (tags : List RFIDFrame) (link : ReaderLink)
    (same : link.fields.session = connection) (opened : link.session.isOpen = true)
    (delivers : TCPReaderSession.Delivers socket link.session bursts)
    (frames : matching wait.expectedCommands bursts.flatten = tags ++ [response])
    (captured : tags ≠ [] → commandActiveTag ∈ wait.expectedCommands)
    (allTags : ∀ tag ∈ tags, TagFrame device tag)
    (last : ∀ burst, bursts.getLast? = some burst → matching wait.expectedCommands burst ≠ []) :
    Decided socket (awaitResponse device wait receiveBatch attempts) link
      ((batchReads 0 (flags wait.expectedCommands bursts)).length ≤ attempts ∧
        ∀ reads ∈ batchReads 0 (flags wait.expectedCommands bursts), reads ≤ 32) := by
  induction attempts generalizing bursts tags link with
  | zero =>
      obtain ⟨skipped, burst, later, rfl, idle, found, -⟩ :=
        first_match bursts (by rw [frames]; simp)
      rw [batchReads_flags later idle found]
      refine ⟨fun fits => absurd fits.1 (by simp), fun _ => ?_⟩
      exact ⟨_, _, rfl, rfl⟩
  | succ attempts ih =>
      obtain ⟨skipped, burst, later, rfl, idle, found, whole⟩ :=
        first_match bursts (by rw [frames]; simp)
      rw [batchReads_flags later idle found, List.length_cons, List.forall_mem_cons,
        Nat.add_le_add_iff_right]
      have batch := receiveLoop_batch skipped 32 delivers idle found
      rw [← receive_eq_loop opened expected] at batch
      by_cases few : skipped.length < 32
      · obtain ⟨session, received, rest, opened'⟩ := batch.1 few
        have received' := receives link same
        rw [received] at received'
        have step := eval_awaitResponse device wait attempts received'
        rw [Decided, step, Prog.eval_bind]
        by_cases final : matching wait.expectedCommands later.flatten = []
        · -- the last burst brings a frame, so nothing is behind this batch
          have ended : later = [] := by
            cases later using List.reverseRecOn with
            | nil => rfl
            | append_singleton later lastBurst =>
                have matched := last lastBurst (by
                  rw [List.getLast?_append, List.getLast?_cons, List.getLast?_concat]
                  rfl)
                rw [List.flatten_concat, matching, List.filter_append,
                  List.append_eq_nil_iff] at final
                exact absurd final.2 matched
          subst ended
          rw [final, List.append_nil] at whole
          rw [← whole, frames, eval_scanBatch_tags socket wait tags [response] _ captured allTags,
            eval_scanBatch_response _ accepted plain]
          refine ⟨fun _ => ⟨_, _, rfl⟩, fun exceeds => ?_⟩
          exact absurd ⟨Nat.zero_le _, by omega, nofun⟩ exceeds
        · obtain ⟨moreTags, split, rfl⟩ :
              ∃ moreTags, matching wait.expectedCommands later.flatten = moreTags ++ [response] ∧
                tags = matching wait.expectedCommands burst ++ moreTags := by
            obtain ⟨moreTags, lastFrame, split⟩ := (List.eq_nil_or_concat' _).resolve_left final
            rw [frames, split, ← List.append_assoc] at whole
            obtain ⟨rfl, single⟩ := List.append_inj' whole rfl
            cases single
            exact ⟨moreTags, split, rfl⟩
          have tagged := eval_scanBatch_tags socket wait
            (matching wait.expectedCommands burst) [] { link with session }
            (fun some => captured (List.append_ne_nil_of_left_ne_nil some _))
            (fun tag member => allTags tag (List.mem_append_left _ member))
          rw [List.append_nil] at tagged
          rw [tagged]
          have rest' := ih later moreTags { link with
              session
              fields := { link.fields with
                pendingTagFrames := link.fields.pendingTagFrames ++
                  matching wait.expectedCommands burst } }
            same (opened'.trans opened) rest split
            (fun some => captured (List.append_ne_nil_of_right_ne_nil _ some))
            (fun tag member => allTags tag (List.mem_append_right _ member)) (by
              intro b ending
              refine last b ?_
              cases later with
              | nil => cases ending
              | cons next later =>
                  rw [List.getLast?_append, List.getLast?_cons_cons, ending]
                  rfl)
          refine ⟨fun fits => rest'.1 ⟨fits.1, fits.2.2⟩, fun exceeds => rest'.2 ?_⟩
          exact fun fits => exceeds ⟨fits.1, by omega, fits.2⟩
      · obtain ⟨exc, session, failed, exception⟩ := batch.2 (by omega)
        refine ⟨fun fits => absurd fits.2.1 (by omega), fun _ => ?_⟩
        refine ⟨exc, { link with session }, ?_, exception⟩
        change (Prog.bind _ _).eval _ _ = _
        rw [Prog.eval_bind, receives link same, failed]

end

/-- The reader's answer to a request: tag frames and behind them an accepted response, in
non-empty chunks. -/
structure Answered (device : ReaderDevice) (wait : Handshake) (tags : List RFIDFrame)
    (response : RFIDFrame) (chunks : List Bytes) : Prop where
  wellFormed : ∀ frame ∈ tags ++ [response], parseFrame frame.rawFrame = .ok frame
  allTags : ∀ tag ∈ tags, TagFrame device tag
  accepted : Accepted device wait response
  nonempty : ∀ chunk ∈ chunks, chunk ≠ []
  whole : chunks.flatten = (tags ++ [response]).flatMap RFIDFrame.rawFrame

theorem length_completing (ends : List Nat) (fed : Nat) (chunks : List Bytes) :
    (completing ends fed chunks).length = chunks.length := by
  induction chunks generalizing fed with
  | nil => rfl
  | cons chunk chunks ih => simp [completing, ih]

section
variable {socket : Socket} {device : ReaderDevice} {wait : Handshake} {tags : List RFIDFrame}
  {response : RFIDFrame} {chunks : List Bytes}

/-- The bursts in which the answer arrives. -/
theorem Answered.bursts (h : Answered device wait tags response chunks)
    {session : TCPReaderSession} (brings : Brings socket session.position chunks)
    (fresh : session.decoder.buffer = []) :
    ∃ bursts, TCPReaderSession.Delivers socket session bursts ∧
      bursts.flatten = tags ++ [response] ∧
      bursts.map (!·.isEmpty) = completing (frameEnds 0 (tags ++ [response])) 0 chunks ∧
      ∀ burst, bursts.getLast? = some burst → response ∈ burst := by
  have begun : Begun (tags ++ [response]) session.decoder.buffer := by
    rw [fresh]
    cases frames : tags ++ [response] with
    | nil => rfl
    | cons frame rest =>
        have member : frame ∈ tags ++ [response] := frames ▸ List.mem_cons_self ..
        have long := ((parseFrame_eq_ok_iff _ _).mp (h.wellFormed frame member)).1
        exact ⟨List.nil_prefix, Nat.lt_of_lt_of_le (by decide) long⟩
  obtain ⟨bursts, delivers, frames, ends, last⟩ := TCPReaderSession.delivers_chunks []
    (tags ++ [response]) h.wellFormed chunks h.nonempty session begun
    (by rw [fresh, List.nil_append, h.whole]) brings
  rw [fresh] at ends
  refine ⟨bursts, delivers, frames, ends, fun burst ending => ?_⟩
  cases bursts using List.reverseRecOn with
  | nil => cases ending
  | append_singleton earlier lastBurst =>
      rw [List.getLast?_concat, Option.some.injEq] at ending
      subst ending
      rw [List.getLast?_concat, ne_eq, Option.some.injEq] at last
      obtain ⟨init, final, rfl⟩ := (List.eq_nil_or_concat' _).resolve_left last
      rw [List.flatten_concat, ← List.append_assoc] at frames
      cases (List.append_inj' frames rfl).2
      exact List.mem_append_right _ (List.mem_singleton_self _)

/-- Where every frame of the answer is expected, a batch ends with each chunk in which
a frame ends. -/
theorem flags_all {bursts : List (List RFIDFrame)} {expectedCommands : List UInt8}
    (all : ∀ frame ∈ bursts.flatten, frame.command ∈ expectedCommands) :
    flags expectedCommands bursts = bursts.map (!·.isEmpty) := by
  refine List.map_congr_left fun burst member => ?_
  rw [matching, List.filter_eq_self.mpr]
  intro frame inside
  exact decide_eq_true (all frame (List.mem_flatten.mpr ⟨burst, member, inside⟩))

/-- Where only the response is expected, the one batch takes all the chunks. -/
theorem batchReads_last {bursts : List (List RFIDFrame)} {expectedCommands : List UInt8}
    (single : matching expectedCommands bursts.flatten = [response])
    (last : ∀ burst, bursts.getLast? = some burst → matching expectedCommands burst ≠ []) :
    batchReads 0 (flags expectedCommands bursts) = [bursts.length] := by
  cases bursts using List.reverseRecOn with
  | nil => cases single
  | append_singleton earlier lastBurst =>
      have found := last lastBurst List.getLast?_concat
      rw [List.flatten_concat, matching, List.filter_append, ← matching.eq_def,
        ← matching.eq_def] at single
      have idle : matching expectedCommands earlier.flatten = [] := by
        have lengths := congrArg List.length single
        have positive := List.length_pos_iff.mpr found
        rw [List.length_append, List.length_singleton] at lengths
        exact List.length_eq_zero_iff.mp (by omega)
      rw [batchReads_flags [] ?_ found]
      · rw [List.length_append, List.length_singleton]
        rfl
      · intro burst member
        rw [matching, List.filter_eq_nil_iff] at idle ⊢
        exact fun frame inside => idle frame (List.mem_flatten.mpr ⟨burst, member, inside⟩)

/-- The bursts of an answer are found by the wait exactly within the budget. -/
theorem Answered.await (h : Answered device wait tags response chunks)
    (session : TCPReaderSession) (brings : Brings socket session.position chunks)
    (fresh : session.decoder.buffer = []) (opened : session.isOpen = true)
    (plain : wait.response ≠ commandActiveTag) (expected : wait.response ∈ wait.expectedCommands)
    (connection : Option Nat) (receiveBatch : Bridge (List RFIDFrame))
    (receives : ∀ link, link.fields.session = connection →
      receiveBatch.eval (ReaderLink.answer socket) link =
        ((link.session.receive socket wait.expectedCommands 32 true).1,
          { link with session := (link.session.receive socket wait.expectedCommands 32 true).2 }))
    (link : ReaderLink) (same : link.fields.session = connection)
    (current : link.session = session) :
    Decided socket (awaitResponse device wait receiveBatch 32) link
      (if commandActiveTag ∈ wait.expectedCommands then
        WithinBudget (completing (frameEnds 0 (tags ++ [response])) 0 chunks)
      else chunks.length ≤ 32) := by
  obtain ⟨bursts, delivers, frames, ends, last⟩ := h.bursts brings fresh
  have listed : response.command ∈ wait.expectedCommands := h.accepted.response ▸ expected
  have lastMatches : ∀ burst, bursts.getLast? = some burst →
      matching wait.expectedCommands burst ≠ [] := by
    intro burst ending
    exact List.ne_nil_of_mem (List.mem_filter.mpr ⟨last burst ending, decide_eq_true listed⟩)
  subst current
  by_cases tagsExpected : commandActiveTag ∈ wait.expectedCommands
  · have all : ∀ frame ∈ tags ++ [response], frame.command ∈ wait.expectedCommands := by
      intro frame member
      rcases List.mem_append.mp member with tag | single
      · rw [(h.allTags frame tag).command]
        exact tagsExpected
      · rw [List.mem_singleton.mp single]
        exact listed
    rw [← frames] at all
    have found : matching wait.expectedCommands bursts.flatten = tags ++ [response] := by
      rw [matching, List.filter_eq_self.mpr fun frame member => decide_eq_true (all frame member),
        frames]
    have outcome := awaitResponse_outcome connection receives h.accepted plain
      (List.ne_nil_of_mem expected) 32 bursts tags link same opened delivers found
      (fun _ => tagsExpected) h.allTags lastMatches
    rw [flags_all all, ends] at outcome
    rw [if_pos tagsExpected]
    exact outcome
  · have single : matching wait.expectedCommands bursts.flatten = [response] := by
      rw [frames, matching, List.filter_append, List.filter_eq_nil_iff.mpr, List.nil_append,
        List.filter_singleton, decide_eq_true listed]
      · rfl
      · intro tag member
        rw [(h.allTags tag member).command]
        simpa using tagsExpected
    have outcome := awaitResponse_outcome connection receives h.accepted plain
      (List.ne_nil_of_mem expected) 32 bursts [] link same opened delivers single
      (fun some => absurd rfl some) (fun _ member => absurd member List.not_mem_nil) lastMatches
    have count : bursts.length = chunks.length := by
      have lengths := congrArg List.length ends
      rwa [List.length_map, length_completing] at lengths
    rw [batchReads_last single lastMatches, count] at outcome
    rw [if_neg tagsExpected]
    simpa using outcome

end
section
variable {socket : Socket} {device : ReaderDevice} {link : ReaderLink}

theorem Decided.seq {α β : Type} {program : Bridge α} {next : α → Bridge β} {fits : Prop}
    (h : Decided socket program link fits)
    (returns : ∀ value after, ∃ value' after',
      (next value).eval (ReaderLink.answer socket) after = (.ok value', after')) :
    Decided socket (program.bind next) link fits := by
  constructor
  · intro holds
    obtain ⟨value, after, ran⟩ := h.1 holds
    obtain ⟨value', after', rest⟩ := returns value after
    exact ⟨value', after', by rw [Prog.eval_bind, ran, ← rest]⟩
  · intro fails
    obtain ⟨exc, after, ran, exception⟩ := h.2 fails
    exact ⟨exc, after, by rw [Prog.eval_bind, ran], exception⟩

/-- A first part that returns leaves the decision to the rest. -/
theorem Decided.after {α β : Type} {program : Bridge α} {next : α → Bridge β} {fits : Prop}
    (value : α) (middle : ReaderLink)
    (ran : program.eval (ReaderLink.answer socket) link = (.ok value, middle))
    (rest : Decided socket (next value) middle fits) :
    Decided socket (program.bind next) link fits := by
  rw [Decided, Prog.eval_bind, ran]
  exact rest

theorem Decided.finally {program : Bridge Unit} {cleanup : Bridge Unit} {fits : Prop}
    (h : Decided socket program link fits)
    (cleans : ∀ link, ∃ after, cleanup.eval (ReaderLink.answer socket) link = (.ok (), after)) :
    Decided socket (program.tryFinally cleanup) link fits := by
  constructor
  · intro holds
    obtain ⟨value, after, ran⟩ := h.1 holds
    obtain ⟨after', cleaned⟩ := cleans after
    refine ⟨value, after', ?_⟩
    rw [Prog.tryFinally, Prog.eval_handle, ran, Prog.eval_bind, cleaned]
    rfl
  · intro fails
    obtain ⟨exc, after, ran, exception⟩ := h.2 fails
    obtain ⟨after', cleaned⟩ := cleans after
    refine ⟨exc, after', ?_, exception⟩
    rw [Prog.tryFinally, Prog.eval_handle, ran, Prog.eval_bind, cleaned]
    rfl

theorem decided_iff {program : Bridge Unit} {fits : Prop} (h : Decided socket program link fits) :
    (program.eval (ReaderLink.answer socket) link).1 = .ok () ↔ fits := by
  constructor
  · intro returned
    by_contra fails
    obtain ⟨exc, after, ran, -⟩ := h.2 fails
    rw [ran] at returned
    cases returned
  · intro holds
    obtain ⟨value, after, ran⟩ := h.1 holds
    rw [ran]

theorem eval_isActive (link : ReaderLink) :
    isActive.eval (ReaderLink.answer socket) link =
      (.ok (link.fields.session.isSome && link.fields.activeSessionKey.isSome), link) := by
  change (Prog.bind _ _).eval _ _ = _
  rw [Prog.eval_bind, readSession, Prog.eval_perform]
  cases session : link.fields.session with
  | none =>
      simp only [ReaderLink.answer, session, if_true]
      rfl
  | some connection =>
      simp only [ReaderLink.answer, session, reduceCtorEq, if_false]
      rfl

theorem eval_receive (connection : Nat) (expectedCommands : List UInt8) (link : ReaderLink) :
    (receive connection expectedCommands).eval (ReaderLink.answer socket) link =
      ((link.session.receive socket expectedCommands 32 true).1,
        { link with session := (link.session.receive socket expectedCommands 32 true).2 }) := by
  rw [receive, Prog.eval_perform]
  rfl

theorem eval_withSession_receive {connection : Nat} (same : link.fields.session = some connection)
    (expectedCommands : List UInt8) :
    (withSession fun connection => receive connection expectedCommands).eval
        (ReaderLink.answer socket) link =
      ((link.session.receive socket expectedCommands 32 true).1,
        { link with session := (link.session.receive socket expectedCommands 32 true).2 }) := by
  change (Prog.bind _ _).eval _ _ = _
  rw [Prog.eval_bind, readSession, Prog.eval_perform, ReaderLink.answer, same]
  exact eval_receive connection expectedCommands link

theorem request_built {address : Nat} (byte : address < 256) (sequence : Int)
    (small : InByte sequence) (command : UInt8) (payload : Bytes)
    (short : payload.length ≤ maxPayloadLength) :
    ∃ raw, buildFrame address sequence command.toNat payload 0 = .ok raw := by
  have addressed : InByte address := by
    unfold InByte
    omega
  exact ⟨_, (buildFrame_eq_ok_iff _ _ _ _ _ _).mpr
    ⟨⟨addressed, small, .of_byte _, by decide, short⟩, rfl⟩⟩

theorem address_lt_of_accepted {wait : Handshake} {response : RFIDFrame}
    (h : Accepted device wait response) : device.deviceAddress < 256 := by
  rw [← h.address]
  exact response.address.toNat_lt

variable {tags : List RFIDFrame} {response : RFIDFrame} {chunks : List Bytes}

/-- START behind the connection. -/
theorem decided_startInventory (h : Answered device startHandshake tags response chunks)
    (brings : Brings socket 0 chunks) (key : String) (link : ReaderLink)
    (fresh : link.session = {}) :
    Decided socket (startInventory device 0 key) link
      (WithinBudget (completing (frameEnds 0 (tags ++ [response])) 0 chunks)) := by
  obtain ⟨request, built⟩ := request_built (address_lt_of_accepted h.accepted) 10
    (by decide) commandStartInventory (BigEndian.encode 4 0x50) (by decide)
  have await := h.await {} brings rfl rfl (by decide) (by decide) (some 0)
    (withSession fun connection => receive connection startHandshake.expectedCommands)
    (fun link same => eval_withSession_receive same _)
    { link with fields := { link.fields with session := some 0 } } rfl fresh
  rw [if_pos (by decide)] at await
  refine Decided.after () { link with fields := { link.fields with session := some 0 } } rfl ?_
  refine Decided.after request { link with fields := { link.fields with session := some 0 } } ?_ ?_
  · rw [startRequest, built]
    rfl
  refine Decided.after () { link with fields := { link.fields with session := some 0 } } rfl ?_
  exact await.seq fun _ after => ⟨(), _, rfl⟩

theorem decided_start (h : Answered device startHandshake tags response chunks)
    (brings : Brings socket 0 chunks) (transport : buildTransport device = .ok ())
    {key code : String} (reader : strip code = device.code) (named : strip key ≠ "")
    (inactive : link.fields.session = none ∨ link.fields.activeSessionKey = none) :
    Decided socket (start device key code) link
      (WithinBudget (completing (frameEnds 0 (tags ++ [response])) 0 chunks)) := by
  have idle : (link.fields.session.isSome && link.fields.activeSessionKey.isSome) = false := by
    rcases inactive with none | none
    · rw [none]; rfl
    · rw [none]; exact Bool.and_false _
  rw [start, if_neg (not_not.mpr reader), if_neg named]
  refine Decided.after _ link (eval_isActive link) ?_
  rw [idle, if_neg (by decide), openAndStart, transport]
  refine Decided.after () link rfl ?_
  have inventory := decided_startInventory h brings (strip key) { link with session := {} } rfl
  have connected : (Prog.perform BridgeOp.connect : Bridge Nat).eval (ReaderLink.answer socket)
      link = (.ok 0, { link with session := {} }) := Prog.eval_perform _ _ _
  rw [Decided, eval_tryElse, connected]
  dsimp only
  rw [eval_tryElse]
  constructor
  · intro holds
    obtain ⟨value, after, ran⟩ := inventory.1 holds
    rw [ran]
    exact ⟨value, after, rfl⟩
  · intro fails
    obtain ⟨exc, after, ran, exception⟩ := inventory.2 fails
    rw [ran]
    dsimp only
    rw [if_pos exception]
    exact ⟨exc, _, rfl, exception⟩

theorem eval_close (link : ReaderLink) :
    ∃ after, close.eval (ReaderLink.answer socket) link = (.ok (), after) := by
  have closed : ∃ after, closeOpenSession.eval (ReaderLink.answer socket) link =
      (.ok (), after) := by
    change ∃ after, (Prog.bind _ _).eval _ _ = _
    rw [Prog.eval_bind, readSession, Prog.eval_perform, ReaderLink.answer]
    cases session : link.fields.session with
    | none => exact ⟨_, rfl⟩
    | some connection =>
        dsimp only
        rw [if_neg (by simp)]
        change ∃ after, (Prog.bind _ _).eval _ _ = _
        rw [Prog.eval_bind, readSession, Prog.eval_perform, ReaderLink.answer, session]
        exact ⟨_, rfl⟩
  obtain ⟨after, ran⟩ := closed
  change ∃ after, (Prog.bind _ _).eval _ _ = _
  rw [Prog.eval_bind, ran]
  exact ⟨_, rfl⟩

theorem decided_stop (h : Answered device stopHandshake tags response chunks)
    (brings : Brings socket link.session.position chunks)
    (boundary : link.session.decoder.pendingBytes = []) (opened : link.session.isOpen = true)
    {key code : String} {connection : Nat} (reader : strip code = device.code)
    (connected : link.fields.session = some connection)
    (active : link.fields.activeSessionKey = some (strip key)) :
    Decided socket (stop device key code) link
      (WithinBudget (completing (frameEnds 0 (tags ++ [response])) 0 chunks)) := by
  obtain ⟨request, built⟩ := request_built (address_lt_of_accepted h.accepted) 11
    (by decide) commandStop [] (by decide)
  have await := h.await link.session brings boundary opened (by decide) (by decide)
    (some connection)
    (withSession fun connection => receive connection stopHandshake.expectedCommands)
    (fun link same => eval_withSession_receive same _) link connected rfl
  rw [if_pos (by decide)] at await
  rw [stop, if_neg (not_not.mpr reader)]
  refine Decided.after _ link (eval_isActive link) ?_
  rw [connected, active, if_neg (by simp)]
  refine Decided.after (some (strip key)) link ?_ ?_
  · rw [readActiveSessionKey, Prog.eval_perform, ReaderLink.answer, active]
  rw [if_neg (by simp)]
  refine Decided.finally ?_ eval_close
  refine Decided.after request link ?_ ?_
  · rw [stopRequest, built]
    rfl
  refine Decided.after () link ?_ ?_
  · change (Prog.bind _ _).eval _ _ = _
    rw [Prog.eval_bind, readSession, Prog.eval_perform, ReaderLink.answer, connected]
    rfl
  exact await.seq fun _ after => ⟨(), after, rfl⟩

theorem decided_verifyIdle (h : Answered device verifyHandshake tags response chunks)
    (brings : Brings socket 0 chunks) (transport : buildTransport device = .ok ())
    (inactive : link.fields.session = none ∨ link.fields.activeSessionKey = none) :
    Decided socket (verifyIdle device) link (chunks.length ≤ 32) := by
  have idle : (link.fields.session.isSome && link.fields.activeSessionKey.isSome) = false := by
    rcases inactive with none | none
    · rw [none]; rfl
    · rw [none]; exact Bool.and_false _
  obtain ⟨request, built⟩ := request_built (address_lt_of_accepted h.accepted) 11
    (by decide) commandStop [] (by decide)
  have await := h.await {} brings rfl rfl (by decide) (by decide) link.fields.session
    (receive 0 verifyHandshake.expectedCommands)
    (fun link _ => eval_receive 0 _ link) { link with session := {} } rfl rfl
  rw [if_neg (by decide)] at await
  refine Decided.after _ link (eval_isActive link) ?_
  rw [idle, if_neg (by decide), transport]
  refine Decided.after () link rfl ?_
  refine Decided.after 0 { link with session := {} }
    (Prog.eval_perform _ _ _) ?_
  refine Decided.finally ?_ fun link => ⟨_, rfl⟩
  refine Decided.after request { link with session := {} } ?_ ?_
  · rw [stopRequest, built]
    rfl
  refine Decided.after () { link with session := {} } rfl ?_
  exact await.seq fun _ after => ⟨(), after, rfl⟩

end
end Segmentation

open Segmentation

/-- The three handshakes against an answer of tag frames and an accepted response: START
and STOP return exactly when at most 32 chunks of the answer hold the end of a frame and
at most 32 chunks are read up to each of them, verify_idle exactly when the answer comes in
at most 32 chunks. -/
theorem handshakes_within_budget (device : ReaderDevice) (socket : Socket) (link : ReaderLink)
    (tags : List RFIDFrame) (response : RFIDFrame) (chunks : List Bytes) (key code : String) :
    (Answered device startHandshake tags response chunks → Brings socket 0 chunks →
      buildTransport device = .ok () → strip code = device.code → strip key ≠ "" →
      (link.fields.session = none ∨ link.fields.activeSessionKey = none) →
      (((start device key code).eval (ReaderLink.answer socket) link).1 = .ok () ↔
        WithinBudget (completing (frameEnds 0 (tags ++ [response])) 0 chunks))) ∧
    (Answered device stopHandshake tags response chunks →
      Brings socket link.session.position chunks → link.session.isOpen = true →
      link.session.decoder.pendingBytes = [] → link.fields.session.isSome = true →
      strip code = device.code → link.fields.activeSessionKey = some (strip key) →
      (((stop device key code).eval (ReaderLink.answer socket) link).1 = .ok () ↔
        WithinBudget (completing (frameEnds 0 (tags ++ [response])) 0 chunks))) ∧
    (Answered device verifyHandshake tags response chunks → Brings socket 0 chunks →
      buildTransport device = .ok () →
      (link.fields.session = none ∨ link.fields.activeSessionKey = none) →
      (((verifyIdle device).eval (ReaderLink.answer socket) link).1 = .ok () ↔
        chunks.length ≤ 32)) := by
  refine ⟨?_, ?_, ?_⟩
  · intro answered brings transport reader named inactive
    exact decided_iff (decided_start answered brings transport reader named inactive)
  · intro answered brings opened boundary connected reader active
    obtain ⟨connection, some⟩ := Option.isSome_iff_exists.mp connected
    exact decided_iff (decided_stop answered brings boundary opened reader some active)
  · intro answered brings transport inactive
    exact decided_iff (decided_verifyIdle answered brings transport inactive)

namespace Segmentation

/-- A socket that gives the chunks and then falls silent. -/
def playing (chunks : List Bytes) : Socket := fun i =>
  match chunks[i]? with
  | some chunk => .chunk chunk
  | none => .timeout "timed out"

theorem brings_playing (chunks : List Bytes) : Brings (playing chunks) 0 chunks := by
  intro i chunk present
  rw [Nat.zero_add, playing, present]

/-- The reader sends its tag some times and then a response. -/
def answerOf (count : Nat) (response : RFIDFrame) : List RFIDFrame :=
  List.replicate count Installation.tag ++ [response]

theorem answered_answerOf {wait : Handshake} {count : Nat} {response : RFIDFrame}
    (wellFormed : parseFrame response.rawFrame = .ok response)
    (accepted : Accepted Installation.reader wait response) (chunks : List Bytes)
    (nonempty : ∀ chunk ∈ chunks, chunk ≠ [])
    (whole : chunks.flatten = (answerOf count response).flatMap RFIDFrame.rawFrame) :
    Answered Installation.reader wait (List.replicate count Installation.tag) response chunks where
  wellFormed frame member := by
    rcases List.mem_append.mp member with tag | last
    · rw [List.eq_of_mem_replicate tag]
      exact parseFrame_frameBytes _ _ _ _ _ (by decide)
    · rw [List.mem_singleton.mp last]
      exact wellFormed
  allTags tag member := by
    rw [List.eq_of_mem_replicate member]
    exact ⟨rfl, rfl, rfl⟩
  accepted
  nonempty
  whole

theorem answered_start (count : Nat) (chunks : List Bytes)
    (nonempty : ∀ chunk ∈ chunks, chunk ≠ [])
    (whole : chunks.flatten =
      (answerOf count Installation.startResponse).flatMap RFIDFrame.rawFrame) :
    Answered Installation.reader startHandshake (List.replicate count Installation.tag)
      Installation.startResponse chunks :=
  answered_answerOf (parseFrame_frameBytes _ _ _ _ _ (by decide)) ⟨rfl, by decide, rfl⟩ chunks
    nonempty whole

/-- The connection of a session that is being read. -/
def reading : ReaderLink where
  fields := { session := some 0, activeSessionKey := some "S1" }

/-- The bytes of the frames, each in a chunk of its own. -/
def frameByFrame (response : RFIDFrame) : List Bytes :=
  (answerOf 3 response).map RFIDFrame.rawFrame

end Segmentation

/-- The three handshakes with three tag frames in front of the response, frame by frame. -/
theorem handshakes_within_budget_frames :
    ((start Installation.reader "S1" "GATE-1").eval
      (ReaderLink.answer (playing (frameByFrame Installation.startResponse))) {}).1 = .ok () ∧
    ((stop Installation.reader "S1" "GATE-1").eval
      (ReaderLink.answer (playing (frameByFrame Installation.stopResponse))) reading).1 = .ok () ∧
    ((verifyIdle Installation.reader).eval
      (ReaderLink.answer (playing (frameByFrame Installation.stopResponse))) {}).1 = .ok () := by
  have transport : buildTransport Installation.reader = .ok () := by decide +kernel
  have reader : strip "GATE-1" = Installation.reader.code := by decide +kernel
  have key : strip "S1" = "S1" := by decide +kernel
  have stopped : parseFrame Installation.stopResponse.rawFrame = .ok Installation.stopResponse :=
    parseFrame_frameBytes _ _ _ _ _ (by decide)
  have nonempty : ∀ chunk ∈ frameByFrame Installation.stopResponse, chunk ≠ [] := by
    decide +kernel
  refine ⟨?_, ?_, ?_⟩
  · have budget := (handshakes_within_budget Installation.reader
      (playing (frameByFrame Installation.startResponse)) {} (List.replicate 3 Installation.tag)
      Installation.startResponse (frameByFrame Installation.startResponse) "S1" "GATE-1").1
    refine (budget ?_ (brings_playing _) transport reader (by decide +kernel) (.inl rfl)).mpr ?_
    · exact answered_start 3 _ (by decide +kernel) rfl
    · decide +kernel
  · have budget := (handshakes_within_budget Installation.reader
      (playing (frameByFrame Installation.stopResponse)) reading (List.replicate 3 Installation.tag)
      Installation.stopResponse (frameByFrame Installation.stopResponse) "S1" "GATE-1").2.1
    refine (budget ?_ (brings_playing _) rfl rfl rfl reader (congrArg some key.symm)).mpr ?_
    · exact answered_answerOf stopped ⟨rfl, by decide, rfl⟩ _ nonempty rfl
    · decide +kernel
  · have budget := (handshakes_within_budget Installation.reader
      (playing (frameByFrame Installation.stopResponse)) {} (List.replicate 3 Installation.tag)
      Installation.stopResponse (frameByFrame Installation.stopResponse) "S1" "GATE-1").2.2
    refine (budget ?_ (brings_playing _) transport (.inl rfl)).mpr (by decide)
    exact answered_answerOf stopped ⟨rfl, by decide, rfl⟩ _ nonempty rfl

/-- The same answer to START arrives as one chunk, and START returns; it arrives frame by
frame, and START raises. -/
theorem start_depends_on_segmentation :
    ∃ whole cut : List Bytes, whole.flatten = cut.flatten ∧
      Answered Installation.reader startHandshake (List.replicate 32 Installation.tag)
        Installation.startResponse whole ∧
      Answered Installation.reader startHandshake (List.replicate 32 Installation.tag)
        Installation.startResponse cut ∧
      ((start Installation.reader "S1" "GATE-1").eval (ReaderLink.answer (playing whole))
        {}).1 = .ok () ∧
      ((start Installation.reader "S1" "GATE-1").eval (ReaderLink.answer (playing cut))
        {}).1 ≠ .ok () := by
  have transport : buildTransport Installation.reader = .ok () := by decide +kernel
  have reader : strip "GATE-1" = Installation.reader.code := by decide +kernel
  have named : strip "S1" ≠ "" := by decide +kernel
  have whole := answered_start 32
    [(answerOf 32 Installation.startResponse).flatMap RFIDFrame.rawFrame] (by decide +kernel)
    (by simp)
  have cut := answered_start 32 ((answerOf 32 Installation.startResponse).map RFIDFrame.rawFrame)
    (by decide +kernel) rfl
  refine ⟨_, _, by rw [whole.whole, cut.whole], whole, cut, ?_, ?_⟩
  · rw [decided_iff (decided_start whole (brings_playing _) transport reader named (.inl rfl))]
    decide +kernel
  · rw [ne_eq, decided_iff (decided_start cut (brings_playing _) transport reader named (.inl rfl))]
    decide +kernel

end RfidBridge
