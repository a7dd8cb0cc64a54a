import Mathlib.Data.List.Forall2
import RfidBridge.Scan.ActiveInventory

/-!
A timed scan stops the reader on every way out, and its result is what the scan window
received: all tag frames, and the first data of each EPC.
-/

namespace RfidBridge

namespace ReaderCall

def isSend : ReaderCall → Bool
  | .sent .. => true
  | .received .. => false

/-- The frames that a call delivered. -/
def frames : ReaderCall → List RFIDFrame
  | .received _ _ _ (.ok frames) => frames
  | .sent .. | .received _ _ _ (.error _) => []

end ReaderCall

/-- The frames of some calls, in the order of their arrival. -/
def framesReceived (calls : List ReaderCall) : List RFIDFrame :=
  calls.flatMap ReaderCall.frames

def NothingSent (calls : List ReaderCall) : Prop := ∀ call ∈ calls, call.isSend = false

@[simp] theorem framesReceived_append (calls more : List ReaderCall) :
    framesReceived (calls ++ more) = framesReceived calls ++ framesReceived more :=
  List.flatMap_append

theorem nothingSent_nil : NothingSent [] := nofun

theorem NothingSent.concat {calls : List ReaderCall} (nothing : NothingSent calls)
    {expectedCommands : List UInt8} {maximumReads : Nat} {timeoutReturnsEmpty : Bool}
    {answer : Except PyException (List RFIDFrame)} :
    NothingSent
      (calls ++ [.received expectedCommands maximumReads timeoutReturnsEmpty answer]) := by
  intro call member
  rcases List.mem_append.mp member with before | last
  · exact nothing call before
  · rw [List.mem_singleton.mp last]
    rfl

/-- What tags hold of tag frames: the distinct EPCs in the order of first appearance, each
with the data of its first frame. -/
def FirstOfEach (tagFrames : List RFIDFrame) (tags : List RFIDTagData) : Prop :=
  ∃ parsed, List.Forall₂ (fun frame tag => parseTagData frame.payload = .ok tag) tagFrames parsed ∧
    tags.map (·.epc) = (parsed.map (·.epc)).eraseDups ∧
    ∀ tag ∈ tags, parsed.find? (·.epc == tag.epc) = some tag

namespace ActiveInventoryReaderClient
variable {τ : Type} (client : ActiveInventoryReaderClient τ)

/-- What the locals of run say of the frames processed so far. -/
structure Collected (frames : List RFIDFrame) (state : ScanState) : Prop where
  started : state.startFrame = frames.find? (·.command = commandStartInventory)
  accepted : ∀ frame ∈ state.startFrame, frame.status ∈ acceptedStartStatuses
  tagged : state.tagFrames = frames.filter (·.command = commandActiveTag)
  first : ∃ parsed,
    List.Forall₂ (fun frame tag => parseTagData frame.payload = .ok tag) state.tagFrames parsed ∧
    state.tagsByEpc = Dict.byKey RFIDTagData.epc parsed

theorem collected_nil : Collected [] {} where
  started := rfl
  accepted := nofun
  tagged := rfl
  first := ⟨[], .nil, rfl⟩

/-- The ways a frame gets through a round of _process_frames. -/
theorem processFrame_cases {state state' : ScanState} {frame : RFIDFrame}
    (processed : client.processFrame state frame = .ok state') :
    (frame.command = commandStartInventory ∧ frame.status ∈ acceptedStartStatuses ∧
      state' = { state with startFrame := state.startFrame.or (some frame) }) ∨
    (frame.command ≠ commandStartInventory ∧ frame.command ≠ commandActiveTag ∧ state' = state) ∨
    ∃ tag, frame.command = commandActiveTag ∧ parseTagData frame.payload = .ok tag ∧
      state' = { state with
        tagFrames := state.tagFrames ++ [frame]
        tagsByEpc := Dict.setDefault state.tagsByEpc tag.epc tag } := by
  unfold processFrame at processed
  obtain ⟨_, -, processed⟩ := bind_eq_ok.mp processed
  split at processed
  · rename_i start
    split at processed
    · cases processed
    · rename_i accepted
      exact .inl ⟨start, not_not.mp accepted, (Except.ok.inj processed).symm⟩
  · rename_i noStart
    split at processed
    · rename_i noTag
      exact .inr (.inl ⟨noStart, noTag, (Except.ok.inj processed).symm⟩)
    · rename_i isTag
      split at processed
      · cases processed
      · obtain ⟨tag, parsed, processed⟩ := bind_eq_ok.mp processed
        split at processed
        · cases processed
        · exact .inr (.inr ⟨tag, not_not.mp isTag, parsed, (Except.ok.inj processed).symm⟩)

theorem Collected.processFrame {frames : List RFIDFrame} {state state' : ScanState}
    (collected : Collected frames state) {frame : RFIDFrame}
    (processed : client.processFrame state frame = .ok state') :
    Collected (frames ++ [frame]) state' := by
  obtain ⟨started, accepted, tagged, parsed, parses, first⟩ := collected
  rcases client.processFrame_cases processed with
    ⟨isStart, fine, rfl⟩ | ⟨noStart, noTag, rfl⟩ | ⟨tag, isTag, parse, rfl⟩
  · have noTag : frame.command ≠ commandActiveTag := by rw [isStart]; decide
    refine ⟨?_, ?_, by simp [tagged, noTag], parsed, parses, first⟩
    · simp [started, List.find?_append, isStart]
    · intro shown member
      rcases Option.or_eq_some_iff.mp member with earlier | ⟨-, same⟩
      · exact accepted shown earlier
      · rwa [← Option.some.inj same]
  · exact ⟨by simp [started, List.find?_append, noStart], accepted, by simp [tagged, noTag],
      parsed, parses, first⟩
  · have noStart : frame.command ≠ commandStartInventory := by rw [isTag]; decide
    refine ⟨by simp [started, List.find?_append, noStart], accepted, by simp [tagged, isTag],
      parsed ++ [tag], List.rel_append parses (.cons parse .nil), ?_⟩
    simp only [first, Dict.byKey_concat]

theorem Collected.processFrames {frames : List RFIDFrame} {state state' : ScanState}
    (collected : Collected frames state) {batch : List RFIDFrame}
    (processed : client.processFrames batch state = .ok state') :
    Collected (frames ++ batch) state' := by
  induction batch generalizing frames state with
  | nil =>
      cases processed
      simpa using collected
  | cons frame batch ih =>
      obtain ⟨mid, one, rest⟩ := bind_eq_ok.mp processed
      simpa using ih (collected.processFrame client one) rest

/-- The reader was started and then stopped, once each, around the calls of the window. -/
def StoppedOnce (calls window closing : List ReaderCall) : Prop :=
  ∃ startRequest stopRequest answer,
    client.startRequest = .ok startRequest ∧ client.stopRequest = .ok stopRequest ∧
    calls = .sent startRequest (.ok ()) :: window ++ .sent stopRequest answer :: closing ∧
    NothingSent window ∧ NothingSent closing

/-- What a result says of the calls of the scan window and of those after the STOP request. -/
structure ScanReport (window closing : List ReaderCall) (result : ActiveInventoryResult) :
    Prop where
  started : (framesReceived window).find? (·.command = commandStartInventory) =
    some result.startFrame
  accepted : result.startFrame.status ∈ acceptedStartStatuses
  stopped : framesReceived closing = [result.stopFrame]
  stopCommand : result.stopFrame.command = commandStop
  stopAddress : result.stopFrame.address.toNat = client.address
  stopStatus : result.stopFrame.status = 0
  tagFrames : result.tagFrames = (framesReceived window).filter (·.command = commandActiveTag)
  total : result.totalTagFrames = result.tagFrames.length
  tags : FirstOfEach result.tagFrames result.tags

/-- The calls so far, with those of a scan window at their end. -/
def WithinWindow (opening calls : List ReaderCall) : Prop :=
  ∃ window, calls = opening ++ window ∧ NothingSent window

/-- The same where the locals of run say what the window received. -/
def CollectedWindow (opening : List ReaderCall) (state : ScanState) (calls : List ReaderCall) :
    Prop :=
  ∃ window, calls = opening ++ window ∧ NothingSent window ∧
    Collected (framesReceived window) state

abbrev scanner : Actor (ScanOp τ) ScanOp.Answer PyException (List ReaderCall) :=
  Actor.alone ScanExec

/-- What one receive of the scan loop adds to the window. -/
theorem sat_scanFrames {opening : List ReaderCall} {state : ScanState}
    {calls : List ReaderCall} (collected : CollectedWindow opening state calls) :
    scanner.Sat (receive (τ := τ) scanCommands true)
      (Actor.ends (fun frames calls' => WithinWindow opening calls' ∧
        ∀ state', client.processFrames frames state = .ok state' →
          CollectedWindow opening state' calls') fun _ => WithinWindow opening) calls := by
  apply Actor.Sat.perform_alone
  intro answer calls' received
  cases received
  obtain ⟨window, rfl, nothing, known⟩ := collected
  have within : WithinWindow opening
      (opening ++ window ++ [.received scanCommands 32 true answer]) :=
    ⟨window ++ [_], List.append_assoc .., nothing.concat⟩
  cases answer with
  | error exc => exact within
  | ok frames =>
      refine ⟨within, fun state' processed => ?_⟩
      refine ⟨window ++ [_], List.append_assoc .., nothing.concat, ?_⟩
      rw [framesReceived_append]
      simpa [framesReceived, ReaderCall.frames] using known.processFrames client processed

section
variable [LT τ] [DecidableLT τ]

theorem sat_scanUntil {opening : List ReaderCall} (deadline : τ) (rounds : Nat)
    {state : ScanState} {calls : List ReaderCall}
    (collected : CollectedWindow opening state calls) :
    scanner.Sat (client.scanUntil deadline rounds state)
      (Actor.ends (CollectedWindow opening) fun _ => WithinWindow opening) calls := by
  induction rounds generalizing state calls with
  | zero =>
      -- the clock has not reached the deadline, and nothing more is observed
      apply Actor.Sat.seq_alone (P := fun _ _ => True)
      · apply Actor.Sat.perform_alone
        intro answer calls' beyond
        cases beyond
      · exact fun never _ _ => nomatch never
  | succ rounds ih =>
      apply Actor.Sat.seq_alone (P := fun _ => CollectedWindow opening state)
      · apply Actor.Sat.perform_alone
        intro answer calls' shown
        cases shown
        exact collected
      intro now calls' collected'
      split
      · refine Actor.Sat.seq_alone (client.sat_scanFrames collected') ?_
        intro frames calls'' received
        apply Actor.Sat.seq_alone (P := CollectedWindow opening)
        · apply Actor.Sat.ofExcept_alone
          cases processed : client.processFrames frames state with
          | ok state' => exact received.2 state' processed
          | error exc => exact received.1
        · exact fun _ _ => ih
      · exact Actor.Sat.ret_alone collected'

end

/-- The STOP request was sent after these calls, and nothing after it. -/
def Stopping (stopRequest : Bytes) (before calls : List ReaderCall) : Prop :=
  ∃ answer closing, calls = before ++ .sent stopRequest answer :: closing ∧ NothingSent closing

/-- The same where these frames were received then. -/
def StoppingWith (stopRequest : Bytes) (before : List ReaderCall) (frames : List RFIDFrame)
    (calls : List ReaderCall) : Prop :=
  ∃ answer closing, calls = before ++ .sent stopRequest answer :: closing ∧
    NothingSent closing ∧ framesReceived closing = frames

theorem StoppingWith.stopping {stopRequest : Bytes} {before calls : List ReaderCall}
    {frames : List RFIDFrame} (stopped : StoppingWith stopRequest before frames calls) :
    Stopping stopRequest before calls := by
  obtain ⟨answer, closing, split, nothing, -⟩ := stopped
  exact ⟨answer, closing, split, nothing⟩

theorem sat_stopInventory (stopRequest : Bytes) (before : List ReaderCall) :
    scanner.Sat (client.stopInventory (τ := τ) stopRequest)
      (Actor.ends (fun stopFrame calls => StoppingWith stopRequest before [stopFrame] calls ∧
        requireSuccess stopFrame client.address commandStop = .ok ())
        fun _ => Stopping stopRequest before) before := by
  apply Actor.Sat.seq_alone (P := fun _ => StoppingWith stopRequest before [])
  · apply Actor.Sat.perform_alone
    intro answer calls sent
    cases sent
    cases answer with
    | error exc => exact ⟨.error exc, [], rfl, nothingSent_nil⟩
    | ok _ => exact ⟨.ok (), [], rfl, nothingSent_nil, rfl⟩
  rintro _ _ ⟨stopAnswer, closing, rfl, nothing, none⟩
  apply Actor.Sat.seq_alone (P := StoppingWith stopRequest before)
  · apply Actor.Sat.perform_alone
    intro answer calls received
    cases received
    have later : Stopping stopRequest before
        (before ++ .sent stopRequest stopAnswer :: closing ++
          [.received [commandStop] 32 false answer]) :=
      ⟨stopAnswer, closing ++ [.received [commandStop] 32 false answer], by simp, nothing.concat⟩
    cases answer with
    | error exc => exact later
    | ok frames =>
        refine ⟨stopAnswer, closing ++ [.received [commandStop] 32 false (.ok frames)],
          by simp, nothing.concat, ?_⟩
        rw [framesReceived_append, none]
        simp [framesReceived, ReaderCall.frames]
  intro frames calls stopped
  split
  · rename_i stopFrame
    apply Actor.Sat.seq_alone
      (P := fun _ calls => StoppingWith stopRequest before [stopFrame] calls ∧
        requireSuccess stopFrame client.address commandStop = .ok ())
    · apply Actor.Sat.ofExcept_alone
      cases checked : requireSuccess stopFrame client.address commandStop with
      | error exc => exact stopped.stopping
      | ok _ => exact ⟨stopped, rfl⟩
    · intro _ _ known
      apply Actor.Sat.ret_alone
      exact known
  · exact Actor.Sat.ofExcept_alone stopped.stopping

/-- The START request has got through. -/
def StartSent (calls : List ReaderCall) : Prop :=
  ∃ startRequest, client.startRequest = .ok startRequest ∧ .sent startRequest (.ok ()) ∈ calls

theorem scanResult_eq_ok {state : ScanState} {stopFrame : RFIDFrame}
    {result : ActiveInventoryResult} (shown : scanResult state stopFrame = .ok result) :
    ∃ startFrame, state.startFrame = some startFrame ∧ result = {
      startFrame
      stopFrame
      tagFrames := state.tagFrames
      tags := state.tagsByEpc.map Prod.snd
      totalTagFrames := state.tagFrames.length } := by
  unfold scanResult at shown
  split at shown
  · cases shown
  · rename_i startFrame started
    exact ⟨startFrame, started, (Except.ok.inj shown).symm⟩

theorem requireSuccess_eq_ok {frame : RFIDFrame} {expectedAddress : Nat} {expectedCommand : UInt8}
    (checked : requireSuccess frame expectedAddress expectedCommand = .ok ()) :
    frame.address.toNat = expectedAddress ∧ frame.command = expectedCommand ∧
      frame.status = 0 := by
  simp only [requireSuccess, readerClientError, raised, guard_eq_ok, not_not] at checked
  exact ⟨checked.1, checked.2.1, checked.2.2.1⟩

theorem Collected.firstOfEach {frames : List RFIDFrame} {state : ScanState}
    (collected : Collected frames state) :
    FirstOfEach state.tagFrames (state.tagsByEpc.map Prod.snd) := by
  obtain ⟨parsed, parses, known⟩ := collected.first
  have entry : ∀ e ∈ Dict.byKey RFIDTagData.epc parsed,
      parsed.find? (·.epc == e.1) = some e.2 := fun _ => Dict.find?_of_mem_byKey _
  have keyed : ∀ e ∈ Dict.byKey RFIDTagData.epc parsed, e.2.epc = e.1 := by
    intro e member
    simpa using List.find?_some (entry e member)
  refine ⟨parsed, parses, ?_, ?_⟩
  · rw [known, List.map_map, ← Dict.keys_byKey]
    exact List.map_congr_left keyed
  · rw [known]
    intro tag member
    obtain ⟨e, inside, rfl⟩ := List.mem_map.mp member
    rw [keyed e inside]
    exact entry e inside

theorem Collected.report {window closing : List ReaderCall} {state : ScanState}
    (collected : Collected (framesReceived window) state) {stopFrame : RFIDFrame}
    (stopped : framesReceived closing = [stopFrame])
    (checked : requireSuccess stopFrame client.address commandStop = .ok ())
    {result : ActiveInventoryResult} (shown : scanResult state stopFrame = .ok result) :
    client.ScanReport window closing result := by
  obtain ⟨startFrame, started, rfl⟩ := scanResult_eq_ok shown
  obtain ⟨address, command, status⟩ := requireSuccess_eq_ok checked
  exact {
    started := collected.started.symm.trans started
    accepted := collected.accepted startFrame started
    stopped
    stopCommand := command
    stopAddress := address
    stopStatus := status
    tagFrames := collected.tagged
    total := rfl
    tags := collected.firstOfEach }

/-- What run promises of each way it can end. -/
def RunEnds : Except PyException ActiveInventoryResult → List ReaderCall → Prop :=
  Actor.ends
    (fun result calls => ∃ window closing, client.StoppedOnce calls window closing ∧
      client.ScanReport window closing result)
    fun _ calls =>
      ¬ client.StartSent calls ∨ ∃ window closing, client.StoppedOnce calls window closing

/-- The reader is stopped whichever way the loop ended, and reported on if it ended well. -/
theorem sat_finally {startRequest stopRequest : Bytes}
    (start : client.startRequest = .ok startRequest) (stop : client.stopRequest = .ok stopRequest)
    {scanned : Except PyException ScanState} {calls : List ReaderCall}
    (scan : Actor.ends (CollectedWindow [.sent startRequest (.ok ())])
      (fun _ => WithinWindow [.sent startRequest (.ok ())]) scanned calls) :
    scanner.Sat ((client.stopInventory (τ := τ) stopRequest).bind fun stopFrame =>
      (Prog.ofExcept scanned : Scan τ ScanState).bind fun state =>
        Prog.ofExcept (scanResult state stopFrame)) client.RunEnds calls := by
  have within : WithinWindow [.sent startRequest (.ok ())] calls := by
    cases scanned with
    | error exc => exact scan
    | ok state =>
        obtain ⟨window, split, nothing, -⟩ := scan
        exact ⟨window, split, nothing⟩
  have once : ∀ calls', Stopping stopRequest calls calls' →
      ∃ window closing, client.StoppedOnce calls' window closing := by
    rintro _ ⟨answer, closing, rfl, nothing'⟩
    obtain ⟨window, rfl, nothing⟩ := within
    exact ⟨window, closing, startRequest, stopRequest, answer, start, stop, rfl, nothing, nothing'⟩
  apply Actor.Sat.seq_alone
    (P := fun stopFrame calls' => StoppingWith stopRequest calls [stopFrame] calls' ∧
      requireSuccess stopFrame client.address commandStop = .ok ())
  · apply (client.sat_stopInventory stopRequest calls).mono
    intro outcome calls' stopped
    cases outcome with
    | ok stopFrame => exact stopped
    | error exc => exact .inr (once calls' stopped)
  rintro stopFrame calls' ⟨stopped, checked⟩
  cases scanned with
  | error exc =>
      apply Actor.Sat.raise
      rintro _ rfl
      exact .inr (once calls' stopped.stopping)
  | ok state =>
      apply Actor.Sat.ofExcept_alone
      cases shown : scanResult state stopFrame with
      | error exc => exact .inr (once calls' stopped.stopping)
      | ok result =>
          obtain ⟨window, rfl, nothing, collected⟩ := scan
          obtain ⟨answer, closing, rfl, nothing', frames⟩ := stopped
          exact ⟨window, closing,
            ⟨startRequest, stopRequest, answer, start, stop, rfl, nothing, nothing'⟩,
            collected.report client frames checked shown⟩

/-- A request is built in front of everything else. -/
theorem sat_request {request : Except PyException Bytes} {Q : ActiveInventoryResult →
    List ReaderCall → Prop} {f : Bytes → Scan τ ActiveInventoryResult} {calls : List ReaderCall}
    {E : PyException → List ReaderCall → Prop} (failed : ∀ exc, E exc calls)
    (built : ∀ bytes, request = .ok bytes → scanner.Sat (f bytes) (Actor.ends Q E) calls) :
    scanner.Sat ((Prog.ofExcept request : Scan τ Bytes).bind f) (Actor.ends Q E) calls := by
  cases request with
  | ok bytes => exact built bytes rfl
  | error exc =>
      apply Actor.Sat.raise
      rintro _ rfl
      exact failed exc

section
variable [Add τ] [LT τ] [DecidableLT τ]

theorem sat_run : scanner.Sat client.run client.RunEnds [] := by
  have unsent : ¬ client.StartSent [] := fun ⟨_, _, sent⟩ => nomatch sent
  apply sat_request fun _ => .inl unsent
  intro startRequest start
  apply sat_request fun _ => .inl unsent
  intro stopRequest stop
  apply Actor.Sat.seq_alone (P := fun _ calls => calls = [.sent startRequest (.ok ())])
  · apply Actor.Sat.perform_alone
    intro answer calls sent
    cases sent
    cases answer with
    | error exc =>
        refine .inl fun ⟨request, _, sent⟩ => ?_
        cases List.mem_singleton.mp sent
    | ok _ => rfl
  rintro _ _ rfl
  apply Actor.Sat.seq_alone (P := fun _ calls => calls = [.sent startRequest (.ok ())])
  · apply Actor.Sat.perform_alone
    intro answer calls shown
    cases shown
    rfl
  rintro started _ rfl
  apply Actor.Sat.seq_alone (P := fun _ calls => calls = [.sent startRequest (.ok ())])
  · apply Actor.Sat.perform_alone
    intro answer calls shown
    cases shown
    rfl
  rintro rounds _ rfl
  apply Actor.Sat.handle
  have empty : CollectedWindow [.sent startRequest (.ok ())] {} [.sent startRequest (.ok ())] :=
    ⟨[], rfl, nothingSent_nil, collected_nil⟩
  apply (client.sat_scanUntil (started + client.scanSeconds) rounds empty).mono
  intro scanned calls scan
  exact client.sat_finally start stop scan

/-- Whatever the session answers and the clock shows, a scan that has started the reader sends
exactly one STOP request after it, and what it returns is what its window received. -/
theorem timedScan_stops_and_reports {outcome : Except PyException ActiveInventoryResult}
    {calls : List ReaderCall} (run : client.run.Runs ScanExec [] outcome calls) :
    (client.StartSent calls → ∃ window closing, client.StoppedOnce calls window closing) ∧
    ∀ result, outcome = .ok result →
      ∃ window closing, client.StoppedOnce calls window closing ∧
        client.ScanReport window closing result := by
  have ended := run.post client.sat_run
  cases outcome with
  | ok result =>
      obtain ⟨window, closing, once, report⟩ := ended
      refine ⟨fun _ => ⟨window, closing, once⟩, fun _ same => ?_⟩
      rw [← Except.ok.inj same]
      exact ⟨window, closing, once, report⟩
  | error exc =>
      refine ⟨fun sent => ?_, nofun⟩
      rcases ended with unsent | stopped
      · exact absurd sent unsent
      · exact stopped

end

end ActiveInventoryReaderClient

/-! A scan of ten seconds in which one tag answers twice and another once. -/

namespace DuplicateScan

def client : ActiveInventoryReaderClient Nat := ⟨2, by decide, 10⟩

def frame (command status : UInt8) (payload : Bytes) : RFIDFrame :=
  let body := frameWithoutCrc 2 0 command status payload
  ⟨2, 0, command, status, payload, body ++ BigEndian.encode 2 (calculateCrc body).toNat⟩

def startResponse : RFIDFrame := frame commandStartInventory 0x99 []

def stopResponse : RFIDFrame := frame commandStop 0 []

/-- A tag frame of an antenna, with a two-byte EPC. -/
def tag (antenna epc : UInt8) : RFIDFrame :=
  frame commandActiveTag 0 [0, 0, 0, 5, 1, antenna, 2, 0xE2, epc]

def batches : List (List RFIDFrame) :=
  [[startResponse, tag 1 0x80], [tag 3 0x80, tag 1 0x33], [stopResponse]]

def receives (calls : List ReaderCall) : Nat := calls.countP (!·.isSend)

/-- The session answers with the batches in turn, five seconds each. -/
def respond : (op : ScanOp Nat) → List ReaderCall →
    Option (Except PyException op.Answer × List ReaderCall)
  | .send request, calls => some (.ok (), calls ++ [.sent request (.ok ())])
  | .receive expectedCommands maximumReads timeoutReturnsEmpty, calls =>
      let answer := .ok (batches.getD (receives calls) [])
      some (answer, calls ++ [.received expectedCommands maximumReads timeoutReturnsEmpty answer])
  | .time, calls => some (.ok (100 + 5 * receives calls), calls)
  | .rounds, calls => some (.ok 3, calls)
  | .beyond, _ => none

theorem respond_sound (op : ScanOp Nat) (calls : List ReaderCall) (answer : Except _ op.Answer)
    (calls' : List ReaderCall) (h : respond op calls = some (answer, calls')) :
    ScanExec op calls answer calls' := by
  cases op <;> cases h <;> constructor

def calls : List ReaderCall := ((client.run.eval? respond []).map Prod.snd).getD []

def data (epc : String) : RFIDTagData := ⟨1, some 1, none, epc, "", none⟩

def result : ActiveInventoryResult where
  startFrame := startResponse
  stopFrame := stopResponse
  tagFrames := [tag 1 0x80, tag 3 0x80, tag 1 0x33]
  tags := [data "E280", data "E233"]
  totalTagFrames := 3

theorem scanned : client.run.Runs ScanExec [] (.ok result) DuplicateScan.calls := by
  have outcome : (client.run.eval? respond []).map Prod.fst = some (.ok result) := by
    decide +kernel
  obtain ⟨⟨ended, last⟩, evaluated, rfl⟩ := Option.map_eq_some_iff.mp outcome
  have same : last = DuplicateScan.calls := by rw [DuplicateScan.calls, evaluated]; rfl
  exact Prog.runs_of_eval? respond_sound (same ▸ evaluated)

end DuplicateScan

open DuplicateScan in
theorem timedScan_stops_and_reports_duplicate :
    (∃ window closing, client.StoppedOnce DuplicateScan.calls window closing) ∧
    ∃ window closing, client.StoppedOnce DuplicateScan.calls window closing ∧
      client.ScanReport window closing result := by
  have sent : ∃ startRequest, client.startRequest = .ok startRequest ∧
      .sent startRequest (.ok ()) ∈ DuplicateScan.calls :=
    ⟨(client.startRequest.toOption).getD [], by decide +kernel, by decide +kernel⟩
  have kept := client.timedScan_stops_and_reports scanned
  exact ⟨kept.1 sent, kept.2 result rfl⟩

end RfidBridge
