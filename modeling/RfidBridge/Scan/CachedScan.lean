import Mathlib.Data.List.Forall2
import Mathlib.Tactic.IntervalCases
import RfidBridge.Library.Conversation
import RfidBridge.Protocol.FrameCodec
import RfidBridge.Scan.CachedInventory

/-!
What a cached inventory asks of its reader and what its result says: the requests go out in
one fixed order, each after a good answer, and the tags are the rows of the cache.
-/

namespace RfidBridge
open BigEndian

inductive CacheStep
  | send (request : Bytes)
  | receive (expectedCommands : List UInt8)
  | sleep
  deriving DecidableEq

namespace CacheCall

def step : CacheCall → CacheStep
  | .sent request _ => .send request
  | .received expectedCommands _ => .receive expectedCommands
  | .slept _ => .sleep

/-- The frames that a call delivered. -/
def frames : CacheCall → List RFIDFrame
  | .received _ (.ok frames) => frames
  | .sent .. | .received _ (.error _) | .slept _ => []

end CacheCall

/-- A frame of the reader that reports success for the command. -/
structure Answers (address : Nat) (command : UInt8) (frame : RFIDFrame) : Prop where
  address : frame.address.toNat = address
  command : frame.command = command
  status : frame.status = 0

theorem requireSuccess_eq_ok_iff {frame : RFIDFrame} {address : Nat} {command : UInt8} :
    requireSuccess frame address command = .ok () ↔ Answers address command frame := by
  simp only [requireSuccess, readerClientError, raised, guard_eq_ok, not_not, and_true]
  exact ⟨fun h => ⟨h.1, h.2.1, h.2.2⟩, fun h => ⟨h.address, h.command, h.status⟩⟩

namespace CachedInventoryReaderClient
variable {τ : Type} (client : CachedInventoryReaderClient τ)

/-- The bytes of a request to the reader. -/
def requestBytes (sequence : Nat) (command : UInt8) (payload : Bytes) : Bytes :=
  frameBytes (.ofNat client.address) (.ofNat sequence) command 0 payload

def rowRequest (index : Nat) : Bytes :=
  client.requestBytes (sequence (20 + index)) commandCacheTag (encodeSigned 4 index)

/-- The answers that let a scan go on. -/
def Good : CacheCall → Prop
  | .sent _ (.ok _) | .slept (.ok _) => True
  | .received expectedCommands (.ok [frame]) =>
      ∃ command, expectedCommands = [command] ∧ Answers client.address command frame
  | .sent _ (.error _) | .slept (.error _) | .received .. => False

/-- What an answer to receive says is looked into. -/
def conversation : Conversation CacheStep CacheCall where
  asked := CacheCall.step
  good := client.Good
  judged
    | .receive _ => True
    | .send _ | .sleep => False

/-- The steps in front of the rows. -/
def opening : List CacheStep := [
  .send (client.requestBytes 1 commandHandshake (encode 4 1)),
  .receive [commandHandshake],
  .send (client.requestBytes 10 commandStartInventory (encode 4 1)),
  .sleep,
  .send (client.requestBytes 11 commandStop []),
  .receive [commandInventoryStatistics]]

def rowSteps (index : Nat) : List CacheStep :=
  [.send (client.rowRequest index), .receive [commandCacheTag]]

/-- The whole scan of a cache with this many rows. -/
def plan (count : Nat) : List CacheStep :=
  client.opening ++ (List.range count).flatMap client.rowSteps

/-- A row of the cache as the client accepts it. -/
structure Row (frame : RFIDFrame) (tag : RFIDTagData) : Prop where
  answers : Answers client.address commandCacheTag frame
  parsed : parseTagData frame.payload = .ok tag
  identified : tag.epc ≠ ""

/-- What a result says of the calls that were made for it. -/
structure CacheReport (calls : List CacheCall) (result : CachedInventoryResult) : Prop where
  followed : client.conversation.UpTo (client.plan result.expectedTagCount.toNat) calls
  statistics : parseInventoryStatistics result.statisticsFrame.payload =
    .ok ⟨result.durationMs, result.readCount, result.expectedTagCount⟩
  rows : ∃ handshakeFrame rows,
    calls.flatMap CacheCall.frames = handshakeFrame :: result.statisticsFrame :: rows ∧
      List.Forall₂ client.Row rows result.tags
  total : result.tags.length = result.expectedTagCount.toNat

theorem plan_succ (count : Nat) : client.plan (count + 1) = client.plan count ++
    [.send (client.rowRequest count), .receive [commandCacheTag]] := by
  simp [plan, rowSteps, List.range_succ]

theorem plan_prefix {m n : Nat} (le : m ≤ n) : client.plan m <+: client.plan n := by
  obtain ⟨more, rfl⟩ := Nat.exists_eq_add_of_le le
  rw [plan, plan, List.range_add, List.flatMap_append, ← List.append_assoc]
  exact List.prefix_append _ _

/-- Every request of a scan is a frame that can be built. -/
theorem request_eq_ok {number : Nat} (small : number < 256) (command : UInt8) {payload : Bytes}
    (short : payload.length ≤ maxPayloadLength) :
    client.request number command payload = .ok (client.requestBytes number command payload) := by
  have inside := client.address_le
  have byte := command.toNat_lt
  have built := (buildFrame_eq_ok_iff client.address number command.toNat payload 0
    (client.requestBytes number command payload)).mpr
  refine built ⟨⟨⟨by omega, by omega⟩, ⟨by omega, by omega⟩, ⟨by omega, by omega⟩,
    ⟨by omega, by omega⟩, short⟩, ?_⟩
  simp [requestBytes]

/-- The scan has taken these steps and received these frames. -/
structure Stage (steps : List CacheStep) (frames : List RFIDFrame) (calls : List CacheCall) :
    Prop where
  upTo : client.conversation.UpTo steps calls
  received : calls.flatMap CacheCall.frames = frames

/-- The plan behind the frames that were heard: the opening alone, and from the statistics on
also the rows that they announce. -/
inductive Follows : List CacheStep → List RFIDFrame → Prop
  | opening : Follows client.opening []
  | rows {handshakeFrame statisticsFrame : RFIDFrame} {statistics : InventoryStatistics} :
      parseInventoryStatistics statisticsFrame.payload = .ok statistics →
      Follows (client.plan statistics.tagCount.toNat) [handshakeFrame, statisticsFrame]

/-- The scan ended before its plan did. -/
def Broken (calls : List CacheCall) : Prop :=
  ∃ plan heard, client.Follows plan heard ∧ heard <+: calls.flatMap CacheCall.frames ∧
    client.conversation.BrokenOff plan calls

/-- The plan of a scan is that of a cache with some number of rows. -/
theorem Follows.exists_plan {plan : List CacheStep} {heard : List RFIDFrame}
    (follows : client.Follows plan heard) : ∃ count, plan = client.plan count := by
  cases follows with
  | opening => exact ⟨0, (List.append_nil _).symm⟩
  | rows parsed => exact ⟨_, rfl⟩

/-- A receive was answered with these frames, which nothing has looked into. -/
def Delivered (steps : List CacheStep) (before : List RFIDFrame) (expectedCommand : UInt8)
    (frames : List RFIDFrame) (calls : List CacheCall) : Prop :=
  ∃ earlier, client.Stage steps before earlier ∧
    calls = earlier ++ [.received [expectedCommand] (.ok frames)]

section
variable {plan steps : List CacheStep} {heard before : List RFIDFrame} {calls : List CacheCall}

/-- The scan of a reader, with nobody else at its connection. -/
abbrev cacheScanner (τ : Type) : Actor (CacheOp τ) CacheOp.Answer PyException (List CacheCall) :=
  Actor.alone CacheExec

theorem Stage.ask {call : CacheCall} (stage : client.Stage steps before calls)
    (good : client.Good call) :
    client.Stage (steps ++ [call.step]) (before ++ call.frames) (calls ++ [call]) :=
  ⟨stage.upTo.ask good, by simp [stage.received]⟩

theorem Stage.said {call : CacheCall} (stage : client.Stage steps before calls)
    (silent : call.frames = []) (good : client.Good call) :
    client.Stage (steps ++ [call.step]) before (calls ++ [call]) := by
  simpa [silent] using stage.ask client good

/-- The answer to a planned step ends the scan. -/
theorem Stage.breaks (call : CacheCall) (follows : client.Follows plan heard)
    (stage : client.Stage steps (heard ++ before) calls) (planned : steps ++ [call.step] <+: plan)
    (reason : client.Good call → client.conversation.judged call.step) :
    client.Broken (calls ++ [call]) := by
  refine ⟨plan, heard, follows, ?_, stage.upTo.fails planned reason⟩
  rw [List.flatMap_append, stage.received, List.append_assoc]
  exact List.prefix_append _ _

theorem sat_send {request : Bytes} (follows : client.Follows plan heard)
    (stage : client.Stage steps (heard ++ before) calls)
    (planned : steps ++ [.send request] <+: plan) :
    (cacheScanner τ).Sat (send request)
      (Actor.ends (fun _ => client.Stage (steps ++ [.send request]) (heard ++ before))
        fun _ => client.Broken) calls := by
  apply Actor.Sat.perform_alone
  intro answer calls' sent
  cases sent
  cases answer with
  | ok _ => exact stage.said client rfl (show client.Good (.sent request (.ok ())) from trivial)
  | error exc =>
      exact stage.breaks client (.sent request (.error exc)) follows planned (by rintro ⟨⟩)

theorem sat_sleep {seconds : τ} (follows : client.Follows plan heard)
    (stage : client.Stage steps (heard ++ before) calls) (planned : steps ++ [.sleep] <+: plan) :
    (cacheScanner τ).Sat (sleep seconds)
      (Actor.ends (fun _ => client.Stage (steps ++ [.sleep]) (heard ++ before))
        fun _ => client.Broken) calls := by
  apply Actor.Sat.perform_alone
  intro answer calls' slept
  cases slept
  cases answer with
  | ok _ => exact stage.said client rfl (show client.Good (.slept (.ok ())) from trivial)
  | error exc =>
      exact stage.breaks client (.slept (.error exc)) follows planned (by rintro ⟨⟩)

theorem sat_receive {expectedCommand : UInt8} (follows : client.Follows plan heard)
    (stage : client.Stage steps (heard ++ before) calls)
    (planned : steps ++ [.receive [expectedCommand]] <+: plan) :
    (cacheScanner τ).Sat (receive [expectedCommand])
      (Actor.ends (client.Delivered steps (heard ++ before) expectedCommand)
        fun _ => client.Broken) calls := by
  apply Actor.Sat.perform_alone
  intro answer calls' received
  cases received
  cases answer with
  | ok frames => exact ⟨calls, stage, rfl⟩
  | error exc =>
      exact stage.breaks client (.received _ (.error exc)) follows planned fun _ => trivial

theorem sat_exchange {request : Bytes} {expectedCommand : UInt8}
    (follows : client.Follows plan heard) (stage : client.Stage steps (heard ++ before) calls)
    (planned : steps ++ [.send request, .receive [expectedCommand]] <+: plan) :
    (cacheScanner τ).Sat (exchange request [expectedCommand])
      (Actor.ends
        (client.Delivered (steps ++ [.send request]) (heard ++ before) expectedCommand)
        fun _ => client.Broken) calls := by
  have split : steps ++ [.send request, .receive [expectedCommand]] =
      steps ++ [.send request] ++ [.receive [expectedCommand]] := by simp
  rw [split] at planned
  apply Actor.Sat.seq_alone
    (client.sat_send follows stage ((List.prefix_append _ _).trans planned))
  intro _ calls' sent
  exact client.sat_receive follows sent planned

theorem soleResponse_eq_ok {frames : List RFIDFrame} {expectedCommand : UInt8}
    {otherwise : String} {frame : RFIDFrame}
    (sole : client.soleResponse frames expectedCommand otherwise = .ok frame) :
    frames = [frame] ∧ Answers client.address expectedCommand frame := by
  unfold soleResponse at sole
  split at sole
  · obtain ⟨_, checked, same⟩ := bind_eq_ok.mp sole
    cases same
    exact ⟨rfl, requireSuccess_eq_ok_iff.mp checked⟩
  · cases sole

/-- One frame that reports success takes the scan further, though its content may still end
the scan. -/
theorem sat_soleResponse {expectedCommand : UInt8} {otherwise : String} {frames : List RFIDFrame}
    (follows : client.Follows plan heard)
    (delivered : client.Delivered steps (heard ++ before) expectedCommand frames calls)
    (planned : steps ++ [.receive [expectedCommand]] <+: plan) :
    (cacheScanner τ).Sat (Prog.ofExcept (client.soleResponse frames expectedCommand otherwise))
      (Actor.ends (fun frame calls =>
        client.Stage (steps ++ [.receive [expectedCommand]]) (heard ++ (before ++ [frame])) calls ∧
          Answers client.address expectedCommand frame ∧ client.Broken calls)
        fun _ => client.Broken) calls := by
  obtain ⟨earlier, stage, rfl⟩ := delivered
  have broken : client.Broken (earlier ++ [.received [expectedCommand] (.ok frames)]) :=
    stage.breaks client (.received _ (.ok frames)) follows planned fun _ => trivial
  apply Actor.Sat.ofExcept_alone
  cases sole : client.soleResponse frames expectedCommand otherwise with
  | error exc => exact broken
  | ok frame =>
      obtain ⟨rfl, answers⟩ := client.soleResponse_eq_ok sole
      have further := stage.ask client
        (show client.Good (.received [expectedCommand] (.ok [frame])) from ⟨_, rfl, answers⟩)
      rw [List.append_assoc] at further
      exact ⟨further, answers, broken⟩

theorem sat_request {α : Type} {number : Nat} {command : UInt8} {payload : Bytes}
    {f : Bytes → CacheScan τ α} {Q : Except PyException α → List CacheCall → Prop}
    (small : number < 256) (short : payload.length ≤ 4)
    (built : (cacheScanner τ).Sat (f (client.requestBytes number command payload)) Q calls) :
    (cacheScanner τ).Sat ((Prog.ofExcept (client.request number command payload)).bind f) Q
      calls := by
  rw [client.request_eq_ok small command (short.trans (by decide))]
  exact built

theorem sat_readRow {index count : Nat} (follows : client.Follows (client.plan count) heard)
    (announced : index < count)
    (stage : client.Stage (client.plan index) (heard ++ before) calls) :
    (cacheScanner τ).Sat (client.readRow index)
      (Actor.ends (fun tag calls => ∃ row,
        client.Stage (client.plan (index + 1)) (heard ++ (before ++ [row])) calls ∧
          client.Row row tag)
        fun _ => client.Broken) calls := by
  have planned : client.plan index ++ [.send (client.rowRequest index)] ++
      [.receive [commandCacheTag]] = client.plan (index + 1) := by simp [plan_succ]
  have longer := client.plan_prefix announced
  apply client.sat_request (Nat.mod_lt _ (by decide)) (by simp)
  apply Actor.Sat.seq_alone (client.sat_exchange follows stage (client.plan_succ index ▸ longer))
  intro cacheFrames _ delivered
  apply Actor.Sat.seq_alone (client.sat_soleResponse follows delivered (planned ▸ longer))
  rintro row calls ⟨further, answers, broken⟩
  apply Actor.Sat.seq_alone (P := fun tag calls' => calls' = calls ∧
    parseTagData row.payload = .ok tag)
  · apply Actor.Sat.ofExcept_alone
    cases parsed : parseTagData row.payload with
    | error exc => exact broken
    | ok tag => exact ⟨rfl, rfl⟩
  rintro tag _ ⟨rfl, parsed⟩
  split
  · exact Actor.Sat.ofExcept_alone broken
  · rename_i identified
    exact Actor.Sat.ret_alone ⟨row, planned ▸ further, answers, parsed, identified⟩

/-- The rows from one index on. -/
theorem sat_readRows {start length count : Nat} (follows : client.Follows (client.plan count) heard)
    (announced : start + length ≤ count)
    (stage : client.Stage (client.plan start) (heard ++ before) calls) :
    (cacheScanner τ).Sat (Prog.forEach (List.range' start length) client.readRow)
      (Actor.ends (fun tags calls => ∃ rows,
        client.Stage (client.plan (start + length)) (heard ++ (before ++ rows)) calls ∧
          List.Forall₂ client.Row rows tags ∧ tags.length = length)
        fun _ => client.Broken) calls := by
  induction length generalizing start before calls with
  | zero => exact Actor.Sat.ret_alone ⟨[], by simpa using stage, .nil, rfl⟩
  | succ length ih =>
      apply Actor.Sat.seq_alone (client.sat_readRow follows (by omega) stage)
      rintro tag calls₁ ⟨row, one, isRow⟩
      apply Actor.Sat.seq_alone (ih (by omega) one)
      rintro tags calls₂ ⟨rows, all, areRows, counted⟩
      refine Actor.Sat.ret_alone ⟨row :: rows, ?_, .cons isRow areRows, by simp [counted]⟩
      simpa [Nat.add_right_comm _ 1 length, Nat.add_assoc] using all

theorem sat_run : (cacheScanner τ).Sat client.run
    (Actor.ends (fun result calls => client.CacheReport calls result) fun _ => client.Broken)
    [] := by
  have start : client.Stage [] ([] ++ []) [] := ⟨Conversation.upTo_nil, rfl⟩
  have begins : client.Follows client.opening [] := .opening
  apply client.sat_request (by decide) (by simp)
  apply Actor.Sat.seq_alone (client.sat_exchange begins start ⟨_, rfl⟩)
  intro handshakeFrames _ delivered
  apply Actor.Sat.seq_alone (client.sat_soleResponse begins delivered ⟨_, rfl⟩)
  rintro handshakeFrame _ ⟨shaken, -⟩
  apply client.sat_request (by decide) (by simp)
  apply Actor.Sat.seq_alone (client.sat_send begins shaken ⟨_, rfl⟩)
  intro _ _ started
  apply Actor.Sat.seq_alone (client.sat_sleep begins started ⟨_, rfl⟩)
  intro _ _ waited
  apply client.sat_request (by decide) (by simp)
  apply Actor.Sat.seq_alone (client.sat_send begins waited ⟨_, rfl⟩)
  intro _ _ stopped
  apply Actor.Sat.seq_alone (client.sat_receive begins stopped ⟨_, rfl⟩)
  intro statisticsFrames _ counted
  apply Actor.Sat.seq_alone (client.sat_soleResponse begins counted ⟨_, rfl⟩)
  rintro statisticsFrame calls ⟨opened, -, broken⟩
  replace opened :
      client.Stage (client.plan 0) ([handshakeFrame, statisticsFrame] ++ []) calls := opened
  apply Actor.Sat.seq_alone (P := fun statistics calls' => calls' = calls ∧
    parseInventoryStatistics statisticsFrame.payload = .ok statistics)
  · apply Actor.Sat.ofExcept_alone
    cases parsed : parseInventoryStatistics statisticsFrame.payload with
    | error exc => exact broken
    | ok statistics => exact ⟨rfl, rfl⟩
  rintro statistics _ ⟨rfl, parsed⟩
  rw [List.range_eq_range']
  apply Actor.Sat.seq_alone
    (client.sat_readRows (.rows parsed) (Nat.le_of_eq (Nat.zero_add _)) opened)
  rintro tags calls ⟨rows, all, areRows, total⟩
  rw [Nat.zero_add, List.nil_append] at all
  exact Actor.Sat.ret_alone
    ⟨all.upTo, parsed, ⟨handshakeFrame, rows, by simpa using all.received, areRows⟩, total⟩

/-- The reader is asked to stop right after the wait. -/
theorem stop_after_sleep {count k : Nat} (waits : (client.plan count)[k]? = some .sleep) :
    (client.plan count)[k + 1]? = some (.send (client.requestBytes 11 commandStop [])) := by
  have rows : ∀ step ∈ (List.range count).flatMap client.rowSteps, step ≠ .sleep := by
    intro step member
    obtain ⟨index, -, row⟩ := List.mem_flatMap.mp member
    rw [rowSteps] at row
    rintro rfl
    simp at row
  rcases Nat.lt_or_ge k 6 with inside | beyond
  · rw [plan, List.getElem?_append_left inside] at waits
    rw [opening] at waits
    interval_cases k <;> simp at waits
    rfl
  · rw [plan, List.getElem?_append_right beyond] at waits
    exact absurd rfl (rows _ (List.mem_of_getElem? waits))

theorem sent_of_step {calls : List CacheCall} {call : CacheCall} {request : Bytes}
    (member : call ∈ calls) (sent : call.step = .send request) :
    ∃ answer, .sent request answer ∈ calls := by
  cases call with
  | sent _ answer => cases sent; exact ⟨answer, member⟩
  | received | slept => cases sent

/-- Whatever the session answers, the requests of a scan go out in the order of its plan, each
after a good answer and none for a row that the statistics did not announce; an inventory that
was waited for is stopped; and a result is the whole plan, with one identified tag for each
announced row. -/
theorem cachedInventory_follows_plan {outcome : Except PyException CachedInventoryResult}
    {calls : List CacheCall} (run : client.run.Runs CacheExec [] outcome calls) :
    (∀ result, outcome = .ok result → client.CacheReport calls result) ∧
    (∀ exc, outcome = .error exc → client.Broken calls) ∧
    (.slept (.ok ()) ∈ calls →
      ∃ answer, .sent (client.requestBytes 11 commandStop []) answer ∈ calls) := by
  have ended := run.post client.sat_run
  cases outcome with
  | ok result =>
      refine ⟨by rintro _ ⟨⟩; exact ended, by rintro _ ⟨⟩, fun slept => ?_⟩
      obtain ⟨k, found⟩ := List.getElem?_of_mem slept
      have waits := congrArg (·[k]?) ended.followed.asked
      rw [List.getElem?_map, found] at waits
      obtain ⟨later, member, stop⟩ :=
        ended.followed.found (client.stop_after_sleep waits.symm)
      exact sent_of_step (List.mem_of_getElem? member) stop
  | error exc =>
      refine ⟨by rintro _ ⟨⟩, by rintro _ ⟨⟩; exact ended, fun slept => ?_⟩
      obtain ⟨k, found⟩ := List.getElem?_of_mem slept
      obtain ⟨plan, heard, follows, -, broken⟩ := ended
      obtain ⟨count, rfl⟩ := follows.exists_plan
      obtain ⟨later, member, planned⟩ := broken.next found trivial id
      rw [client.stop_after_sleep (broken.planned found)] at planned
      exact sent_of_step (List.mem_of_getElem? member) (Option.some.inj planned).symm

end

end CachedInventoryReaderClient

/-! A cache with two rows. -/

namespace TwoRows
open CachedInventoryReaderClient

def client : CachedInventoryReaderClient Nat := ⟨2, Nat.le_of_ble_eq_true rfl, 3⟩

def frame (command : UInt8) (payload : Bytes) : RFIDFrame :=
  ⟨2, 0, command, 0, payload, frameBytes 2 0 command 0 payload⟩

def statisticsFrame : RFIDFrame :=
  frame commandInventoryStatistics [0, 0, 11, 184, 0, 0, 0, 7, 0, 0, 0, 2]

/-- A row with a two-byte EPC. -/
def row (epc : UInt8) : RFIDFrame := frame commandCacheTag [0, 0, 0, 4, 1, 2, 0xE2, epc]

/-- What the calls bring, by their position. -/
def answers (position : Nat) : List RFIDFrame :=
  match position with
  | 1 => [frame commandHandshake []]
  | 5 => [statisticsFrame]
  | 7 => [row 0x80]
  | 9 => [row 0x33]
  | _ => []

def respond : (op : CacheOp Nat) → List CacheCall →
    Option (Except PyException op.Answer × List CacheCall)
  | .send request, calls => some (.ok (), calls ++ [.sent request (.ok ())])
  | .receive expectedCommands, calls =>
      some (.ok (answers calls.length),
        calls ++ [.received expectedCommands (.ok (answers calls.length))])
  | .sleep _, calls => some (.ok (), calls ++ [.slept (.ok ())])

theorem respond_sound (op : CacheOp Nat) (calls : List CacheCall) (answer : Except _ op.Answer)
    (calls' : List CacheCall) (h : respond op calls = some (answer, calls')) :
    CacheExec op calls answer calls' := by
  cases op <;> cases h <;> constructor

def calls : List CacheCall := ((client.run.eval? respond []).map Prod.snd).getD []

def data (epc : String) : RFIDTagData := ⟨1, none, none, epc, "", none⟩

def result : CachedInventoryResult where
  statisticsFrame := TwoRows.statisticsFrame
  durationMs := 3000
  readCount := 7
  expectedTagCount := 2
  tags := [data "E280", data "E233"]

theorem scanned : client.run.Runs CacheExec [] (.ok result) TwoRows.calls := by
  have outcome : (client.run.eval? respond []).map Prod.fst = some (.ok result) := by
    decide +kernel
  obtain ⟨⟨ended, last⟩, evaluated, rfl⟩ := Option.map_eq_some_iff.mp outcome
  have same : last = TwoRows.calls := by rw [TwoRows.calls, evaluated]; rfl
  exact Prog.runs_of_eval? respond_sound (same ▸ evaluated)

end TwoRows

open TwoRows in
theorem cachedInventory_follows_plan_rows :
    client.CacheReport TwoRows.calls result ∧
      ∃ answer, .sent (client.requestBytes 11 commandStop []) answer ∈ TwoRows.calls := by
  have kept := client.cachedInventory_follows_plan scanned
  exact ⟨kept.1 result rfl, kept.2.2 (by decide +kernel)⟩

end RfidBridge
