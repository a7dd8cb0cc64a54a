import RfidBridge.Protocol.Arrivals
import RfidBridge.Protocol.TagGrammar
import RfidBridge.Scan.CachedScan

/-!
A cached inventory over a real session. However the replies of the reader are cut into chunks
and whatever other frames lie between them, the scan brings the cache of the reader.
-/

namespace RfidBridge
open BigEndian TCPReaderSession

/-- A session that has decoded all that it received. -/
structure CaughtUp (position : Nat) (session : TCPReaderSession) : Prop where
  opened : session.isOpen = true
  emptied : session.decoder.buffer = []
  position : session.position = position

/-- The reader's reply to a request, in non-empty chunks: frames of other commands and behind
them the response. -/
structure Reply (address : Nat) (command : UInt8) where
  others : List RFIDFrame
  response : RFIDFrame
  chunks : List Bytes
  wellFormed : ∀ frame ∈ others ++ [response], parseFrame frame.rawFrame = .ok frame
  unexpected : ∀ frame ∈ others, frame.command ≠ command
  answers : Answers address command response
  nonempty : ∀ chunk ∈ chunks, chunk ≠ []
  whole : chunks.flatten = (others ++ [response]).flatMap RFIDFrame.rawFrame
  few : chunks.length ≤ 32

section
variable {socket : Socket} {command : UInt8} {response : RFIDFrame}

theorem filter_unexpected {frames : List RFIDFrame}
    (unexpected : ∀ frame ∈ frames, frame.command ≠ command) :
    frames.filter (·.command ∈ [command]) = [] := by
  simpa [List.filter_eq_nil_iff] using unexpected

/-- The loop of receive on the rest of a reply. -/
theorem receiveLoop_reply (isResponse : response.command = command) (chunks : List Bytes)
    (nonempty : ∀ chunk ∈ chunks, chunk ≠ []) (others : List RFIDFrame)
    (wellFormed : ∀ frame ∈ others ++ [response], parseFrame frame.rawFrame = .ok frame)
    (unexpected : ∀ frame ∈ others, frame.command ≠ command) (session : TCPReaderSession)
    (begun : Begun (others ++ [response]) session.decoder.buffer)
    (whole : session.decoder.buffer ++ chunks.flatten =
      (others ++ [response]).flatMap RFIDFrame.rawFrame)
    (brings : Brings socket session.position chunks) (reads : Nat) (few : chunks.length ≤ reads) :
    ∃ after, receiveLoop socket [command] false reads [] session = (.ok [response], after) ∧
      after.isOpen = session.isOpen ∧ after.decoder.buffer = [] ∧
      after.position = session.position + chunks.length := by
  induction chunks generalizing others session reads with
  | nil =>
      exfalso
      rw [List.flatten_nil, List.append_nil] at whole
      cases others with
      | nil => simp [Begun, whole] at begun
      | cons frame others =>
          have short := begun.2
          simp only [whole, List.cons_append, List.flatMap_cons, List.length_append] at short
          omega
  | cons chunk chunks ih =>
      obtain ⟨b, data, rfl⟩ := List.exists_cons_of_ne_nil (nonempty _ (List.mem_cons_self ..))
      obtain ⟨reads, rfl⟩ : ∃ more, reads = more + 1 := ⟨reads - 1, by simp at few; omega⟩
      rw [List.flatten_cons, ← List.append_assoc] at whole
      obtain ⟨burst, rest, held, frames, arrived, ran, waits⟩ :=
        run_arrived _ wellFormed ⟨chunks.flatten, whole⟩
      have decoded : session.advance.decode (b :: data) =
          (burst, { session.advance with decoder := ⟨held⟩ }) := by
        rw [TCPReaderSession.decode, advance, FrameStreamDecoder.feed_eq_run, ran]
      have emptied : held ++ chunks.flatten = rest.flatMap RFIDFrame.rawFrame := by
        rw [frames, arrived, List.flatMap_append, List.append_assoc] at whole
        exact List.append_cancel_left whole
      have result : socket session.position = .chunk (b :: data) := brings 0 _ rfl
      rw [receiveLoop, result]
      dsimp only
      rw [decoded, List.nil_append]
      cases rest using List.reverseRecOn with
      | nil =>
          -- everything has arrived, so this was the last chunk
          have ended : held = [] := waits
          rw [List.append_nil] at frames
          rw [ended, List.nil_append, List.flatMap_nil] at emptied
          have last : chunks = [] := by
            cases chunks with
            | nil => rfl
            | cons more chunks =>
                have some := nonempty more (by simp)
                simp [some] at emptied
          rw [← frames, List.filter_append, filter_unexpected unexpected]
          simp [isResponse, last, ended, advance]
      | append_singleton rest last =>
          rw [← List.append_assoc] at frames
          obtain ⟨rfl, same⟩ := List.append_inj' frames rfl
          obtain ⟨early, later⟩ := List.forall_mem_append.mp unexpected
          rw [filter_unexpected early]
          cases same
          obtain ⟨after, received, opened, empty, position⟩ :=
            ih (fun c member => nonempty c (List.mem_cons_of_mem _ member)) rest
              (fun f member => wellFormed f (by
                rw [List.append_assoc]
                exact List.mem_append_right _ member)) later
              { session.advance with decoder := ⟨held⟩ } waits emptied brings.tail reads
              (by simpa using few)
          refine ⟨after, by simpa using received, opened, empty, ?_⟩
          rw [position, List.length_cons]
          simp only [advance]
          omega

theorem receive_reply {address position : Nat} (reply : Reply address command)
    {session : TCPReaderSession} (caughtUp : CaughtUp position session)
    (brings : Brings socket position reply.chunks) :
    ∃ after, session.receive socket [command] 32 false = (.ok [reply.response], after) ∧
      CaughtUp (position + reply.chunks.length) after := by
  obtain ⟨opened, emptied, rfl⟩ := caughtUp
  have begun : Begun (reply.others ++ [reply.response]) session.decoder.buffer := by
    rw [emptied]
    cases frames : reply.others ++ [reply.response] with
    | nil => rfl
    | cons frame rest =>
        have member : frame ∈ reply.others ++ [reply.response] := frames ▸ List.mem_cons_self ..
        have long := ((parseFrame_eq_ok_iff _ _).mp (reply.wellFormed frame member)).1
        exact ⟨List.nil_prefix, Nat.lt_of_lt_of_le (by decide) long⟩
  obtain ⟨after, received, opened', empty, position⟩ :=
    receiveLoop_reply reply.answers.command reply.chunks reply.nonempty reply.others
      reply.wellFormed reply.unexpected session begun
      (by rw [emptied, List.nil_append, reply.whole]) brings 32 reply.few
  refine ⟨after, ?_, opened'.trans opened, empty, position⟩
  rw [TCPReaderSession.receive, if_neg (by simp [opened]), if_neg (by simp), if_neg (by decide)]
  exact received

end

/-- What the operations of a scan answer on a session, while requests get through and waits
pass. -/
def sessionAnswer {τ : Type} (socket : Socket) :
    (op : CacheOp τ) → TCPReaderSession → Except PyException op.Answer × TCPReaderSession
  | .send _, session => (.ok (), session)
  | .receive expectedCommands, session => session.receive socket expectedCommands 32 false
  | .sleep _, session => (.ok (), session)

/-- The replies of a reader during a scan of its cache. -/
structure CacheReplies (address : Nat) where
  handshake : Reply address commandHandshake
  statistics : Reply address commandInventoryStatistics
  rows : List (Reply address commandCacheTag)

namespace CacheReplies

def chunks {address : Nat} (replies : CacheReplies address) : List Bytes :=
  replies.handshake.chunks ++ (replies.statistics.chunks ++ replies.rows.flatMap (·.chunks))

/-- The replies report a cache with these rows. -/
structure Reports {address : Nat} (replies : CacheReplies address) (durationMs readCount : Int)
    (cache : List TagFields) : Prop where
  duration : SignedRange 4 durationMs
  reads : SignedRange 4 readCount
  few : SignedRange 4 cache.length
  statistics : encodeSigned 4 durationMs ++ encodeSigned 4 readCount ++
    encodeSigned 4 cache.length <+: replies.statistics.response.payload
  rows : List.Forall₂ (fun row fields => fields.encode <+: row.response.payload ∧
    fields.tagData.epc ≠ "") replies.rows cache

/-- What a scan should make of them. -/
def result {address : Nat} (replies : CacheReplies address) (durationMs readCount : Int)
    (cache : List TagFields) : CachedInventoryResult where
  statisticsFrame := replies.statistics.response
  durationMs
  readCount
  expectedTagCount := cache.length
  tags := cache.map TagFields.tagData

end CacheReplies

namespace CachedInventoryReaderClient
variable {τ : Type} {socket : Socket} (client : CachedInventoryReaderClient τ)

theorem eval_receive (command : UInt8) (session : TCPReaderSession) :
    (receive (τ := τ) [command]).eval (sessionAnswer socket) session =
      session.receive socket [command] 32 false :=
  Prog.eval_perform (sessionAnswer socket) (CacheOp.receive [command]) session

theorem eval_send_then {α : Type} (request : Bytes) (f : Unit → CacheScan τ α)
    (session : TCPReaderSession) :
    (send request >>= f).eval (sessionAnswer socket) session =
      (f ()).eval (sessionAnswer socket) session := rfl

theorem eval_exchange (request : Bytes) (command : UInt8) (session : TCPReaderSession) :
    (exchange (τ := τ) request [command]).eval (sessionAnswer socket) session =
      session.receive socket [command] 32 false := by
  rw [exchange, eval_send_then, eval_receive]

/-- One frame is asked for, and the reply brings it. -/
theorem eval_reply {α : Type} {p : CacheScan τ (List RFIDFrame)} {command : UInt8}
    {position : Nat} (reply : Reply client.address command) {session : TCPReaderSession}
    {otherwise : String} {f : RFIDFrame → CacheScan τ α}
    {Q : Except PyException α × TCPReaderSession → Prop}
    (asks : p.eval (sessionAnswer socket) session = session.receive socket [command] 32 false)
    (caughtUp : CaughtUp position session) (brings : Brings socket position reply.chunks)
    (goesOn : ∀ after, CaughtUp (position + reply.chunks.length) after →
      Q ((f reply.response).eval (sessionAnswer socket) after)) :
    Q ((p >>= fun frames => Prog.ofExcept (client.soleResponse frames command otherwise) >>= f).eval
      (sessionAnswer socket) session) := by
  obtain ⟨after, received, caughtUp'⟩ := receive_reply reply caughtUp brings
  have sole : client.soleResponse [reply.response] command otherwise = .ok reply.response :=
    bind_eq_ok.mpr ⟨(), requireSuccess_eq_ok_iff.mpr reply.answers, rfl⟩
  change Q ((Prog.bind _ _).eval _ _)
  rw [Prog.eval_bind, asks, received]
  dsimp only
  rw [sole]
  exact goesOn after caughtUp'

theorem eval_readRow (index : Nat) {position : Nat} (reply : Reply client.address commandCacheTag)
    {fields : TagFields} (row : fields.encode <+: reply.response.payload)
    (identified : fields.tagData.epc ≠ "") {session : TCPReaderSession}
    (caughtUp : CaughtUp position session) (brings : Brings socket position reply.chunks) :
    ∃ after, CaughtUp (position + reply.chunks.length) after ∧
      (client.readRow index).eval (sessionAnswer socket) session =
        (.ok fields.tagData, after) := by
  have parsed : parseTagData reply.response.payload = .ok fields.tagData :=
    (parseTagData_eq_ok_iff _ _).mpr ⟨fields, row, rfl⟩
  have built := client.request_eq_ok (Nat.mod_lt (20 + index) (by decide)) commandCacheTag
    (show (encodeSigned 4 (index : Int)).length ≤ maxPayloadLength by
      rw [length_encodeSigned]; decide)
  rw [readRow, sequence, built]
  apply client.eval_reply reply (eval_exchange _ commandCacheTag session) caughtUp brings
    (Q := fun outcome => ∃ after, CaughtUp (position + reply.chunks.length) after ∧
      outcome = (.ok fields.tagData, after))
  intro after caughtUp'
  refine ⟨after, caughtUp', ?_⟩
  rw [parsed]
  change (if _ then _ else _ : CacheScan τ RFIDTagData).eval _ _ = _
  rw [if_neg identified]
  rfl

theorem eval_readRows {rows : List (Reply client.address commandCacheTag)}
    {cache : List TagFields}
    (reports : List.Forall₂ (fun row fields => fields.encode <+: row.response.payload ∧
      fields.tagData.epc ≠ "") rows cache) (start : Nat) {position : Nat}
    {session : TCPReaderSession}
    (caughtUp : CaughtUp position session)
    (brings : Brings socket position (rows.flatMap (·.chunks))) :
    ∃ after, CaughtUp (position + (rows.flatMap (·.chunks)).length) after ∧
      (Prog.forEach (List.range' start cache.length) client.readRow).eval (sessionAnswer socket)
        session = (.ok (cache.map TagFields.tagData), after) := by
  induction reports generalizing start position session with
  | nil => exact ⟨session, caughtUp, rfl⟩
  | @cons row fields rows cache reported _ ih =>
      obtain ⟨mid, caughtUp', first⟩ :=
        client.eval_readRow start row reported.1 reported.2 caughtUp brings.left
      obtain ⟨after, caughtUp'', rest⟩ := ih (start + 1) caughtUp' brings.right
      refine ⟨after, ?_, Prog.eval_forEach_ok first rest⟩
      simpa [Nat.add_assoc] using caughtUp''

/-- A reply whose payload starts with the three counts. -/
theorem parseInventoryStatistics_of_prefix {durationMs readCount tagCount : Int} {payload : Bytes}
    (duration : SignedRange 4 durationMs) (reads : SignedRange 4 readCount)
    (tags : SignedRange 4 tagCount)
    (begins : encodeSigned 4 durationMs ++ encodeSigned 4 readCount ++ encodeSigned 4 tagCount <+:
      payload) :
    parseInventoryStatistics payload = .ok ⟨durationMs, readCount, tagCount⟩ := by
  obtain ⟨rest, rfl⟩ := begins
  have long : ¬ (encodeSigned 4 durationMs ++ encodeSigned 4 readCount ++
      encodeSigned 4 tagCount ++ rest).length < 12 := by
    simp
    omega
  rw [parseInventoryStatistics, if_neg long]
  have readAt : (encodeSigned 4 durationMs ++ encodeSigned 4 readCount ++
      encodeSigned 4 tagCount ++ rest).drop 4 = encodeSigned 4 readCount ++
      (encodeSigned 4 tagCount ++ rest) := by
    simp [List.append_assoc, List.drop_left' (length_encodeSigned 4 durationMs)]
  have tagAt : (encodeSigned 4 durationMs ++ encodeSigned 4 readCount ++
      encodeSigned 4 tagCount ++ rest).drop 8 = encodeSigned 4 tagCount ++ rest := by
    rw [show 8 = 4 + 4 from rfl, ← List.drop_drop, readAt,
      List.drop_left' (length_encodeSigned 4 readCount)]
  rw [readAt, tagAt, List.take_left' (length_encodeSigned 4 readCount),
    List.take_left' (length_encodeSigned 4 tagCount), List.append_assoc, List.append_assoc,
    List.take_left' (length_encodeSigned 4 durationMs),
    decodeSigned_encodeSigned (by decide) duration, decodeSigned_encodeSigned (by decide) reads,
    decodeSigned_encodeSigned (by decide) tags]

/-- A scan over a connection that works brings the cache of the reader, row by row, however the
replies are cut into chunks and whatever frames of other commands lie between them; and it
leaves no byte of them behind. -/
theorem cachedInventory_reads_cache {replies : CacheReplies client.address}
    {durationMs readCount : Int} {cache : List TagFields}
    (reports : replies.Reports durationMs readCount cache)
    (brings : Brings socket 0 replies.chunks) :
    ∃ session, client.run.eval (sessionAnswer socket) {} =
        (.ok (replies.result durationMs readCount cache), session) ∧
      session.decoder.pendingBytes = [] ∧ session.position = replies.chunks.length := by
  have handshake := client.request_eq_ok (show 1 < 256 by decide) commandHandshake
    (show (encode 4 1).length ≤ maxPayloadLength by decide)
  have start := client.request_eq_ok (show 10 < 256 by decide) commandStartInventory
    (show (encode 4 1).length ≤ maxPayloadLength by decide)
  have stop := client.request_eq_ok (show 11 < 256 by decide) commandStop
    (show ([] : Bytes).length ≤ maxPayloadLength by decide)
  have parsed := parseInventoryStatistics_of_prefix reports.duration reports.reads reports.few
    reports.statistics
  have fresh : CaughtUp 0 ({} : TCPReaderSession) := ⟨rfl, rfl, rfl⟩
  rw [run, handshake]
  apply client.eval_reply replies.handshake (eval_exchange _ commandHandshake {}) fresh brings.left
    (Q := fun outcome => ∃ session, outcome = (.ok _, session) ∧
      session.decoder.pendingBytes = [] ∧ session.position = replies.chunks.length)
  intro shaken caughtUp
  rw [start, stop]
  apply client.eval_reply replies.statistics (eval_receive commandInventoryStatistics shaken)
    caughtUp brings.right.left
    (Q := fun outcome => ∃ session, outcome = (.ok _, session) ∧
      session.decoder.pendingBytes = [] ∧ session.position = replies.chunks.length)
  intro counted caughtUp
  rw [parsed]
  obtain ⟨after, ended, rows⟩ :=
    client.eval_readRows reports.rows 0 caughtUp brings.right.right
  refine ⟨after, ?_, ended.emptied, ?_⟩
  · change (Prog.bind (Prog.forEach (List.range (cache.length : Int).toNat) _) _).eval _ _ = _
    rw [Prog.eval_bind, Int.toNat_natCast, List.range_eq_range', rows]
    rfl
  · rw [ended.position, CacheReplies.chunks]
    simp only [List.length_append]
    omega

end CachedInventoryReaderClient

/-! A reader with one cached tag, which also acknowledges the START request. Its replies are cut
inside a frame. -/

namespace OneRow
open TwoRows

/-- The bytes in two chunks. -/
def halves (frames : List RFIDFrame) : List Bytes :=
  [(frames.flatMap RFIDFrame.rawFrame).take 5, (frames.flatMap RFIDFrame.rawFrame).drop 5]

def fields : TagFields where
  mask := 4
  protocolType := 1
  antenna := none
  pc := none
  epc := some ⟨[0xE2, 0x80], by decide⟩
  tid := none
  count := none
  antenna_present := rfl
  pc_present := rfl
  epc_present := rfl
  tid_present := rfl
  count_present := rfl

def statisticsFrame : RFIDFrame :=
  frame commandInventoryStatistics [0, 0, 11, 184, 0, 0, 0, 7, 0, 0, 0, 1]

def replies : CacheReplies client.address where
  handshake := {
    others := []
    response := frame commandHandshake []
    chunks := halves [frame commandHandshake []]
    wellFormed := by decide +kernel
    unexpected := by simp
    answers := ⟨rfl, rfl, rfl⟩
    nonempty := by decide +kernel
    whole := by decide +kernel
    few := by decide }
  statistics := {
    others := [frame commandStartInventory []]
    response := OneRow.statisticsFrame
    chunks := halves [frame commandStartInventory [], OneRow.statisticsFrame]
    wellFormed := by decide +kernel
    unexpected := by decide
    answers := ⟨rfl, rfl, rfl⟩
    nonempty := by decide +kernel
    whole := by decide +kernel
    few := by decide }
  rows := [{
    others := []
    response := row 0x80
    chunks := halves [row 0x80]
    wellFormed := by decide +kernel
    unexpected := by simp
    answers := ⟨rfl, rfl, rfl⟩
    nonempty := by decide +kernel
    whole := by decide +kernel
    few := by decide }]

theorem reports : replies.Reports 3000 7 [fields] where
  duration := by simp [SignedRange]
  reads := by simp [SignedRange]
  few := by simp [SignedRange]
  statistics := by decide +kernel
  rows := .cons ⟨by decide +kernel, by decide +kernel⟩ .nil

def socket : Socket := fun i =>
  match replies.chunks[i]? with
  | some chunk => .chunk chunk
  | none => .timeout "timed out"

theorem brings : Brings socket 0 replies.chunks := by
  intro i chunk found
  rw [Nat.zero_add, socket, found]

end OneRow

open OneRow in
theorem cachedInventory_reads_cache_row :
    (∃ session, TwoRows.client.run.eval (sessionAnswer socket) {} =
        (.ok (replies.result 3000 7 [fields]), session) ∧
      session.decoder.pendingBytes = [] ∧ session.position = replies.chunks.length) ∧
    (replies.result 3000 7 [fields]).tags = [⟨1, none, none, "E280", "", none⟩] :=
  ⟨TwoRows.client.cachedInventory_reads_cache reports brings, by decide +kernel⟩

end RfidBridge
