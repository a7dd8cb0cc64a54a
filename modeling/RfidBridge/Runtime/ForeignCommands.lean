import RfidBridge.Runtime.ExecutedCommands
import RfidBridge.Runtime.SettledCommands

/-!
Commands for other readers. poll_commands skips them, but only once they are parsed: a
payload that from_payload rejects ends the round, whichever reader it is for.
-/

namespace RfidBridge
open FinalRuntimeOrchestrator

/-- What one round of poll_commands works on. Odoo returns the payloads once. -/
structure PollingState (η : Type) where
  orchestrator : OrchestratorState
  payloads : List Json
  outside : η

/-- The collaborators, whose answers may depend on everything they were asked before. -/
abbrev Surroundings (η : Type) := (op : OrchestratorOp) → η → Except PyException op.Answer × η

namespace Surroundings
variable {η : Type} (w : Surroundings η)

/-- A call is recorded, whatever its answer. -/
def respond (op : OrchestratorOp) (s : PollingState η) :
    Except PyException op.Answer × PollingState η :=
  match op with
  | .readRuntime => (.ok s.orchestrator.runtime, s)
  | .writeRuntime runtime =>
      (.ok (), { s with orchestrator := { s.orchestrator with runtime } })
  | .commands => (.ok s.payloads, {
      s with
      orchestrator := {
        s.orchestrator with history := .commands :: s.orchestrator.history }
      payloads := [] })
  | op => ((w op s.outside).1, {
      s with
      orchestrator := { s.orchestrator with history := op :: s.orchestrator.history }
      outside := (w op s.outside).2 })

abbrev run {α : Type} (p : Program OrchestratorOp OrchestratorOp.Answer α) (s : PollingState η) :
    Except PyException α × PollingState η :=
  p.eval w.respond s

/-- A round of poll_commands in which Odoo returns the given payloads. -/
def poll (py : Builtins) (runtime : LocalReaderRuntime) (payloads : List Json) (outside : η) :
    Except PyException (List CommandExecutionResult) × PollingState η :=
  w.run (pollCommands anyCollaborators py (processCommand anyCollaborators))
    { orchestrator := { runtime }, payloads, outside }

end Surroundings

/-- Two lists of payloads lead to the same results, the same runtime and the same calls,
with any collaborators. -/
def PollsAlike (py : Builtins) (runtime : LocalReaderRuntime) (xs ys : List Json) : Prop :=
  ∀ (η : Type) (w : Surroundings η) (outside : η),
    w.poll py runtime xs outside = w.poll py runtime ys outside

section
variable (py : Builtins) (readerCode : String)

/-- The payload names another reader. -/
def isForeign : Json → Bool
  | .dict fields =>
      let named := strip (Json.textOrEmpty py (Json.lookup fields "reader_code"))
      named != "" && named != readerCode
  | _ => false

def ownPayloads (payloads : List Json) : List Json :=
  payloads.filter fun payload => !isForeign py readerCode payload

/-- The first payload that from_payload rejects, by the number of own payloads in front of
it, with the exception. -/
def firstRejection : List Json → Option (Nat × PyException)
  | [] => none
  | payload :: rest =>
      match OdooRFIDCommand.fromPayload py payload with
      | .error exc => some (0, exc)
      | .ok _ => (firstRejection rest).map fun (count, exc) =>
          (if isForeign py readerCode payload then count else count + 1, exc)

/-- The own commands in front of the first rejected payload. -/
def servedCommands : List Json → List OdooRFIDCommand
  | [] => []
  | payload :: rest =>
      match OdooRFIDCommand.fromPayload py payload with
      | .error _ => []
      | .ok command =>
          if command.readerCode ≠ readerCode then servedCommands rest
          else command :: servedCommands rest

end

section
variable {py : Builtins} {readerCode : String} {payload : Json} {payloads : List Json}

theorem readerCode_of_fromPayload (readerCode : String) {command : OdooRFIDCommand}
    (parsed : OdooRFIDCommand.fromPayload py payload = .ok command) :
    isForeign py readerCode payload = true ↔ command.readerCode ≠ readerCode := by
  cases payload with
  | dict fields =>
      simp only [OdooRFIDCommand.fromPayload, bind_eq_ok] at parsed
      obtain ⟨operation, -, parsed⟩ := parsed
      split at parsed
      · cases parsed
      split at parsed
      · cases parsed
      rename_i named
      obtain ⟨kind, -, parsed⟩ := bind_eq_ok.mp parsed
      obtain ⟨revision, -, parsed⟩ := bind_eq_ok.mp parsed
      split at parsed
      · cases parsed
      cases parsed
      simp [isForeign, named]
  | null | bool _ | int _ | float _ | str _ | list _ => cases parsed

/-- What from_payload makes of a payload that it accepts. -/
def acceptedCommand (py : Builtins) (payload : Json) : Option OdooRFIDCommand :=
  (OdooRFIDCommand.fromPayload py payload).toOption

/-- The served commands are those of the own payloads up to the first rejection. -/
theorem servedCommands_eq (payloads : List Json) :
    servedCommands py readerCode payloads =
      ((ownPayloads py readerCode payloads).take
        (((firstRejection py readerCode payloads).map Prod.fst).getD
          (ownPayloads py readerCode payloads).length)).filterMap (acceptedCommand py) := by
  induction payloads with
  | nil => rfl
  | cons payload rest ih =>
      cases parsed : OdooRFIDCommand.fromPayload py payload with
      | error exc => simp [servedCommands, firstRejection, parsed]
      | ok command =>
          have foreign := readerCode_of_fromPayload readerCode parsed
          by_cases other : command.readerCode ≠ readerCode
          · have skipped : ownPayloads py readerCode (payload :: rest) =
                ownPayloads py readerCode rest := by
              simp [ownPayloads, foreign.mpr other]
            rw [servedCommands, parsed, skipped]
            dsimp only
            rw [if_pos other, ih]
            simp only [firstRejection, parsed, foreign.mpr other, if_true]
            simp
          · have own : isForeign py readerCode payload = false :=
              Bool.eq_false_iff.mpr fun h => other (foreign.mp h)
            have kept : ownPayloads py readerCode (payload :: rest) =
                payload :: ownPayloads py readerCode rest := by
              simp [ownPayloads, own]
            rw [servedCommands, parsed, kept]
            dsimp only
            rw [if_neg other, ih]
            simp only [firstRejection, parsed, own]
            cases firstRejection py readerCode rest <;>
              simp [acceptedCommand, parsed, Except.toOption]

theorem length_servedCommands {count : Nat} {exc : PyException}
    (rejected : firstRejection py readerCode payloads = some (count, exc)) :
    (servedCommands py readerCode payloads).length = count := by
  induction payloads generalizing count with
  | nil => cases rejected
  | cons payload rest ih =>
      rw [firstRejection] at rejected
      rw [servedCommands]
      cases parsed : OdooRFIDCommand.fromPayload py payload with
      | error _ =>
          rw [parsed] at rejected
          cases rejected
          rfl
      | ok command =>
          rw [parsed] at rejected
          obtain ⟨⟨count', exc'⟩, earlier, same⟩ := Option.map_eq_some_iff.mp rejected
          have foreign := readerCode_of_fromPayload readerCode parsed
          by_cases other : command.readerCode ≠ readerCode
          · simp only [foreign.mpr other, if_true, Prod.mk.injEq] at same
            obtain ⟨rfl, rfl⟩ := same
            dsimp only
            rw [if_pos other]
            exact ih earlier
          · have own : isForeign py readerCode payload = false :=
              Bool.eq_false_iff.mpr fun h => other (foreign.mp h)
            simp only [own, Bool.false_eq_true, if_false, Prod.mk.injEq] at same
            obtain ⟨rfl, rfl⟩ := same
            dsimp only
            rw [if_neg other, List.length_cons, ih earlier]

end
section
variable {η : Type} {w : Surroundings η} {s : PollingState η} {α : Type}

/-- A run among surroundings is a run with collaborators that may do anything. -/
theorem runs_orchestrator (p : Program OrchestratorOp OrchestratorOp.Answer α) :
    p.Runs OrchestratorExec s.orchestrator (w.run p s).1 (w.run p s).2.orchestrator := by
  have evaluated : p.Runs (fun op s answer s' => w.respond op s = (answer, s')) s (w.run p s).1
      (w.run p s).2 := Prog.runs_eval (fun _ _ => rfl) s
  apply evaluated.map PollingState.orchestrator
  intro op s answer s' responds
  cases op with
  | readRuntime =>
      cases responds
      exact .read
  | writeRuntime runtime =>
      cases responds
      exact .write
  | _ =>
      cases responds
      exact .called trivial

theorem readerCode_processCommand {command : OdooRFIDCommand}
    (mine : command.readerCode = s.orchestrator.runtime.readerCode) :
    (w.run (processCommand anyCollaborators command) s).2.orchestrator.runtime.readerCode =
      s.orchestrator.runtime.readerCode := by
  let p : Processed := {
    command
    before := s.orchestrator
    outcome := (w.run (processCommand anyCollaborators command) s).1
    after := (w.run (processCommand anyCollaborators command) s).2.orchestrator }
  have call : p.IsCall := ⟨mine, runs_orchestrator _⟩
  by_cases executed : p.Executed
  · cases call.ended executed with
    | inl unfinished => exact unfinished.1.reader.trans mine
    | inr done => exact done.1.reader.trans mine
  · exact congrArg LocalReaderRuntime.readerCode (call.refused executed).1

/-- The end of a round: its results, or the rejection. -/
def endRound (rejection : Option PyException) (results : List CommandExecutionResult) :
    Program OrchestratorOp OrchestratorOp.Answer (List CommandExecutionResult) :=
  match rejection with
  | none => pure results
  | some exc => .raise exc

section
variable {py : Builtins} {payload : Json} {command : OdooRFIDCommand}

theorem run_pollCommand (parsed : OdooRFIDCommand.fromPayload py payload = .ok command) :
    w.run (pollCommand anyCollaborators py (processCommand anyCollaborators) payload) s =
      if command.readerCode ≠ s.orchestrator.runtime.readerCode then (.ok none, s)
      else match w.run (processCommand anyCollaborators command) s with
        | (.ok result, s') => (.ok (some result), s')
        | (.error exc, s') => (.error exc, s') := by
  rw [pollCommand, parsed]
  change w.run (if command.readerCode ≠ s.orchestrator.runtime.readerCode then pure none
    else (processCommand anyCollaborators command).bind fun result => pure (some result)) s = _
  split
  · rfl
  · rw [Surroundings.run, Prog.eval_bind, Surroundings.run]
    cases (processCommand anyCollaborators command).eval w.respond s with
    | mk outcome s' => cases outcome <;> rfl

end

/-- A round is that of the served commands, ended by the first rejection. -/
theorem run_rounds (py : Builtins) (payloads : List Json) {readerCode : String}
    (reader : s.orchestrator.runtime.readerCode = readerCode)
    (earlier : List CommandExecutionResult) :
    w.run ((Prog.forEach payloads
        (pollCommand anyCollaborators py (processCommand anyCollaborators))).bind
        fun results => pure (earlier ++ results.filterMap id)) s =
      w.run ((Prog.forEach (servedCommands py readerCode payloads)
        (processCommand anyCollaborators)).bind fun results =>
        endRound ((firstRejection py readerCode payloads).map Prod.snd) (earlier ++ results))
        s := by
  induction payloads generalizing s earlier with
  | nil => rfl
  | cons payload rest ih =>
      rw [Surroundings.run, Prog.eval_forEach_cons, servedCommands, firstRejection]
      cases parsed : OdooRFIDCommand.fromPayload py payload with
      | error exc =>
          rw [pollCommand, parsed]
          rfl
      | ok command =>
          have rejection : ((firstRejection py readerCode rest).map fun (count, exc) =>
              (if isForeign py readerCode payload then count else count + 1, exc)).map Prod.snd =
              (firstRejection py readerCode rest).map Prod.snd := Option.map_map ..
          rw [show (pollCommand anyCollaborators py (processCommand anyCollaborators)
            payload).eval w.respond s = _ from run_pollCommand parsed, reader]
          dsimp only
          rw [rejection]
          by_cases other : command.readerCode ≠ readerCode
          · rw [if_pos other, if_pos other]
            exact ih reader earlier
          · rw [if_neg other, if_neg other, Surroundings.run, Surroundings.run,
              Prog.eval_forEach_cons]
            cases ran : (processCommand anyCollaborators command).eval w.respond s with
            | mk outcome s' =>
                cases outcome with
                | error exc => rfl
                | ok result =>
                    have kept : s'.orchestrator.runtime.readerCode = readerCode := by
                      have := readerCode_processCommand (w := w)
                        ((not_not.mp other).trans reader.symm)
                      rw [Surroundings.run, ran] at this
                      exact this.trans reader
                    have rounds := ih kept (earlier ++ [result])
                    simp only [List.append_assoc, List.singleton_append] at rounds
                    exact rounds

/-- A round after Odoo has returned the payloads. -/
theorem poll_eq (py : Builtins) (runtime : LocalReaderRuntime) (payloads : List Json)
    (outside : η) :
    w.poll py runtime payloads outside =
      w.run ((Prog.forEach (servedCommands py runtime.readerCode payloads)
        (processCommand anyCollaborators)).bind
        (endRound ((firstRejection py runtime.readerCode payloads).map Prod.snd)))
        { orchestrator := { runtime, history := [.commands] }, payloads := [], outside } :=
  run_rounds (s := { orchestrator := { runtime, history := [.commands] }, payloads := [], outside })
    py payloads rfl []

end

/-- The program makes a call, whatever the answers. -/
def MakesCall {α : Type} (p : Program OrchestratorOp OrchestratorOp.Answer α) : Prop :=
  ∀ s, orchestrator.Sat p (fun _ s' => s.history.length < s'.history.length) s

section
variable {α β : Type}

theorem sat_longer {n : Nat} {s : OrchestratorState}
    (p : Program OrchestratorOp OrchestratorOp.Answer α) (h : n < s.history.length) :
    orchestrator.Sat p (fun _ s' => n < s'.history.length) s := by
  have keeps : orchestrator.Keeps (fun s => n < s.history.length) p := by
    apply Actor.keeps_of_calls Actor.stable_alone ?_ (Prog.calls_any (fun _ => trivial) p)
    intro op s answer s' _ longer ex
    refine ⟨trivial, ?_⟩
    cases ex with
    | read | write => exact longer
    | called _ => exact Nat.lt_succ_of_lt longer
  exact keeps s h

theorem makesCall_perform {op : OrchestratorOp} (isCall : op.IsCall) :
    MakesCall (Prog.perform op) := by
  intro s
  apply Actor.Sat.perform
  rintro s₁ rfl answer s₂ ex
  refine ⟨trivial, ?_⟩
  rintro s₃ rfl
  cases ex with
  | read | write => exact isCall.elim
  | called _ => exact Nat.lt_succ_self _

theorem makesCall_handle {p : Program OrchestratorOp OrchestratorOp.Answer α} (h : MakesCall p)
    (f : Except PyException α → Program OrchestratorOp OrchestratorOp.Answer β) :
    MakesCall (p.handle f) :=
  fun s => Actor.Sat.handle ((h s).mono fun outcome _ longer => sat_longer (f outcome) longer)

theorem makesCall_write {runtime : LocalReaderRuntime}
    {p : Program OrchestratorOp OrchestratorOp.Answer α} (h : MakesCall p) :
    MakesCall ((anyCollaborators.writeRuntime runtime).bind fun _ => p) := by
  intro s
  apply Actor.Sat.handle
  apply Actor.Sat.perform
  rintro s₁ rfl answer s₂ ex
  cases ex with
  | called isCall => exact isCall.elim
  | write =>
      refine ⟨trivial, ?_⟩
      rintro s₃ rfl
      exact h { s with runtime }

theorem makesCall_sendCompletedSuccessAck (command : OdooRFIDCommand) :
    MakesCall (sendCompletedSuccessAck anyCollaborators command) := by
  by_cases stop : (command.command == .stop) = true
  · rw [sendCompletedSuccessAck, stop]
    exact makesCall_handle (makesCall_perform (by trivial)) _
  · rw [sendCompletedSuccessAck, Bool.eq_false_iff.mpr stop]
    exact makesCall_handle (makesCall_perform (by trivial)) _

theorem makesCall_processCommand (command : OdooRFIDCommand) :
    MakesCall (processCommand anyCollaborators command) := by
  intro s
  apply sat_readRuntime
  cases s.runtime.planCommand command with
  | error exc =>
      exact makesCall_handle (makesCall_handle (makesCall_perform (by trivial)) _) _ s
  | ok transition =>
      dsimp only
      split
      · exact makesCall_handle (makesCall_sendCompletedSuccessAck command) _ s
      cases command.command with
      | start => exact makesCall_write (makesCall_handle (makesCall_perform (by trivial)) _) s
      | stop =>
          exact makesCall_write
            (makesCall_handle (makesCall_handle (makesCall_perform (by trivial)) _) _) s
      | abort =>
          exact makesCall_write
            (makesCall_handle (makesCall_handle (makesCall_perform (by trivial)) _) _) s

end
/-- Every collaborator refuses, and the reader is inactive. -/
def refusingCollaborators : Outcomes
  | .readerIsActive => .ok false
  | .commands => .ok []
  | _ => .error ⟨.other "ConnectionError", "refused"⟩

theorem refusingCollaborators_raise : refusingCollaborators.RaisesExceptions := by
  intro op exc raises
  cases op with
  | readerIsActive | commands => cases raises
  | _ =>
      cases raises
      rfl

theorem refusingCollaborators_text (command : OdooRFIDCommand) (kind : RuntimeCommand) :
    refusingCollaborators.FailureHasText command kind := by
  cases kind with
  | start =>
      intro exc failed
      cases failed
      exact ⟨⟨false, rfl⟩, .inl (by decide)⟩
  | stop | abort =>
      intro exc failed
      cases failed
      decide

/-- Refused at every call, process_command still returns. -/
theorem processCommand_refused (command : OdooRFIDCommand) (runtime : LocalReaderRuntime) :
    ∃ result,
      (refusingCollaborators.run (processCommand anyCollaborators command) runtime).1 =
        .ok result := by
  have settles := processCommand_settlesIf refusingCollaborators_raise command runtime
  obtain ⟨result, returned, -⟩ :=
    (settles.1 fun _ => refusingCollaborators_text command command.command).returned
  exact ⟨result, returned⟩

def refusingSurroundings : Surroundings Unit := fun op _ => (refusingCollaborators op, ())

section
variable {s : PollingState Unit}

theorem refused_keeps_payloads (op : OrchestratorOp) (s : PollingState Unit)
    (h : s.payloads = []) : (refusingSurroundings.respond op s).2.payloads = [] := by
  cases op <;> first | exact h | rfl

theorem run_refused (fetched : s.payloads = []) (command : OdooRFIDCommand) :
    ∃ result s', refusingSurroundings.run (processCommand anyCollaborators command) s =
        (.ok result, s') ∧ s'.payloads = [] ∧
      s.orchestrator.history.length < s'.orchestrator.history.length := by
  have seen : refusingCollaborators.run (processCommand anyCollaborators command)
      s.orchestrator.runtime =
      ((refusingSurroundings.run (processCommand anyCollaborators command) s).1,
        (refusingSurroundings.run (processCommand anyCollaborators command)
          s).2.orchestrator.runtime) := by
    refine Prog.eval_map (fun s : PollingState Unit => s.orchestrator.runtime)
      refused_keeps_payloads ?_ fetched
    intro op s fetched
    cases op with
    | commands =>
        simp only [Outcomes.respond, Surroundings.respond, fetched]
        rfl
    | _ => rfl
  obtain ⟨result, returned⟩ := processCommand_refused command s.orchestrator.runtime
  refine ⟨result, _, Prod.ext ?_ rfl, ?_, ?_⟩
  · rw [seen] at returned
    exact returned
  · exact Prog.eval_invariant (I := fun s : PollingState Unit => s.payloads = [])
      refused_keeps_payloads fetched
  · exact (runs_orchestrator _).post (makesCall_processCommand command s.orchestrator)

/-- Refused rounds tell how many commands were processed. -/
theorem run_refused_append (fetched : s.payloads = []) (commands more : List OdooRFIDCommand) :
    ∃ results s' results' s'',
      refusingSurroundings.run (Prog.forEach commands (processCommand anyCollaborators)) s =
        (.ok results, s') ∧
      refusingSurroundings.run
        (Prog.forEach (commands ++ more) (processCommand anyCollaborators)) s =
        (.ok results', s'') ∧
      s'.orchestrator.history.length + more.length ≤ s''.orchestrator.history.length := by
  induction commands generalizing s with
  | nil =>
      induction more generalizing s with
      | nil => exact ⟨[], s, [], s, rfl, rfl, le_rfl⟩
      | cons command more ih =>
          obtain ⟨result, s₁, ran, fetched₁, longer⟩ := run_refused fetched command
          obtain ⟨results, s', results', s'', none, rest, more_calls⟩ := ih fetched₁
          cases none
          refine ⟨[], s, result :: results', s'', rfl, Prog.eval_forEach_ok ran rest, ?_⟩
          rw [List.length_cons]
          omega
  | cons command commands ih =>
      obtain ⟨result, s₁, ran, fetched₁, -⟩ := run_refused fetched command
      obtain ⟨results, s', results', s'', rest, rest', longer⟩ := ih fetched₁
      exact ⟨result :: results, s', result :: results', s'', Prog.eval_forEach_ok ran rest,
        Prog.eval_forEach_ok ran rest', longer⟩

end

section
variable {py : Builtins} {runtime : LocalReaderRuntime} {xs ys : List Json}

theorem servedCommands_congr
    (same : ownPayloads py runtime.readerCode xs = ownPayloads py runtime.readerCode ys)
    (rejections : firstRejection py runtime.readerCode xs =
      firstRejection py runtime.readerCode ys) :
    servedCommands py runtime.readerCode xs = servedCommands py runtime.readerCode ys := by
  rw [servedCommands_eq, servedCommands_eq, same, rejections]

/-- The outcome of a refused round is its rejection. -/
theorem poll_refused (py : Builtins) (runtime : LocalReaderRuntime) (payloads : List Json) :
    ∃ results s',
      refusingSurroundings.run (Prog.forEach (servedCommands py runtime.readerCode payloads)
        (processCommand anyCollaborators))
        { orchestrator := { runtime, history := [.commands] }, payloads := [], outside := () } =
        (.ok results, s') ∧
      refusingSurroundings.poll py runtime payloads () =
        (match firstRejection py runtime.readerCode payloads with
          | none => .ok results
          | some (_, exc) => .error exc, s') := by
  obtain ⟨results, s', -, -, ran, -⟩ := run_refused_append
    (s := { orchestrator := { runtime, history := [.commands] }, payloads := [], outside := () })
    rfl (servedCommands py runtime.readerCode payloads) []
  refine ⟨results, s', ran, ?_⟩
  rw [poll_eq, Surroundings.run, Prog.eval_bind]
  rw [Surroundings.run] at ran
  rw [ran]
  cases firstRejection py runtime.readerCode payloads <;> rfl

/-- Refused alike, neither list has the later first rejection. -/
theorem rejection_not_later
    (same : ownPayloads py runtime.readerCode xs = ownPayloads py runtime.readerCode ys)
    {count count' : Nat} {exc exc' : PyException}
    (rejected : firstRejection py runtime.readerCode xs = some (count, exc))
    (rejected' : firstRejection py runtime.readerCode ys = some (count', exc'))
    (alike : refusingSurroundings.poll py runtime xs () =
      refusingSurroundings.poll py runtime ys ()) : count' ≤ count := by
  by_contra later
  obtain ⟨extra, split⟩ : ∃ extra, servedCommands py runtime.readerCode ys =
      servedCommands py runtime.readerCode xs ++ extra := by
    refine ⟨(((ownPayloads py runtime.readerCode ys).drop count).take
      (count' - count)).filterMap (acceptedCommand py), ?_⟩
    rw [servedCommands_eq, servedCommands_eq, rejected, rejected', same]
    simp only [Option.map_some, Option.getD_some]
    rw [← List.filterMap_append, ← List.take_add]
    congr 2
    omega
  have lengths := congrArg List.length split
  rw [List.length_append, length_servedCommands rejected,
    length_servedCommands rejected'] at lengths
  obtain ⟨results, s', ran, polled⟩ := poll_refused py runtime xs
  obtain ⟨results', s'', ran', polled'⟩ := poll_refused py runtime ys
  obtain ⟨_, _, _, _, first, both, longer⟩ := run_refused_append
    (s := { orchestrator := { runtime, history := [.commands] }, payloads := [], outside := () })
    rfl (servedCommands py runtime.readerCode xs) extra
  rw [ran] at first
  rw [← split, ran'] at both
  cases first
  cases both
  rw [polled, polled'] at alike
  cases congrArg Prod.snd alike
  omega

/-- Foreign payloads that from_payload accepts move no rejection. -/
theorem firstRejection_ownPayloads {readerCode : String} {payloads : List Json}
    (accepted : ∀ payload ∈ payloads, isForeign py readerCode payload = true →
      ∃ command, OdooRFIDCommand.fromPayload py payload = .ok command) :
    firstRejection py readerCode (ownPayloads py readerCode payloads) =
      firstRejection py readerCode payloads := by
  induction payloads with
  | nil => rfl
  | cons payload rest ih =>
      have rest_accepted := ih fun other mem => accepted other (List.mem_cons_of_mem payload mem)
      cases foreign : isForeign py readerCode payload with
      | false =>
          have kept : ownPayloads py readerCode (payload :: rest) =
              payload :: ownPayloads py readerCode rest := by
            simp [ownPayloads, foreign]
          rw [kept, firstRejection, firstRejection, rest_accepted]
      | true =>
          have skipped : ownPayloads py readerCode (payload :: rest) =
              ownPayloads py readerCode rest := by
            simp [ownPayloads, foreign]
          obtain ⟨command, parsed⟩ := accepted payload (List.mem_cons_self ..) foreign
          rw [skipped, rest_accepted]
          simp [firstRejection, parsed, foreign]

/-- Payloads for other readers do not matter exactly if they do not move the first payload that
from_payload rejects. -/
theorem pollCommands_isolated_iff
    (same : ownPayloads py runtime.readerCode xs = ownPayloads py runtime.readerCode ys) :
    PollsAlike py runtime xs ys ↔
      firstRejection py runtime.readerCode xs = firstRejection py runtime.readerCode ys := by
  constructor
  · intro alike
    have refused := alike Unit refusingSurroundings ()
    obtain ⟨results, s', -, polled⟩ := poll_refused py runtime xs
    obtain ⟨results', s'', -, polled'⟩ := poll_refused py runtime ys
    have outcomes := congrArg Prod.fst refused
    rw [polled, polled'] at outcomes
    cases rejected : firstRejection py runtime.readerCode xs with
    | none =>
        cases rejected' : firstRejection py runtime.readerCode ys with
        | none => rfl
        | some rejection =>
            rw [rejected, rejected'] at outcomes
            cases outcomes
    | some rejection =>
        cases rejected' : firstRejection py runtime.readerCode ys with
        | none =>
            rw [rejected, rejected'] at outcomes
            cases outcomes
        | some rejection' =>
            have counts : rejection.1 = rejection'.1 := le_antisymm
              (rejection_not_later same.symm rejected' rejected refused.symm)
              (rejection_not_later same rejected rejected' refused)
            rw [rejected, rejected'] at outcomes
            exact congrArg some (Prod.ext counts (Except.error.inj outcomes))
  · intro rejections η w outside
    rw [poll_eq, poll_eq, servedCommands_congr same rejections, rejections]

/-- Accepted payloads for other readers can be left out. -/
theorem pollsAlike_ownPayloads {payloads : List Json}
    (accepted : ∀ payload ∈ payloads, isForeign py runtime.readerCode payload = true →
      ∃ command, OdooRFIDCommand.fromPayload py payload = .ok command) :
    PollsAlike py runtime (ownPayloads py runtime.readerCode payloads) payloads := by
  have same : ownPayloads py runtime.readerCode (ownPayloads py runtime.readerCode payloads) =
      ownPayloads py runtime.readerCode payloads := by
    simp [ownPayloads, List.filter_filter]
  intro η w outside
  have rejections := firstRejection_ownPayloads accepted
  rw [poll_eq, poll_eq, servedCommands_congr same rejections, rejections]

end

namespace OneReader

def py : Builtins where
  containerText _ := ""
  reprText text := "'" ++ text ++ "'"
  intOfText _ := none
  upper text := text
  lower text := text

def payload (readerCode command : String) : Json :=
  .dict [("session_key", .str "S-1"), ("reader_code", .str readerCode),
    ("command", .str command), ("revision", .int 1)]

def idle : LocalReaderRuntime where
  readerCode := "reader-1"

def obligingSurroundings : Surroundings Unit := fun op _ => (obliging op, ())

end OneReader

open OneReader in
theorem pollCommands_isolated_iff_start :
    PollsAlike py idle [payload "reader-2" "start", payload "reader-1" "start"]
      [payload "reader-1" "start"] :=
  (pollCommands_isolated_iff (by rfl)).mpr (by decide)

open OneReader in
/-- A command for reader-2 that the bridge does not support keeps reader-1 from its START. -/
theorem foreign_payload_ends_round :
    ownPayloads py "reader-1" [payload "reader-2" "pause", payload "reader-1" "start"] =
        ownPayloads py "reader-1" [payload "reader-1" "start"] ∧
      obligingSurroundings.poll py idle
          [payload "reader-2" "pause", payload "reader-1" "start"] () =
        (.error ⟨.runtimeStateError, "Unsupported RFID command: 'pause'"⟩,
          { orchestrator := { runtime := idle, history := [.commands] }
            payloads := []
            outside := () }) ∧
      (obligingSurroundings.poll py idle [payload "reader-1" "start"] ()).1 = .ok [{
        runtime := reading
        command := start
        success := true
        message := "Reader started and Odoo ACK accepted." }] ∧
      ¬ PollsAlike py idle [payload "reader-2" "pause", payload "reader-1" "start"]
        [payload "reader-1" "start"] := by
  have stopped : obligingSurroundings.poll py idle
      [payload "reader-2" "pause", payload "reader-1" "start"] () =
      (.error ⟨.runtimeStateError, "Unsupported RFID command: 'pause'"⟩,
        { orchestrator := { runtime := idle, history := [.commands] }
          payloads := []
          outside := () }) := by rfl
  have started : (obligingSurroundings.poll py idle [payload "reader-1" "start"] ()).1 = .ok [{
      runtime := reading
      command := start
      success := true
      message := "Reader started and Odoo ACK accepted." }] := by rfl
  refine ⟨rfl, stopped, started, fun alike => ?_⟩
  have same := congrArg Prod.fst (alike Unit obligingSurroundings ())
  rw [stopped, started] at same
  cases same

end RfidBridge
