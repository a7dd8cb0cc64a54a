import RfidBridge.Worker.ReaderExecutor

/-!
Waiting for a response. Whatever holds with each batch of frames that was received
still holds when the wait is over, and a wait that succeeds has found its response in
one of the batches.
-/

namespace RfidBridge
open PersistentActiveReaderExecutor

/-- A frame that ends the wait with success. -/
structure Accepted (device : ReaderDevice) (wait : Handshake) (frame : RFIDFrame) : Prop where
  response : frame.command = wait.response
  status : frame.status ∈ wait.acceptedStatuses
  address : frame.address.toNat = device.deviceAddress

theorem validateFrameAddress_eq_ok {device : ReaderDevice} {frame : RFIDFrame} {u : Unit}
    (h : validateFrameAddress device frame = .ok u) :
    frame.address.toNat = device.deviceAddress := by
  simp only [validateFrameAddress, guard_eq_ok, not_not] at h
  exact h.1

section
variable {a : Actor BridgeOp BridgeOp.Answer PyException World} {device : ReaderDevice}
  {wait : Handshake} {I : World → Prop}

theorem keeps_captureTagFrame {frame : RFIDFrame} (stable : a.Stable I)
    (append : frame.command = commandActiveTag →
      a.Keeps I (Prog.perform (BridgeOp.appendPendingTagFrame frame))) :
    a.Keeps I (captureTagFrame device frame) := by
  apply Actor.keeps_bind stable (Actor.keeps_ofExcept stable _)
  intro _
  split
  · exact Actor.keeps_ret stable ()
  · rename_i tag
    split
    · exact Actor.keeps_raise stable _
    · exact append (not_not.mp tag)

theorem sat_scanBatch {frames : List RFIDFrame} {w : World} (stable : a.Stable I)
    (append : ∀ frame ∈ frames, frame.command = commandActiveTag →
      a.Keeps I (Prog.perform (BridgeOp.appendPendingTagFrame frame))) (h : I w) :
    a.Sat (scanBatch device wait frames)
      (Actor.ends
        (fun found w => I w ∧ ∀ frame ∈ found, frame ∈ frames ∧ Accepted device wait frame)
        fun _ => I) w := by
  have passes : ∀ (exc : PyException) (w w' : World), I w → a.rely w w' → I w' :=
    fun _ => stable
  induction frames generalizing w with
  | nil =>
      apply Actor.Sat.ret
      exact fun w' rely => ⟨stable w w' h rely, nofun⟩
  | cons frame frames ih =>
      have rest : ∀ w, I w → a.Sat (scanBatch device wait frames)
          (Actor.ends (fun found w => I w ∧
            ∀ f ∈ found, f ∈ frame :: frames ∧ Accepted device wait f) fun _ => I) w := by
        intro w h
        apply (ih (fun f member => append f (List.mem_cons_of_mem frame member)) h).mono
        intro outcome w' post
        cases outcome with
        | error _ => exact post
        | ok found =>
            refine ⟨post.1, fun f member => ?_⟩
            obtain ⟨listed, accepted⟩ := post.2 f member
            exact ⟨List.mem_cons_of_mem frame listed, accepted⟩
      apply Actor.Sat.seq passes
        (P := fun _ w => I w ∧ frame.address.toNat = device.deviceAddress)
      · cases checked : validateFrameAddress device frame with
        | error exc => exact Actor.Sat.raise fun w' rely => stable w w' h rely
        | ok _ =>
            exact Actor.Sat.ret fun w' rely =>
              ⟨stable w w' h rely, validateFrameAddress_eq_ok checked⟩
      · rintro _ w₁ ⟨h₁, address⟩
        split
        · rename_i tag
          apply Actor.Sat.seq passes (P := fun _ => I)
          · exact (keeps_captureTagFrame stable (append frame (List.mem_cons_self ..))).sat h₁
          · exact fun _ => rest
        · split
          · exact rest w₁ h₁
          · rename_i response
            split
            · exact Actor.Sat.raise fun w' rely => stable w₁ w' h₁ rely
            · rename_i status
              apply Actor.Sat.ret
              rintro w' rely
              refine ⟨stable w₁ w' h₁ rely, ?_⟩
              rintro _ ⟨⟩
              exact ⟨List.mem_cons_self .., not_not.mp response, not_not.mp status, address⟩

/-- What each batch establishes holds at the end, with the response among its frames. -/
theorem sat_awaitResponse {J : List RFIDFrame → World → Prop}
    {receiveBatch : Bridge (List RFIDFrame)} (stable : a.Stable I)
    (stable' : ∀ frames, a.Stable (J frames)) (weaker : ∀ frames w, J frames w → I w)
    (append : ∀ frames, ∀ frame ∈ frames, frame.command = commandActiveTag →
      a.Keeps (J frames) (Prog.perform (BridgeOp.appendPendingTagFrame frame)))
    (batch : ∀ w, I w → a.Sat receiveBatch (Actor.ends J fun _ => I) w) (attempts : Nat)
    (w : World) (h : I w) :
    a.Sat (awaitResponse device wait receiveBatch attempts)
      (Actor.ends
        (fun frame w => ∃ frames, frame ∈ frames ∧ Accepted device wait frame ∧ J frames w)
        fun _ => I) w := by
  have passes : ∀ (exc : PyException) (w w' : World), I w → a.rely w w' → I w' :=
    fun _ => stable
  induction attempts generalizing w with
  | zero => exact Actor.Sat.raise fun w' rely => stable w w' h rely
  | succ attempts ih =>
      apply Actor.Sat.seq passes (batch w h)
      intro frames w₁ received
      apply Actor.Sat.seq passes
        (P := fun found w => J frames w ∧
          ∀ frame ∈ found, frame ∈ frames ∧ Accepted device wait frame)
      · apply (sat_scanBatch (stable' frames) (append frames) received).mono
        intro outcome w₂ post
        cases outcome with
        | ok found => exact post
        | error _ => exact weaker frames w₂ post
      · rintro found w₂ ⟨held, accepted⟩
        cases found with
        | none => exact ih w₂ (weaker frames w₂ held)
        | some frame =>
            obtain ⟨member, accepted⟩ := accepted frame rfl
            exact Actor.Sat.ret fun w' rely =>
              ⟨frames, member, accepted, stable' frames w₂ w' held rely⟩

end
end RfidBridge
