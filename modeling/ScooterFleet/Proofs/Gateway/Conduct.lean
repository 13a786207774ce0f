import ScooterFleet.Kernel.Gateway
import ScooterFleet.Proofs.Registry.Slot
import ScooterFleet.Proofs.Store.Records

/-!
# What a connection does to the kernel

A connection claims one slot, receives its own commands, passes on what its device reports, and frees
its slot when it goes.  It calls the registry for nothing else, and it only reads the store.

* `Gateway.Conduct` — the calls of one step, from state to state;
* `conduct_of_step` — **every step is one of these**;
* `contents_of_step` — no step writes to the store.
-/

namespace ScooterFleet

variable {α : Type}

/-- A call that a connection makes for its own scooter while it serves. -/
def Registry.Call.IsOwn (owned : Registration) : Registry.Call α → Prop
  | .take n => n = owned.connection
  | .telemetry _ m => m.scooter = owned.scooter
  | .tripEnded _ report => report.scooter = owned.scooter
  | _ => False

namespace Gateway

open Registry

/-- The calls of a step of a connection. -/
inductive Conduct (r : Registry α) : Gateway α → Gateway α → List (Call α) → Prop
  /-- Without a slot, nothing is called, and nobody was served. -/
  | outside {g g' : Gateway α} (before : g.owned? = none) (after : g'.owned? = none)
      (unserved : ∀ id, g'.result? ≠ some (.ok id)) : Conduct r g g' []
  | claims {g g' : Gateway α} {c : Call α} {owned : Registration} (before : g.owned? = none)
      (grant : r.granted? c = some owned) (after : g'.owned? = some owned) : Conduct r g g' [c]
  | idles {g g' : Gateway α} {owned : Registration} (before : g.owned? = some owned)
      (after : g'.owned? = some owned) : Conduct r g g' []
  | serves {g g' : Gateway α} {c : Call α} {owned : Registration} (before : g.owned? = some owned)
      (after : g'.owned? = some owned) (own : c.IsOwn owned) : Conduct r g g' [c]
  | frees {owned : Registration} {result : Except DeviceFault Unit} :
      Conduct r (.leaving owned result) (.finished (result.map fun _ => owned.scooter))
        [.release owned, .dropQueue owned.connection]

/-- A step with its calls, and the registry that it leaves. -/
structure Conducts (r : Registry α) (g g' : Gateway α) (calls : List (Call α)) (r' : Registry α) :
    Prop where
  conduct : Conduct r g g' calls
  registry : r' = r.run calls

/-! ### Frames that are sent -/

/-- What becomes of a frame that is sent down. -/
theorem send_cases {s : Site α} {frame : ServerFrame α} {sent : Site α → Gateway α × Site α}
    {failed : LinkFault → Site α → Gateway α × Site α} {x : Gateway α × Site α}
    (h : send s frame sent failed = some x) :
    (∃ down, s.link.down.send (.ok frame) = .sent down ∧
        x = sent { s with link := { s.link with down } }) ∨
      ∃ fault, s.link.down.send (.ok frame) = .failed fault ∧ x = failed fault s := by
  unfold send at h
  split at h
  · next down hsend =>
    cases h
    exact .inl ⟨down, hsend, rfl⟩
  · next fault hsend =>
    cases h
    exact .inr ⟨fault, hsend, rfl⟩
  · cases h

/-! ### The steps -/

section Steps

variable {now : Millis} {wall : Timestamp} {s : Site α} {g : Gateway α} {x : Gateway α × Site α}

theorem conducts_outside {r r' : Registry α} {g' : Gateway α} (before : g.owned? = none)
    (after : g'.owned? = none) (unserved : ∀ id, g'.result? ≠ some (.ok id)) (h : r' = r) :
    ∃ calls, Conducts r g g' calls r' :=
  ⟨[], .outside before after unserved, h⟩

theorem conducts_idle {r r' : Registry α} {g' : Gateway α} {owned : Registration}
    (before : g.owned? = some owned) (after : g'.owned? = some owned) (h : r' = r) :
    ∃ calls, Conducts r g g' calls r' :=
  ⟨[], .idles before after, h⟩

theorem conducts_greet (s : Site α) (deadline : Millis) (m : Except LinkFault (DeviceFrame α)) :
    ∃ calls, Conducts s.kernel.registry (.greeting deadline) (greet s m).1 calls
      (greet s m).2.kernel.registry := by
  unfold greet
  split
  · exact conducts_outside rfl rfl (by rintro id ⟨⟩) rfl
  · exact conducts_outside rfl rfl (by rintro id ⟨⟩) rfl
  · exact conducts_outside rfl rfl (by rintro id ⟨⟩) rfl
  · exact conducts_outside rfl rfl (by rintro id ⟨⟩) rfl

theorem conducts_hear (s : Site α) (owned : Registration) (m : Except LinkFault (DeviceFrame α)) :
    ∃ calls, Conducts s.kernel.registry (.serving owned) (hear owned s m).1 calls
      (hear owned s m).2.kernel.registry := by
  unfold hear
  split <;> exact conducts_idle rfl rfl rfl

/-- A frame that is heard is a call for the own scooter, or none. -/
theorem conducts_apply (wall : Timestamp) (r : Registry α) (owned : Registration)
    (frame : DeviceFrame α) :
    ∃ calls, Conducts r (.hearing owned frame) (.serving owned) calls (apply wall owned r frame) := by
  cases frame with
  | hello scooter => exact conducts_idle rfl rfl rfl
  | telemetry m =>
    by_cases hm : m.scooter = owned.scooter
    · have hown : (Call.telemetry wall m).IsOwn owned := hm
      exact ⟨_, .serves rfl rfl hown, by simp [apply, hm, perform]⟩
    · exact conducts_idle rfl rfl (by simp [apply, hm])
  | tripEnded report =>
    by_cases hm : report.scooter = owned.scooter
    · have hown : (Call.tripEnded wall report).IsOwn owned := hm
      exact ⟨_, .serves rfl rfl hown, by simp [apply, hm, perform]⟩
    · exact conducts_idle rfl rfl (by simp [apply, hm])

theorem conducts_of_advance (h : g.advance wall s = some x) :
    ∃ calls, Conducts s.kernel.registry g x.1 calls x.2.kernel.registry := by
  cases g with
  | checking id =>
    simp only [advance] at h
    split at h <;> next hcall =>
      cases h
      exact conducts_outside rfl rfl (by rintro id ⟨⟩) (Kernel.registry_of_call hcall)
  | listing =>
    simp only [advance] at h
    split at h <;> next hcall =>
      cases h
      exact conducts_outside rfl rfl (by rintro id ⟨⟩) (Kernel.registry_of_call hcall)
  | looking owned =>
    simp only [advance] at h
    split at h <;> next hcall =>
      cases h
      exact conducts_idle rfl rfl (Kernel.registry_of_call hcall)
  | registering id =>
    simp only [advance] at h
    split at h
    · next owned registry hreg =>
      cases h
      have hgrant : s.kernel.registry.granted? (.register wall id) = some owned := by
        simp only [granted?, hreg]
        rfl
      exact ⟨_, .claims rfl hgrant rfl, by simp [perform, hreg, Site.withRegistry]⟩
    · cases h
      exact conducts_outside rfl rfl (by rintro id ⟨⟩) rfl
  | choosing candidates =>
    simp only [advance] at h
    split at h
    · next owned registry hreg =>
      cases h
      have hgrant : s.kernel.registry.granted? (.registerFirstFree wall candidates) = some owned := by
        simp only [granted?, hreg]
        rfl
      exact ⟨_, .claims rfl hgrant rfl, by simp [perform, hreg, Site.withRegistry]⟩
    · cases h
      exact conducts_outside rfl rfl (by rintro id ⟨⟩) rfl
  | locating owned scooter =>
    cases h
    exact conducts_idle rfl rfl rfl
  | welcoming owned state =>
    rcases send_cases h with ⟨down, -, rfl⟩ | ⟨fault, -, rfl⟩ <;> exact conducts_idle rfl rfl rfl
  | forwarding owned command =>
    rcases send_cases h with ⟨down, -, rfl⟩ | ⟨fault, -, rfl⟩ <;> exact conducts_idle rfl rfl rfl
  | hearing owned frame =>
    cases h
    exact conducts_apply wall s.kernel.registry owned frame
  | refusing fault =>
    simp only [advance] at h
    rcases send_cases h with ⟨down, -, rfl⟩ | ⟨fault', -, rfl⟩ <;>
      exact conducts_outside rfl rfl (by rintro id ⟨⟩) rfl
  | leaving owned result =>
    cases h
    exact ⟨_, .frees, rfl⟩
  | greeting _ => cases h
  | serving _ => cases h
  | finished _ => cases h

/-- **Every step of a connection is one of these.** -/
theorem conduct_of_step {c : Choice} (h : g.step now wall s c = some x) :
    ∃ calls, Conducts s.kernel.registry g x.1 calls x.2.kernel.registry := by
  unfold step at h
  split at h
  · exact conducts_of_advance h
  · next owned =>
    split at h
    · next command rest hreceive =>
      cases h
      have hown : (Call.take owned.connection : Call α).IsOwn owned := rfl
      exact ⟨_, .serves rfl rfl hown, by simp [perform, hreceive, Site.withRegistry]⟩
    · cases h
      exact conducts_idle rfl rfl rfl
    · cases h
  · next owned =>
    split at h
    · next m up hreceive =>
      cases h
      exact conducts_hear { s with link := { s.link with up } } owned m
    · cases h
      exact conducts_idle rfl rfl rfl
    · cases h
  · next deadline =>
    split at h
    · next m up hreceive =>
      cases h
      exact conducts_greet { s with link := { s.link with up } } deadline m
    · cases h
      exact conducts_outside rfl rfl (by rintro id ⟨⟩) rfl
    · cases h
  · split at h
    · cases h
      exact conducts_outside rfl rfl (by rintro id ⟨⟩) rfl
    · cases h
  · cases h

/-- Dropped in the middle, a connection frees its slot as well. -/
theorem registry_cancel (g : Gateway α) (s : Site α) :
    (g.cancel s).kernel.registry =
      match g.owned? with
      | some owned => s.kernel.registry.run [.release owned, .dropQueue owned.connection]
      | none => s.kernel.registry := by
  unfold cancel
  cases g.owned? <;> rfl

/-! ### The store -/

theorem contents_of_advance (h : g.advance wall s = some x) :
    x.2.kernel.store.contents = s.kernel.store.contents := by
  cases g with
  | checking id =>
    have hread := @Store.onlyReads_getScooter α id
    simp only [advance] at h
    split at h <;> next hcall => cases h; exact Kernel.contents_of_call hcall hread
  | listing =>
    have hread := @Store.onlyReads_listScooters α
    simp only [advance] at h
    split at h <;> next hcall => cases h; exact Kernel.contents_of_call hcall hread
  | looking owned =>
    have hread := @Store.onlyReads_getScooter α owned.scooter
    simp only [advance] at h
    split at h <;> next hcall => cases h; exact Kernel.contents_of_call hcall hread
  | registering id =>
    simp only [advance] at h
    split at h <;> cases h <;> rfl
  | choosing candidates =>
    simp only [advance] at h
    split at h <;> cases h <;> rfl
  | welcoming owned state =>
    rcases send_cases h with ⟨down, -, rfl⟩ | ⟨fault, -, rfl⟩ <;> rfl
  | forwarding owned command =>
    rcases send_cases h with ⟨down, -, rfl⟩ | ⟨fault, -, rfl⟩ <;> rfl
  | refusing fault =>
    simp only [advance] at h
    rcases send_cases h with ⟨down, -, rfl⟩ | ⟨fault', -, rfl⟩ <;> rfl
  | locating owned scooter =>
    cases h
    rfl
  | hearing owned frame =>
    cases h
    rfl
  | leaving owned result =>
    cases h
    rfl
  | greeting _ => cases h
  | serving _ => cases h
  | finished _ => cases h

theorem kernel_of_greet (s : Site α) (m : Except LinkFault (DeviceFrame α)) :
    (greet s m).2.kernel = s.kernel := by
  unfold greet
  split <;> rfl

theorem kernel_of_hear (owned : Registration) (s : Site α) (m : Except LinkFault (DeviceFrame α)) :
    (hear owned s m).2.kernel = s.kernel := by
  unfold hear
  split <;> rfl

/-- **A connection only reads the store.** -/
theorem contents_of_step {c : Choice} (h : g.step now wall s c = some x) :
    x.2.kernel.store.contents = s.kernel.store.contents := by
  unfold step at h
  split at h
  · exact contents_of_advance h
  · split at h <;> cases h <;> rfl
  · split at h
    · cases h
      rw [kernel_of_hear]
    · cases h
      rfl
    · cases h
  · split at h
    · cases h
      rw [kernel_of_greet]
    · cases h
      rfl
    · cases h
  · split at h <;> cases h
    rfl
  · cases h

theorem contents_of_cancel (g : Gateway α) (s : Site α) :
    (g.cancel s).kernel.store.contents = s.kernel.store.contents := by
  unfold cancel
  cases g.owned? <;> rfl

end Steps

end Gateway
end ScooterFleet
