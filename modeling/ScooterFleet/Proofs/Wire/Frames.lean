import ScooterFleet.Proofs.Decimal.Finite
import ScooterFleet.Proofs.Record.Carried
import ScooterFleet.Proofs.Wire.Verdict

/-!
# Frames read back

A frame is read from its own text, as long as every number in it is finite.  One that is not is written
as `null`, which no field for a number takes, so that nothing is read then.  And whatever text a frame
was read from, its numbers are finite: it can be written and read again.

* `DeviceFrame.allFinite_of_ofText`, `ServerFrame.allFinite_of_ofText` — what is read is finite;
* `wire_round_trip` — **every frame is read from its text as itself, or not at all.**

That doubles are read from the decimals that are written for them is asked of the numbers that occur
(`Json.ReadsBack`).
-/

namespace ScooterFleet

open Json (Fault Reading ReadsBack)
open Record

/-! ### What is read of other texts -/

namespace Json

theorem holds_shape (v : Json) (h : v.InRange) : (Format.shape v).Holds InRange := by
  cases v with
  | list vs =>
    rw [InRange] at h
    intro v hv
    obtain ⟨w, hw, he⟩ := List.mem_map.mp hv
    cases he
    exact inRange_of_mem_items h hw
  | object fs =>
    rw [InRange] at h
    intro k v hv
    obtain ⟨f, hf, he⟩ := List.mem_map.mp hv
    cases he
    exact inRange_of_mem_fields h hf
  | null => trivial
  | bool b => trivial
  | number n => trivial
  | text s => trivial

/-- A number in range is read as a finite double. -/
theorem carries_real :
    Decoder.Carries InRange (Format.real : Decoder Json Float) fun x => x.isFinite = true := by
  intro v x hv hx
  cases v with
  | number n =>
    rw [InRange] at hv
    cases hx
    exact Numeral.isFinite_of_inRange hv
  | null => cases hx
  | bool b => cases hx
  | text s => cases hx
  | list vs => cases hx
  | object fs => cases hx

theorem carries_any {α : Type} (d : Decoder Json α) : d.Carries InRange fun _ => True :=
  fun _ _ _ _ => trivial

/-- What is decoded from the fields of a frame, if each slot carries it. -/
theorem carries_record {α : Type} {r : Record Json α} {fine : α → Prop}
    (h : Record.Carries InRange r fine) : r.decode.Carries InRange fine :=
  Record.carries_decode h holds_shape

/-- What is decoded of a text with a tag is decoded of numbers in range. -/
theorem carries_decodeText {α : Type} {d : Decoder Reading α} {tags : List String}
    {ofTagged : String → Decoder Json α}
    (hd : ∀ v, d v = (untag "type" tags v >>= fun out => ofTagged out.1 out.2)) {fine : α → Prop}
    (h : ∀ tag, (ofTagged tag).Carries InRange fine) {s : String} {a : α}
    (ha : decodeText d s = .ok a) : fine a := by
  rw [decodeText, decodeChars] at ha
  obtain ⟨b, hb, ha⟩ := bind_eq_ok ha
  rw [hd] at hb
  obtain ⟨⟨tag, v⟩, huntag, hb⟩ := bind_eq_ok hb
  have hfine : fine b := h tag v b (inRange_of_untag huntag) hb
  split at ha
  · cases ha
    exact hfine
  · cases ha

end Json

theorem carries_tripSlot : Carries Json.InRange (tripSlot : Record Json _) fun _ => True :=
  carries_slot "trip_id" .usual (Json.carries_any _) fun _ _ => trivial

theorem Position.carries_decode :
    Position.record.decode.Carries Json.InRange fun p => allFinite p.numbers = true := by
  refine Json.carries_record (carries_seq
    (carries_map (carries_required "latitude" Json.carries_real) ?_)
    (carries_required "longitude" Json.carries_real))
  intro latitude hlatitude longitude hlongitude
  simp [allFinite, numbers, hlatitude, hlongitude]

theorem Telemetry.carries_decode :
    Telemetry.record.decode.Carries Json.InRange fun m => allFinite m.numbers = true := by
  refine Json.carries_record (carries_seq (carries_seq
    (carries_map (carries_required "scooter_id" (Json.carries_any _)) ?_)
    (carries_required "latitude" Json.carries_real))
    (carries_required "longitude" Json.carries_real))
  intro scooter _ latitude hlatitude longitude hlongitude
  simp [allFinite, numbers, Position.numbers, hlatitude, hlongitude]

theorem Dispatch.carries_decode :
    Dispatch.record.decode.Carries Json.InRange fun d => allFinite d.numbers = true := by
  refine Json.carries_record (carries_seq (carries_seq
    (carries_map (carries_required "scooter_id" (Json.carries_any _)) ?_)
    (carries_required "destination" Position.carries_decode)) carries_tripSlot)
  intro scooter _ destination hdestination trip _
  exact hdestination

theorem DeviceState.carries_decode :
    DeviceState.record.decode.Carries Json.InRange fun s => allFinite s.numbers = true := by
  refine Json.carries_record (carries_seq
    (carries_map (carries_required "position" Position.carries_decode) ?_)
    (carries_required "battery" Json.carries_real))
  intro position hposition battery hbattery
  rw [numbers, allFinite_append, hposition]
  simp [allFinite, hbattery]

theorem TripReport.carries_decode :
    TripReport.record.decode.Carries Json.InRange fun r => allFinite r.numbers = true := by
  refine Json.carries_record (carries_seq (carries_seq (carries_seq (carries_seq
    (carries_map (carries_required "scooter_id" (Json.carries_any _)) ?_)
    (carries_required "position" Position.carries_decode))
    (carries_required "battery" Json.carries_real))
    (carries_required "outcome" (Json.carries_any _))) carries_tripSlot)
  intro scooter _ position hposition battery hbattery outcome _ trip _
  rw [numbers, allFinite_append, hposition]
  simp [allFinite, hbattery]

theorem DeviceFrame.carries_ofTagged (tag : String) :
    (ofTagged tag).Carries Json.InRange fun f => allFinite f.numbers = true := by
  intro v f hv hf
  unfold ofTagged at hf
  split at hf
  · obtain ⟨scooter, -, rfl⟩ := Json.map_eq_ok hf
    rfl
  · split at hf
    · obtain ⟨m, hm, rfl⟩ := Json.map_eq_ok hf
      exact Telemetry.carries_decode v m hv hm
    · obtain ⟨r, hr, rfl⟩ := Json.map_eq_ok hf
      exact TripReport.carries_decode v r hv hr

/-- **All numbers of a frame that was read are finite.** -/
theorem DeviceFrame.allFinite_of_ofText {s : String} {f : DeviceFrame Float} (h : ofText s = .ok f) :
    allFinite f.numbers = true :=
  Json.carries_decodeText (d := decode) (fun _ => rfl) carries_ofTagged h

theorem ServerFrame.carries_welcome :
    welcomeRecord.decode.Carries Json.InRange fun f => allFinite f.numbers = true := by
  refine Json.carries_record (carries_seq
    (carries_map (carries_required "scooter_id" (Json.carries_any _)) ?_)
    (carries_required "state" DeviceState.carries_decode))
  intro scooter _ state hstate
  exact hstate

theorem ServerFrame.carries_ofTagged (tag : String) :
    (ofTagged tag).Carries Json.InRange fun f => allFinite f.numbers = true := by
  intro v f hv hf
  unfold ofTagged at hf
  split at hf
  · exact carries_welcome v f hv hf
  · split at hf
    · obtain ⟨command, hcommand, rfl⟩ := Json.map_eq_ok hf
      exact Dispatch.carries_decode v command hv hcommand
    · obtain ⟨reason, -, rfl⟩ := Json.map_eq_ok hf
      rfl

/-- **All numbers of a frame that was read are finite.** -/
theorem ServerFrame.allFinite_of_ofText {s : String} {f : ServerFrame Float} (h : ofText s = .ok f) :
    allFinite f.numbers = true :=
  Json.carries_decodeText (d := decode) (fun _ => rfl) carries_ofTagged h

/-! ### Both ways -/

/-- **Every frame is read from its text as itself, or not at all**, and so is every frame that was read
from any text. -/
theorem wire_round_trip (device : DeviceFrame Float) (server : ServerFrame Float)
    (hdevice : ∀ x ∈ device.numbers, ReadsBack x) (hserver : ∀ x ∈ server.numbers, ReadsBack x) :
    (allFinite device.numbers = true → DeviceFrame.ofText device.text = .ok device) ∧
      (allFinite server.numbers = true → ServerFrame.ofText server.text = .ok server) ∧
      (allFinite device.numbers = false → DeviceFrame.ofText device.text = .error .mistyped) ∧
      (allFinite server.numbers = false → ServerFrame.ofText server.text = .error .mistyped) ∧
      (∀ s, DeviceFrame.ofText s = .ok device → DeviceFrame.ofText device.text = .ok device) ∧
      ∀ s, ServerFrame.ofText s = .ok server → ServerFrame.ofText server.text = .ok server := by
  have hdown := DeviceFrame.ofText_text hdevice
  have hup := ServerFrame.ofText_text hserver
  refine ⟨fun h => ?_, fun h => ?_, fun h => ?_, fun h => ?_, fun s hs => ?_, fun s hs => ?_⟩
  · rw [hdown, h]
    rfl
  · rw [hup, h]
    rfl
  · rw [hdown, h]
    rfl
  · rw [hup, h]
    rfl
  · rw [hdown, DeviceFrame.allFinite_of_ofText hs]
    rfl
  · rw [hup, ServerFrame.allFinite_of_ofText hs]
    rfl

/-- A position on the way, and a text of it with its fields by place. -/
def onTheWay : DeviceFrame Float := .telemetry ⟨18446744073709551615, ⟨52.520008, -0.0⟩⟩

/-- A welcome with a battery that is no number. -/
def unfounded : ServerFrame Float := .welcome 7 ⟨⟨1e-7, 13.404954⟩, 0 / 0⟩

theorem wire_round_trip_onTheWay :
    DeviceFrame.ofText "[\"telemetry\", 18446744073709551615, 52520008e-6, -0]" = .ok onTheWay ∧
      DeviceFrame.ofText onTheWay.text = .ok onTheWay ∧
      ServerFrame.ofText unfounded.text = .error .mistyped := by
  have hdevice : ∀ x ∈ onTheWay.numbers, (Layout.json.ofFloat x).map Numeral.toFloat = some x := by
    decide +kernel
  have hserver : ∀ x ∈ unfounded.numbers, x.isFinite = true →
      (Layout.json.ofFloat x).map Numeral.toFloat = some x := by
    decide +kernel
  have readsBack : ∀ x ∈ unfounded.numbers, ReadsBack x := by
    intro x hx
    cases hfinite : x.isFinite with
    | true => exact Json.readsBack_of_map (hserver x hx hfinite)
    | false => exact Json.readsBack_of_not_isFinite hfinite
  have hread : DeviceFrame.ofText "[\"telemetry\", 18446744073709551615, 52520008e-6, -0]" =
      .ok onTheWay := by
    decide +kernel
  obtain ⟨-, -, -, hrefused, hagain, -⟩ := wire_round_trip onTheWay unfounded
    (fun x hx => Json.readsBack_of_map (hdevice x hx)) readsBack
  exact ⟨hread, hagain _ hread, hrefused (by decide +kernel)⟩

end ScooterFleet
