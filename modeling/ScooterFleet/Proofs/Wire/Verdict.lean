import ScooterFleet.Proofs.Json.Tagged

/-!
# The verdict on a written frame

A frame whose numbers are finite is read from its own text; one of its numbers that is not finite is
written as `null`, which no field for a number takes.

* `Telemetry.numbers`, … — the numbers of a frame;
* `TripReport.decode_value`, … — the verdict on the fields of a frame;
* `DeviceFrame.ofText_text`, `ServerFrame.ofText_text` — **the verdict on the text of a frame.**
-/

namespace ScooterFleet

open Json (Fault Reading ReadsBack)
open Record

/-! ### Records -/

theorem Position.decode_value {p : Position Float} (h : ∀ x ∈ p.numbers, ReadsBack x) :
    Position.record.decode p.toJson = verdict (allFinite p.numbers) p := by
  have hlatitude := Json.real_value (h p.latitude (by simp [numbers]))
  have hlongitude := Json.real_value (h p.longitude (by simp [numbers]))
  have hjudges := judges_seq
    (judges_map Position.mk (judges_required "latitude" Format.real (.ofFloat p.latitude : Json)))
    (judges_required "longitude" Format.real (.ofFloat p.longitude : Json))
  have hnames : ["latitude", "longitude"].Nodup := by decide
  have hdecode : Position.record.decode p.toJson = _ := Json.decode_value hjudges hnames
  rw [hlatitude, hlongitude, map_verdict, bind_verdict] at hdecode
  have hgood : (p.latitude.isFinite && p.longitude.isFinite) = allFinite p.numbers := by
    simp [allFinite, numbers]
  rw [hgood] at hdecode
  exact hdecode

theorem Position.legible_toJson (depth : Nat) {p : Position Float}
    (h : ∀ x ∈ p.numbers, ReadsBack x) : Json.Legible (depth + 1) p.toJson := by
  refine Json.legible_object fun f hf => ?_
  rcases List.mem_pair.mp hf with rfl | rfl
  · exact Json.legible_ofFloat depth (h p.latitude (by simp [numbers]))
  · exact Json.legible_ofFloat depth (h p.longitude (by simp [numbers]))

theorem passes_tripField (trip : Option TripId) : ∀ f ∈ tripField trip, Json.Passes f := by
  cases trip with
  | none => exact List.forall_mem_nil _
  | some trip =>
    intro f hf
    rw [List.mem_singleton.mp hf]
    exact Json.passes (by decide) (Json.legible_text _ _)

namespace Telemetry

def numbers (m : Telemetry Float) : List Float := m.position.numbers

theorem decode_value {m : Telemetry Float} (h : ∀ x ∈ m.numbers, ReadsBack x) :
    Telemetry.record.decode (.object m.fields : Json) = verdict (allFinite m.numbers) m := by
  have hlatitude := Json.real_value (h m.position.latitude (by simp [numbers, Position.numbers]))
  have hlongitude := Json.real_value (h m.position.longitude (by simp [numbers, Position.numbers]))
  have hjudges := judges_seq (judges_seq
    (judges_map (fun scooter latitude longitude => (⟨scooter, ⟨latitude, longitude⟩⟩ : Telemetry Float))
      (judges_required "scooter_id" Decoder.word (.ofWord m.scooter : Json)))
    (judges_required "latitude" Format.real (.ofFloat m.position.latitude : Json)))
    (judges_required "longitude" Format.real (.ofFloat m.position.longitude : Json))
  have hnames : ["scooter_id", "latitude", "longitude"].Nodup := by decide
  have hdecode : Telemetry.record.decode (.object m.fields : Json) = _ :=
    Json.decode_value hjudges hnames
  rw [Json.word_value, hlatitude, hlongitude, map_verdict, bind_verdict, bind_verdict] at hdecode
  have hgood : (true && m.position.latitude.isFinite && m.position.longitude.isFinite) =
      allFinite m.numbers := by
    simp [allFinite, numbers, Position.numbers]
  rw [hgood] at hdecode
  exact hdecode

theorem passes_fields {m : Telemetry Float} (h : ∀ x ∈ m.numbers, ReadsBack x) :
    ∀ f ∈ m.fields, Json.Passes f := by
  have hlatitude := h m.position.latitude (by simp [numbers, Position.numbers])
  have hlongitude := h m.position.longitude (by simp [numbers, Position.numbers])
  simp only [fields, List.forall_mem_cons]
  exact ⟨Json.passes (by decide) (Json.legible_ofWord _ _),
    Json.passes (by decide) (Json.legible_ofFloat _ hlatitude),
    Json.passes (by decide) (Json.legible_ofFloat _ hlongitude), List.forall_mem_nil _⟩

end Telemetry

namespace Dispatch

def numbers (d : Dispatch Float) : List Float := d.destination.numbers

theorem decode_value {d : Dispatch Float} (h : ∀ x ∈ d.numbers, ReadsBack x) :
    Dispatch.record.decode (.object d.fields : Json) = verdict (allFinite d.numbers) d := by
  have hjudges := judges_seq
    (judges_map Dispatch.mk (judges_required "scooter_id" Decoder.word (.ofWord d.scooter : Json)))
    (judges_required "destination" Position.record.decode d.destination.toJson)
  have hnames : ["scooter_id", "destination", "trip_id"].Nodup := by decide
  rw [Json.word_value, Position.decode_value h, map_verdict, bind_verdict] at hjudges
  exact Json.decode_trip hjudges hnames d.trip

theorem passes_fields {d : Dispatch Float} (h : ∀ x ∈ d.numbers, ReadsBack x) :
    ∀ f ∈ d.fields, Json.Passes f := by
  refine List.forall_mem_append.mpr ⟨?_, passes_tripField d.trip⟩
  simp only [List.forall_mem_cons]
  exact ⟨Json.passes (by decide) (Json.legible_ofWord _ _),
    Json.passes (by decide) (Position.legible_toJson 125 h), List.forall_mem_nil _⟩

end Dispatch

namespace DeviceState

def numbers (s : DeviceState Float) : List Float := s.position.numbers ++ [s.battery]

theorem decode_value {s : DeviceState Float} (h : ∀ x ∈ s.numbers, ReadsBack x) :
    DeviceState.record.decode s.toJson = verdict (allFinite s.numbers) s := by
  have hposition := Position.decode_value (p := s.position)
    fun x hx => h x (List.mem_append_left _ hx)
  have hbattery := Json.real_value (h s.battery (by simp [numbers]))
  have hjudges := judges_seq
    (judges_map DeviceState.mk (judges_required "position" Position.record.decode s.position.toJson))
    (judges_required "battery" Format.real (.ofFloat s.battery : Json))
  have hnames : ["position", "battery"].Nodup := by decide
  have hdecode : DeviceState.record.decode s.toJson = _ := Json.decode_value hjudges hnames
  rw [hposition, hbattery, map_verdict, bind_verdict] at hdecode
  have hgood : (allFinite s.position.numbers && s.battery.isFinite) = allFinite s.numbers := by
    simp [allFinite, numbers]
  rw [hgood] at hdecode
  exact hdecode

theorem legible_toJson (depth : Nat) {s : DeviceState Float} (h : ∀ x ∈ s.numbers, ReadsBack x) :
    Json.Legible (depth + 2) s.toJson := by
  refine Json.legible_object fun f hf => ?_
  rcases List.mem_pair.mp hf with rfl | rfl
  · exact Position.legible_toJson depth fun x hx => h x (List.mem_append_left _ hx)
  · exact Json.legible_ofFloat _ (h s.battery (by simp [numbers]))

end DeviceState

namespace TripReport

def numbers (r : TripReport Float) : List Float := r.position.numbers ++ [r.battery]

theorem decode_value {r : TripReport Float} (h : ∀ x ∈ r.numbers, ReadsBack x) :
    TripReport.record.decode (.object r.fields : Json) = verdict (allFinite r.numbers) r := by
  have hposition := Position.decode_value (p := r.position)
    fun x hx => h x (List.mem_append_left _ hx)
  have hbattery := Json.real_value (h r.battery (by simp [numbers]))
  have hjudges := judges_seq (judges_seq (judges_seq
    (judges_map TripReport.mk (judges_required "scooter_id" Decoder.word (.ofWord r.scooter : Json)))
    (judges_required "position" Position.record.decode r.position.toJson))
    (judges_required "battery" Format.real (.ofFloat r.battery : Json)))
    (judges_required "outcome" (Decoder.oneOf Outcome.names) (.text r.outcome.name : Json))
  rw [Json.word_value, hposition, hbattery, Json.outcome_value, map_verdict, bind_verdict,
    bind_verdict, bind_verdict] at hjudges
  have hgood : (true && allFinite r.position.numbers && r.battery.isFinite && true) =
      allFinite r.numbers := by
    simp [allFinite, numbers]
  have hnames : ["scooter_id", "position", "battery", "outcome", "trip_id"].Nodup := by decide
  rw [hgood] at hjudges
  exact Json.decode_trip hjudges hnames r.trip

theorem passes_fields {r : TripReport Float} (h : ∀ x ∈ r.numbers, ReadsBack x) :
    ∀ f ∈ r.fields, Json.Passes f := by
  have hbattery := h r.battery (by simp [numbers])
  refine List.forall_mem_append.mpr ⟨?_, passes_tripField r.trip⟩
  simp only [List.forall_mem_cons]
  exact ⟨Json.passes (by decide) (Json.legible_ofWord _ _),
    Json.passes (by decide)
      (Position.legible_toJson 125 fun x hx => h x (List.mem_append_left _ hx)),
    Json.passes (by decide) (Json.legible_ofFloat _ hbattery),
    Json.passes (by decide) (Json.legible_text _ _), List.forall_mem_nil _⟩

end TripReport

/-! ### Frames -/

namespace DeviceFrame

/-- All numbers of a frame. -/
def numbers : DeviceFrame Float → List Float
  | .hello _ => []
  | .telemetry m => m.numbers
  | .tripEnded r => r.numbers

/-- A device frame as its tag and its other fields. -/
theorem ofText_tagged {tag : String} (htag : tag ∈ tags) {fs : List (String × Json)}
    (h : ∀ f ∈ fs, Json.Passes f) :
    ofText (tagged tag fs).toText = ofTagged tag (.object fs) :=
  Json.decodeText_tagged (fun _ => rfl) htag h

/-- **The verdict on the text of a frame.** -/
theorem ofText_text {f : DeviceFrame Float} (h : ∀ x ∈ f.numbers, ReadsBack x) :
    ofText f.text = verdict (allFinite f.numbers) f := by
  cases f with
  | hello scooter =>
    have hpasses : ∀ f ∈ [("scooter_id", Json.ofOption Json.ofWord scooter)], Json.Passes f := by
      intro f hf
      rw [List.mem_singleton.mp hf]
      refine Json.passes (by decide) ?_
      cases scooter with
      | none => exact Json.legible_null _
      | some n => exact Json.legible_ofWord _ n
    have hdecode : (Record.optional "scooter_id" Decoder.word).decode
        (.object [("scooter_id", Json.ofOption Json.ofWord scooter)] : Json) = verdict true scooter :=
      (Json.decode_value (judges_slot "scooter_id" .unnamed (Decoder.optional Decoder.word) (.ok none)
        (Json.ofOption Json.ofWord scooter)) (List.nodup_singleton _)).trans
        (Json.optional_word_value scooter)
    have htagged : ofTagged "hello" (.object [("scooter_id", Json.ofOption Json.ofWord scooter)]) =
        (verdict true scooter).map .hello := congrArg (Except.map _) hdecode
    exact (ofText_tagged (by decide) hpasses).trans (htagged.trans (map_verdict _ _ _))
  | telemetry m =>
    have htagged : ofTagged "telemetry" (.object m.fields) =
        (verdict (allFinite m.numbers) m).map .telemetry :=
      congrArg (Except.map _) (Telemetry.decode_value h)
    exact (ofText_tagged (by decide) (Telemetry.passes_fields h)).trans
      (htagged.trans (map_verdict _ _ _))
  | tripEnded r =>
    have htagged : ofTagged "trip_ended" (.object r.fields) =
        (verdict (allFinite r.numbers) r).map .tripEnded :=
      congrArg (Except.map _) (TripReport.decode_value h)
    exact (ofText_tagged (by decide) (TripReport.passes_fields h)).trans
      (htagged.trans (map_verdict _ _ _))

end DeviceFrame

namespace ServerFrame

/-- All numbers of a frame. -/
def numbers : ServerFrame Float → List Float
  | .welcome _ state => state.numbers
  | .dispatch command => command.numbers
  | .rejected _ => []

/-- A server frame as its tag and its other fields. -/
theorem ofText_tagged {tag : String} (htag : tag ∈ tags) {fs : List (String × Json)}
    (h : ∀ f ∈ fs, Json.Passes f) :
    ofText (tagged tag fs).toText = ofTagged tag (.object fs) :=
  Json.decodeText_tagged (fun _ => rfl) htag h

theorem decode_welcome {scooter : ScooterId} {state : DeviceState Float}
    (h : ∀ x ∈ state.numbers, ReadsBack x) :
    welcomeRecord.decode
      (.object [("scooter_id", .ofWord scooter), ("state", state.toJson)] : Json) =
      verdict (allFinite state.numbers) (.welcome scooter state) := by
  have hjudges := judges_seq
    (judges_map ServerFrame.welcome
      (judges_required "scooter_id" Decoder.word (.ofWord scooter : Json)))
    (judges_required "state" DeviceState.record.decode state.toJson)
  have hnames : ["scooter_id", "state"].Nodup := by decide
  rw [Json.word_value, DeviceState.decode_value h, map_verdict, bind_verdict] at hjudges
  exact Json.decode_value hjudges hnames

/-- **The verdict on the text of a frame.** -/
theorem ofText_text {f : ServerFrame Float} (h : ∀ x ∈ f.numbers, ReadsBack x) :
    ofText f.text = verdict (allFinite f.numbers) f := by
  cases f with
  | welcome scooter state =>
    have hpasses : ∀ f ∈ [("scooter_id", Json.ofWord scooter), ("state", state.toJson)],
        Json.Passes f := by
      simp only [List.forall_mem_cons]
      exact ⟨Json.passes (by decide) (Json.legible_ofWord _ _),
        Json.passes (by decide) (DeviceState.legible_toJson 124 h), List.forall_mem_nil _⟩
    exact (ofText_tagged (by decide) hpasses).trans (decode_welcome h)
  | dispatch command =>
    have htagged : ofTagged "dispatch" (.object command.fields) =
        (verdict (allFinite command.numbers) command).map .dispatch :=
      congrArg (Except.map _) (Dispatch.decode_value h)
    exact (ofText_tagged (by decide) (Dispatch.passes_fields h)).trans
      (htagged.trans (map_verdict _ _ _))
  | rejected reason =>
    have hpasses : ∀ f ∈ [("reason", Json.text reason)], Json.Passes f := by
      intro f hf
      rw [List.mem_singleton.mp hf]
      exact Json.passes (by decide) (Json.legible_text _ _)
    have hdecode : (required "reason" Format.text).decode (.object [("reason", .text reason)] : Json) =
        verdict true reason :=
      Json.decode_value (judges_required "reason" Format.text (.text reason : Json))
        (List.nodup_singleton _)
    have htagged : ofTagged "rejected" (.object [("reason", .text reason)]) =
        (verdict true reason).map .rejected := congrArg (Except.map _) hdecode
    exact (ofText_tagged (by decide) hpasses).trans (htagged.trans (map_verdict _ _ _))

end ServerFrame

end ScooterFleet
