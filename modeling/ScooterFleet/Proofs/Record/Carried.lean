import ScooterFleet.Proofs.Json.Whole

/-!
# What records are built from

Whatever the document of a record looks like — fields in any order, fields of other names, a list of
items —, the record is built from values that stand in it.  So what holds of all values in a document,
and is carried over by each slot, holds of the record.

* `Decoder.Carries`, `Record.Carries` — good values make fine results;
* `carries_slot`, `carries_map`, `carries_seq` — one for each way to build a record;
* `carries_decode` — **what is decoded from a good document is fine.**
-/

namespace ScooterFleet

open Json (Fault)

variable {σ α β : Type}

/-- What is decoded from a good value is fine. -/
def Decoder.Carries (good : σ → Prop) (d : Decoder σ α) (fine : α → Prop) : Prop :=
  ∀ v a, good v → d v = .ok a → fine a

/-- All values in a shape are good. -/
def Shape.Holds (good : σ → Prop) : Shape σ → Prop
  | .fields fs => ∀ k v, .pair k v ∈ fs → good v
  | .items is => ∀ v, .value v ∈ is → good v
  | .empty | .other _ => True

namespace Record

/-- What is built from good values is fine. -/
def Carries (good : σ → Prop) (r : Record σ α) (fine : α → Prop) : Prop :=
  ∀ found : String → Option σ, (∀ k v, found k = some v → good v) →
    ∀ a, r.build found = .ok a → fine a

variable {good : σ → Prop} {fine : α → Prop} {fine' : β → Prop}

theorem carries_slot (name : String) (missing : Missing) {d : Decoder σ α}
    {absent : Except Fault α} (hd : d.Carries good fine) (habsent : ∀ a, absent = .ok a → fine a) :
    Carries good (slot name missing d absent) fine := by
  intro found hfound a ha
  simp only [slot] at ha
  split at ha
  · next v hv => exact hd v a (hfound name v hv) ha
  · exact habsent a ha

theorem carries_required (name : String) {d : Decoder σ α} (hd : d.Carries good fine) :
    Carries good (required name d) fine :=
  carries_slot name .refused hd fun _ ha => nomatch ha

theorem carries_map {f : α → β} {r : Record σ α} (h : Carries good r fine)
    (hf : ∀ a, fine a → fine' (f a)) : Carries good (f <$> r) fine' := by
  intro found hfound b hb
  obtain ⟨a, ha, rfl⟩ := Json.map_eq_ok (show (r.build found).map f = .ok b from hb)
  exact hf a (h found hfound a ha)

theorem carries_seq {rf : Record σ (α → β)} {r : Record σ α}
    (hf : Carries good rf fun f => ∀ a, fine a → fine' (f a)) (h : Carries good r fine) :
    Carries good (rf <*> r) fine' := by
  intro found hfound b hb
  have hbuild : (rf.build found >>= fun f => r.build found >>= fun a => .ok (f a)) = .ok b := hb
  obtain ⟨f, hg, hbuild⟩ := Json.bind_eq_ok hbuild
  obtain ⟨a, ha, hbuild⟩ := Json.bind_eq_ok hbuild
  cases hbuild
  exact hf found hfound f hg a (h found hfound a ha)

/-! ### Documents -/

theorem good_of_lookup {found : List (String × σ)} (h : ∀ f ∈ found, good f.2) {k : String} {v : σ}
    (hv : found.lookup k = some v) : good v := by
  obtain ⟨before, after, hsplit, -⟩ := List.lookup_eq_some_iff.mp hv
  exact h (k, v) (hsplit ▸ List.mem_append_right _ (List.mem_cons_self ..))

variable [Format σ]

theorem good_of_fillByName {slots : List (Slot σ)} {fields : List (Field σ)}
    {found found' : List (String × σ)} (h : fillByName slots found fields = .ok found')
    (hfields : ∀ k v, .pair k v ∈ fields → good v) (hfound : ∀ f ∈ found, good f.2) :
    ∀ f ∈ found', good f.2 := by
  induction fields generalizing found with
  | nil =>
    rw [fillByName] at h
    obtain ⟨_, -, h⟩ := Json.bind_eq_ok h
    cases h
    exact hfound
  | cons field fields ih =>
    have hmore : ∀ k v, .pair k v ∈ fields → good v :=
      fun k v hv => hfields k v (List.mem_cons_of_mem _ hv)
    cases field with
    | broken f => cases h
    | dangling k f =>
      rw [fillByName] at h
      obtain ⟨k, -, h⟩ := Json.bind_eq_ok h
      split at h <;> cases h
    | pair k v =>
      rw [fillByName] at h
      obtain ⟨k', -, h⟩ := Json.bind_eq_ok h
      split at h
      · obtain ⟨_, -, h⟩ := Json.bind_eq_ok h
        exact ih h hmore hfound
      · split at h
        · cases h
        · obtain ⟨_, -, h⟩ := Json.bind_eq_ok h
          refine ih h hmore fun f hf => ?_
          rcases List.mem_cons.mp hf with rfl | hf
          · exact hfields k v (List.mem_cons_self ..)
          · exact hfound f hf

theorem good_of_fillByPlace {slots : List (Slot σ)} {items : List (Item σ)}
    {found : List (String × σ)} (h : fillByPlace slots items = .ok found)
    (hitems : ∀ v, .value v ∈ items → good v) : ∀ f ∈ found, good f.2 := by
  induction items generalizing slots found with
  | nil =>
    cases slots with
    | nil =>
      cases h
      exact List.forall_mem_nil _
    | cons s slots =>
      simp only [fillByPlace] at h
      obtain ⟨_, -, h⟩ := Json.bind_eq_ok h
      cases h
      exact List.forall_mem_nil _
  | cons item items ih =>
    cases slots with
    | nil => cases item <;> cases h
    | cons s slots =>
      cases item with
      | broken wanted surplus => cases h
      | value v =>
        rw [fillByPlace] at h
        obtain ⟨_, -, h⟩ := Json.bind_eq_ok h
        obtain ⟨rest, hrest, h⟩ := Json.bind_eq_ok h
        cases h
        intro f hf
        rcases List.mem_cons.mp hf with rfl | hf
        · exact hitems v (List.mem_cons_self ..)
        · exact ih hrest (fun v hv => hitems v (List.mem_cons_of_mem _ hv)) f hf

/-- **What is decoded from a good document is fine.** -/
theorem carries_decode {r : Record σ α} (h : Carries good r fine)
    (hshape : ∀ v, good v → (Format.shape v).Holds good) : r.decode.Carries good fine := by
  intro v a hv ha
  have hvalues := hshape v hv
  rw [decode] at ha
  cases hs : Format.shape v with
  | fields fields =>
    rw [hs] at ha hvalues
    obtain ⟨found, hfound, ha⟩ := Json.bind_eq_ok ha
    have hgood := good_of_fillByName hfound hvalues (List.forall_mem_nil _)
    exact h _ (fun k w hw => good_of_lookup hgood hw) a ha
  | items items =>
    rw [hs] at ha hvalues
    obtain ⟨found, hfound, ha⟩ := Json.bind_eq_ok ha
    have hgood := good_of_fillByPlace hfound hvalues
    exact h _ (fun k w hw => good_of_lookup hgood hw) a ha
  | empty =>
    rw [hs] at ha
    obtain ⟨found, hfound, ha⟩ := Json.bind_eq_ok ha
    have hgood : ∀ f ∈ found, good f.2 :=
      good_of_fillByName hfound (fun k v hv => absurd hv List.not_mem_nil) (List.forall_mem_nil _)
    exact h _ (fun k w hw => good_of_lookup hgood hw) a ha
  | other f =>
    rw [hs] at ha
    cases ha

end Record
end ScooterFleet
