import ScooterFleet.Proofs.Record.Fields

/-!
# Values read as wholes

A value that is kept for later is read as a whole: its numbers are in range, and its lists and objects are
not nested too deeply.  What was written can be read so, and what was read so has these numbers.

* `InRange`, `nesting` — what is asked of a value;
* `whole_ofJson` — **a written value is read as itself**;
* `inRange_of_whole` — **all numbers of a value that was read are in range**;
* `untag_tagged`, `inRange_of_untag` — the same for a value with a tag.
-/

namespace ScooterFleet
namespace Json

mutual

/-- Every number in the value is one that can be read. -/
def InRange : Json → Prop
  | .number n => n.inRange = true
  | .list vs => AreInRange vs
  | .object fs => FieldsInRange fs
  | .null | .bool _ | .text _ => True

def AreInRange : List Json → Prop
  | [] => True
  | v :: vs => v.InRange ∧ AreInRange vs

def FieldsInRange : List (String × Json) → Prop
  | [] => True
  | (_, v) :: fs => v.InRange ∧ FieldsInRange fs

end

mutual

/-- How many lists and objects stand inside one another. -/
def nesting : Json → Nat
  | .null | .bool _ | .number _ | .text _ => 0
  | .list vs => itemsNesting vs + 1
  | .object fs => fieldsNesting fs + 1

def itemsNesting : List Json → Nat
  | [] => 0
  | v :: vs => max v.nesting (itemsNesting vs)

def fieldsNesting : List (String × Json) → Nat
  | [] => 0
  | (_, v) :: fs => max v.nesting (fieldsNesting fs)

end

theorem inRange_of_mem_items {vs : List Json} (h : AreInRange vs) {v : Json} (hv : v ∈ vs) :
    v.InRange := by
  induction vs with
  | nil => cases hv
  | cons w vs ih =>
    rw [AreInRange] at h
    rcases List.mem_cons.mp hv with rfl | hv
    · exact h.1
    · exact ih h.2 hv

theorem inRange_of_mem_fields {fs : List (String × Json)} (h : FieldsInRange fs) {k : String}
    {v : Json} (hv : (k, v) ∈ fs) : v.InRange := by
  induction fs with
  | nil => cases hv
  | cons f fs ih =>
    rw [FieldsInRange] at h
    rcases List.mem_cons.mp hv with he | hv
    · cases he
      exact h.1
    · exact ih h.2 hv

/-! ### What was written -/

mutual

/-- **A written value is read as itself.** -/
theorem whole_ofJson : (v : Json) → (depth : Nat) → v.InRange → v.nesting ≤ depth →
    (Reading.ofJson v).whole depth = .ok v
  | .null, _, _, _ => by rw [Reading.ofJson, Reading.whole]
  | .bool b, _, _, _ => by rw [Reading.ofJson, Reading.whole]
  | .number n, _, h, _ => by
    rw [InRange] at h
    rw [Reading.ofJson, Reading.whole, if_pos h]
  | .text s, _, _, _ => by
    rw [Reading.ofJson, Reading.whole]
    rfl
  | .list vs, depth, h, hdepth => by
    rw [InRange] at h
    rw [nesting] at hdepth
    obtain ⟨depth, rfl⟩ : ∃ d, depth = d + 1 := ⟨depth - 1, by omega⟩
    rw [Reading.ofJson, Reading.whole, whole_ofList vs depth h (by omega)]
    rfl
  | .object fs, depth, h, hdepth => by
    rw [InRange] at h
    rw [nesting] at hdepth
    obtain ⟨depth, rfl⟩ : ∃ d, depth = d + 1 := ⟨depth - 1, by omega⟩
    rw [Reading.ofJson, Reading.whole, whole_ofFields fs depth h (by omega)]
    rfl

theorem whole_ofList : (vs : List Json) → (depth : Nat) → AreInRange vs → itemsNesting vs ≤ depth →
    (Items.ofList vs).whole depth = .ok vs
  | [], _, _, _ => by rw [Items.ofList, Items.whole]
  | v :: vs, depth, h, hdepth => by
    rw [AreInRange] at h
    rw [itemsNesting] at hdepth
    rw [Items.ofList, Items.whole, whole_ofJson v depth h.1 (by omega),
      whole_ofList vs depth h.2 (by omega)]
    rfl

theorem whole_ofFields : (fs : List (String × Json)) → (depth : Nat) → FieldsInRange fs →
    fieldsNesting fs ≤ depth → (Entries.ofList fs).whole depth = .ok fs
  | [], _, _, _ => by rw [Entries.ofList, Entries.whole]
  | (k, v) :: fs, depth, h, hdepth => by
    rw [FieldsInRange] at h
    rw [fieldsNesting] at hdepth
    rw [Entries.ofList, Entries.whole, whole_ofJson v depth h.1 (by omega),
      whole_ofFields fs depth h.2 (by omega)]
    rfl

end

/-- Fields behind the tag, none of them under its key. -/
theorem untagFields_ofList {key tag : String} {tags : List String} {fs : List (String × Json)}
    (hkey : ∀ f ∈ fs, f.1 ≠ key) (h : FieldsInRange fs) (hdepth : fieldsNesting fs < tagDepth) :
    untagFields key tags (some tag) (Entries.ofList fs).toFields = .ok (tag, fs) := by
  induction fs with
  | nil => rfl
  | cons f fs ih =>
    obtain ⟨k, v⟩ := f
    rw [FieldsInRange] at h
    rw [fieldsNesting] at hdepth
    have hk : (k == key) = false := beq_eq_false_iff_ne.mpr (hkey _ (List.mem_cons_self ..))
    have hv : (Reading.ofJson v).whole (tagDepth - 1) = .ok v :=
      whole_ofJson v _ h.1 (by omega)
    have hmore := ih (fun f hf => hkey f (List.mem_cons_of_mem _ hf)) h.2 (by omega)
    rw [Entries.ofList, Entries.toFields, untagFields]
    simp only [bind, Except.bind, hk, Bool.false_eq_true, if_false, hv, hmore, pure, Except.pure]

/-- **A written object is taken apart into its tag and its other fields.** -/
theorem untag_tagged {key tag : String} {tags : List String} (htag : tag ∈ tags)
    {fs : List (String × Json)} (hkey : ∀ f ∈ fs, f.1 ≠ key) (h : FieldsInRange fs)
    (hdepth : fieldsNesting fs < tagDepth) :
    untag key tags (Reading.ofJson (.object ((key, .text tag) :: fs))) = .ok (tag, .object fs) := by
  have hread : readTag tags (Reading.ofJson (.text tag)) = .ok tag := by
    have hcontains : tags.contains tag = true := List.contains_iff_mem.mpr htag
    rw [Reading.ofJson]
    show ofChoice tags tag = .ok tag
    rw [ofChoice, if_pos hcontains]
  have hfields : untagFields key tags none
      (Entries.ofList ((key, .text tag) :: fs)).toFields = .ok (tag, fs) := by
    rw [Entries.ofList, Entries.toFields, untagFields]
    simp only [bind, Except.bind, beq_self_eq_true, if_true, Option.isSome_none, Bool.false_eq_true,
      if_false, hread, untagFields_ofList hkey h hdepth]
  rw [Reading.ofJson, untag, hfields]
  rfl

/-! ### What was read -/

/-- Nothing but a good value is behind a good result. -/
theorem bind_eq_ok {α β : Type} {x : Except Fault α} {f : α → Except Fault β} {b : β}
    (h : (x >>= f) = .ok b) : ∃ a, x = .ok a ∧ f a = .ok b := by
  cases x with
  | error fault => cases h
  | ok a => exact ⟨a, rfl, h⟩

theorem map_eq_ok {α β : Type} {x : Except Fault α} {f : α → β} {b : β} (h : x.map f = .ok b) :
    ∃ a, x = .ok a ∧ f a = b := by
  cases x with
  | error fault => cases h
  | ok a => exact ⟨a, rfl, Except.ok.inj h⟩

mutual

/-- **All numbers of a value that was read are in range.** -/
theorem inRange_of_whole : (r : Reading) → (depth : Nat) → (v : Json) → r.whole depth = .ok v →
    v.InRange
  | .null, _, _, h => by
    rw [Reading.whole] at h
    cases h
    rw [InRange]
    trivial
  | .bool b, _, _, h => by
    rw [Reading.whole] at h
    cases h
    rw [InRange]
    trivial
  | .number n, _, _, h => by
    rw [Reading.whole] at h
    split at h
    · next hrange =>
      cases h
      rw [InRange]
      exact hrange
    · cases h
  | .text s, _, _, h => by
    rw [Reading.whole] at h
    obtain ⟨t, -, rfl⟩ := map_eq_ok h
    rw [InRange]
    trivial
  | .list items, 0, _, h => by
    rw [Reading.whole] at h
    cases h
  | .list items, depth + 1, _, h => by
    rw [Reading.whole] at h
    obtain ⟨vs, hvs, rfl⟩ := map_eq_ok h
    rw [InRange]
    exact areInRange_of_whole items depth vs hvs
  | .object entries, 0, _, h => by
    rw [Reading.whole] at h
    cases h
  | .object entries, depth + 1, _, h => by
    rw [Reading.whole] at h
    obtain ⟨fs, hfs, rfl⟩ := map_eq_ok h
    rw [InRange]
    exact fieldsInRange_of_whole entries depth fs hfs
  | .broken wanted passed, _, _, h => by
    rw [Reading.whole] at h
    cases h

theorem areInRange_of_whole : (items : Items) → (depth : Nat) → (vs : List Json) →
    items.whole depth = .ok vs → AreInRange vs
  | .closed, _, _, h => by
    rw [Items.whole] at h
    cases h
    rw [AreInRange]
    trivial
  | .fails f _, _, _, h => by
    rw [Items.whole] at h
    cases h
  | .item value more, depth, _, h => by
    rw [Items.whole] at h
    obtain ⟨v, hv, h⟩ := bind_eq_ok h
    obtain ⟨vs, hvs, h⟩ := bind_eq_ok h
    cases h
    rw [AreInRange]
    exact ⟨inRange_of_whole value depth v hv, areInRange_of_whole more depth vs hvs⟩

theorem fieldsInRange_of_whole : (entries : Entries) → (depth : Nat) → (fs : List (String × Json)) →
    entries.whole depth = .ok fs → FieldsInRange fs
  | .closed, _, _, h => by
    rw [Entries.whole] at h
    cases h
    rw [FieldsInRange]
    trivial
  | .fails _ _ _, _, _, h => by
    rw [Entries.whole] at h
    cases h
  | .stray _, _, _, h => by
    rw [Entries.whole] at h
    cases h
  | .dangling key f, _, _, h => by
    rw [Entries.whole] at h
    obtain ⟨k, -, h⟩ := bind_eq_ok h
    cases h
  | .entry key value more, depth, _, h => by
    rw [Entries.whole] at h
    obtain ⟨k, -, h⟩ := bind_eq_ok h
    obtain ⟨v, hv, h⟩ := bind_eq_ok h
    obtain ⟨fs, hfs, h⟩ := bind_eq_ok h
    cases h
    rw [FieldsInRange]
    exact ⟨inRange_of_whole value depth v hv, fieldsInRange_of_whole more depth fs hfs⟩

end

theorem inRange_of_untagFields {key : String} {tags : List String} {tag : Option String}
    {fields : List (Field Reading)} {t : String} {fs : List (String × Json)}
    (h : untagFields key tags tag fields = .ok (t, fs)) : FieldsInRange fs := by
  induction fields generalizing tag fs with
  | nil =>
    cases tag with
    | none => cases h
    | some tag =>
      cases h
      rw [FieldsInRange]
      trivial
  | cons field fields ih =>
    cases field with
    | broken f => cases tag <;> cases h
    | dangling k f =>
      rw [untagFields] at h
      obtain ⟨k, -, h⟩ := bind_eq_ok h
      split at h <;> cases h
    | pair k v =>
      rw [untagFields] at h
      obtain ⟨k, -, h⟩ := bind_eq_ok h
      split at h
      · -- the tag itself is not kept
        split at h
        · cases h
        · obtain ⟨t', -, h⟩ := bind_eq_ok h
          exact ih h
      · obtain ⟨w, hw, h⟩ := bind_eq_ok h
        obtain ⟨⟨t', rest⟩, hrest, h⟩ := bind_eq_ok h
        cases h
        rw [FieldsInRange]
        exact ⟨inRange_of_whole v _ w hw, ih hrest⟩

/-- **All numbers of a value that was taken apart are in range.** -/
theorem inRange_of_untag {key : String} {tags : List String} {r : Reading} {t : String} {v : Json}
    (h : untag key tags r = .ok (t, v)) : v.InRange := by
  cases r with
  | object entries =>
    rw [untag] at h
    obtain ⟨⟨t', rest⟩, hrest, h⟩ := bind_eq_ok h
    cases h
    rw [InRange]
    exact inRange_of_untagFields hrest
  | list items =>
    cases items with
    | closed => cases h
    | fails f afterComma => cases h
    | item value more =>
      rw [untag] at h
      obtain ⟨t', -, h⟩ := bind_eq_ok h
      obtain ⟨rest, hrest, h⟩ := bind_eq_ok h
      cases h
      rw [InRange]
      exact areInRange_of_whole more _ rest hrest
  | null => cases h
  | bool b => cases h
  | number n => cases h
  | text s => cases h
  | broken wanted passed => cases h

end Json
end ScooterFleet
