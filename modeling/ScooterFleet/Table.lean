/-!
# Tables

Finite maps with few keys, kept as lists of entries in the order in which the keys first came.

A table is seen through `Table.get?`: two lemmas say what each operation does to it.
-/

namespace ScooterFleet

structure Table (κ β : Type) where
  entries : List (κ × β)
  deriving DecidableEq, Repr

namespace Table

variable {κ β γ : Type} [DecidableEq κ]

def empty : Table κ β := ⟨[]⟩

instance : EmptyCollection (Table κ β) := ⟨empty⟩

def find (k : κ) : List (κ × β) → Option β
  | [] => none
  | (k', v) :: es => if k' = k then some v else find k es

def get? (t : Table κ β) (k : κ) : Option β := find k t.entries

def contains (t : Table κ β) (k : κ) : Bool := (t.get? k).isSome

def put (k : κ) (v : β) : List (κ × β) → List (κ × β)
  | [] => [(k, v)]
  | (k', v') :: es => if k' = k then (k, v) :: es else (k', v') :: put k v es

/-- Sets the value of a key. -/
def insert (t : Table κ β) (k : κ) (v : β) : Table κ β := ⟨put k v t.entries⟩

def erase (t : Table κ β) (k : κ) : Table κ β := ⟨t.entries.filter fun e => e.1 ≠ k⟩

/-- Changes the value of a key that is there. -/
def modify (t : Table κ β) (k : κ) (f : β → β) : Table κ β :=
  match t.get? k with
  | some v => t.insert k (f v)
  | none => t

def ofList (entries : List (κ × β)) : Table κ β :=
  entries.foldl (fun t e => t.insert e.1 e.2) ∅

omit [DecidableEq κ] in
def keys (t : Table κ β) : List κ := t.entries.map (·.1)

def values (t : Table κ β) : List β := t.entries.map (·.2)

def size (t : Table κ β) : Nat := t.entries.length

def mapValues (t : Table κ β) (f : β → γ) : Table κ γ := ⟨t.entries.map fun e => (e.1, f e.2)⟩

/-! ### What is found -/

theorem mem_values_of_get? {t : Table κ β} {k : κ} {v : β} (h : t.get? k = some v) : v ∈ t.values := by
  obtain ⟨es⟩ := t
  show v ∈ es.map (·.2)
  replace h : find k es = some v := h
  induction es with
  | nil => cases h
  | cons e es ih =>
    simp only [find] at h
    split at h
    · cases h
      exact List.mem_cons_self ..
    · exact List.mem_cons_of_mem _ (ih h)

@[simp] theorem get?_empty (k : κ) : (∅ : Table κ β).get? k = none := rfl

theorem find_put (k k' : κ) (v : β) (es : List (κ × β)) :
    find k' (put k v es) = if k = k' then some v else find k' es := by
  induction es with
  | nil => simp [put, find]
  | cons e es ih =>
    simp only [put]
    split
    · next h => subst h; simp only [find]; split <;> rfl
    · next h =>
      simp only [find, ih]
      split
      · next h' => subst h'; simp [Ne.symm h]
      · rfl

theorem get?_insert (t : Table κ β) (k k' : κ) (v : β) :
    (t.insert k v).get? k' = if k = k' then some v else t.get? k' :=
  find_put k k' v t.entries

@[simp] theorem get?_insert_self (t : Table κ β) (k : κ) (v : β) :
    (t.insert k v).get? k = some v := by
  simp [get?_insert]

theorem get?_insert_of_ne {k k' : κ} (t : Table κ β) (v : β) (h : k ≠ k') :
    (t.insert k v).get? k' = t.get? k' := by
  simp [get?_insert, h]

theorem find_filter_ne (k k' : κ) (es : List (κ × β)) :
    find k' (es.filter fun e => e.1 ≠ k) = if k = k' then none else find k' es := by
  induction es with
  | nil => simp [find]
  | cons e es ih =>
    simp only [List.filter_cons]
    split
    · next h =>
      have h : e.1 ≠ k := by simpa using h
      simp only [find, ih]
      split
      · next h' => subst h'; simp [Ne.symm h]
      · rfl
    · next h =>
      have h : e.1 = k := by simpa using h
      rw [ih]
      split
      · rfl
      · next h' => simp [find, h, h']

theorem get?_erase (t : Table κ β) (k k' : κ) :
    (t.erase k).get? k' = if k = k' then none else t.get? k' :=
  find_filter_ne k k' t.entries

@[simp] theorem get?_erase_self (t : Table κ β) (k : κ) : (t.erase k).get? k = none := by
  simp [get?_erase]

theorem get?_erase_of_ne {k k' : κ} (t : Table κ β) (h : k ≠ k') :
    (t.erase k).get? k' = t.get? k' := by
  simp [get?_erase, h]

theorem get?_modify (t : Table κ β) (k k' : κ) (f : β → β) :
    (t.modify k f).get? k' = if k = k' then (t.get? k').map f else t.get? k' := by
  unfold modify
  split
  · next v hv =>
    rw [get?_insert]
    split
    · next h => subst h; simp [hv]
    · rfl
  · next hv =>
    split
    · next h => subst h; simp [hv]
    · rfl

theorem find_map (k : κ) (f : β → γ) (es : List (κ × β)) :
    find k (es.map fun e => (e.1, f e.2)) = (find k es).map f := by
  induction es with
  | nil => rfl
  | cons e es ih => simp only [List.map_cons, find, ih]; split <;> rfl

@[simp] theorem get?_mapValues (t : Table κ β) (f : β → γ) (k : κ) :
    (t.mapValues f).get? k = (t.get? k).map f :=
  find_map k f t.entries

end Table
end ScooterFleet
