import Mathlib.Data.List.Basic
import ScooterFleet.Store.Archive
import ScooterFleet.Proofs.Store.Records

/-!
# Ledgers that grow

A call that adds to the ledger appends its entry, and the ledger with it is saved.

* `Ledger.grown` / `Ledger.text_grown_eq_iff` — a ledger with more entries has another text;
* `Archive.entry` / `Archive.Refuses` — what a call adds, and whether it is carried out at all;
* `Archive.Appends` / `Archive.appends_append` — what is appended; `Archive.add_eq` — and then saved;
* `Archive.Answers` / `Archive.answers_add` — **what a call leaves**: nothing new, its entry in the ledger
  and on disk, or its entry in the ledger alone.
-/

namespace ScooterFleet

namespace Entry

def time : Entry → Timestamp
  | .order o => o.time
  | .snapshot s => s.time

def order? : Entry → Option (Order Float)
  | .order o => some o
  | .snapshot _ => none

def snapshot? : Entry → Option (Snapshot Float)
  | .order _ => none
  | .snapshot s => some s

end Entry

/-! ### Texts -/

namespace Json

theorem length_newLine_pos (depth : Nat) : 0 < (newLine depth).length := Nat.succ_pos _

theorem length_prettyItems_snoc (depth : Nat) (vs : List Json) (w : Json) :
    (prettyItems depth vs).length < (prettyItems depth (vs ++ [w])).length := by
  induction vs with
  | nil =>
    simp only [List.nil_append, prettyItems, List.length_append, List.length_cons]
    omega
  | cons v vs ih =>
    simp only [List.cons_append, prettyItems, List.length_append, List.length_cons]
    omega

theorem length_prettyList_snoc (depth : Nat) (vs : List Json) (w : Json) :
    (prettyChars depth (.list vs)).length < (prettyChars depth (.list (vs ++ [w]))).length := by
  cases vs with
  | nil =>
    have hline := length_newLine_pos (depth + 1)
    simp only [List.nil_append, prettyChars, prettyItems, List.length_append, List.length_cons,
      List.length_nil]
    omega
  | cons v vs =>
    have hitems := length_prettyItems_snoc depth vs w
    simp only [List.cons_append, prettyChars, List.length_append, List.length_cons]
    omega

end Json

namespace Ledger

def extend (l : Ledger Float) : Entry → Ledger Float
  | .order o => l.addOrder o
  | .snapshot s => l.addSnapshot s

/-- The ledger with more entries. -/
def grown (l : Ledger Float) (es : List Entry) : Ledger Float := es.foldl extend l

/-- The number of characters in the ledger's file. -/
def size (l : Ledger Float) : Nat := (l.toJson.prettyChars 0).length

theorem size_lt_extend (l : Ledger Float) (e : Entry) : l.size < (l.extend e).size := by
  cases e with
  | order o =>
    have horders := Json.length_prettyList_snoc (0 + 1) (l.orders.map Order.toJson) o.toJson
    simp only [size, extend, addOrder, toJson, List.map_append, List.map_cons, List.map_nil,
      Json.prettyChars, Json.prettyFields, List.length_append, List.length_cons] at horders ⊢
    omega
  | snapshot s =>
    have hsnapshots := Json.length_prettyList_snoc (0 + 1) (l.snapshots.map Snapshot.toJson) s.toJson
    simp only [size, extend, addSnapshot, toJson, List.map_append, List.map_cons, List.map_nil,
      Json.prettyChars, Json.prettyFields, List.length_append, List.length_cons] at hsnapshots ⊢
    omega

theorem size_le_grown (l : Ledger Float) (es : List Entry) : l.size ≤ (l.grown es).size := by
  induction es generalizing l with
  | nil => exact Nat.le_refl _
  | cons e es ih => exact Nat.le_trans (Nat.le_of_lt (l.size_lt_extend e)) (ih (l.extend e))

theorem grown_append (l : Ledger Float) (es es' : List Entry) :
    l.grown (es ++ es') = (l.grown es).grown es' := List.foldl_append

/-- **More entries make another text.** -/
theorem text_grown_eq_iff (l : Ledger Float) (es : List Entry) :
    l.text = (l.grown es).text ↔ es = [] := by
  constructor
  · intro h
    have hsize : l.size = (l.grown es).size := by
      have hchars := congrArg String.toList h
      simp only [text, Json.toLines, String.toList_ofList] at hchars
      rw [size, size, hchars]
    cases es with
    | nil => rfl
    | cons e es =>
      have hfirst := l.size_lt_extend e
      have hmore := (l.extend e).size_le_grown es
      have hlt : l.size < (l.grown (e :: es)).size := Nat.lt_of_lt_of_le hfirst hmore
      omega
  · rintro rfl
    rfl

theorem orders_grown (l : Ledger Float) (es : List Entry) :
    (l.grown es).orders = l.orders ++ es.filterMap Entry.order? := by
  induction es generalizing l with
  | nil => exact (List.append_nil _).symm
  | cons e es ih =>
    show ((l.extend e).grown es).orders = _
    rw [ih]
    cases e with
    | order o => exact List.append_assoc ..
    | snapshot s => rfl

theorem extend_ne (l : Ledger Float) (e : Entry) : l.extend e ≠ l := fun h =>
  absurd (h ▸ l.size_lt_extend e) (Nat.lt_irrefl _)

end Ledger

/-! ### Calls -/

/-- The store's call that carries it out. -/
def Draft.call : Draft → StoreCall
  | .order _ => .createOrder
  | .snapshot _ _ _ => .recordSnapshot

namespace Archive

/-- What a call adds to the ledger, if it is carried out. -/
def entry (a : Archive) (time : Timestamp) : Draft → Entry
  | .order request => .order (a.store.ledger.order time request)
  | .snapshot scooter position battery =>
    .snapshot (a.store.ledger.snapshot time scooter position battery)

/-- The store does not carry the call out. -/
def Refuses (a : Archive) (draft : Draft) : Prop :=
  ∃ fault, a.store.mishap? draft.call = some (.refused fault)

theorem time_entry (a : Archive) (time : Timestamp) (draft : Draft) :
    (a.entry time draft).time = time := by
  cases draft <;> rfl

/-- What the first step of a call leaves. -/
inductive Appends (a : Archive) (time : Timestamp) (draft : Draft) :
    Except StoreFault Entry → Archive → Prop where
  | refused {fault : StoreFault} {a' : Archive} (refuses : a.Refuses draft)
      (ledger : a'.store.ledger = a.store.ledger) : Appends a time draft (.error fault) a'
  /-- The store answers with a fault of saving. -/
  | unsaved {fault : StoreFault} {a' : Archive} (taken : ¬a.Refuses draft)
      (ledger : a'.store.ledger = a.store.ledger.extend (a.entry time draft)) :
      Appends a time draft (.error fault) a'
  | appended {a' : Archive} (taken : ¬a.Refuses draft)
      (ledger : a'.store.ledger = a.store.ledger.extend (a.entry time draft)) :
      Appends a time draft (.ok (a.entry time draft)) a'

theorem appends_append {a a' : Archive} {time : Timestamp} {draft : Draft}
    {result : Except StoreFault Entry} (h : a.append time draft = (result, a')) :
    Appends a time draft result a' ∧ a'.persistent = a.persistent ∧ a'.directory = a.directory := by
  have taken : ∀ {m}, a.store.mishap? draft.call = m → (∀ fault, m ≠ some (.refused fault)) →
      ¬a.Refuses draft := by
    rintro _ rfl hm ⟨fault, hfault⟩
    exact hm fault hfault
  cases draft with
  | _ =>
    simp only [append, call, Store.createOrder, Store.recordSnapshot, Store.perform] at h
    split at h
    · next fault hm =>
      cases h
      exact ⟨.refused ⟨fault, hm⟩ rfl, rfl, rfl⟩
    · next fault hm =>
      cases h
      exact ⟨.unsaved (taken hm nofun) rfl, rfl, rfl⟩
    · next hm =>
      cases h
      exact ⟨.appended (taken hm nofun) rfl, rfl, rfl⟩

/-- What a call leaves, with nothing in between. -/
inductive Answers (a : Archive) (time : Timestamp) (draft : Draft) :
    Except StoreFault Entry → Archive → Prop where
  | refused {fault : StoreFault} {a' : Archive} (refuses : a.Refuses draft)
      (ledger : a'.store.ledger = a.store.ledger) (directory : a'.directory = a.directory) :
      Answers a time draft (.error fault) a'
  /-- It is in the ledger, but not on disk. -/
  | unsaved {fault : StoreFault} {a' : Archive} (taken : ¬a.Refuses draft)
      (ledger : a'.store.ledger = a.store.ledger.extend (a.entry time draft))
      (directory : a'.directory = a.directory) : Answers a time draft (.error fault) a'
  | saved {a' : Archive} (taken : ¬a.Refuses draft)
      (ledger : a'.store.ledger = a.store.ledger.extend (a.entry time draft))
      (file : a.persistent = true → a'.directory.file = some a'.store.ledger.text) :
      Answers a time draft (.ok (a.entry time draft)) a'

/-- What follows when the entry is appended. -/
def saved (a : Archive) (entry : Entry) : Except StoreFault Entry × Archive :=
  if a.persistent then
    match a.directory.write a.store.ledger.text with
    | .ok directory => (.ok entry, { a with directory })
    | .error fault => (.error fault, a)
  else (.ok entry, a)

/-- A call appends its entry, and then the ledger is saved. -/
theorem add_eq (a : Archive) (time : Timestamp) (draft : Draft) :
    a.add time draft = match a.append time draft with
      | (.error fault, a) => (.error fault, a)
      | (.ok entry, a) => a.saved entry := by
  cases happend : a.append time draft with
  | mk first a₁ =>
    cases first with
    | error fault => simp only [add, stepsOfCall, Saving.run, Saving.step, happend]
    | ok entry =>
      simp only [add, stepsOfCall, Saving.run, Saving.step, happend, saved]
      by_cases hpersistent : a₁.persistent = true
      · simp only [if_pos hpersistent]
        cases a₁.directory.write a₁.store.ledger.text <;> rfl
      · simp only [if_neg hpersistent]

/-- The ledger is saved where the archive stands on a directory that is there. -/
theorem saved_cases (a : Archive) (entry : Entry) :
    (∃ fault, a.saved entry = (.error fault, a)) ∨
      ∃ directory, a.saved entry = (.ok entry, { a with directory }) ∧
        (a.persistent = true → directory.file = some a.store.ledger.text) := by
  unfold saved
  split
  · unfold Directory.write
    split
    · next hwrite =>
      split at hwrite
      · cases hwrite
        exact .inr ⟨_, rfl, fun _ => rfl⟩
      · cases hwrite
    · exact .inl ⟨_, rfl⟩
  · next hmemory => exact .inr ⟨_, rfl, fun hp => absurd hp hmemory⟩

/-- **A call enters what it is asked for, unless it is refused, whatever it answers.** -/
theorem answers_add {a a' : Archive} {time : Timestamp} {draft : Draft}
    {result : Except StoreFault Entry} (h : a.add time draft = (result, a')) :
    Answers a time draft result a' ∧ a'.persistent = a.persistent := by
  rw [add_eq] at h
  cases happend : a.append time draft with
  | mk first a₁ =>
    obtain ⟨happends, hpersistent, hdirectory⟩ := appends_append happend
    rw [happend] at h
    cases happends with
    | refused refuses ledger =>
      cases h
      exact ⟨.refused refuses ledger hdirectory, hpersistent⟩
    | unsaved taken ledger =>
      cases h
      exact ⟨.unsaved taken ledger hdirectory, hpersistent⟩
    | appended taken ledger =>
      rcases a₁.saved_cases (a.entry time draft) with ⟨fault, hsaved⟩ | ⟨directory, hsaved, hfile⟩
      · cases hsaved.symm.trans h
        exact ⟨.unsaved taken ledger hdirectory, hpersistent⟩
      · cases hsaved.symm.trans h
        exact ⟨.saved taken ledger fun hp => hfile (hpersistent.trans hp), hpersistent⟩

end Archive
end ScooterFleet
