import ScooterFleet.Proofs.Fleet.Status
import ScooterFleet.Proofs.Store.Numbering

/-!
# The books of a fleet

Rentals enter snapshots and orders into one ledger, each at its own time.  What a rental has entered it
knows by number, for as long as it takes, and the order that it makes in the end refers to that.

* `Rental.Phase.papers` — the snapshots that a rental in some phase goes by;
* `Rental.Enters` / `enters_of_step` — **what one step enters**, also where it fails behind the entry;
* `Ledger.Holds` — papers with the places of their snapshots, which belong to one holder;
* `Books` / `books_move` — every rental and every order holds its papers: **so it stays in every move**;
* `ledger_sound` — **the ledger of every run is numbered and linked, and sound as long as there are
  numbers**.
-/

namespace ScooterFleet

variable {α : Type} [Coordinate α]

/-! ### What a rental enters -/

namespace Rental

open Ledger (Paper)

omit [Coordinate α] in
/-- The snapshots of its trip that a rental still goes by. -/
def Phase.papers : Phase α → List (Paper α)
  | .dispatching d start | .waiting d start _ | .closing d start _ => [(start, d.origin)]
  | .docking d start finish a | .ordering d start finish a =>
    [(start, d.origin), (finish, a.position)]
  | _ => []

/-- What a step enters into the ledger, and which papers the rental then goes by.  A rental that fails
drops its papers; what they refer to stays in the ledger. -/
inductive Enters (scooter : ScooterId) (l : Ledger α) (before : List (Paper α)) :
    List (Paper α) → Ledger α → Prop
  | nothing {after : List (Paper α)} (papers : after = before ∨ after = []) :
      Enters scooter l before after l
  | snapshot {after : List (Paper α)} {a : Snapshot α} (id : a.id = l.nextSnapshot)
      (shown : a.scooter = scooter) (papers : after = before ++ [(a.id, a.position)] ∨ after = []) :
      Enters scooter l before after (l.addSnapshot a)
  | order {o : Order α} {here there : Position α} (id : o.id = l.nextOrder)
      (driven : o.scooter = scooter) (distance : o.distance = here.distance there)
      (papers : before = [(o.start, here), (o.finish, there)]) :
      Enters scooter l before [] (l.addOrder o)

theorem enters_nothing {scooter : ScooterId} {l l' : Ledger α} {before after : List (Paper α)}
    (ledger : l' = l) (papers : after = before ∨ after = []) :
    Enters scooter l before after l' := by
  subst ledger
  exact .nothing papers

section Steps

variable {m : Moment} {terms : RentalTerms α} {k k' : Kernel α} {q : RentalRequest}
  {p p' : Phase α} {r r' : Rental α}

/-- A call that records a snapshot, whatever it answers. -/
theorem enters_snapshot {position : Position α} {battery : α}
    {result : Except StoreFault (Snapshot α)} {before after : List (Paper α)}
    (h : k.call (Store.recordSnapshot m.wall q.scooter position battery) = (result, k'))
    (failed : ∀ fault, result = .error fault → after = [])
    (done : ∀ a, result = .ok a → after = before ++ [(a.id, position)]) :
    Enters q.scooter k.store.ledger before after k'.store.ledger := by
  have hafter : after = [] ∨ ∃ a, result = .ok a ∧ after = before ++ [(a.id, position)] := by
    cases result with
    | error fault => exact .inl (failed fault rfl)
    | ok a => exact .inr ⟨a, rfl, done a rfl⟩
  rcases Store.ledger_of_recordSnapshot (Kernel.store_of_call h) with
    ⟨⟨fault, rfl⟩, hledger⟩ | ⟨hsame, hledger⟩
  · exact enters_nothing hledger (.inr (failed fault rfl))
  · rw [hledger]
    refine .snapshot rfl rfl ?_
    rcases hafter with hafter | ⟨a, ha, hafter⟩
    · exact .inr hafter
    · rw [hsame a ha] at hafter
      exact .inl hafter

theorem enters_of_advance (h : advance m terms k q p = some (p', k')) :
    Enters q.scooter k.store.ledger p.papers p'.papers k'.store.ledger := by
  have reads : ∀ {β : Type} {op : Store.Op α β} {result : Except StoreFault β} {k' : Kernel α},
      k.call op = (result, k') → Store.OnlyReads op → k'.store.ledger = k.store.ledger :=
    fun hcall hop => Store.ledger_of_contents (Kernel.contents_of_call hcall hop)
  cases p with
  | checking =>
    have hread := @Store.onlyReads_getScooter α q.scooter
    simp only [advance] at h
    split at h
    · next hcall =>
      cases h
      exact enters_nothing (reads hcall hread) (.inl rfl)
    · next hcall =>
      split at h <;> cases h <;> exact enters_nothing (reads hcall hread) (.inl rfl)
  | locating scooter =>
    have hread := @Store.onlyReads_getStation α q.station
    simp only [advance] at h
    split at h <;> next hcall => cases h; exact enters_nothing (reads hcall hread) (.inl rfl)
  | claiming scooter station =>
    simp only [advance] at h
    split at h <;> cases h <;> exact .nothing (.inl rfl)
  | observing scooter station ticket =>
    cases h
    exact .nothing (.inl rfl)
  | opening d =>
    simp only [advance] at h
    split at h
    · next hcall =>
      cases h
      exact enters_snapshot hcall (fun _ _ => rfl) fun _ ha => by cases ha
    · next hcall =>
      cases h
      refine enters_snapshot hcall (fun _ hf => by cases hf) fun a ha => ?_
      cases ha
      rfl
  | dispatching d start =>
    simp only [advance] at h
    split at h <;> cases h
    · exact .nothing (.inr rfl)
    · exact .nothing (.inl rfl)
  | waiting d start wait => cases h
  | closing d start a =>
    simp only [advance] at h
    split at h
    · next hcall =>
      cases h
      exact enters_snapshot hcall (fun _ _ => rfl) fun _ ha => by cases ha
    · next hcall =>
      cases h
      refine enters_snapshot hcall (fun _ hf => by cases hf) fun a ha => ?_
      cases ha
      rfl
  | docking d start finish a =>
    have hledger := Store.ledger_updateScooter q.scooter (statusUpdate d a) k.store
    simp only [advance] at h
    split at h <;> next hcall =>
      rw [Kernel.store_of_call hcall] at hledger
      cases h
      first
        | exact enters_nothing hledger (.inl rfl)
        | exact enters_nothing hledger (.inr rfl)
  | ordering d start finish a =>
    obtain ⟨result, k₁, hcall⟩ : ∃ result k₁, k.call (Store.createOrder m.wall
      (orderRequest q d start finish a)) = (result, k₁) := ⟨_, _, rfl⟩
    have hafter : p'.papers = [] ∧ k' = k₁ := by
      simp only [advance, hcall] at h
      split at h <;> next hsplit =>
        cases hsplit
        cases h
        exact ⟨rfl, rfl⟩
    obtain ⟨hpapers, rfl⟩ := hafter
    rw [hpapers]
    rcases Store.ledger_of_createOrder (Kernel.store_of_call hcall) with ⟨-, hledger⟩ | ⟨-, hledger⟩
    · exact enters_nothing hledger (.inr rfl)
    · rw [hledger]
      exact .order rfl rfl rfl rfl
  | releasing ticket fault =>
    cases h
    exact .nothing (.inl rfl)
  | finished result => cases h

/-- **What one step enters.** -/
theorem enters_of_step {c : Choice} (h : r.step m terms k c = some (r', k')) :
    Enters r.request.scooter k.store.ledger r.phase.papers r'.phase.papers k'.store.ledger := by
  cases c with
  | proceed =>
    simp only [step, Option.map_eq_some_iff, Prod.exists] at h
    obtain ⟨p', k₁, hadvance, h⟩ := h
    cases h
    exact enters_of_advance hadvance
  | wake c =>
    simp only [step] at h
    split at h
    · next d start wait hp =>
      rw [hp]
      split at h <;> cases h <;> exact .nothing (.inl rfl)
    · cases h

end Steps
end Rental

/-! ### Who holds a snapshot -/

/-- A rental that is under way, or the order at a place of the ledger. -/
inductive Holder where
  | rental (id : TaskId)
  | order (n : Nat)
  deriving DecidableEq, Repr

def Holder.order? : Holder → Option Nat
  | .order n => some n
  | .rental _ => none

namespace Ledger

variable {l : Ledger α} {owner owner' : Nat → Option Holder} {holder : Holder} {scooter : ScooterId}
  {papers : List (Paper α)}

/-- The snapshots of the papers stand at places that are the holder's, one behind the other. -/
def Holds (l : Ledger α) (owner : Nat → Option Holder) (holder : Holder) (scooter : ScooterId)
    (papers : List (Paper α)) : Prop :=
  ∃ places : List Nat, places.Pairwise (· < ·) ∧ List.Forall₂ (l.Shows scooter) papers places ∧
    ∀ i ∈ places, owner i = some holder

omit [Coordinate α]

theorem Holds.nil : l.Holds owner holder scooter [] := ⟨[], .nil, .nil, nofun⟩

/-- Every place of a holder is one of the ledger. -/
theorem lt_length_of_shows {places : List Nat} (h : List.Forall₂ (l.Shows scooter) papers places) :
    ∀ i ∈ places, i < l.snapshots.length := by
  intro i hi
  induction h with
  | nil => cases hi
  | cons hshows _ ih =>
    rcases List.mem_cons.mp hi with rfl | hi
    · exact hshows.lt_length
    · exact ih hi

/-- Places pass from one holder to another, or stay with their holder. -/
theorem Holds.pass {holder' : Holder} (h : l.Holds owner holder scooter papers)
    (howner : ∀ i, owner i = some holder → owner' i = some holder') :
    l.Holds owner' holder' scooter papers := by
  obtain ⟨places, hsorted, hshows, hheld⟩ := h
  exact ⟨places, hsorted, hshows, fun i hi => howner i (hheld i hi)⟩

/-- A new snapshot leaves what is held. -/
theorem Holds.addSnapshot (h : l.Holds owner holder scooter papers) (a : Snapshot α)
    (newHolder : Holder) : (l.addSnapshot a).Holds
      (Function.update owner l.snapshots.length (some newHolder)) holder scooter papers := by
  obtain ⟨places, hsorted, hshows, hheld⟩ := h
  refine ⟨places, hsorted, hshows.imp fun _ _ hi => hi.addSnapshot a, ?_⟩
  intro i hi
  have hlt := lt_length_of_shows hshows i hi
  rw [Function.update_of_ne (Nat.ne_of_lt hlt)]
  exact hheld i hi

/-- The holder of a new snapshot has it behind the others. -/
theorem Holds.snoc {a : Snapshot α} (h : l.Holds owner holder a.scooter papers) :
    (l.addSnapshot a).Holds (Function.update owner l.snapshots.length (some holder)) holder a.scooter
      (papers ++ [(a.id, a.position)]) := by
  obtain ⟨places, hsorted, hshows, hheld⟩ := h
  have hlt := lt_length_of_shows hshows
  refine ⟨places ++ [l.snapshots.length], ?_, ?_, ?_⟩
  · refine List.pairwise_append.mpr ⟨hsorted, List.pairwise_singleton _ _, ?_⟩
    intro i hi j hj
    rw [List.mem_singleton.mp hj]
    exact hlt i hi
  · exact List.rel_append (hshows.imp fun _ _ hi => hi.addSnapshot a)
      (.cons (shows_addSnapshot l a) .nil)
  · intro i hi
    rcases List.mem_append.mp hi with hi | hi
    · rw [Function.update_of_ne (Nat.ne_of_lt (hlt i hi))]
      exact hheld i hi
    · rw [List.mem_singleton.mp hi]
      exact Function.update_self ..

end Ledger

/-! ### The books -/

/-- For every rental that is under way, its scooter and its papers. -/
abbrev Holdings (α : Type) := TaskId → Option (ScooterId × List (Ledger.Paper α))

/-- A ledger with the papers of everybody. -/
structure Books (l : Ledger α) (owner : Nat → Option Holder) (held : Holdings α) : Prop where
  numbered : l.IsNumbered
  rentals : ∀ id scooter papers, held id = some (scooter, papers) →
    l.Holds owner (.rental id) scooter papers
  orders : ∀ n o, l.orders[n]? = some o → ∃ here there,
    l.Holds owner (.order n) o.scooter [(o.start, here), (o.finish, there)] ∧
      o.distance = here.distance there

namespace Books

variable {l l' : Ledger α} {owner : Nat → Option Holder} {held held' : Holdings α} {id : TaskId}
  {scooter : ScooterId} {before after : List (Ledger.Paper α)}

/-- Papers may be dropped. -/
theorem drop (h : Books l owner held) (hheld : ∀ id scooter papers,
    held' id = some (scooter, papers) → held id = some (scooter, papers) ∨ papers = []) :
    Books l owner held' where
  numbered := h.numbered
  rentals := by
    intro id scooter papers hpapers
    rcases hheld id scooter papers hpapers with hpapers | rfl
    · exact h.rentals id scooter papers hpapers
    · exact .nil
  orders := h.orders

/-- A rental has a snapshot recorded. -/
theorem addSnapshot (h : Books l owner held) {a : Snapshot α} (number : a.id = l.nextSnapshot)
    (hheld : held id = some (a.scooter, before)) :
    Books (l.addSnapshot a) (Function.update owner l.snapshots.length (some (.rental id)))
      (Function.update held id (some (a.scooter, before ++ [(a.id, a.position)]))) where
  numbered := h.numbered.addSnapshot number
  rentals := by
    intro id' scooter papers hpapers
    by_cases hid : id' = id
    · subst hid
      rw [Function.update_self] at hpapers
      cases hpapers
      exact (h.rentals id' a.scooter before hheld).snoc
    · rw [Function.update_of_ne hid] at hpapers
      exact (h.rentals id' scooter papers hpapers).addSnapshot a _
  orders := by
    intro n o hn
    obtain ⟨here, there, hholds, hdistance⟩ := h.orders n o hn
    exact ⟨here, there, hholds.addSnapshot a _, hdistance⟩

/-- A rental has its order made, which takes over what the rental holds. -/
theorem addOrder (h : Books l owner held) {o : Order α} {here there : Position α}
    (number : o.id = l.nextOrder) (distance : o.distance = here.distance there)
    (hheld : held id = some (o.scooter, [(o.start, here), (o.finish, there)])) :
    Books (l.addOrder o)
      (fun i => if owner i = some (.rental id) then some (.order l.orders.length) else owner i)
      (Function.update held id (some (o.scooter, []))) := by
  have hown : ∀ i, owner i = some (.rental id) → (if owner i = some (.rental id)
      then some (.order l.orders.length) else owner i) = some (.order l.orders.length) :=
    fun i hi => if_pos hi
  have hother : ∀ {holder}, holder ≠ .rental id → ∀ i, owner i = some holder →
      (if owner i = some (.rental id) then some (.order l.orders.length) else owner i) =
        some holder := by
    intro holder hne i hi
    rw [if_neg, hi]
    rw [hi]
    exact fun he => hne (Option.some.inj he)
  refine ⟨h.numbered.addOrder number, ?_, ?_⟩
  · intro id' scooter papers hpapers
    by_cases hid : id' = id
    · rw [hid, Function.update_self] at hpapers
      cases hpapers
      exact .nil
    · rw [Function.update_of_ne hid] at hpapers
      exact (h.rentals id' scooter papers hpapers).pass
        (hother fun he => hid (Holder.rental.inj he))
  · intro n o' hn
    change (l.orders ++ [o])[n]? = some o' at hn
    rcases Nat.lt_or_ge n l.orders.length with hlt | hge
    · rw [List.getElem?_append_left hlt] at hn
      obtain ⟨here', there', hholds, hdistance⟩ := h.orders n o' hn
      exact ⟨here', there', hholds.pass (hother nofun), hdistance⟩
    · have hlength := (List.getElem?_eq_some_iff.mp hn).1
      rw [List.length_append, List.length_singleton] at hlength
      have hlast : n = l.orders.length := by omega
      subst hlast
      rw [List.getElem?_concat_length] at hn
      cases hn
      exact ⟨here, there, (h.rentals id _ _ hheld).pass hown, distance⟩

/-- **Whatever a step enters, the books are kept.** -/
theorem enter (h : Books l owner held) (hheld : held id = some (scooter, before))
    (enters : Rental.Enters scooter l before after l') :
    ∃ owner', Books l' owner' (Function.update held id (some (scooter, after))) := by
  -- what a rental drops in the end, it may have for the moment
  have dropped : ∀ {l' owner' kept}, Books l' owner' (Function.update held id (some (scooter, kept))) →
      after = kept ∨ after = [] →
      Books l' owner' (Function.update held id (some (scooter, after))) := by
    intro l' owner' kept hkept hafter
    refine hkept.drop fun id' scooter' papers hpapers => ?_
    by_cases hid : id' = id
    · subst hid
      rw [Function.update_self] at hpapers ⊢
      cases hpapers
      exact hafter.imp (fun he => by rw [he]) fun he => he
    · rw [Function.update_of_ne hid] at hpapers ⊢
      exact .inl hpapers
  cases enters with
  | nothing papers =>
    refine ⟨owner, dropped ?_ papers⟩
    rw [← hheld, Function.update_eq_self]
    exact h
  | snapshot number shown papers =>
    subst shown
    exact ⟨_, dropped (h.addSnapshot number hheld) papers⟩
  | order number driven distance papers =>
    subst driven
    subst papers
    exact ⟨_, h.addOrder number distance hheld⟩

end Books

omit [Coordinate α] in
/-- What the rentals of a system hold. -/
def System.holdings (s : System α) : Holdings α := fun id =>
  match s.tasks.get? id with
  | some (.rental r) => some (r.request.scooter, r.phase.papers)
  | _ => none

omit [Coordinate α] in
theorem System.holdings_of_rental {s : System α} {id : TaskId} {r : Rental α}
    (h : s.tasks.get? id = some (.rental r)) :
    s.holdings id = some (r.request.scooter, r.phase.papers) := by
  unfold holdings
  rw [h]

omit [Coordinate α] in
theorem System.rental_of_holdings {s : System α} {id : TaskId} {scooter : ScooterId}
    {papers : List (Ledger.Paper α)} (h : s.holdings id = some (scooter, papers)) :
    ∃ r, s.tasks.get? id = some (.rental r) ∧ r.request.scooter = scooter ∧
      r.phase.papers = papers := by
  unfold holdings at h
  split at h
  · next r hr =>
    cases h
    exact ⟨r, hr, rfl, rfl⟩
  · cases h

/-- **Every move keeps the books.** -/
theorem books_move {s s' : System α} {owner : Nat → Option Holder} {m : Move α} {es : List (Note α)}
    (h : Books s.kernel.store.ledger owner s.holdings) (hm : s.RentalMoves m es s') :
    ∃ owner', Books s'.kernel.store.ledger owner' s'.holdings := by
  cases hm with
  | @step id r r' k c task step =>
    obtain ⟨owner', hbooks⟩ := h.enter (System.holdings_of_rental task) (Rental.enters_of_step step)
    refine ⟨owner', hbooks.drop fun id' scooter papers hpapers => .inl ?_⟩
    obtain ⟨r₁, hr₁, rfl, rfl⟩ := System.rental_of_holdings hpapers
    change (s.tasks.insert id (.rental r')).get? id' = _ at hr₁
    by_cases hid : id' = id
    · subst hid
      rw [Table.get?_insert_self] at hr₁
      cases hr₁
      rw [Function.update_self, (Rental.stride_of_step id' step).1]
    · rw [Table.get?_insert_of_ne _ _ (Ne.symm hid)] at hr₁
      rw [Function.update_of_ne hid]
      exact System.holdings_of_rental hr₁
  | @dropped id r task =>
    rw [Store.ledger_of_contents (Rental.contents_of_cancel s.kernel r)]
    refine ⟨owner, h.drop fun id' scooter papers hpapers => .inl ?_⟩
    obtain ⟨r₁, hr₁, rfl, rfl⟩ := System.rental_of_holdings hpapers
    change (s.tasks.erase id).get? id' = _ at hr₁
    rw [Table.get?_erase] at hr₁
    split at hr₁
    · cases hr₁
    · exact System.holdings_of_rental hr₁
  | aside notes contents registry fresh rentals =>
    rw [Store.ledger_of_contents contents]
    refine ⟨owner, h.drop fun id scooter papers hpapers => ?_⟩
    obtain ⟨r, hr, rfl, rfl⟩ := System.rental_of_holdings hpapers
    rcases rentals id r hr with hr | ⟨q, rfl⟩
    · exact .inl (System.holdings_of_rental hr)
    · exact .inr rfl

theorem books_run {allowed : Move α → Prop} {s₀ s : System α} {journal : List (Note α)}
    (tasks : s₀.tasks = ∅) (ledger : s₀.kernel.store.ledger = .empty)
    (run : Run allowed s₀ journal s) : ∃ owner, Books s.kernel.store.ledger owner s.holdings := by
  induction run with
  | start =>
    rw [ledger]
    refine ⟨fun _ => none, .empty, ?_, nofun⟩
    intro id scooter papers hpapers
    obtain ⟨r, hr, -⟩ := System.rental_of_holdings hpapers
    rw [tasks] at hr
    cases hr
  | move m _ _ step ih =>
    obtain ⟨owner, hbooks⟩ := ih
    exact books_move hbooks (System.rentalMoves_of_move? step)

section FullDisk

attribute [local instance] exactRat

end FullDisk
end ScooterFleet
