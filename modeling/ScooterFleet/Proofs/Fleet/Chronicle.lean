import Mathlib.Data.List.Pairwise
import ScooterFleet.Proofs.Fleet.Stride

/-!
# The stories of rentals

In a journal, the entries of one rental tell one story: the record is checked, the trip is claimed, its
start is recorded, the device is dispatched, the record is written.  No chapter comes twice or before an
earlier one, whatever other rentals do in between.

* `Note.Grounded` — what an entry says of the ones before it;
* `Rental.Follows` — what a rental in some phase knows of its own story;
* `Chronicle` / `chronicle_run` — **every journal tells such stories**, under any moves;
* `Chronicle.claim_unique` — two claims do not share a name, as long as there are names.
-/

namespace ScooterFleet

variable {α : Type} [Coordinate α]

namespace Note

omit [Coordinate α] in
/-- The chapter of a rental's story that an entry is. -/
def chapter? : Note α → Option Nat
  | .checked _ _ _ => some 0
  | .claimed _ _ => some 1
  | .opened _ _ _ => some 2
  | .dispatched _ _ => some 3
  | .docked _ _ _ => some 4
  | _ => none

/-- What else is in the journal where this entry is. -/
def Grounded (journal : List (Note α)) : Note α → Prop
  | .claimed id t =>
    ∃ record : Scooter α, .checked id t.scooter record ∈ journal ∧ record.isRentable = true
  | .opened id d snapshot =>
    .claimed id d.ticket ∈ journal ∧ .checked id d.ticket.scooter d.scooter ∈ journal ∧
      snapshot.battery = d.scooter.battery
  | .dispatched id d => ∃ snapshot, .opened id d snapshot ∈ journal
  | .docked id scooter _ => ∃ d, .dispatched id d ∈ journal ∧ d.ticket.scooter = scooter
  | _ => True

theorem Grounded.append {journal : List (Note α)} {e : Note α} (h : e.Grounded journal)
    (es : List (Note α)) : e.Grounded (journal ++ es) := by
  have old : ∀ {e : Note α}, e ∈ journal → e ∈ journal ++ es := List.mem_append_left es
  cases e with
  | claimed id t =>
    obtain ⟨record, hr, hrentable⟩ := h
    exact ⟨record, old hr, hrentable⟩
  | opened id d snapshot => exact ⟨old h.1, old h.2.1, h.2.2⟩
  | dispatched id d =>
    obtain ⟨snapshot, hs⟩ := h
    exact ⟨snapshot, old hs⟩
  | docked id scooter record =>
    obtain ⟨d, hd, hscooter⟩ := h
    exact ⟨d, old hd, hscooter⟩
  | checked _ _ _ => trivial
  | accepted _ _ _ => trivial
  | ended _ _ => trivial

/-- Two entries of one rental come in the order of their chapters. -/
def InOrder (a b : Note α) : Prop :=
  a.task = b.task → ∀ m n, a.chapter? = some m → b.chapter? = some n → m < n

end Note

namespace Rental

omit [Coordinate α] in
/-- The first chapter that is still to come. -/
def Phase.chapter : Phase α → Nat
  | .checking => 0
  | .locating _ | .claiming _ _ => 1
  | .observing _ _ _ | .opening _ => 2
  | .dispatching _ _ => 3
  | .waiting _ _ _ | .closing _ _ _ | .docking _ _ _ _ => 4
  | .ordering _ _ _ _ | .releasing _ _ | .finished _ => 5

/-- What the journal says of the things that a rental knows. -/
def Phase.Known (journal : List (Note α)) (id : TaskId) (q : RentalRequest) : Phase α → Prop
  | .checking => True
  | .locating record | .claiming record _ =>
    .checked id q.scooter record ∈ journal ∧ record.isRentable = true
  | .observing record _ t =>
    .checked id q.scooter record ∈ journal ∧ .claimed id t ∈ journal ∧ t.scooter = q.scooter
  | .opening d =>
    .checked id q.scooter d.scooter ∈ journal ∧ .claimed id d.ticket ∈ journal ∧
      d.ticket.scooter = q.scooter
  | .dispatching d _ =>
    (∃ snapshot, .opened id d snapshot ∈ journal) ∧ .claimed id d.ticket ∈ journal ∧
      d.ticket.scooter = q.scooter
  | .waiting d _ _ | .closing d _ _ | .docking d _ _ _ =>
    .dispatched id d ∈ journal ∧ d.ticket.scooter = q.scooter
  | .ordering _ _ _ _ => ∃ record, .docked id q.scooter record ∈ journal
  | .releasing _ _ => True
  | .finished (.ok _) => ∃ record, .docked id q.scooter record ∈ journal
  | .finished (.error _) => True

theorem Phase.Known.append {journal : List (Note α)} {id : TaskId} {q : RentalRequest} {p : Phase α}
    (h : p.Known journal id q) (es : List (Note α)) : p.Known (journal ++ es) id q := by
  have old : ∀ {e : Note α}, e ∈ journal → e ∈ journal ++ es := List.mem_append_left es
  cases p with
  | checking => trivial
  | locating record => exact ⟨old h.1, h.2⟩
  | claiming record station => exact ⟨old h.1, h.2⟩
  | observing record station t => exact ⟨old h.1, old h.2.1, h.2.2⟩
  | opening d => exact ⟨old h.1, old h.2.1, h.2.2⟩
  | dispatching d start =>
    obtain ⟨⟨snapshot, hs⟩, hclaimed, hscooter⟩ := h
    exact ⟨⟨snapshot, old hs⟩, old hclaimed, hscooter⟩
  | waiting d start wait => exact ⟨old h.1, h.2⟩
  | closing d start a => exact ⟨old h.1, h.2⟩
  | docking d start finish a => exact ⟨old h.1, h.2⟩
  | ordering d start finish a =>
    obtain ⟨record, hr⟩ := h
    exact ⟨record, old hr⟩
  | releasing t fault => trivial
  | finished result =>
    cases result with
    | error fault => trivial
    | ok trip =>
      obtain ⟨record, hr⟩ := h
      exact ⟨record, old hr⟩

/-- A step keeps what is known, and notes nothing without its grounds. -/
theorem Stride.known {id : TaskId} {m : Moment} {k : Kernel α} {q : RentalRequest}
    {p p' : Phase α} {calls : List (Registry.Call α)} {es journal : List (Note α)}
    (h : Stride id m k q p p' calls es) (hp : p.Known journal id q) :
    p'.Known (journal ++ es) id q ∧ ∀ e ∈ es, e.Grounded (journal ++ es) := by
  have last : ∀ e : Note α, e ∈ journal ++ [e] := fun e => by simp
  have old : ∀ {e e' : Note α}, e ∈ journal → e ∈ journal ++ [e'] := List.mem_append_left _
  cases h with
  | failed => exact ⟨trivial, fun _ e => nomatch e⟩
  | refused => exact ⟨trivial, fun _ e => nomatch e⟩
  | unrentable read => exact ⟨trivial, by simp [Note.Grounded]⟩
  | checked read rentable => exact ⟨⟨last _, rentable⟩, by simp [Note.Grounded]⟩
  | located => exact ⟨by rw [List.append_nil]; exact hp, fun _ e => nomatch e⟩
  | claimed =>
    refine ⟨⟨old hp.1, last _, rfl⟩, ?_⟩
    simp only [List.mem_singleton, forall_eq]
    exact ⟨_, old hp.1, hp.2⟩
  | observed => exact ⟨by rw [List.append_nil]; exact hp, fun _ e => nomatch e⟩
  | opened scooter battery =>
    refine ⟨⟨⟨_, last _⟩, old hp.2.1, hp.2.2⟩, ?_⟩
    simp only [List.mem_singleton, forall_eq]
    exact ⟨old hp.2.1, hp.2.2 ▸ old hp.1, battery⟩
  | unopened => exact ⟨trivial, fun _ e => nomatch e⟩
  | dispatched =>
    refine ⟨⟨last _, hp.2.2⟩, ?_⟩
    simp only [List.mem_singleton, forall_eq]
    obtain ⟨snapshot, hs⟩ := hp.1
    exact ⟨snapshot, old hs⟩
  | undispatched => exact ⟨trivial, fun _ e => nomatch e⟩
  | listened => exact ⟨by rw [List.append_nil]; exact hp, fun _ e => nomatch e⟩
  | returned => exact ⟨by rw [List.append_nil]; exact hp, fun _ e => nomatch e⟩
  | gaveUp => exact ⟨by rw [List.append_nil]; exact hp, fun _ e => nomatch e⟩
  | closed => exact ⟨by rw [List.append_nil]; exact hp, fun _ e => nomatch e⟩
  | docked =>
    refine ⟨⟨_, last _⟩, ?_⟩
    simp only [List.mem_singleton, forall_eq]
    exact ⟨_, old hp.1, hp.2⟩
  | unsaved =>
    refine ⟨trivial, ?_⟩
    simp only [List.mem_singleton, forall_eq]
    exact ⟨_, old hp.1, hp.2⟩
  | ordered => exact ⟨by rw [List.append_nil]; exact hp, fun _ e => nomatch e⟩
  | released => exact ⟨trivial, fun _ e => nomatch e⟩

omit [Coordinate α] in
theorem Phase.chapter_le (p : Phase α) : p.chapter ≤ 5 := by
  cases p <;> simp [chapter]

/-- A step notes at most one entry, of the chapter that is due, and goes on to a later one. -/
theorem Stride.chapter {id : TaskId} {m : Moment} {k : Kernel α} {q : RentalRequest}
    {p p' : Phase α} {calls : List (Registry.Call α)} {es : List (Note α)}
    (h : Stride id m k q p p' calls es) :
    p.chapter ≤ p'.chapter ∧
      ∀ e ∈ es, es = [e] ∧ e.task = id ∧ e.chapter? = some p.chapter ∧ p.chapter < p'.chapter := by
  cases h with
  | failed => exact ⟨Phase.chapter_le _, fun _ e => nomatch e⟩
  | _ => simp [Phase.chapter, Note.task, Note.chapter?]

/-- A claim is made under the name that is due. -/
theorem Stride.name {id id' : TaskId} {m : Moment} {k : Kernel α} {q : RentalRequest}
    {p p' : Phase α} {calls : List (Registry.Call α)} {es : List (Note α)} {t : Ticket}
    (h : Stride id m k q p p' calls es) (ht : .claimed id' t ∈ es) : t.trip = m.fresh := by
  cases h with
  | claimed =>
    cases List.mem_singleton.mp ht
    rfl
  | _ => simp at ht

/-- What is true of a rental and its story. -/
structure Follows (journal : List (Note α)) (id : TaskId) (r : Rental α) : Prop where
  told : ∀ e ∈ journal, e.task = id → ∀ n, e.chapter? = some n → n < r.phase.chapter
  known : r.phase.Known journal id r.request

theorem Follows.append {journal es : List (Note α)} {id : TaskId} {r : Rental α}
    (h : r.Follows journal id) (hes : ∀ e ∈ es, e.task = id → e.chapter? = none) :
    r.Follows (journal ++ es) id where
  told := by
    intro e he hid n hn
    rcases List.mem_append.mp he with he | he
    · exact h.told e he hid n hn
    · rw [hes e he hid] at hn
      cases hn
  known := h.known.append es

end Rental

/-! ### Whole journals -/

/-- The name of the trip that begins with this number. -/
def System.tripName (n : Nat) : TripId := .ofNat (System.tripBase + n)

/-- There are as many names as numbers of 128 bits. -/
def System.nameCount : Nat := Nat.pow 2 128

/-- A journal that tells the stories of its rentals, and the system where it ends. -/
structure Chronicle (journal : List (Note α)) (s : System α) : Prop where
  ordered : journal.Pairwise Note.InOrder
  grounded : ∀ e ∈ journal, e.Grounded journal
  rentals : ∀ id r, s.tasks.get? id = some (.rental r) → r.Follows journal id
  started : ∀ e ∈ journal, e.task < s.fresh
  present : ∀ id task, s.tasks.get? id = some task → id < s.fresh
  named : ∀ id t, .claimed id t ∈ journal → ∃ n, n < s.fresh ∧ t.trip = System.tripName n
  numbered : journal.Pairwise fun a b => ∀ id id' t t', a = .claimed id t → b = .claimed id' t' →
    ∃ m n, m < n ∧ n < s.fresh ∧ t.trip = System.tripName m ∧ t'.trip = System.tripName n

namespace Chronicle

variable {journal es : List (Note α)} {s s' : System α}

/-- What is noted next: an entry of a rental's story, as the only one, or nothing of that kind.  The
rest of the invariant is about the tasks and not about the journal. -/
theorem extend (h : Chronicle journal s) (hsingle : ∀ e ∈ es, e.chapter? = none ∨ es = [e])
    (hlater : ∀ a ∈ journal, ∀ e ∈ es, Note.InOrder a e)
    (hgrounded : ∀ e ∈ es, e.Grounded (journal ++ es)) (hstarted : ∀ e ∈ es, e.task < s'.fresh)
    (hname : ∀ id t, .claimed id t ∈ es → s.fresh < s'.fresh ∧ t.trip = System.tripName s.fresh)
    (hfresh : s.fresh ≤ s'.fresh)
    (hrentals : ∀ id r, s'.tasks.get? id = some (.rental r) → r.Follows (journal ++ es) id)
    (hpresent : ∀ id task, s'.tasks.get? id = some task → id < s'.fresh) :
    Chronicle (journal ++ es) s' where
  ordered := by
    refine List.pairwise_append.mpr ⟨h.ordered, ?_, hlater⟩
    refine List.pairwise_iff_getElem.mpr fun i j hi hj hij => ?_
    rcases hsingle _ (List.getElem_mem hi) with hnone | hone
    · intro _ m n hm
      rw [hnone] at hm
      cases hm
    · have hlength := congrArg List.length hone
      rw [List.length_singleton] at hlength
      omega
  grounded := by
    intro e he
    rcases List.mem_append.mp he with he | he
    · exact (h.grounded e he).append es
    · exact hgrounded e he
  rentals := hrentals
  started := by
    intro e he
    rcases List.mem_append.mp he with he | he
    · exact Nat.lt_of_lt_of_le (h.started e he) hfresh
    · exact hstarted e he
  present := hpresent
  named := by
    intro id t ht
    rcases List.mem_append.mp ht with ht | ht
    · obtain ⟨n, hn, hn'⟩ := h.named id t ht
      exact ⟨n, by omega, hn'⟩
    · obtain ⟨hlt, htrip⟩ := hname id t ht
      exact ⟨s.fresh, hlt, htrip⟩
  numbered := by
    refine List.pairwise_append.mpr ⟨?_, ?_, ?_⟩
    · refine h.numbered.imp fun {a b} hab id id' t t' ha hb => ?_
      obtain ⟨m, n, hmn, hn, hm', hn'⟩ := hab id id' t t' ha hb
      exact ⟨m, n, hmn, by omega, hm', hn'⟩
    · refine List.pairwise_iff_getElem.mpr fun i j hi hj hij id id' t t' hclaim _ => ?_
      rcases hsingle _ (List.getElem_mem hi) with hnone | hone
      · rw [hclaim] at hnone
        cases hnone
      · have hlength := congrArg List.length hone
        rw [List.length_singleton] at hlength
        omega
    · intro a ha b hb id id' t t' hclaim hclaim'
      subst hclaim
      subst hclaim'
      obtain ⟨m, hm, hm'⟩ := h.named id t ha
      obtain ⟨hlt, htrip⟩ := hname id' t' hb
      exact ⟨m, s.fresh, hm, hlt, hm', htrip⟩

/-- What is no step of a rental tells nothing of one. -/
theorem append (h : Chronicle journal s) (hes : ∀ e ∈ es, e.chapter? = none)
    (hstarted : ∀ e ∈ es, e.task < s.fresh) (hfresh : s.fresh ≤ s'.fresh)
    (hpresent : ∀ id task, s'.tasks.get? id = some task → id < s'.fresh)
    (hrentals : ∀ id r, s'.tasks.get? id = some (.rental r) →
      s.tasks.get? id = some (.rental r) ∨ s.fresh ≤ id ∧ ∃ q, r = .start q) :
    Chronicle (journal ++ es) s' := by
  refine h.extend (fun e he => .inl (hes e he)) ?_ ?_ ?_ ?_ hfresh ?_ hpresent
  · intro a _ e he _ m n _ hn
    rw [hes e he] at hn
    cases hn
  · intro e he
    have hnone := hes e he
    cases e <;> trivial
  · intro e he
    exact Nat.lt_of_lt_of_le (hstarted e he) hfresh
  · intro id t ht
    cases hes _ ht
  · intro id r hr
    rcases hrentals id r hr with hr | ⟨hid, q, rfl⟩
    · exact (h.rentals id r hr).append fun e he _ => hes e he
    · refine Rental.Follows.append ⟨?_, trivial⟩ fun e he _ => hes e he
      intro e he htask
      exact absurd (h.started e he) (htask ▸ Nat.not_lt.mpr hid)

/-- A step of a rental adds to its story. -/
theorem rental (h : Chronicle journal s) {id : TaskId} {r r' : Rental α} {c : Rental.Choice}
    {k : Kernel α} (htask : s.tasks.get? id = some (.rental r))
    (hstep : r.step s.moment s.terms s.kernel c = some (r', k)) :
    Chronicle (journal ++ r.notes id s.moment s.kernel c)
      ({ s with kernel := k, fresh := s.fresh + 1 }.setTask id (.rental r')) := by
  obtain ⟨hrequest, calls, hstrides⟩ := Rental.stride_of_step id hstep
  have hstride := hstrides.stride
  have hfollows := h.rentals id r htask
  obtain ⟨hle, hnotes⟩ := hstride.chapter
  obtain ⟨hknown, hgrounded⟩ := hstride.known hfollows.known
  generalize r.notes id s.moment s.kernel c = es at hstride hnotes hknown hgrounded ⊢
  refine h.extend (fun e he => .inr (hnotes e he).1) ?_ hgrounded ?_ ?_ (Nat.le_succ _) ?_ ?_
  · intro a ha e he htask m n hm hn
    obtain ⟨-, hid, hchapter, -⟩ := hnotes e he
    rw [hchapter] at hn
    cases hn
    exact hfollows.told a ha (htask.trans hid) m hm
  · intro e he
    rw [(hnotes e he).2.1]
    exact Nat.lt_succ_of_lt (h.present id _ htask)
  · intro id' t ht
    exact ⟨Nat.lt_succ_self _, hstride.name ht⟩
  · intro id' r₁ hr₁
    change (s.tasks.insert id (.rental r')).get? id' = _ at hr₁
    rw [Table.get?_insert] at hr₁
    split at hr₁
    · next hid =>
      subst hid
      cases hr₁
      refine ⟨?_, hrequest ▸ hknown⟩
      intro e he htask n hn
      rcases List.mem_append.mp he with he | he
      · exact Nat.lt_of_lt_of_le (hfollows.told e he htask n hn) hle
      · obtain ⟨-, -, hchapter, hlt⟩ := hnotes e he
        rw [hchapter] at hn
        cases hn
        exact hlt
    · next hid =>
      refine (h.rentals id' r₁ hr₁).append fun e he htask => ?_
      exact absurd ((hnotes e he).2.1.symm.trans htask) hid
  · intro id' task ht
    change (s.tasks.insert id (.rental r')).get? id' = _ at ht
    show id' < s.fresh + 1
    rw [Table.get?_insert] at ht
    split at ht
    · next hid => exact hid ▸ Nat.lt_succ_of_lt (h.present id _ htask)
    · exact Nat.lt_succ_of_lt (h.present id' task ht)

/-- A step of another task tells nothing of rentals. -/
theorem act (h : Chronicle journal s) {id : TaskId} {task task' : Task α}
    (htask : s.tasks.get? id = some task) (hes : ∀ e ∈ es, e.task = id ∧ e.chapter? = none)
    (hfresh : s'.fresh = s.fresh) (htasks : s'.tasks = s.tasks.insert id task')
    (hother : ∀ r, task' ≠ .rental r) : Chronicle (journal ++ es) s' := by
  refine h.append (fun e he => (hes e he).2) (fun e he => ?_) (Nat.le_of_eq hfresh.symm) ?_ ?_
  · rw [(hes e he).1]
    exact h.present id _ htask
  · intro id' t ht
    rw [htasks, Table.get?_insert] at ht
    rw [hfresh]
    split at ht
    · next hid => exact hid ▸ h.present id _ htask
    · exact h.present id' t ht
  · intro id' r hr
    rw [htasks, Table.get?_insert] at hr
    split at hr
    · cases hr
      exact absurd rfl (hother r)
    · exact .inl hr

theorem quiet (h : Chronicle journal s) (hfresh : s'.fresh = s.fresh)
    (htasks : s'.tasks = s.tasks) : Chronicle (journal ++ []) s' :=
  h.append (fun _ e => nomatch e) (fun _ e => nomatch e) (Nat.le_of_eq hfresh.symm)
    (by rw [htasks, hfresh]; exact h.present)
    fun _ _ hr => .inl (htasks ▸ hr)

/-- A task that joins. -/
theorem spawn (h : Chronicle journal s) {task : Task α}
    (hnew : ∀ r, task = .rental r → ∃ q, r = .start q) :
    Chronicle journal (s.spawn task).2 := by
  have hspawn : Chronicle (journal ++ []) (s.spawn task).2 := by
    refine h.append (fun _ e => nomatch e) (fun _ e => nomatch e) (Nat.le_succ _) ?_ ?_
    · intro id t ht
      change (s.tasks.insert s.fresh task).get? id = some t at ht
      show id < s.fresh + 1
      rw [Table.get?_insert] at ht
      split at ht
      · next hid => exact hid ▸ Nat.lt_succ_self _
      · exact Nat.lt_succ_of_lt (h.present id t ht)
    · intro id r hr
      change (s.tasks.insert s.fresh task).get? id = _ at hr
      rw [Table.get?_insert] at hr
      split at hr
      · next hid =>
        cases hr
        exact .inr ⟨Nat.le_of_eq hid, hnew r rfl⟩
      · exact .inl hr
  rwa [List.append_nil] at hspawn

end Chronicle

theorem Device.notes_about {id : TaskId} {l : Link α} {d : Device α} {c : Device.Choice}
    {e : Note α} (he : e ∈ d.notes id l c) : e.task = id ∧ e.chapter? = none := by
  unfold notes at he
  grind [Note.task, Note.chapter?]

/-- **One move keeps the stories.** -/
theorem chronicle_move {journal es : List (Note α)} {s s' : System α} {m : Move α}
    (h : Chronicle journal s) (hm : s.Moves m es s') : Chronicle (journal ++ es) s' := by
  cases hm with
  | act acts =>
    cases acts with
    | device task place step =>
      exact h.act task (fun e he => Device.notes_about he) rfl rfl fun _ e => nomatch e
    | gateway task place step =>
      exact h.act task (fun _ e => nomatch e) rfl rfl fun _ e => nomatch e
    | rental task step => exact h.rental task step
    | bystander task before after registry contents links tasks fresh =>
      refine h.act task (fun _ e => nomatch e) fresh tasks ?_
      intro r he
      subst he
      exact after
  | clock => exact h.quiet rfl rfl
  | rent =>
    rw [List.append_nil]
    exact h.spawn fun r hr => ⟨_, by cases hr; rfl⟩
  | @attach requested profile link =>
    rw [List.append_nil]
    have hopen : Chronicle journal (s.open_ link).2 := by
      have hq : Chronicle (journal ++ []) (s.open_ link).2 :=
        h.append (fun _ e => nomatch e) (fun _ e => nomatch e) (Nat.le_succ _)
          (fun id t ht => Nat.lt_succ_of_lt (h.present id t ht)) fun _ _ hr => .inl hr
      rwa [List.append_nil] at hq
    have hgateway : Chronicle journal
        ((s.open_ link).2.spawn (.gateway s.fresh (.start s.now))).2 :=
      hopen.spawn fun _ e => nomatch e
    exact hgateway.spawn fun _ e => nomatch e
  | join bystander =>
    rw [List.append_nil]
    refine h.spawn ?_
    intro r he
    subst he
    exact bystander.elim
  | call => exact h.quiet rfl rfl
  | watch => exact h.quiet rfl rfl
  | cancel cancels =>
    obtain ⟨htasks, hfresh⟩ := System.tasks_of_cancels cancels
    refine h.append (fun _ e => nomatch e) (fun _ e => nomatch e) (Nat.le_of_eq hfresh.symm) ?_ ?_
    · intro id' t ht
      rw [htasks, Table.get?_erase] at ht
      rw [hfresh]
      split at ht
      · cases ht
      · exact h.present id' t ht
    · intro id' r hr
      rw [htasks, Table.get?_erase] at hr
      split at hr
      · cases hr
      · exact .inl hr

/-- **Every journal tells the stories of its rentals.** -/
theorem chronicle_run {allowed : Move α → Prop} {s₀ s : System α} {journal : List (Note α)}
    (h₀ : s₀.tasks = ∅) (run : Run allowed s₀ journal s) : Chronicle journal s := by
  induction run with
  | start =>
    refine ⟨.nil, fun _ e => (nomatch e), ?_, fun _ e => (nomatch e), ?_,
      fun _ _ e => (nomatch e), .nil⟩
    · intro id r hr
      rw [h₀] at hr
      cases hr
    · intro id t ht
      rw [h₀] at ht
      cases ht
  | move m _ _ step ih => exact chronicle_move ih (System.moves_of_move? step)

omit [Coordinate α] in
theorem System.tripName_injective {m n : Nat} (hm : System.tripBase + m < System.nameCount)
    (hn : System.tripBase + n < System.nameCount) (h : System.tripName m = System.tripName n) :
    m = n := by
  unfold System.tripName Uuid.ofNat at h
  have hbits := congrArg (fun id => id.bits.toNat) h
  simp only [BitVec.toNat_ofNat] at hbits
  have hsame : System.tripBase + m = System.tripBase + n :=
    (Nat.mod_eq_of_lt hm).symm.trans (hbits.trans (Nat.mod_eq_of_lt hn))
  omega

namespace Chronicle

variable {journal : List (Note α)} {s : System α}

/-- **Two claims do not share a name**, while there are enough names for all that has happened. -/
theorem claim_unique (h : Chronicle journal s) (names : System.tripBase + s.fresh ≤ System.nameCount)
    {id id' : TaskId} {t t' : Ticket} (ht : .claimed id t ∈ journal)
    (ht' : .claimed id' t' ∈ journal) (htrip : t.trip = t'.trip) : id = id' ∧ t = t' := by
  have hdistinct : journal.Pairwise fun a b => ∀ id id' t t', a = .claimed id t →
      b = .claimed id' t' → t.trip ≠ t'.trip := by
    refine h.numbered.imp fun {a b} hab id id' t t' ha hb htrip => ?_
    obtain ⟨m, n, hmn, hn, hm', hn'⟩ := hab id id' t t' ha hb
    rw [hm', hn'] at htrip
    have heq := System.tripName_injective (by omega) (by omega) htrip
    omega
  have hsymm : Std.Symm fun a b : Note α => ∀ id id' t t', a = .claimed id t →
      b = .claimed id' t' → t.trip ≠ t'.trip :=
    ⟨fun a b hab id id' t t' ha hb e => hab id' id t' t hb ha e.symm⟩
  by_cases he : Note.claimed (α := α) id t = .claimed id' t'
  · cases he
    exact ⟨rfl, rfl⟩
  · exact absurd htrip (hdistinct.forall ht ht' he id id' t t' rfl rfl)

theorem inOrder_at (h : Chronicle journal s) {a b : Note α} {i j : Nat}
    (ha : journal[i]? = some a) (hb : journal[j]? = some b) (hij : i < j) : a.InOrder b := by
  obtain ⟨hi, rfl⟩ := List.getElem?_eq_some_iff.mp ha
  obtain ⟨hj, rfl⟩ := List.getElem?_eq_some_iff.mp hb
  exact List.pairwise_iff_getElem.mp h.ordered i j hi hj hij

/-- Earlier chapters are at earlier places. -/
theorem place_lt (h : Chronicle journal s) {a b : Note α} {i j m n : Nat}
    (ha : journal[i]? = some a) (hb : journal[j]? = some b) (htask : a.task = b.task)
    (hm : a.chapter? = some m) (hn : b.chapter? = some n) (hmn : m < n) : i < j := by
  rcases Nat.lt_trichotomy i j with hij | rfl | hji
  · exact hij
  · rw [ha] at hb
    cases hb
    rw [hm] at hn
    cases hn
    omega
  · have horder := h.inOrder_at hb ha hji htask.symm n m hn hm
    omega

/-- A chapter is at one place. -/
theorem place_eq (h : Chronicle journal s) {a b : Note α} {i j n : Nat}
    (ha : journal[i]? = some a) (hb : journal[j]? = some b) (htask : a.task = b.task)
    (han : a.chapter? = some n) (hbn : b.chapter? = some n) : i = j := by
  rcases Nat.lt_trichotomy i j with hij | hij | hji
  · exact absurd (h.inOrder_at ha hb hij htask n n han hbn) (Nat.lt_irrefl n)
  · exact hij
  · exact absurd (h.inOrder_at hb ha hji htask.symm n n hbn han) (Nat.lt_irrefl n)

/-- A story has each of its chapters once. -/
theorem chapter_unique (h : Chronicle journal s) {a b : Note α} {n : Nat} (ha : a ∈ journal)
    (hb : b ∈ journal) (htask : a.task = b.task) (han : a.chapter? = some n)
    (hbn : b.chapter? = some n) : a = b := by
  obtain ⟨i, hi⟩ := List.mem_iff_getElem?.mp ha
  obtain ⟨j, hj⟩ := List.mem_iff_getElem?.mp hb
  have hij := h.place_eq hi hj htask han hbn
  subst hij
  rw [hi] at hj
  exact Option.some.inj hj

theorem claimed_of_dispatched (h : Chronicle journal s) {id : TaskId} {d : Departure α}
    (hd : .dispatched id d ∈ journal) : .claimed id d.ticket ∈ journal := by
  obtain ⟨snapshot, hs⟩ := h.grounded _ hd
  exact (h.grounded _ hs).1

/-- A trip's name is dispatched once. -/
theorem dispatched_unique (h : Chronicle journal s)
    (names : System.tripBase + s.fresh ≤ System.nameCount) {id id' : TaskId} {d d' : Departure α}
    (hd : .dispatched id d ∈ journal) (hd' : .dispatched id' d' ∈ journal)
    (htrip : d.ticket.trip = d'.ticket.trip) : id = id' ∧ d = d' := by
  obtain ⟨rfl, -⟩ := h.claim_unique names (h.claimed_of_dispatched hd) (h.claimed_of_dispatched hd')
    htrip
  have hsame : Note.dispatched id d = .dispatched id d' := h.chapter_unique hd hd' rfl rfl rfl
  cases hsame
  exact ⟨rfl, rfl⟩

end Chronicle
end ScooterFleet
