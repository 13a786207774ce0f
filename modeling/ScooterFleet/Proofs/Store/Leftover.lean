import ScooterFleet.Proofs.Store.Growth

/-!
# Entries that could not be saved

A call appends its entry and saves the ledger then.  Where saving fails the call is answered with the
fault, and its entry stays where it was appended.

* `Archive.Continues` — **all runs** of calls, with whatever answers and with whatever happens to the
  directory in between, and what they entered;
* `Archive.ledger_of_continues` — the ledger has what was entered, in this order;
* `Archive.failed_save_keeps_entry` — the run from a failed call on.
-/

namespace ScooterFleet

namespace Archive

/-! ### Any number of calls -/

/-- Calls that add to the ledger, one after another, with whatever answers, and what they entered.  In
between come calls that leave the ledger alone, and the directory may become any other. -/
inductive Continues (a₀ : Archive) : List Entry → Archive → Prop where
  | start : Continues a₀ [] a₀
  | refused {es : List Entry} {a a' : Archive} {time : Timestamp} {draft : Draft}
      {result : Except StoreFault Entry} (before : Continues a₀ es a) (refuses : a.Refuses draft)
      (answer : a.add time draft = (result, a')) : Continues a₀ es a'
  | entered {es : List Entry} {a a' : Archive} {time : Timestamp} {draft : Draft}
      {result : Except StoreFault Entry} (before : Continues a₀ es a) (taken : ¬a.Refuses draft)
      (answer : a.add time draft = (result, a')) : Continues a₀ (es ++ [a.entry time draft]) a'
  | others {es : List Entry} {a : Archive} (before : Continues a₀ es a) {store : Store Float}
      (ledger : store.ledger = a.store.ledger) (directory : Directory) :
      Continues a₀ es { a with store, directory }

/-- **The ledger has all that was entered**, whatever was answered. -/
theorem ledger_of_continues {a₀ a : Archive} {es : List Entry} (run : Continues a₀ es a) :
    a.store.ledger = a₀.store.ledger.grown es := by
  induction run with
  | start => rfl
  | refused before refuses answer ih =>
    obtain ⟨hanswers, -⟩ := answers_add answer
    cases hanswers with
    | refused _ ledger => rw [ledger, ih]
    | unsaved taken => exact absurd refuses taken
    | saved taken => exact absurd refuses taken
  | entered before taken answer ih =>
    obtain ⟨hanswers, -⟩ := answers_add answer
    cases hanswers with
    | refused refuses => exact absurd refuses taken
    | unsaved _ ledger =>
      rw [ledger, Ledger.grown_append, ← ih]
      rfl
    | saved _ ledger =>
      rw [ledger, Ledger.grown_append, ← ih]
      rfl
  | others before ledger directory ih => exact ledger.trans ih

/-- **A failed save keeps the entry.**  A call fails with nothing else going on.  It leaves the ledger as
it was just if the store refused to carry it out.  If it was the saving that failed, its entry is in the
ledger, and whatever comes afterwards it stays there: a list of all orders shows it if it is an order, and
the next call that is saved writes it to the file. -/
theorem failed_save_keeps_entry {a a₁ : Archive} {time : Timestamp} {draft : Draft}
    {fault : StoreFault} (failed : a.add time draft = (.error fault, a₁)) :
    (a₁.store.ledger = a.store.ledger ↔ a.Refuses draft) ∧
      (¬a.Refuses draft → ∀ es a₂, Continues a₁ es a₂ →
        a₂.store.ledger = a.store.ledger.grown (a.entry time draft :: es) ∧
        (∀ orders s, Store.listOrders a₂.store = (.ok orders, s) →
          ∀ o, (a.entry time draft).order? = some o → o ∈ orders) ∧
        ∀ time' draft' e a₃, a₂.persistent = true → a₂.add time' draft' = (.ok e, a₃) →
          a₃.directory.file =
            some (a.store.ledger.grown (a.entry time draft :: (es ++ [e]))).text) := by
  obtain ⟨hanswers, -⟩ := answers_add failed
  cases hanswers with
  | refused refuses ledger => exact ⟨⟨fun _ => refuses, fun _ => ledger⟩, fun taken => absurd refuses taken⟩
  | unsaved taken ledger =>
    refine ⟨⟨fun h => absurd (ledger.symm.trans h) (Ledger.extend_ne _ _), fun h => absurd h taken⟩, ?_⟩
    intro _ es a₂ run
    have hledger : a₂.store.ledger = a.store.ledger.grown (a.entry time draft :: es) := by
      rw [ledger_of_continues run, ledger]
      rfl
    refine ⟨hledger, ?_, ?_⟩
    · intro orders s hlist o ho
      obtain ⟨-, hlisted⟩ := Store.perform_eq_ok hlist
      cases hlisted
      show o ∈ a₂.store.ledger.orders
      rw [hledger, Ledger.orders_grown, List.filterMap_cons_some ho]
      exact List.mem_append_right _ (List.mem_cons_self ..)
    · intro time' draft' e a₃ persistent added
      obtain ⟨hadded, -⟩ := answers_add added
      cases hadded with
      | saved _ ledger' file =>
        rw [file persistent, ledger', hledger, ← List.cons_append, Ledger.grown_append]
        rfl

/-- The data directory is away for one call. -/
theorem failed_save_keeps_entry_directoryBack :
    let request : OrderRequest Float := ⟨9, 1, 1, 2, 0.5⟩
    let noon : Timestamp := ⟨2024, 5, 1, 12, 0, 0, 0, 0⟩
    let a := opened (.seeded [] []) true Directory.empty.remove
    ∃ a₁ a₂ a₃ s, a.add noon (.order request) = (.error .noDirectory, a₁) ∧
      ¬a.Refuses (.order request) ∧ Continues a₁ [] a₂ ∧
      Store.listOrders a₂.store = (.ok [⟨request, 1, noon⟩], s) ∧
      a₂.add noon (.snapshot 1 ⟨0, 0⟩ 80) = (.ok (.snapshot ⟨1, 1, ⟨0, 0⟩, 80, noon⟩), a₃) ∧
      a₃.directory.file =
        some (Ledger.text ⟨[⟨request, 1, noon⟩], [⟨1, 1, ⟨0, 0⟩, 80, noon⟩]⟩) := by
  intro request noon a
  obtain ⟨a₁, hfailed, a₃, s, hlist, hadded⟩ : ∃ a₁,
      a.add noon (.order request) = (.error .noDirectory, a₁) ∧ ∃ a₃ s,
        Store.listOrders a₁.store = (.ok [⟨request, 1, noon⟩], s) ∧
        { a₁ with directory := a₁.directory.make }.add noon (.snapshot 1 ⟨0, 0⟩ 80) =
          (.ok (.snapshot ⟨1, 1, ⟨0, 0⟩, 80, noon⟩), a₃) := ⟨_, rfl, _, _, rfl, rfl⟩
  have htaken : ¬a.Refuses (.order request) := by
    rintro ⟨fault, hfault⟩
    cases hfault
  have hback : Continues a₁ [] { a₁ with directory := a₁.directory.make } := .others .start rfl _
  have hpersistent : a₁.persistent = true := (answers_add hfailed).2
  obtain ⟨-, hkept⟩ := failed_save_keeps_entry hfailed
  obtain ⟨-, -, hfile⟩ := hkept htaken [] _ hback
  have hgrown : a.store.ledger.grown [a.entry noon (.order request),
      .snapshot ⟨1, 1, ⟨0, 0⟩, 80, noon⟩] =
      ⟨[⟨request, 1, noon⟩], [⟨1, 1, ⟨0, 0⟩, 80, noon⟩]⟩ := rfl
  have hwritten := hfile _ _ _ _ hpersistent hadded
  rw [List.nil_append, hgrown] at hwritten
  exact ⟨a₁, _, a₃, s, hfailed, htaken, hback, hlist, hadded, hwritten⟩

end Archive
end ScooterFleet
