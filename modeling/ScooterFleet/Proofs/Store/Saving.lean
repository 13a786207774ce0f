import ScooterFleet.Proofs.Store.Growth

/-!
# Savings that overlap

A call that adds to the ledger appends its entry, renders the ledger and writes the text over the file.
The ledger is one at each of these instants, but between them other calls have their turns.

* `Filing` / `Mark` — calls on one archive, and what their steps do;
* `Schedule` — **all interleavings** of any number of calls;
* `Filed` / `filed_step` — **one step keeps this**: every text that is held or stored is that of the
  ledger when it was rendered;
* `file_eq_ledger_iff` — the run: the file is what the call rendered that wrote last, and it is the
  ledger if and only if nothing was appended since then.

The write of a text is not ordered with its rendering, so an older text can come last:
`acknowledged_order_lost`.
-/

namespace ScooterFleet

/-! ### Calls that overlap -/

/-- Calls that add to the ledger of one archive. -/
structure Filing where
  archive : Archive
  calls : List Saving

/-- What a step does that others can see.  Calls are named by their places. -/
inductive Mark where
  | appended (entry : Entry)
  | rendered (call : Nat)
  | wrote (call : Nat)

/-- What is added to the ledger in a part of a run. -/
def added (log : List Mark) : List Entry :=
  log.filterMap fun
    | .appended entry => some entry
    | _ => none

namespace Filing

/-- All calls are still to come. -/
def begun (a : Archive) (drafts : List Draft) : Filing := ⟨a, drafts.map .appending⟩

def marks (time : Timestamp) (a : Archive) (i : Nat) : Saving → List Mark
  | .appending draft =>
    match (a.append time draft).1 with
    | .ok entry => [.appended entry]
    | .error _ => []
  | .rendering _ => [.rendered i]
  | .writing _ text =>
    match a.directory.write text with
    | .ok _ => [.wrote i]
    | .error _ => []
  | .finished _ => []

/-- The interleavings of some calls, with what happens in them. -/
inductive Schedule (f₀ : Filing) : List Mark → Filing → Prop where
  | start : Schedule f₀ [] f₀
  | step {log : List Mark} {f : Filing} {time : Timestamp} {i : Nat} {c c' : Saving} {a : Archive}
      (run : Schedule f₀ log f) (turn : f.calls[i]? = some c)
      (next : c.step time f.archive = some (c', a)) :
      Schedule f₀ (log ++ marks time f.archive i c) ⟨a, f.calls.set i c'⟩

/-- No call has failed so far. -/
def IsWell (f : Filing) : Prop := ∀ c ∈ f.calls, ∀ fault, c ≠ .finished (.error fault)

/-- All calls have been answered, and each with what it added. -/
def IsAnswered (f : Filing) : Prop := ∀ c ∈ f.calls, ∃ entry, c = .finished (.ok entry)

end Filing

/-- What a call has added, once it has. -/
def Saving.entry? : Saving → Option Entry
  | .rendering entry | .writing entry _ | .finished (.ok entry) => some entry
  | _ => none

/-! ### One step -/

namespace Filing

/-- The steps of a call that does not fail. -/
inductive Turn (a : Archive) (i : Nat) : Saving → List Mark → Saving → Archive → Prop
  | append {draft : Draft} {entry : Entry} {a' : Archive}
      (ledger : a'.store.ledger = a.store.ledger.extend entry)
      (persistent : a'.persistent = a.persistent) (directory : a'.directory = a.directory) :
      Turn a i (.appending draft) [.appended entry] (.rendering entry) a'
  | render {entry : Entry} :
      Turn a i (.rendering entry) [.rendered i] (.writing entry a.store.ledger.text) a
  | write {entry : Entry} {text : String} :
      Turn a i (.writing entry text) [.wrote i] (.finished (.ok entry))
        { a with directory := { a.directory with file := some text } }

theorem turn_of_step {a a' : Archive} {time : Timestamp} {i : Nat} {c c' : Saving}
    (saved : a.persistent = true) (next : c.step time a = some (c', a'))
    (well : ∀ fault, c' ≠ .finished (.error fault)) : Turn a i c (marks time a i c) c' a' := by
  cases c with
  | finished result => cases next
  | rendering entry =>
    cases next
    exact .render
  | writing entry text =>
    by_cases hpresent : a.directory.present = true
    · have hwrite : a.directory.write text = .ok { a.directory with file := some text } := by
        simp [Directory.write, hpresent]
      simp only [Saving.step, hwrite] at next
      cases next
      simp only [marks, hwrite]
      exact .write
    · have hwrite : a.directory.write text = .error .noDirectory := by
        simp [Directory.write, hpresent]
      simp only [Saving.step, hwrite] at next
      cases next
      exact absurd rfl (well _)
  | appending draft =>
    cases happend : a.append time draft with
    | mk result a₁ =>
      simp only [Saving.step, happend] at next
      obtain ⟨happends, hpersistent, hdirectory⟩ := Archive.appends_append happend
      cases happends with
      | refused refuses ledger =>
        cases next
        exact absurd rfl (well _)
      | unsaved taken ledger =>
        cases next
        exact absurd rfl (well _)
      | appended taken hledger =>
        rw [saved] at hpersistent
        simp only [hpersistent, if_true] at next
        cases next
        simp only [marks, happend]
        exact .append hledger (hpersistent.trans saved.symm) hdirectory

end Filing

/-! ### What is filed -/

/-- The text was rendered by this call, from the ledger as it was then. -/
def RenderedBy (l : Ledger Float) (log : List Mark) (i : Nat) (text : String) : Prop :=
  ∃ early late, log = early ++ .rendered i :: late ∧ text = (l.grown (added early)).text

/-- The file holds what was rendered by the call that wrote last. -/
def LastWritten (l : Ledger Float) (log : List Mark) (file : Option String) : Prop :=
  ∃ i early middle late, log = early ++ .rendered i :: (middle ++ .wrote i :: late) ∧
    (∀ j, .wrote j ∉ late) ∧ file = some (l.grown (added early)).text

/-- What is known of calls that began with the archive `a`. -/
structure Filed (a : Archive) (log : List Mark) (f : Filing) : Prop where
  saved : f.archive.persistent = true
  ledger : f.archive.store.ledger = a.store.ledger.grown (added log)
  /-- A text that is still to be written. -/
  held : ∀ i entry text, f.calls[i]? = some (.writing entry text) →
    RenderedBy a.store.ledger log i text
  /-- The file, once a call has written it. -/
  file : (∃ i, .wrote i ∈ log) →
    LastWritten a.store.ledger log f.archive.directory.file
  /-- An answer comes behind its write. -/
  answered : ∀ entry, Saving.finished (.ok entry) ∈ f.calls → ∃ i, .wrote i ∈ log
  acknowledged : ∀ c ∈ f.calls, ∀ entry, c.entry? = some entry → entry ∈ added log

theorem added_append (log log' : List Mark) : added (log ++ log') = added log ++ added log' :=
  List.filterMap_append

theorem added_eq_nil_iff {log : List Mark} : added log = [] ↔ ∀ entry, .appended entry ∉ log := by
  constructor
  · intro h entry hm
    have hmem : entry ∈ added log := List.mem_filterMap.mpr ⟨_, hm, rfl⟩
    rw [h] at hmem
    cases hmem
  · intro h
    rw [List.eq_nil_iff_forall_not_mem]
    intro entry hm
    obtain ⟨mark, hmark, he⟩ := List.mem_filterMap.mp hm
    cases mark with
    | appended entry' => exact h entry' hmark
    | rendered call => cases he
    | wrote call => cases he

theorem RenderedBy.append {l : Ledger Float} {log : List Mark} {i : Nat} {text : String}
    (h : RenderedBy l log i text) (es : List Mark) : RenderedBy l (log ++ es) i text := by
  obtain ⟨early, late, rfl, htext⟩ := h
  exact ⟨early, late ++ es, by simp, htext⟩

theorem LastWritten.append {l : Ledger Float} {log es : List Mark} {file : Option String}
    (h : LastWritten l log file) (hes : ∀ j, .wrote j ∉ es) : LastWritten l (log ++ es) file := by
  obtain ⟨i, early, middle, late, rfl, hlate, hfile⟩ := h
  refine ⟨i, early, middle, late ++ es, by simp, fun j hj => ?_, hfile⟩
  rcases List.mem_append.mp hj with hj | hj
  · exact hlate j hj
  · exact hes j hj

namespace Filing

variable {a : Archive} {log : List Mark} {f : Filing} {i : Nat} {c c' : Saving} {es : List Mark}
  {a' : Archive}

theorem mem_set_cases {d : Saving} (h : d ∈ f.calls.set i c') : d = c' ∨ d ∈ f.calls := by
  rcases List.mem_or_eq_of_mem_set h with h | h
  · exact .inr h
  · exact .inl h

/-- A step of another call leaves a text that is held. -/
theorem writing_of_set {j : Nat} {entry : Entry} {text : String}
    (hc' : ∀ entry text, c' ≠ .writing entry text)
    (h : (f.calls.set i c')[j]? = some (.writing entry text)) :
    f.calls[j]? = some (.writing entry text) := by
  rw [List.getElem?_set] at h
  split at h
  · split at h
    · cases h
      exact absurd rfl (hc' _ _)
    · cases h
  · exact h

section Parts

variable (h : Filed a log f)
include h

theorem written_of_quiet (hes : ∀ j, .wrote j ∉ es) (hwrote : ∃ j, .wrote j ∈ log ++ es) :
    LastWritten a.store.ledger (log ++ es) f.archive.directory.file := by
  obtain ⟨j, hj⟩ := hwrote
  have hlog : .wrote j ∈ log := (List.mem_append.mp hj).resolve_right (hes j)
  exact (h.file ⟨j, hlog⟩).append hes

theorem answered_of_set (hc' : ∀ entry, c' ≠ .finished (.ok entry)) (es : List Mark) (entry : Entry)
    (hm : Saving.finished (.ok entry) ∈ f.calls.set i c') : ∃ j, .wrote j ∈ log ++ es := by
  rcases mem_set_cases hm with hm | hm
  · exact absurd hm.symm (hc' entry)
  · obtain ⟨j, hj⟩ := h.answered entry hm
    exact ⟨j, List.mem_append_left _ hj⟩

theorem acknowledged_of_set
    (hc' : ∀ entry, c'.entry? = some entry → entry ∈ added log ∨ entry ∈ added es) :
    ∀ d ∈ f.calls.set i c', ∀ entry, d.entry? = some entry → entry ∈ added (log ++ es) := by
  intro d hd entry he
  rw [added_append, List.mem_append]
  rcases mem_set_cases hd with rfl | hd
  · exact hc' entry he
  · exact .inl (h.acknowledged d hd entry he)

end Parts

/-- **Each step of a call keeps what is known.** -/
theorem filed_step (h : Filed a log f) (turn : f.calls[i]? = some c)
    (step : Turn f.archive i c es c' a') :
    Filed a (log ++ es) ⟨a', f.calls.set i c'⟩ := by
  have hmine : ∀ entry, c.entry? = some entry → entry ∈ added log :=
    h.acknowledged c (List.mem_of_getElem? turn)
  cases step with
  | @append draft entry _ ledger persistent directory =>
    refine ⟨persistent.trans h.saved, ?_, ?_, ?_, answered_of_set h (by simp) _, ?_⟩
    · rw [ledger, h.ledger, added_append, Ledger.grown_append]
      rfl
    · intro j entry' text' hj
      exact (h.held j entry' text' (writing_of_set (by simp) hj)).append _
    · rw [directory]
      exact written_of_quiet h (by simp)
    · refine acknowledged_of_set h fun entry' he => .inr ?_
      cases he
      exact List.mem_singleton_self _
  | @render entry =>
    refine ⟨h.saved, ?_, ?_, written_of_quiet (f := f) h (by simp), answered_of_set h (by simp) _,
      acknowledged_of_set h fun entry' he => .inl (hmine entry' he)⟩
    · rw [h.ledger, added_append]
      exact congrArg _ (List.append_nil _).symm
    · intro j entry' text' hj
      rw [List.getElem?_set] at hj
      split at hj
      · next hij =>
        split at hj
        · cases hj
          subst hij
          exact ⟨log, [], rfl, by rw [h.ledger]⟩
        · cases hj
      · exact (h.held j entry' text' hj).append _
  | @write entry text =>
    obtain ⟨early, late, hlog, htext⟩ := h.held i entry text turn
    refine ⟨h.saved, ?_, ?_, ?_, ?_,
      acknowledged_of_set h fun entry' he => .inl (hmine entry' he)⟩
    · rw [h.ledger, added_append]
      exact congrArg _ (List.append_nil _).symm
    · intro j entry' text' hj
      exact (h.held j entry' text' (writing_of_set (by simp) hj)).append _
    · rintro -
      exact ⟨i, early, late, [], by rw [hlog]; simp, nofun, by rw [htext]⟩
    · intro entry' _
      exact ⟨i, List.mem_append_right _ (List.mem_singleton_self _)⟩

/-- A call that failed stays where it is, so there was none before. -/
theorem isWell_of_step {time : Timestamp} (turn : f.calls[i]? = some c)
    (next : c.step time f.archive = some (c', a'))
    (well : IsWell ⟨a', f.calls.set i c'⟩) : f.IsWell := by
  rintro d hd fault rfl
  obtain ⟨j, hj⟩ := List.mem_iff_getElem?.mp hd
  by_cases hij : i = j
  · subst hij
    rw [turn] at hj
    cases hj
    cases next
  · have hstays : (f.calls.set i c')[j]? = some (.finished (.error fault)) := by
      rw [List.getElem?_set_ne hij, hj]
    exact well _ (List.mem_of_getElem? hstays) fault rfl

theorem filed_run {drafts : List Draft} (saved : a.persistent = true)
    (run : Schedule (begun a drafts) log f) (well : f.IsWell) : Filed a log f := by
  induction run with
  | start =>
    have hcoming : ∀ c ∈ (begun a drafts).calls, ∃ draft, c = .appending draft := by
      intro c hc
      obtain ⟨draft, -, rfl⟩ := List.mem_map.mp hc
      exact ⟨draft, rfl⟩
    refine ⟨saved, rfl, ?_, nofun, ?_, ?_⟩
    · intro i entry text hi
      obtain ⟨draft, hd⟩ := hcoming _ (List.mem_of_getElem? hi)
      cases hd
    · intro entry hm
      obtain ⟨draft, hd⟩ := hcoming _ hm
      cases hd
    · intro c hc entry he
      obtain ⟨draft, rfl⟩ := hcoming c hc
      cases he
  | @step log f time i c c' a' run turn next ih =>
    have hfiled : Filed a log f := ih (isWell_of_step turn next well)
    have hc' : ∀ fault, c' ≠ .finished (.error fault) := by
      intro fault
      have hlt : i < f.calls.length := (List.getElem?_eq_some_iff.mp turn).1
      exact well c' (List.mem_set hlt c') fault
    exact filed_step hfiled turn (turn_of_step hfiled.saved next hc')

theorem length_calls {drafts : List Draft} (run : Schedule (begun a drafts) log f) :
    f.calls.length = drafts.length := by
  induction run with
  | start => exact List.length_map _
  | step _ _ _ ih => rw [List.length_set, ih]

/-- **The file is as old as the last write's rendering.**  Any number of calls add to the ledger of an
archive, their steps interleaved in any way, until all of them are answered.  The ledger in memory has
every entry that was acknowledged.  The file has what one of the calls rendered, the one that wrote last;
so it is the ledger if and only if nothing was appended between that rendering and the end. -/
theorem file_eq_ledger_iff {a : Archive} {drafts : List Draft} {log : List Mark} {f : Filing}
    (saved : a.persistent = true) (calls : drafts ≠ []) (run : Schedule (begun a drafts) log f)
    (answered : f.IsAnswered) :
    f.archive.store.ledger = a.store.ledger.grown (added log) ∧
      (∀ entry, Saving.finished (.ok entry) ∈ f.calls → entry ∈ added log) ∧
      ∃ i early middle late, log = early ++ .rendered i :: (middle ++ .wrote i :: late) ∧
        (∀ j, .wrote j ∉ late) ∧
        f.archive.directory.file = some (a.store.ledger.grown (added early)).text ∧
        (f.archive.directory.file = some f.archive.store.ledger.text ↔
          ∀ entry, .appended entry ∉ middle ++ late) := by
  have well : f.IsWell := by
    rintro c hc fault rfl
    obtain ⟨entry, he⟩ := answered _ hc
    cases he
  have filed : Filed a log f := filed_run saved run well
  obtain ⟨i, early, middle, late, hlog, hlate, hfile⟩ : LastWritten a.store.ledger log
      f.archive.directory.file := by
    have hpos : 0 < f.calls.length := by
      rw [length_calls run]
      exact List.length_pos_of_ne_nil calls
    obtain ⟨entry, he⟩ := answered _ (List.getElem_mem hpos)
    exact filed.file (filed.answered entry (he ▸ List.getElem_mem hpos))
  have hadded : added log = added early ++ added (middle ++ late) := by
    rw [hlog]
    simp only [added, List.filterMap_append, List.filterMap_cons]
  refine ⟨filed.ledger, fun entry hm => filed.acknowledged _ hm entry rfl, i, early, middle, late,
    hlog, hlate, hfile, ?_⟩
  rw [hfile, filed.ledger, hadded, Ledger.grown_append, Option.some_inj, Ledger.text_grown_eq_iff,
    added_eq_nil_iff]

/-! ### A write that comes late -/

/-- Takes the calls' steps in this order, all at one time; none if one of them has no step left. -/
def play (time : Timestamp) (f : Filing) : List Nat → Option (List Mark × Filing)
  | [] => some ([], f)
  | i :: more =>
    match f.calls[i]? with
    | none => none
    | some c =>
      match c.step time f.archive with
      | none => none
      | some (c', a) =>
        (play time ⟨a, f.calls.set i c'⟩ more).map fun out =>
          (marks time f.archive i c ++ out.1, out.2)

theorem schedule_of_play {f₀ f f' : Filing} {time : Timestamp} {log log' : List Mark}
    {order : List Nat} (h : f.play time order = some (log', f')) (run : Schedule f₀ log f) :
    Schedule f₀ (log ++ log') f' := by
  induction order generalizing f log log' with
  | nil =>
    cases h
    rw [List.append_nil]
    exact run
  | cons i more ih =>
    simp only [play] at h
    split at h
    · cases h
    · next c turn =>
      split at h
      · cases h
      · next c' a next =>
        obtain ⟨out, hout, he⟩ := Option.map_eq_some_iff.mp h
        cases he
        rw [← List.append_assoc]
        exact ih hout (run.step turn next)

def noon : Timestamp := ⟨2024, 5, 1, 12, 0, 0, 0, 0⟩

/-- An archive over an empty directory. -/
def firstArchive : Archive := .opened (.seeded [] []) true .empty

/-- The status at the start of a trip, and the order of another trip. -/
def twoDrafts : List Draft := [.snapshot 1 ⟨0, 0⟩ 80, .order ⟨9, 2, 0, 0, 0⟩]

def firstSnapshot : Snapshot Float := ⟨1, 1, ⟨0, 0⟩, 80, noon⟩

def firstOrder : Order Float := ⟨⟨9, 2, 0, 0, 0⟩, 1, noon⟩

def bothAnswered : List Saving :=
  [.finished (.ok (.snapshot firstSnapshot)), .finished (.ok (.order firstOrder))]

theorem isAnswered_of_calls {f : Filing} (h : f.calls = bothAnswered) : f.IsAnswered := by
  intro c hc
  rw [h, bothAnswered, List.mem_pair] at hc
  rcases hc with rfl | rfl
  · exact ⟨_, rfl⟩
  · exact ⟨_, rfl⟩

/-- The two calls overlap, and the one that rendered later also writes later. -/
theorem file_eq_ledger_iff_inOrder : ∃ log f,
    Schedule (begun firstArchive twoDrafts) log f ∧ f.IsAnswered ∧
      f.archive.store.ledger = ⟨[firstOrder], [firstSnapshot]⟩ ∧
      f.archive.directory.file = some f.archive.store.ledger.text := by
  obtain ⟨log, f, hplay, hlog, hcalls, hledger⟩ : ∃ log f,
      (begun firstArchive twoDrafts).play noon [0, 1, 0, 1, 0, 1] = some (log, f) ∧
        log = [.appended (.snapshot firstSnapshot), .appended (.order firstOrder), .rendered 0,
          .rendered 1, .wrote 0, .wrote 1] ∧
        f.calls = bothAnswered ∧ f.archive.store.ledger = ⟨[firstOrder], [firstSnapshot]⟩ :=
    ⟨_, _, rfl, rfl, rfl, rfl⟩
  have run : Schedule (begun firstArchive twoDrafts) log f := schedule_of_play hplay .start
  have answered : f.IsAnswered := isAnswered_of_calls hcalls
  obtain ⟨-, -, i, early, middle, late, hsplit, -, -, hfile⟩ :=
    file_eq_ledger_iff rfl (List.cons_ne_nil _ _) run answered
  refine ⟨log, f, run, answered, hledger, hfile.mpr fun entry hm => ?_⟩
  -- both entries stand in front of every rendering
  rw [hlog] at hsplit
  obtain _ | ⟨x, _ | ⟨y, early⟩⟩ := early
  · cases hsplit
  · cases hsplit
  · simp only [List.cons_append, List.cons.injEq] at hsplit
    have hbehind : Mark.appended entry ∈ early ++ .rendered i :: (middle ++ .wrote i :: late) := by
      simp only [List.mem_append, List.mem_cons] at hm ⊢
      tauto
    rw [← hsplit.2.2] at hbehind
    simp at hbehind

/-- **An acknowledged order is not on disk.**  The snapshot's call renders before the order is appended,
and writes after the order was written. -/
theorem acknowledged_order_lost : ∃ log f, Schedule (begun firstArchive twoDrafts) log f ∧
    f.calls = bothAnswered ∧ f.archive.store.ledger = ⟨[firstOrder], [firstSnapshot]⟩ ∧
    f.archive.directory.file = some (Ledger.text ⟨[], [firstSnapshot]⟩) ∧
    f.archive.directory.file ≠ some f.archive.store.ledger.text := by
  obtain ⟨log, f, hplay, hcalls, hledger, hfile⟩ : ∃ log f,
      (begun firstArchive twoDrafts).play noon [0, 0, 1, 1, 1, 0] = some (log, f) ∧
        f.calls = bothAnswered ∧ f.archive.store.ledger = ⟨[firstOrder], [firstSnapshot]⟩ ∧
        f.archive.directory.file = some (Ledger.text ⟨[], [firstSnapshot]⟩) :=
    ⟨_, _, rfl, rfl, rfl, rfl⟩
  refine ⟨log, f, schedule_of_play hplay .start, hcalls, hledger, hfile, ?_⟩
  rw [hfile, hledger]
  intro he
  have hgrown := (Ledger.text_grown_eq_iff ⟨[], [firstSnapshot]⟩ [.order firstOrder]).mp
    (Option.some.inj he)
  cases hgrown

end Filing
end ScooterFleet
