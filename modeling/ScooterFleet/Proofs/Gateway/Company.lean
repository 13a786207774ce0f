import ScooterFleet.Proofs.Gateway.Conduct
import ScooterFleet.Proofs.Registry.Elsewhere
import ScooterFleet.Proofs.Registry.Tenure

/-!
# A connection in company

While a connection serves, it calls the registry for its own scooter, and others call it for theirs.

* `Act` / `enactAll` — what happens to the registry meanwhile, by whomever;
* `sansQueues_enactAll` — what the connection has received of its commands makes no difference to
  anything else;
* `elsewhere_of_own` — **for all other scooters, the connection might not have been there.**
-/

namespace ScooterFleet

open Registry

variable {α : Type}

/-! ### What happens meanwhile -/

/-- What happens to the registry while a connection serves. -/
inductive Act (α : Type) where
  /-- The connection calls. -/
  | own (call : Call α)
  /-- Somebody else calls. -/
  | other (call : Call α)
  /-- Viewers come, go and receive. -/
  | viewers (change : Hub α → Hub α)
  /-- The connection could not send a command down. -/
  | unsent (fault : LinkFault)

namespace Act

def isOwn : Act α → Bool
  | .own _ => true
  | _ => false

/-- The connection received a command. -/
def isTake : Act α → Bool
  | .own (.take _) => true
  | _ => false

/-- The report that the connection passed on. -/
def report? : Act α → Option (DeviceFrame α)
  | .own (.telemetry _ m) => some (.telemetry m)
  | .own (.tripEnded _ report) => some (.tripEnded report)
  | _ => none

end Act

namespace Registry

def enact (r : Registry α) : Act α → Registry α
  | .own c => r.perform c
  | .other c => r.perform c
  | .viewers change => { r with hub := change r.hub }
  | .unsent _ => r

def enactAll (r : Registry α) (acts : List (Act α)) : Registry α := acts.foldl enact r

theorem enactAll_append (r : Registry α) (acts acts' : List (Act α)) :
    r.enactAll (acts ++ acts') = (r.enactAll acts).enactAll acts' :=
  List.foldl_append

@[simp] theorem enactAll_snoc (r : Registry α) (acts : List (Act α)) (a : Act α) :
    r.enactAll (acts ++ [a]) = (r.enactAll acts).enact a :=
  enactAll_append r acts [a]

theorem sansQueues_enact {r r' : Registry α} (h : r'.sansQueues = r.sansQueues) (a : Act α) :
    (r'.enact a).sansQueues = (r.enact a).sansQueues := by
  cases a with
  | own c | other c =>
    show (r'.perform c).sansQueues = (r.perform c).sansQueues
    rw [sansQueues_perform, h, ← sansQueues_perform]
  | viewers change =>
    show { r'.sansQueues with hub := change r'.sansQueues.hub } =
      { r.sansQueues with hub := change r.sansQueues.hub }
    rw [h]
  | unsent fault => exact h

/-- **What a connection has received of its commands makes no difference to anything else.** -/
theorem sansQueues_enactAll (r : Registry α) (acts : List (Act α)) :
    (r.enactAll acts).sansQueues =
      (r.enactAll (acts.filter fun a => !a.isTake)).sansQueues := by
  induction acts using List.reverseRecOn with
  | nil => rfl
  | append_singleton acts a ih =>
    rw [enactAll_snoc, List.filter_append]
    cases ht : a.isTake with
    | false =>
      rw [List.filter_cons_of_pos (by simp [ht]), List.filter_nil, enactAll_snoc]
      exact sansQueues_enact ih a
    | true =>
      rw [List.filter_cons_of_neg (by simp [ht]), List.filter_nil, List.append_nil, ← ih]
      obtain ⟨n, rfl⟩ : ∃ n, a = .own (.take n) := by
        unfold Act.isTake at ht
        split at ht
        · exact ⟨_, rfl⟩
        · cases ht
      show ((r.enactAll acts).perform (.take n)).sansQueues = _
      rcases perform_take (r.enactAll acts) n with h | ⟨queue, command, rest, -, -, h⟩
      · rw [h]
      · rw [h]
        rfl

theorem spares_of_own {r : Registry α} {owned : Registration} {c : Call α} (own : c.IsOwn owned) :
    c.Spares r owned := by
  cases c with
  | take | telemetry | tripEnded => exact ⟨id, nofun, nofun⟩
  | _ => exact own.elim

theorem Elsewhere.of_own {owned : Registration} (r : Registry α) {c : Call α} (own : c.IsOwn owned) :
    Elsewhere owned.scooter r (r.perform c) := by
  cases c with
  | take n => exact Elsewhere.of_take owned.scooter r n
  | telemetry time m =>
    have hm : m.scooter = owned.scooter := own
    exact hm ▸ Elsewhere.of_telemetry r time m
  | tripEnded time report =>
    have hm : report.scooter = owned.scooter := own
    exact hm ▸ Elsewhere.of_tripEnded r time report
  | _ => exact own.elim

/-- **For all other scooters, the connection might not have been there.** -/
theorem elsewhere_of_own {owned : Registration} (r : Registry α) {acts : List (Act α)}
    (own : ∀ c, .own c ∈ acts → c.IsOwn owned) :
    Elsewhere owned.scooter (r.enactAll (acts.filter fun a => !a.isOwn)) (r.enactAll acts) := by
  induction acts using List.reverseRecOn with
  | nil => exact .refl owned.scooter r
  | append_singleton acts a ih =>
    have before := ih fun c hc => own c (List.mem_append_left _ hc)
    rw [enactAll_snoc, List.filter_append]
    cases a with
    | own c =>
      have hown : c.IsOwn owned := own c (by simp)
      rw [List.filter_cons_of_neg (by simp [Act.isOwn]), List.filter_nil, List.append_nil]
      exact before.trans (Elsewhere.of_own _ hown)
    | other c =>
      rw [List.filter_cons_of_pos (by simp [Act.isOwn]), List.filter_nil, enactAll_snoc]
      exact before.perform c
    | viewers change =>
      rw [List.filter_cons_of_pos (by simp [Act.isOwn]), List.filter_nil, enactAll_snoc]
      exact ⟨before.sessions, before.fresh, before.live, before.trips⟩
    | unsent fault =>
      rw [List.filter_cons_of_pos (by simp [Act.isOwn]), List.filter_nil, enactAll_snoc]
      exact before

end Registry

end ScooterFleet
