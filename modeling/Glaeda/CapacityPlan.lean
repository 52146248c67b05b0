import Glaeda.AttemptCatalog

/-!
# Planning capacity

How many more workers a host may start follows from four numbers: what the
scale set demands, how many workers the budget admits, how many fit into the
whole of its resources, and how many fit into what is left of them. The plan
subtracts the usage from the budget and divides by the size of a worker, so
**a plan is made without an underflow and without a division by zero**, what it
advertises is what the whole budget is enough for, and what it adds is the most
that the budget and the demand allow.
-/

namespace Glaeda

open Checked

/-- **What a host may use**: some workers, and resources in total. -/
structure DisposableHostBudget where
  maxWorkers : Nat
  total : DisposableWorkerResources
  bounds : 1 ≤ maxWorkers ∧ maxWorkers ≤ Glaeda.maxWorkers

/-- **What the scale set asks for**, and how long the observation lasts. -/
structure ScaleSetDemand where
  assignedJobs : Nat
  runningJobs : Nat
  observedAt : EpochMillis
  expiresAt : EpochMillis
  bounds : assignedJobs ≤ maxWorkers ∧ runningJobs ≤ assignedJobs
  window : observedAt.val ≤ expiresAt.val

/-- What to tell the scale set, and how many workers to start. -/
structure DisposableCapacityPlan where
  schemaVersion : Nat
  advertisedMaxCapacity : Nat
  desiredWorkers : Nat
  additionalWorkers : Nat
deriving DecidableEq, Repr

/-- **Why there is no plan**: it is refused, or the arithmetic gives out. -/
inductive CapacityFailure where
  | refused (error : FieldError)
  | panicked
deriving DecidableEq, Repr

/-- A subtraction of machine numbers. -/
def subtract (left right : Nat) : Except CapacityFailure Nat :=
  if right ≤ left then .ok (left - right) else .error .panicked

/-- A division of machine numbers. -/
def divide (left right : Nat) : Except CapacityFailure Nat :=
  if right = 0 then .error .panicked else .ok (left / right)

/-- The schema of a plan. -/
def disposableWorkerReconcilerSchemaVersion : Nat := 2

/-- The largest number of sixteen bits. -/
def u16Max : Nat := 2 ^ 16 - 1

/-- How many workers of the requested size these amounts are enough for. -/
def ResourceAmounts.workerCapacityWithin (self request : ResourceAmounts) :
    Except CapacityFailure Nat := do
  let cpu ← divide self.cpuMillis request.cpuMillis
  let memory ← divide self.memoryBytes request.memoryBytes
  let disk ← divide self.diskBytes request.diskBytes
  return min (min cpu memory) disk

/-- No amount exceeds its limit. -/
def ResourceAmounts.FitsWithin (self limit : ResourceAmounts) : Prop :=
  self.cpuMillis ≤ limit.cpuMillis ∧ self.memoryBytes ≤ limit.memoryBytes
    ∧ self.diskBytes ≤ limit.diskBytes

instance decidableFitsWithin (self limit : ResourceAmounts) : Decidable (self.FitsWithin limit) :=
  inferInstanceAs (Decidable (_ ∧ _ ∧ _))

/-- **Plan how many workers to advertise and to start.** -/
def planCapacity (now : EpochMillis) (demand : ScaleSetDemand) (budget : DisposableHostBudget)
    (usage : DisposableHostUsage) (worker : DisposableWorkerResources) :
    Except CapacityFailure DisposableCapacityPlan := do
  refuseIf (now.val < demand.observedAt.val ∨ now.val > demand.expiresAt.val)
    (.refused ⟨"demand", "stale_scale_set_demand",
      "scale-set demand must be current at the capacity decision"⟩)
  refuseIf (usage.workers > budget.maxWorkers
      ∨ ¬ usage.resources.FitsWithin budget.total.toResourceAmounts)
    (.refused ⟨"usage", "host_budget_exceeded",
      "current worker usage already exceeds the configured host budget"⟩)
  let resourceCapacity ← budget.total.workerCapacityWithin worker.toResourceAmounts
  let advertisedMaxCapacity := min budget.maxWorkers (min resourceCapacity u16Max)
  let desiredWorkers := min demand.assignedJobs advertisedMaxCapacity
  let cpuMillis ← subtract budget.total.cpuMillis usage.resources.cpuMillis
  let memoryBytes ← subtract budget.total.memoryBytes usage.resources.memoryBytes
  let diskBytes ← subtract budget.total.diskBytes usage.resources.diskBytes
  let remaining : ResourceAmounts := ⟨cpuMillis, memoryBytes, diskBytes⟩
  let resourceSlots ← remaining.workerCapacityWithin worker.toResourceAmounts
  let workerSlots ← subtract budget.maxWorkers usage.workers
  let demandSlots := desiredWorkers - usage.workers
  return ⟨disposableWorkerReconcilerSchemaVersion, advertisedMaxCapacity, desiredWorkers,
    min (min demandSlots workerSlots) (min resourceSlots u16Max)⟩

/-! ## What a plan adds -/

/-- **The usage with more workers** of one size. -/
def DisposableHostUsage.plus (usage : DisposableHostUsage) (worker : DisposableWorkerResources)
    (count : Nat) : DisposableHostUsage :=
  ⟨usage.workers + count, ⟨usage.resources.cpuMillis + count * worker.cpuMillis,
    usage.resources.memoryBytes + count * worker.memoryBytes,
    usage.resources.diskBytes + count * worker.diskBytes⟩⟩

/-- The usage is within the budget. -/
def DisposableHostBudget.Covers (budget : DisposableHostBudget) (usage : DisposableHostUsage) :
    Prop :=
  usage.workers ≤ budget.maxWorkers ∧ usage.resources.FitsWithin budget.total.toResourceAmounts

variable {now : EpochMillis} {demand : ScaleSetDemand} {budget : DisposableHostBudget}
variable {usage : DisposableHostUsage} {worker : DisposableWorkerResources}

/-- How many workers of one size the amounts are enough for. -/
def ResourceAmounts.slots (self : ResourceAmounts) (worker : DisposableWorkerResources) : Nat :=
  min (min (self.cpuMillis / worker.cpuMillis) (self.memoryBytes / worker.memoryBytes))
    (self.diskBytes / worker.diskBytes)

/-- **A plan is as large as it can be**: it advertises what the whole budget is
enough for and wants what is demanded of that, what it adds stays within the
budget and adds nothing beyond the demand and the advertised capacity, and one
worker more would exceed one of them. -/
structure DisposableCapacityPlan.Tight (plan : DisposableCapacityPlan) (demand : ScaleSetDemand)
    (budget : DisposableHostBudget) (usage : DisposableHostUsage)
    (worker : DisposableWorkerResources) : Prop where
  advertised : plan.advertisedMaxCapacity = min budget.maxWorkers (budget.total.slots worker)
  desired : plan.desiredWorkers = min demand.assignedJobs plan.advertisedMaxCapacity
  covered : budget.Covers (usage.plus worker plan.additionalWorkers)
  demanded : usage.workers + plan.additionalWorkers
    ≤ max usage.workers (min demand.assignedJobs plan.advertisedMaxCapacity)
  maximal : budget.Covers (usage.plus worker (plan.additionalWorkers + 1))
    → min demand.assignedJobs plan.advertisedMaxCapacity
      < usage.workers + (plan.additionalWorkers + 1)

theorem subtract_of_le {left right : Nat} (h : right ≤ left) :
    subtract left right = .ok (left - right) :=
  if_pos h

theorem divide_of_pos {left right : Nat} (h : 1 ≤ right) : divide left right = .ok (left / right) :=
  if_neg (Nat.ne_of_gt h)

theorem workerCapacityWithin_eq_ok (self : ResourceAmounts) (worker : DisposableWorkerResources) :
    self.workerCapacityWithin worker.toResourceAmounts = .ok (self.slots worker) := by
  unfold ResourceAmounts.workerCapacityWithin
  rw [divide_of_pos worker.cpu_bounds.1, divide_of_pos worker.memory_bounds.1,
    divide_of_pos worker.disk_bounds.1]
  rfl

/-- What is left of the resources of a budget. -/
def DisposableHostBudget.remaining (budget : DisposableHostBudget) (usage : DisposableHostUsage) :
    ResourceAmounts :=
  ⟨budget.total.cpuMillis - usage.resources.cpuMillis,
    budget.total.memoryBytes - usage.resources.memoryBytes,
    budget.total.diskBytes - usage.resources.diskBytes⟩

/-- **Counting the workers that fit**: a number of workers stays within the
budget exactly when there are slots for them, and room in what remains. -/
theorem covers_plus_iff (h : budget.Covers usage) (count : Nat) :
    budget.Covers (usage.plus worker count)
      ↔ count ≤ budget.maxWorkers - usage.workers
        ∧ count ≤ (budget.remaining usage).slots worker := by
  obtain ⟨hw, hc, hm, hd⟩ := h
  unfold ResourceAmounts.slots
  rw [le_min_iff, le_min_iff, and_assoc, Nat.le_div_iff_mul_le worker.cpu_bounds.1,
    Nat.le_div_iff_mul_le worker.memory_bounds.1, Nat.le_div_iff_mul_le worker.disk_bounds.1,
    Nat.le_sub_iff_add_le' hw]
  unfold DisposableHostBudget.remaining
  rw [Nat.le_sub_iff_add_le' hc, Nat.le_sub_iff_add_le' hm, Nat.le_sub_iff_add_le' hd]
  exact Iff.rfl

/-- **Capacity planning never overcommits**, never gives out, and adds as many
workers as the budget and the demand allow. -/
theorem planCapacity_tight :
    planCapacity now demand budget usage worker ≠ .error .panicked
      ∧ ∀ plan, planCapacity now demand budget usage worker = .ok plan
        → plan.Tight demand budget usage worker := by
  unfold planCapacity
  by_cases hnow : now.val < demand.observedAt.val ∨ now.val > demand.expiresAt.val
  · rw [refuseIf_of hnow, error_bind]
    exact ⟨by simp, by simp⟩
  by_cases hcov : budget.Covers usage
  · have hu : ¬ (usage.workers > budget.maxWorkers
        ∨ ¬ usage.resources.FitsWithin budget.total.toResourceAmounts) := by
      rw [not_or, not_not, not_lt]
      exact hcov
    have hp := @covers_plus_iff budget usage worker hcov
    rw [refuseIf_bind hnow, refuseIf_bind hu, workerCapacityWithin_eq_ok, ok_bind]
    obtain ⟨hw, hcpu, hm, hd⟩ := hcov
    rw [subtract_of_le hcpu, ok_bind, subtract_of_le hm, ok_bind, subtract_of_le hd, ok_bind]
    dsimp only
    rw [workerCapacityWithin_eq_ok, ok_bind, subtract_of_le hw, ok_bind]
    refine ⟨by simp, ?_⟩
    rintro plan ⟨⟩
    -- what the demand allows is small, so the counter of sixteen bits never stops it
    generalize hcap : budget.total.slots worker = capacity
    unfold DisposableHostBudget.remaining at hp
    have hmax : budget.maxWorkers ≤ u16Max := le_trans budget.bounds.2 (by decide)
    constructor
    · rw [hcap]
      dsimp only
      omega
    · rfl
    · rw [hp]
      dsimp only
      omega
    · dsimp only
      omega
    · rw [hp]
      dsimp only
      omega
  · have hu : usage.workers > budget.maxWorkers
        ∨ ¬ usage.resources.FitsWithin budget.total.toResourceAmounts :=
      (not_and_or.mp hcov).imp_left not_le.mp
    rw [refuseIf_bind hnow, refuseIf_of hu, error_bind]
    exact ⟨by simp, by simp⟩

/-- A size of which a host of eight cores has room for four. -/
def smallWorker : DisposableWorkerResources :=
  ⟨⟨2000, 2 ^ 32, 2 ^ 35⟩, by decide, by decide, by decide⟩

/-- A budget of five workers on a host that has room for four. -/
def fiveWorkers : DisposableHostBudget :=
  ⟨5, ⟨⟨8000, 2 ^ 36, 2 ^ 40⟩, by decide, by decide, by decide⟩, by decide⟩

/-- Six jobs, one of them running. -/
def sixJobs : ScaleSetDemand :=
  ⟨6, 1, .first _, ⟨9, by decide, by decide⟩, by decide, by decide⟩

/-- The usage of one worker. -/
def oneWorker : DisposableHostUsage := ⟨1, smallWorker.toResourceAmounts⟩

/-- Four of the six jobs can be served, and three workers are added for them. -/
theorem planCapacity_tight_sixJobs :
    planCapacity ⟨5, by decide, by decide⟩ sixJobs fiveWorkers oneWorker smallWorker
        = .ok ⟨2, 4, 4, 3⟩
      ∧ (DisposableCapacityPlan.mk 2 4 4 3).Tight sixJobs fiveWorkers oneWorker smallWorker := by
  have hp : planCapacity ⟨5, by decide, by decide⟩ sixJobs fiveWorkers oneWorker smallWorker
      = .ok ⟨2, 4, 4, 3⟩ := by decide
  exact ⟨hp, planCapacity_tight.2 _ hp⟩

end Glaeda
