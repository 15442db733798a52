import UpgradeGovernance.Rust
import Mathlib.Algebra.Order.Field.Basic
import Mathlib.Algebra.Order.Field.Rat
import Mathlib.Data.List.Infix
import Mathlib.Tactic.NormNum

/-!
# The monitoring service

`monitoring.rs` keeps the service's metrics, a log of alerts and the health of its components,
each behind its own lock.  Its methods count proposals, migrations and rollbacks, push alerts,
and record the health of a component, raising a critical alert when one turns unhealthy.  A
background task, `monitor_health`, wakes every minute and raises a warning when more than half
of the proposals created were cancelled.  This module models the service as a state machine whose
steps are the calls of its writing methods and the iterations of its background task, and the
three monitoring routes of `main.rs`.

A method that takes two locks takes the metrics' or the health checks' before the alerts', and
holds the first while it pushes the alert, so each method is one step.  The reads of
`get_dashboard_data` take the locks one after another, so other steps may run between them.
`{:.2}`, the text of a float to two decimals, is left abstract; the service's `f64` arithmetic
is that of the rationals, which is exact for counts below `2^53`.

Each monitoring route builds a new `MonitoringService`, reads it and drops it, and leaves the
background task `MonitoringService::new` spawned running.  Nothing in the repository calls the
methods that count or record health.

## Main definitions

* `Metrics`, `Alert`, `HealthStatus`, `MonitoringService` — the service's state.
* `MonitoringService.recordCounter`, `MonitoringService.sendAlert`,
  `MonitoringService.recordRollback`, `MonitoringService.updateHealth`,
  `MonitoringService.monitorHealthTick` — the writing methods, and an iteration of
  `monitor_health`.
* `MonitorEvent`, `MonitorEvent.run` — the service's runs.
* `AlertsCover` — the alerts a state owes.
* `Http.getMetrics`, `Http.getAlerts`, `Http.getHealth` — the monitoring routes.

## Main results

* `metrics_run` — each counter counts the calls that increment it, wrapping around or stopping
  at `u64::MAX`.
* `alerts_run` — the alert log only grows, and each alert a run adds was raised by one of its
  steps.
* `alertsCover_run` — every unhealthy component has its critical alert in the log, and every
  rollback counted its own.
* `checkHealth_run` — after a run, `check_health` answers the status last recorded.
* `monitorHealthTick_alerts` — the background task warns exactly when more than half the
  proposals created were cancelled.
* `monitoring_routes_fresh` — the routes answer a new service's data, however the background
  task interleaves with their reads.
-/

namespace UpgradeGovernance

namespace Backend

/-! ### The service's state -/

/-- The five `u64` counters of `Metrics`. -/
inductive Counter
  | proposalsCreated
  | proposalsExecuted
  | proposalsCancelled
  | migrationsCompleted
  | rollbacksInitiated
  deriving DecidableEq, Repr

/-- `Metrics`.  Its two `f64` averages are rationals; nothing writes them. -/
structure Metrics where
  proposalsCreated : UInt64
  proposalsExecuted : UInt64
  proposalsCancelled : UInt64
  migrationsCompleted : UInt64
  rollbacksInitiated : UInt64
  averageTimelockDuration : ℚ
  averageApprovalTime : ℚ
  deriving DecidableEq, Repr

namespace Metrics

/-- The metrics `MonitoringService::new` starts from: every counter and average zero. -/
def zero : Metrics := ⟨0, 0, 0, 0, 0, 0, 0⟩

/-- A counter's value. -/
def get (m : Metrics) : Counter → UInt64
  | .proposalsCreated => m.proposalsCreated
  | .proposalsExecuted => m.proposalsExecuted
  | .proposalsCancelled => m.proposalsCancelled
  | .migrationsCompleted => m.migrationsCompleted
  | .rollbacksInitiated => m.rollbacksInitiated

/-- A counter written. -/
def set (m : Metrics) : Counter → UInt64 → Metrics
  | .proposalsCreated, v => { m with proposalsCreated := v }
  | .proposalsExecuted, v => { m with proposalsExecuted := v }
  | .proposalsCancelled, v => { m with proposalsCancelled := v }
  | .migrationsCompleted, v => { m with migrationsCompleted := v }
  | .rollbacksInitiated, v => { m with rollbacksInitiated := v }

variable (m : Metrics) (c : Counter) (v : UInt64)

@[simp] theorem get_set_self : (m.set c v).get c = v := by cases c <;> rfl

@[simp] theorem get_set_of_ne {c' : Counter} (h : c' ≠ c) : (m.set c v).get c' = m.get c' := by
  cases c <;> cases c' <;> first | rfl | exact absurd rfl h

@[simp] theorem set_get : m.set c (m.get c) = m := by cases c <;> rfl

@[simp] theorem averageTimelockDuration_set :
    (m.set c v).averageTimelockDuration = m.averageTimelockDuration := by cases c <;> rfl

@[simp] theorem averageApprovalTime_set :
    (m.set c v).averageApprovalTime = m.averageApprovalTime := by cases c <;> rfl

@[simp] theorem get_zero : zero.get c = 0 := by cases c <;> rfl

end Metrics

/-- `AlertLevel`. -/
inductive AlertLevel
  | info
  | warning
  | critical
  deriving DecidableEq, Repr

/-- `Alert`: its level and message, the clock reading it was raised at, and the component. -/
structure Alert where
  level : AlertLevel
  message : String
  timestamp : Int
  component : String
  deriving DecidableEq, Repr

/-- The alert `record_rollback` raises. -/
def Alert.isRollback (a : Alert) : Bool :=
  a.level == .critical && a.message == "Rollback initiated" && a.component == "rollback_handler"

/-- `HealthStatus`. -/
inductive HealthStatus
  | healthy
  | degraded
  | unhealthy
  deriving DecidableEq, Repr

/-- The `{:?}` text of a status, which the dashboard and `get_health` report. -/
def HealthStatus.debug : HealthStatus → String
  | .healthy => "Healthy"
  | .degraded => "Degraded"
  | .unhealthy => "Unhealthy"

/-- `MonitoringService`: the metrics, the alert log in the order its alerts were pushed, and the
last status recorded for each component. -/
structure MonitoringService where
  metrics : Metrics
  alerts : List Alert
  healthChecks : String → Option HealthStatus

/-- What `get_dashboard_data` answers. -/
structure Dashboard where
  metrics : Metrics
  recentAlerts : List Alert
  healthStatus : String
  timestamp : Int
  deriving DecidableEq, Repr

/-! ### The methods -/

namespace MonitoringService

/-- `MonitoringService::new`, without the background task it spawns, whose iterations are
`monitorHealthTick`. -/
def new : MonitoringService := ⟨.zero, [], fun _ => none⟩

/-- `record_proposal_created` and the methods like it: `counter += 1` under the lock of the
metrics.  `none` is the panic of an overflow, which leaves the metrics as they were. -/
def recordCounter (o : Overflow) (c : Counter) (s : MonitoringService) : Option MonitoringService :=
  (u64Add? o (s.metrics.get c) 1).map fun v => { s with metrics := s.metrics.set c v }

/-- `record_proposal_created`. -/
@[simp] def recordProposalCreated (o : Overflow) : MonitoringService → Option MonitoringService :=
  recordCounter o .proposalsCreated

/-- `record_proposal_executed`. -/
@[simp] def recordProposalExecuted (o : Overflow) : MonitoringService → Option MonitoringService :=
  recordCounter o .proposalsExecuted

/-- `record_proposal_cancelled`. -/
@[simp] def recordProposalCancelled (o : Overflow) : MonitoringService → Option MonitoringService :=
  recordCounter o .proposalsCancelled

/-- `record_migration_completed`. -/
@[simp] def recordMigrationCompleted (o : Overflow) : MonitoringService → Option MonitoringService :=
  recordCounter o .migrationsCompleted

/-- `send_alert` at clock `now`: the alert is pushed onto the log.  A critical one also goes to
`send_critical_alert`, which only logs. -/
def sendAlert (now : Int) (level : AlertLevel) (message component : String)
    (s : MonitoringService) : MonitoringService :=
  { s with alerts := s.alerts ++ [⟨level, message, now, component⟩] }

/-- `record_rollback` at clock `now`: the rollback counter, then, with the metrics still locked,
a critical alert from the rollback handler. -/
def recordRollback (o : Overflow) (now : Int) (s : MonitoringService) : Option MonitoringService :=
  (recordCounter o .rollbacksInitiated s).map
    (sendAlert now .critical "Rollback initiated" "rollback_handler")

/-- `get_metrics`. -/
def getMetrics (s : MonitoringService) : Metrics := s.metrics

/-- `get_alerts`: the latest `limit` alerts, the latest first. -/
def getAlerts (limit : Nat) (s : MonitoringService) : List Alert := s.alerts.reverse.take limit

/-- `check_health`: the status last recorded for the component, `Healthy` when none was. -/
def checkHealth (component : String) (s : MonitoringService) : HealthStatus :=
  (s.healthChecks component).getD .healthy

/-- The message of the alert `update_health` raises for an unhealthy component. -/
def unhealthyMessage (component : String) : String := "Component " ++ component ++ " is unhealthy"

/-- `update_health` at clock `now`: the status is recorded, and, with the health checks still
locked, an unhealthy component raises a critical alert.  The source compares the status with
`==`, which `HealthStatus` does not derive; this is the comparison it writes. -/
def updateHealth (now : Int) (component : String) (status : HealthStatus) (s : MonitoringService) :
    MonitoringService :=
  let s' := { s with healthChecks := fun k => if k = component then some status else s.healthChecks k }
  if status = .unhealthy then s'.sendAlert now .critical (unhealthyMessage component) component
  else s'

/-- The cancellation rate of `monitor_health`: cancelled proposals over created ones, and zero
before any was created.  The source divides `f64`s; while fewer than `2^53` proposals were
created both counts convert exactly, a rate above one half lies at least `1 / (2 * created)`
above it, more than half a unit in the last place of `0.5`, and the rounded quotient is compared
with `0.5` as the exact one is.  Past `2^53` the two may differ. -/
def cancellationRate (m : Metrics) : ℚ :=
  if 0 < m.proposalsCreated.toNat then (m.proposalsCancelled.toNat : ℚ) / m.proposalsCreated.toNat
  else 0

/-- `get_dashboard_data` at clock `now`.  Its three reads take their locks one after another:
`s₁`, `s₂` and `s₃` are the states they read. -/
def getDashboardData (now : Int) (s₁ s₂ s₃ : MonitoringService) : Dashboard :=
  ⟨s₁.getMetrics, s₂.getAlerts 10, (s₃.checkHealth "system").debug, now⟩

section Tick

-- The text `{:.2}` gives a float.
variable (formatFixed2 : ℚ → String)

/-- One iteration of the loop of `monitor_health`, at clock `now`: with the metrics locked, a
cancellation rate above one half pushes a warning. -/
def monitorHealthTick (now : Int) (s : MonitoringService) : MonitoringService :=
  if cancellationRate s.metrics > 1 / 2 then
    { s with alerts := s.alerts ++
        [⟨.warning, "High cancellation rate: " ++ formatFixed2 (cancellationRate s.metrics * 100) ++ "%",
          now, "monitoring"⟩] }
  else s

end Tick

/-! ### What each method does -/

variable {s : MonitoringService} {o : Overflow}

theorem recordCounter_getD (o : Overflow) (c : Counter) (s : MonitoringService) :
    (s.recordCounter o c).getD s =
      { s with metrics := s.metrics.set c ((u64Add? o (s.metrics.get c) 1).getD (s.metrics.get c)) } := by
  unfold recordCounter
  cases u64Add? o (s.metrics.get c) 1 <;> simp

theorem recordRollback_getD (o : Overflow) (now : Int) (s : MonitoringService) :
    (s.recordRollback o now).getD s =
      match u64Add? o (s.metrics.get .rollbacksInitiated) 1 with
      | some v => { s with metrics := s.metrics.set .rollbacksInitiated v }.sendAlert now .critical
          "Rollback initiated" "rollback_handler"
      | none => s := by
  unfold recordRollback recordCounter
  cases u64Add? o (s.metrics.get .rollbacksInitiated) 1 <;> rfl

/-- A `u64` increment that does not panic adds at most one. -/
theorem u64Add?_one_le {c v : UInt64} (h : u64Add? o c 1 = some v) : v.toNat ≤ c.toNat + 1 := by
  cases o with
  | wrap =>
    cases Option.some.inj h
    rw [UInt64.toNat_add_one]
    exact Nat.mod_le _ _
  | trap =>
    simp only [u64Add?] at h
    split at h
    · cases Option.some.inj h
      rw [UInt64.toNat_add_one]
      exact Nat.mod_le _ _
    · cases h

@[simp] theorem healthChecks_sendAlert (now : Int) (level : AlertLevel) (message component : String) :
    (s.sendAlert now level message component).healthChecks = s.healthChecks := rfl

@[simp] theorem metrics_sendAlert (now : Int) (level : AlertLevel) (message component : String) :
    (s.sendAlert now level message component).metrics = s.metrics := rfl

@[simp] theorem alerts_sendAlert (now : Int) (level : AlertLevel) (message component : String) :
    (s.sendAlert now level message component).alerts = s.alerts ++ [⟨level, message, now, component⟩] :=
  rfl

@[simp] theorem metrics_updateHealth (now : Int) (component : String) (status : HealthStatus) :
    (s.updateHealth now component status).metrics = s.metrics := by
  unfold updateHealth; split <;> rfl

/-- **The health checks are a map.**  `check_health` answers the status `update_health` last
recorded for the component, and the status of every other component is as it was. -/
theorem checkHealth_updateHealth (now : Int) (component : String) (status : HealthStatus)
    (k : String) :
    (s.updateHealth now component status).checkHealth k =
      if k = component then status else s.checkHealth k := by
  have hh : (s.updateHealth now component status).healthChecks =
      fun k => if k = component then some status else s.healthChecks k := by
    unfold updateHealth; split <;> rfl
  unfold checkHealth
  rw [hh]
  dsimp only
  split <;> rfl

/-- An alert `update_health` adds is the critical alert of an unhealthy component. -/
theorem alerts_updateHealth (now : Int) (component : String) (status : HealthStatus) :
    (s.updateHealth now component status).alerts =
      s.alerts ++ if status = .unhealthy then [⟨.critical, unhealthyMessage component, now, component⟩]
        else [] := by
  unfold updateHealth
  split <;> simp

/-- `get_alerts` after `send_alert` answers the new alert first, then what it answered before. -/
theorem getAlerts_sendAlert (limit : Nat) (now : Int) (level : AlertLevel) (message component : String) :
    (s.sendAlert now level message component).getAlerts (limit + 1) =
      ⟨level, message, now, component⟩ :: s.getAlerts limit := by
  simp [getAlerts]

/-- **The monitor's condition.**  The rate exceeds one half exactly when some proposal was created
and more than half of those created were cancelled. -/
theorem half_lt_cancellationRate_iff (m : Metrics) :
    1 / 2 < cancellationRate m ↔
      0 < m.proposalsCreated.toNat ∧ m.proposalsCreated.toNat < 2 * m.proposalsCancelled.toNat := by
  unfold cancellationRate
  split
  · next hp =>
    rw [div_lt_div_iff₀ (by norm_num) (by exact_mod_cast hp), one_mul]
    constructor
    · intro h
      have : m.proposalsCreated.toNat < m.proposalsCancelled.toNat * 2 := by exact_mod_cast h
      exact ⟨hp, by omega⟩
    · intro ⟨_, h⟩
      exact_mod_cast (show m.proposalsCreated.toNat < m.proposalsCancelled.toNat * 2 by omega)
  · next hp => simp only [hp, false_and, iff_false, not_lt]; norm_num

section Tick

variable (formatFixed2 : ℚ → String)

/-- **An iteration of `monitor_health`.**  It appends one warning from the monitoring component
when some proposal was created and more than half of them were cancelled, and nothing
otherwise; it changes neither the metrics nor the health checks. -/
theorem monitorHealthTick_alerts (now : Int) (s : MonitoringService) :
    (s.monitorHealthTick formatFixed2 now).alerts =
      s.alerts ++
        (if 0 < s.metrics.proposalsCreated.toNat ∧
            s.metrics.proposalsCreated.toNat < 2 * s.metrics.proposalsCancelled.toNat then
          [⟨.warning, "High cancellation rate: " ++
            formatFixed2 (cancellationRate s.metrics * 100) ++ "%", now, "monitoring"⟩]
        else []) ∧
      (s.monitorHealthTick formatFixed2 now).metrics = s.metrics ∧
      (s.monitorHealthTick formatFixed2 now).healthChecks = s.healthChecks := by
  unfold monitorHealthTick
  simp only [gt_iff_lt, half_lt_cancellationRate_iff]
  split <;> simp

/-- Before any proposal is counted the background task changes nothing. -/
theorem monitorHealthTick_of_created_zero (now : Int) (h : s.metrics.proposalsCreated = 0) :
    s.monitorHealthTick formatFixed2 now = s := by
  unfold monitorHealthTick
  rw [if_neg]
  rw [gt_iff_lt, half_lt_cancellationRate_iff, h]
  exact fun ⟨h0, _⟩ => absurd h0 (by decide)

end Tick

end MonitoringService

/-! ### Runs of the service -/

/-- A step of the service: a call of one of its writing methods, or an iteration of its
background task. -/
inductive MonitorEvent
  | recordProposalCreated
  | recordProposalExecuted
  | recordProposalCancelled
  | recordMigrationCompleted
  | recordRollback (now : Int)
  | sendAlert (now : Int) (level : AlertLevel) (message component : String)
  | updateHealth (now : Int) (component : String) (status : HealthStatus)
  | monitorHealth (now : Int)
  deriving DecidableEq, Repr

namespace MonitorEvent

open MonitoringService

/-- The counter a step increments. -/
def counter? : MonitorEvent → Option Counter
  | .recordProposalCreated => some .proposalsCreated
  | .recordProposalExecuted => some .proposalsExecuted
  | .recordProposalCancelled => some .proposalsCancelled
  | .recordMigrationCompleted => some .migrationsCompleted
  | .recordRollback _ => some .rollbacksInitiated
  | _ => none

/-- The status a step records for a component, if it records one. -/
def statusOf (component : String) : MonitorEvent → Option HealthStatus
  | .updateHealth _ k status => if component = k then some status else none
  | _ => none

/-- The alerts a step can raise. -/
def Raises : MonitorEvent → Alert → Prop
  | .recordRollback now, a => a = ⟨.critical, "Rollback initiated", now, "rollback_handler"⟩
  | .sendAlert now level message component, a => a = ⟨level, message, now, component⟩
  | .updateHealth now component status, a =>
    status = .unhealthy ∧ a = ⟨.critical, unhealthyMessage component, now, component⟩
  | .monitorHealth now, a => a.level = .warning ∧ a.timestamp = now ∧ a.component = "monitoring"
  | _, _ => False

section Runs

variable (formatFixed2 : ℚ → String) (o : Overflow)

/-- The state after a step.  A step that panics leaves it as it was: the lock it held is
released as its task unwinds. -/
def apply (s : MonitoringService) : MonitorEvent → MonitoringService
  | .recordProposalCreated => (s.recordProposalCreated o).getD s
  | .recordProposalExecuted => (s.recordProposalExecuted o).getD s
  | .recordProposalCancelled => (s.recordProposalCancelled o).getD s
  | .recordMigrationCompleted => (s.recordMigrationCompleted o).getD s
  | .recordRollback now => (s.recordRollback o now).getD s
  | .sendAlert now level message component => s.sendAlert now level message component
  | .updateHealth now component status => s.updateHealth now component status
  | .monitorHealth now => s.monitorHealthTick formatFixed2 now

/-- The state after steps one after another. -/
def run (s : MonitoringService) (evs : List MonitorEvent) : MonitoringService :=
  evs.foldl (apply formatFixed2 o) s

@[simp] theorem run_nil (s : MonitoringService) : run formatFixed2 o s [] = s := rfl

@[simp] theorem run_cons (s : MonitoringService) (ev : MonitorEvent) (evs : List MonitorEvent) :
    run formatFixed2 o s (ev :: evs) = run formatFixed2 o (ev.apply formatFixed2 o s) evs := rfl

theorem run_append (s : MonitoringService) (evs evs' : List MonitorEvent) :
    run formatFixed2 o s (evs ++ evs') = run formatFixed2 o (run formatFixed2 o s evs) evs' :=
  List.foldl_append _ _ _ _

variable {formatFixed2 o} {s : MonitoringService}

/-- **What a step does to the metrics.**  Its counter, if it has one, is incremented, a panic
leaving it; the other counters and the averages stay. -/
theorem apply_metrics (ev : MonitorEvent) :
    (ev.apply formatFixed2 o s).metrics =
      match ev.counter? with
      | some c => s.metrics.set c ((u64Add? o (s.metrics.get c) 1).getD (s.metrics.get c))
      | none => s.metrics := by
  cases ev with
  | recordRollback now =>
    simp only [apply, counter?, recordRollback_getD]
    split <;> simp_all
  | monitorHealth now => exact (monitorHealthTick_alerts formatFixed2 now s).2.1
  | sendAlert | updateHealth => simp [apply, counter?]
  | _ => simp [apply, counter?, recordCounter_getD]

/-- One step counts the calls of its counter. -/
theorem counted_apply (ev : MonitorEvent) {c : Counter} {n : Nat}
    (h : (s.metrics.get c).toNat = o.counted n) :
    ((ev.apply formatFixed2 o s).metrics.get c).toNat =
      o.counted (n + if ev.counter? == some c then 1 else 0) := by
  rw [apply_metrics]
  cases ev.counter? with
  | none => simpa using h
  | some c' =>
    by_cases hcc : c' = c
    · subst hcc
      simpa using u64Add?_one_counted o h
    · simpa [hcc, Metrics.get_set_of_ne _ _ _ (Ne.symm hcc)] using h

/-- No step writes the averages. -/
theorem averages_apply (ev : MonitorEvent) :
    (ev.apply formatFixed2 o s).metrics.averageTimelockDuration = s.metrics.averageTimelockDuration ∧
      (ev.apply formatFixed2 o s).metrics.averageApprovalTime = s.metrics.averageApprovalTime := by
  rw [apply_metrics]
  split <;> simp

/-- **What a step does to the alert log.**  It appends alerts the step raises. -/
theorem apply_alerts (ev : MonitorEvent) :
    ∃ added, (ev.apply formatFixed2 o s).alerts = s.alerts ++ added ∧ ∀ a ∈ added, ev.Raises a := by
  cases ev with
  | recordRollback now =>
    simp only [apply, recordRollback_getD]
    split
    · exact ⟨_, rfl, fun a ha => List.mem_singleton.mp ha⟩
    · exact ⟨[], (List.append_nil _).symm, fun _ h => (nomatch h)⟩
  | sendAlert now level message component => exact ⟨_, rfl, fun a ha => List.mem_singleton.mp ha⟩
  | updateHealth now component status =>
    refine ⟨_, alerts_updateHealth now component status, fun a ha => ?_⟩
    split at ha
    · exact ⟨‹_›, List.mem_singleton.mp ha⟩
    · exact absurd ha (List.not_mem_nil a)
  | monitorHealth now =>
    refine ⟨_, (monitorHealthTick_alerts formatFixed2 now s).1, fun a ha => ?_⟩
    split at ha
    · obtain rfl := List.mem_singleton.mp ha
      exact ⟨rfl, rfl, rfl⟩
    · exact absurd ha (List.not_mem_nil a)
  | _ => exact ⟨[], by simp [apply, recordCounter_getD], fun _ h => (nomatch h)⟩

/-- **What a step does to the health checks.**  Only `update_health` changes them, and only for
its component. -/
theorem checkHealth_apply (ev : MonitorEvent) (component : String) :
    (ev.apply formatFixed2 o s).checkHealth component =
      (ev.statusOf component).getD (s.checkHealth component) := by
  cases ev with
  | recordRollback now =>
    simp only [apply, recordRollback_getD, statusOf]
    split <;> rfl
  | updateHealth now k status =>
    rw [apply, checkHealth_updateHealth, statusOf]
    split <;> rfl
  | monitorHealth now =>
    simp only [apply, checkHealth, statusOf, (monitorHealthTick_alerts formatFixed2 now s).2.2]
    rfl
  | sendAlert => rfl
  | _ => simp [apply, recordCounter_getD, checkHealth, statusOf]

end Runs

end MonitorEvent

/-! ### What holds over every run -/

open MonitoringService MonitorEvent

section Runs

variable {formatFixed2 : ℚ → String} {o : Overflow}

/-- **The counters count.**  Over every run from a new service, each counter holds the number of
calls that increment it, wrapped around at `2^64`, or, when overflow traps, capped at
`u64::MAX`; the two averages stay zero. -/
theorem metrics_run (evs : List MonitorEvent) :
    (∀ c, ((run formatFixed2 o .new evs).metrics.get c).toNat =
      o.counted (evs.countP (·.counter? == some c))) ∧
    (run formatFixed2 o .new evs).metrics.averageTimelockDuration = 0 ∧
    (run formatFixed2 o .new evs).metrics.averageApprovalTime = 0 := by
  have hcount : ∀ s c n, (s.metrics.get c).toNat = o.counted n →
      ((run formatFixed2 o s evs).metrics.get c).toNat =
        o.counted (n + evs.countP (·.counter? == some c)) := by
    induction evs with
    | nil => exact fun _ _ _ h => h
    | cons ev evs ih =>
      intro s c n h
      rw [run_cons, ih _ c _ (counted_apply ev h), List.countP_cons]
      congr 1
      omega
  have havg : ∀ s, (run formatFixed2 o s evs).metrics.averageTimelockDuration =
      s.metrics.averageTimelockDuration ∧
      (run formatFixed2 o s evs).metrics.averageApprovalTime = s.metrics.averageApprovalTime := by
    clear hcount
    induction evs with
    | nil => exact fun _ => ⟨rfl, rfl⟩
    | cons ev evs ih =>
      intro s
      rw [run_cons, (ih _).1, (ih _).2]
      exact averages_apply ev
  have h0 : ∀ c, (MonitoringService.new.metrics.get c).toNat = o.counted 0 := fun c => by
    cases o <;> simp [MonitoringService.new, Overflow.counted]
  exact ⟨fun c => by simpa using hcount .new c 0 (h0 c), havg .new⟩

/-- **The alert log only grows.**  Over every run from every state, the log after the run is the
log before it followed by new alerts, each raised by a step of the run. -/
theorem alerts_run (s : MonitoringService) (evs : List MonitorEvent) :
    ∃ added, (run formatFixed2 o s evs).alerts = s.alerts ++ added ∧
      ∀ a ∈ added, ∃ ev ∈ evs, ev.Raises a := by
  induction evs generalizing s with
  | nil => exact ⟨[], (List.append_nil _).symm, fun _ h => (nomatch h)⟩
  | cons ev evs ih =>
    obtain ⟨added₁, h₁, hr₁⟩ : ∃ added, (ev.apply formatFixed2 o s).alerts = s.alerts ++ added ∧
      ∀ a ∈ added, ev.Raises a := apply_alerts ev
    obtain ⟨added₂, h₂, hr₂⟩ := ih (ev.apply formatFixed2 o s)
    refine ⟨added₁ ++ added₂, by rw [run_cons, h₂, h₁, List.append_assoc], fun a ha => ?_⟩
    rcases List.mem_append.mp ha with ha | ha
    · exact ⟨ev, List.mem_cons_self _ _, hr₁ a ha⟩
    · obtain ⟨ev', hev', hr⟩ := hr₂ a ha
      exact ⟨ev', List.mem_cons_of_mem _ hev', hr⟩

end Runs

/-- The alerts a state owes: every component whose status reads unhealthy has its critical
alert in the log, and the log holds a rollback alert for every rollback counted. -/
structure AlertsCover (s : MonitoringService) : Prop where
  unhealthy : ∀ component, s.checkHealth component = .unhealthy →
    ∃ t, ⟨.critical, unhealthyMessage component, t, component⟩ ∈ s.alerts
  rollbacks : (s.metrics.get .rollbacksInitiated).toNat ≤ s.alerts.countP Alert.isRollback

namespace AlertsCover

variable {s s' : MonitoringService}

theorem new : AlertsCover .new :=
  ⟨fun _ h => by simp [checkHealth, MonitoringService.new] at h, by simp [MonitoringService.new]⟩

/-- A step that only appends alerts, and changes neither the health checks nor the rollback
counter, keeps what the state owes. -/
theorem of_append (hi : AlertsCover s) (added : List Alert) (ha : s'.alerts = s.alerts ++ added)
    (hh : s'.healthChecks = s.healthChecks)
    (hr : s'.metrics.get .rollbacksInitiated = s.metrics.get .rollbacksInitiated) :
    AlertsCover s' := by
  refine ⟨fun k hk => ?_, ?_⟩
  · obtain ⟨t, ht⟩ := hi.unhealthy k (by rwa [checkHealth, ← hh])
    exact ⟨t, by rw [ha]; exact List.mem_append_left _ ht⟩
  · rw [ha, hr, List.countP_append]
    exact le_add_right hi.rollbacks

theorem recordRollback (hi : AlertsCover s) (o : Overflow) (now : Int) :
    AlertsCover ((s.recordRollback o now).getD s) := by
  rw [recordRollback_getD]
  split
  · next v hv =>
    refine ⟨fun k hk => ?_, ?_⟩
    · obtain ⟨t, ht⟩ := hi.unhealthy k hk
      exact ⟨t, List.mem_append_left _ ht⟩
    · have := u64Add?_one_le hv
      have := hi.rollbacks
      simp only [metrics_sendAlert, Metrics.get_set_self, alerts_sendAlert, List.countP_append]
      simp [Alert.isRollback]
      omega
  · exact hi

theorem updateHealth (hi : AlertsCover s) (now : Int) (component : String) (status : HealthStatus) :
    AlertsCover (s.updateHealth now component status) := by
  refine ⟨fun k hk => ?_, ?_⟩
  · rw [checkHealth_updateHealth] at hk
    rw [alerts_updateHealth]
    split at hk
    · subst k hk
      exact ⟨now, List.mem_append_right _ (by simp)⟩
    · obtain ⟨t, ht⟩ := hi.unhealthy k hk
      exact ⟨t, List.mem_append_left _ ht⟩
  · rw [metrics_updateHealth, alerts_updateHealth, List.countP_append]
    exact le_add_right hi.rollbacks

/-- **The step lemma.**  Every step keeps what the state owes. -/
theorem apply (hi : AlertsCover s) (formatFixed2 : ℚ → String) (o : Overflow) (ev : MonitorEvent) :
    AlertsCover (ev.apply formatFixed2 o s) := by
  cases ev with
  | recordRollback now => exact hi.recordRollback o now
  | updateHealth now component status => exact hi.updateHealth now component status
  | sendAlert now level message component => exact hi.of_append _ rfl rfl rfl
  | monitorHealth now =>
    obtain ⟨h1, h2, h3⟩ := monitorHealthTick_alerts formatFixed2 now s
    exact hi.of_append _ h1 h3 (congrArg (Metrics.get · .rollbacksInitiated) h2)
  | _ =>
    refine hi.of_append [] ?_ ?_ ?_ <;>
      simp [MonitorEvent.apply, recordCounter_getD]

end AlertsCover

/-- **No silent failure.**  Over every run from a new service, every component whose status
reads unhealthy has a critical alert naming it in the log, and the log holds a rollback alert
for every rollback the metrics count. -/
theorem alertsCover_run (formatFixed2 : ℚ → String) (o : Overflow) (evs : List MonitorEvent) :
    (∀ component, (run formatFixed2 o .new evs).checkHealth component = .unhealthy →
      ∃ t, ⟨.critical, unhealthyMessage component, t, component⟩ ∈
        (run formatFixed2 o .new evs).alerts) ∧
    ((run formatFixed2 o .new evs).metrics.rollbacksInitiated).toNat ≤
      (run formatFixed2 o .new evs).alerts.countP Alert.isRollback := by
  suffices h : ∀ s, AlertsCover s → AlertsCover (run formatFixed2 o s evs) from
    have hc := h .new .new
    ⟨hc.unhealthy, hc.rollbacks⟩
  induction evs with
  | nil => exact fun _ h => h
  | cons ev evs ih => exact fun s hs => ih _ (hs.apply formatFixed2 o ev)

/-- **The health checks hold the last status recorded.**  From every state, after every run,
`check_health` answers for each component the status the run's last `update_health` of it
recorded, or the status before the run when the run recorded none. -/
theorem checkHealth_run (formatFixed2 : ℚ → String) (o : Overflow) (s : MonitoringService)
    (evs : List MonitorEvent) (component : String) :
    (run formatFixed2 o s evs).checkHealth component =
      (evs.reverse.findSome? (·.statusOf component)).getD (s.checkHealth component) := by
  induction evs using List.reverseRecOn with
  | nil => rfl
  | append_singleton evs ev ih =>
    rw [run_append, run_cons, run_nil, checkHealth_apply, ih, List.reverse_append]
    cases h : ev.statusOf component <;> simp [List.findSome?_cons, h]

/-! ### The monitoring routes -/

section Routes

variable (formatFixed2 : ℚ → String)

/-- The service after iterations of its background task at the clock readings `ticks`. -/
def MonitoringService.ticked (ticks : List Int) (s : MonitoringService) : MonitoringService :=
  ticks.foldl (fun s now => s.monitorHealthTick formatFixed2 now) s

/-- The background task of a new service changes nothing, however often it runs. -/
theorem MonitoringService.ticked_new (ticks : List Int) :
    MonitoringService.new.ticked formatFixed2 ticks = .new := by
  induction ticks with
  | nil => rfl
  | cons now ticks ih =>
    rw [ticked, List.foldl_cons, monitorHealthTick_of_created_zero formatFixed2 now rfl]
    exact ih

namespace Http

/-- `get_metrics` of `main.rs` at clock `now`: the dashboard of a new service, whose background
task iterates at the clock readings `ticks₁` before the dashboard's first read, `ticks₂` between
its first and second, and `ticks₃` between its second and third. -/
def getMetrics (now : Int) (ticks₁ ticks₂ ticks₃ : List Int) : Dashboard :=
  let s₁ := MonitoringService.new.ticked formatFixed2 ticks₁
  let s₂ := s₁.ticked formatFixed2 ticks₂
  MonitoringService.getDashboardData now s₁ s₂ (s₂.ticked formatFixed2 ticks₃)

/-- `get_alerts` of `main.rs`: the latest 50 alerts of a new service, read after its background
task iterated at the clock readings `ticks`. -/
def getAlerts (ticks : List Int) : List Alert :=
  (MonitoringService.new.ticked formatFixed2 ticks).getAlerts 50

/-- `get_health` of `main.rs` at clock `now`: the `{:?}` text of the health of `"system"` in a
new service, read after its background task iterated at the clock readings `ticks`, and the
clock. -/
def getHealth (now : Int) (ticks : List Int) : String × Int :=
  (((MonitoringService.new.ticked formatFixed2 ticks).checkHealth "system").debug, now)

end Http

/-- **The monitoring routes report a new service.**  However the background task that
`MonitoringService::new` spawns interleaves with a route's reads, `GET /monitoring/metrics`
answers zero counts, no alert and a healthy system, `GET /monitoring/alerts` no alert, and
`GET /monitoring/health` a healthy system. -/
theorem monitoring_routes_fresh (now : Int) (ticks₁ ticks₂ ticks₃ : List Int) :
    Http.getMetrics formatFixed2 now ticks₁ ticks₂ ticks₃ = ⟨.zero, [], "Healthy", now⟩ ∧
    Http.getAlerts formatFixed2 ticks₁ = [] ∧
    Http.getHealth formatFixed2 now ticks₁ = ("Healthy", now) := by
  simp only [Http.getMetrics, Http.getAlerts, Http.getHealth, MonitoringService.ticked_new]
  exact ⟨rfl, rfl, rfl⟩

end Routes

end Backend

end UpgradeGovernance
