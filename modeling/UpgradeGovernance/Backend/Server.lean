import UpgradeGovernance.Backend.Lifecycle
import UpgradeGovernance.Backend.Migration
import UpgradeGovernance.Backend.Monitoring

/-!
# The whole service

`main.rs` serves, on one router, the six routes of the upgrade flow, the two migration routes and
the three monitoring routes.  Besides answering requests, the service runs the background tasks
requests spawn: the migration task of each `start_migration`, and the `monitor_health` task of the
new `MonitoringService` each monitoring route builds, which loops for ever.

This module puts the components together.  A request reaches one component; a step of a migration
task reaches the migration manager; an iteration of a monitor task reaches only that task's own
service.  So every state the whole service reaches is made of states its components reach on their
own, and what is proved of the upgrade service (`Reachable`) and of the migration manager
(`MigrationReachable`) holds in it.  The `/ws` route, whose notification channel has no sender
left once its handler returns, is left out.

## Main definitions

* `Server` — the service's state: the upgrade components, the migration manager, and the services
  of the monitor tasks still running.
* `Route`, `Route.serve` — a request to a route of the router, and its answer.
* `ServerEvent`, `ServerEvent.apply`, `ServerReachable` — the service's runs.

## Main results

* `server_components_reachable` — every reachable state is made of reachable states of the
  components; every migration job started counts no account; every monitor task holds a new
  service.
* `monitorTasks_run` — no step ends a monitor task, and every monitoring request starts one.
-/

namespace UpgradeGovernance

namespace Backend

/-- The whole service's state.  `monitorTasks` holds the services of the `monitor_health` tasks the
monitoring routes spawned, oldest first: nothing else holds those services. -/
structure Server where
  app : AppState
  migrationManager : MigrationManager
  monitorTasks : List MonitoringService

/-- The state `main` starts from. -/
def Server.new : Server := ⟨.new, .new, []⟩

/-- The JSON body of a route's `Ok` answer. -/
inductive ServerReply
  | upgrade (reply : Reply)
  /-- `{"migration_id": migration_id, "status": "started"}`. -/
  | migrationStarted (migrationId : String)
  | migrationProgress (report : ProgressReport)
  | metrics (dashboard : Dashboard)
  | alerts (alerts : List Alert)
  /-- `{"status": status, "timestamp": timestamp}`. -/
  | health (status : String) (timestamp : Int)

/-- A request to a route of `main.rs`'s router, with the clock readings and fresh identifiers it
uses.  A monitoring request carries the clock readings at which the background task of its new
service iterates while the request reads it. -/
inductive Route
  | upgrade (r : Request)
  | startMigration (now : Int) (migrationId : String)
  | getMigrationProgress
  | getMetrics (now : Int) (ticks₁ ticks₂ ticks₃ : List Int)
  | getAlerts (ticks : List Int)
  | getHealth (now : Int) (ticks : List Int)

/-- A step of the whole service: a request answered, a step of a migration task, or an iteration
of the monitor task at a position of `monitorTasks`. -/
inductive ServerEvent
  | request (route : Route)
  | migrationTask (migrationId : String) (outcome : Except MigrationError Unit) (now : Int)
  | monitorTick (task : Nat) (now : Int)

section Server

variable (parsePubkey : String → Option String) (formatFixed2 : ℚ → String)

/-- The router answering a request: the state after it, and the answer. -/
def Route.serve (s : Server) : Route → Server × Except UpgradeError ServerReply
  | .upgrade r =>
    let (app, answer) := Backend.serve parsePubkey s.app r
    ({ s with app }, answer.map .upgrade)
  | .startMigration now migrationId =>
    match MigrationManager.startMigration migrationId now MigrationManager.identifyAccountsToMigrate
        s.migrationManager with
    | .ok migrationId m => ({ s with migrationManager := m }, .ok (.migrationStarted migrationId))
    | .error e m => ({ s with migrationManager := m }, .error e)
  | .getMigrationProgress => (s, .ok (.migrationProgress s.migrationManager.getProgress))
  | .getMetrics now ticks₁ ticks₂ ticks₃ =>
    ({ s with monitorTasks := s.monitorTasks ++
        [((MonitoringService.new.ticked formatFixed2 ticks₁).ticked formatFixed2 ticks₂).ticked
          formatFixed2 ticks₃] },
      .ok (.metrics (Http.getMetrics formatFixed2 now ticks₁ ticks₂ ticks₃)))
  | .getAlerts ticks =>
    ({ s with monitorTasks := s.monitorTasks ++ [MonitoringService.new.ticked formatFixed2 ticks] },
      .ok (.alerts (Http.getAlerts formatFixed2 ticks)))
  | .getHealth now ticks =>
    ({ s with monitorTasks := s.monitorTasks ++ [MonitoringService.new.ticked formatFixed2 ticks] },
      .ok (.health (Http.getHealth formatFixed2 now ticks).1 (Http.getHealth formatFixed2 now ticks).2))

/-- Whether a step is a request to a monitoring route, which spawns a monitor task. -/
def ServerEvent.startsMonitor : ServerEvent → Bool
  | .request (.getMetrics ..) | .request (.getAlerts _) | .request (.getHealth ..) => true
  | _ => false

/-- The state after a step. -/
def ServerEvent.apply (s : Server) : ServerEvent → Server
  | .request route => (route.serve parsePubkey formatFixed2 s).1
  | .migrationTask migrationId outcome now =>
    { s with migrationManager := MigrationManager.batchStep migrationId outcome now s.migrationManager }
  | .monitorTick task now =>
    { s with monitorTasks := s.monitorTasks.modify (·.monitorHealthTick formatFixed2 now) task }

/-- The identifiers a request draws with `Uuid::new_v4` are new. -/
def ServerEvent.Fresh (s : Server) : ServerEvent → Prop
  | .request (.upgrade r) => r.Fresh s.app
  | .request (.startMigration _ migrationId) =>
    migrationId ∉ s.migrationManager.migrations.map (·.migrationId)
  | _ => True

instance ServerEvent.decidableFresh (s : Server) : (ev : ServerEvent) → Decidable (ev.Fresh s)
  | .request (.upgrade r) => inferInstanceAs (Decidable (r.Fresh s.app))
  | .request (.startMigration _ migrationId) =>
    inferInstanceAs
      (Decidable (migrationId ∉ s.migrationManager.migrations.map MigrationProgress.migrationId))
  | .request .getMigrationProgress | .request (.getMetrics ..) | .request (.getAlerts _)
  | .request (.getHealth ..) | .migrationTask .. | .monitorTick .. => isTrue trivial

/-- The state after steps one after another. -/
def ServerEvent.run (s : Server) (evs : List ServerEvent) : Server :=
  evs.foldl (ServerEvent.apply parsePubkey formatFixed2) s

/-- The states the whole service reaches from its start, drawing fresh identifiers. -/
inductive ServerReachable : Server → Prop
  | new : ServerReachable Server.new
  | step {s : Server} (ev : ServerEvent) :
      ServerReachable s → ev.Fresh s → ServerReachable (ev.apply parsePubkey formatFixed2 s)

end Server

/-! ### The components of a step -/

section Components

variable {parsePubkey : String → Option String} {formatFixed2 : ℚ → String} {s : Server}

/-- A list whose entries a map leaves alone is left alone wherever it is applied. -/
theorem modify_eq_self {α : Type} {f : α → α} {l : List α} (h : ∀ x ∈ l, f x = x) (n : Nat) :
    l.modify f n = l := by
  induction l generalizing n with
  | nil => exact List.modify_nil f n
  | cons a l ih =>
    cases n with
    | zero => rw [List.modify_zero_cons, h a (List.mem_cons_self a l)]
    | succ n => rw [List.modify_succ_cons, ih (fun x hx => h x (List.mem_cons_of_mem a hx))]

/-- The upgrade components after a step: moved by the request of an upgrade route, untouched by
every other step. -/
theorem app_apply (ev : ServerEvent) :
    (ev.apply parsePubkey formatFixed2 s).app =
      match ev with
      | .request (.upgrade r) => (serve parsePubkey s.app r).1
      | _ => s.app := by
  cases ev with
  | request route =>
    cases route with
    | startMigration now k =>
      simp only [ServerEvent.apply, Route.serve, MigrationManager.startMigration_apply]
    | _ => rfl
  | _ => rfl

/-- The migration manager after a step, as a step of the manager's own runs. -/
theorem migrationManager_apply (ev : ServerEvent) :
    (ev.apply parsePubkey formatFixed2 s).migrationManager =
      match ev with
      | .request (.startMigration now k) =>
        MigrationEvent.apply s.migrationManager
          (.startMigration k now MigrationManager.identifyAccountsToMigrate)
      | .request .getMigrationProgress => MigrationEvent.apply s.migrationManager .getProgress
      | .migrationTask k outcome now => MigrationEvent.apply s.migrationManager (.batchStep k outcome now)
      | _ => s.migrationManager := by
  cases ev with
  | request route =>
    cases route with
    | startMigration now k =>
      simp only [ServerEvent.apply, Route.serve, MigrationManager.startMigration_apply]
      rfl
    | upgrade r => simp only [ServerEvent.apply, Route.serve]
    | _ => rfl
  | _ => rfl

theorem monitorTasks_apply (ev : ServerEvent) :
    (ev.apply parsePubkey formatFixed2 s).monitorTasks.length =
      s.monitorTasks.length + if ev.startsMonitor then 1 else 0 := by
  cases ev with
  | request route =>
    cases route with
    | startMigration now k =>
      simp only [ServerEvent.apply, Route.serve, MigrationManager.startMigration_apply]
      rfl
    | upgrade r => simp only [ServerEvent.apply, Route.serve]; rfl
    | _ => simp [ServerEvent.apply, Route.serve, ServerEvent.startsMonitor]
  | migrationTask => rfl
  | monitorTick task now => exact List.length_modify _ _ _

end Components

/-! ### The reachable states -/

/-- A manager whose jobs were all started over no account: every job counts none, and every
task has none left. -/
structure MigrationManager.NoAccounts (m : MigrationManager) : Prop where
  jobs : ∀ j ∈ m.migrations, j.totalAccounts = 0 ∧ j.migratedAccounts = 0 ∧ j.failedAccounts = 0
  tasks : ∀ k accounts, m.tasks k = some accounts → accounts = []

namespace MigrationManager.NoAccounts

variable {m : MigrationManager}

/-- `start_migration` as the route calls it, over what `identify_accounts_to_migrate` returns. -/
theorem startMigration (hi : m.NoAccounts) (k : String) (now : Int) :
    (MigrationEvent.apply m (.startMigration k now identifyAccountsToMigrate)).NoAccounts := by
  simp only [MigrationEvent.apply, startMigration_apply, stateOf_ok]
  refine ⟨fun j hj => ?_, fun k' a h => ?_⟩
  · rcases List.mem_append.mp hj with hj | hj
    · exact hi.jobs j hj
    · obtain rfl := List.mem_singleton.mp hj
      exact ⟨rfl, rfl, rfl⟩
  · dsimp only at h
    by_cases hk : k' = k
    · subst hk
      rw [Function.update_same] at h
      exact (Option.some.inj h).symm
    · rw [Function.update_noteq hk] at h
      exact hi.tasks k' a h

/-- A step of a task with no account left only marks its job completed. -/
theorem batchStep (hi : m.NoAccounts) (k : String) (outcome : Except MigrationError Unit)
    (now : Int) : (MigrationEvent.apply m (.batchStep k outcome now)).NoAccounts := by
  simp only [MigrationEvent.apply]
  cases ht : m.tasks k with
  | none => rwa [batchStep_of_none ht]
  | some accounts =>
    obtain rfl := hi.tasks k accounts ht
    rw [batchStep_of_some ht]
    refine ⟨fun j hj => ?_, fun k' a h => ?_⟩
    · rcases mem_modifyFirst hj with hj | ⟨y, hy, rfl⟩
      · exact hi.jobs j hj
      · exact hi.jobs y hy
    · dsimp only at h
      by_cases hk : k' = k
      · subst hk
        rw [Function.update_same] at h
        cases h
      · rw [Function.update_noteq hk] at h
        exact hi.tasks k' a h

end MigrationManager.NoAccounts

/-- What the router adds to the components' own invariants: the migration jobs it starts are over
no account, and every monitor task holds a new service. -/
structure ServerInv (s : Server) : Prop where
  migration : s.migrationManager.NoAccounts
  monitors : ∀ t ∈ s.monitorTasks, t = .new

namespace ServerInv

variable {parsePubkey : String → Option String} {formatFixed2 : ℚ → String} {s : Server}

theorem new : ServerInv .new :=
  ⟨⟨fun _ h => (nomatch h), fun _ _ h => (nomatch h)⟩, fun _ h => (nomatch h)⟩

/-- **The step lemma.**  Every step keeps the router's invariant. -/
theorem apply (hi : ServerInv s) (ev : ServerEvent) :
    ServerInv (ev.apply parsePubkey formatFixed2 s) := by
  refine ⟨?_, ?_⟩
  · rw [migrationManager_apply]
    split
    · exact hi.migration.startMigration _ _
    · exact hi.migration
    · exact hi.migration.batchStep _ _ _
    · exact hi.migration
  · cases ev with
    | request route =>
      cases route with
      | upgrade r => exact hi.monitors
      | startMigration now k =>
        simp only [ServerEvent.apply, Route.serve, MigrationManager.startMigration_apply]
        exact hi.monitors
      | getMigrationProgress => exact hi.monitors
      | _ =>
        simp only [ServerEvent.apply, Route.serve, MonitoringService.ticked_new, List.mem_append,
          List.mem_singleton]
        exact fun t ht => ht.elim (hi.monitors t) id
    | migrationTask => exact hi.monitors
    | monitorTick task now =>
      simp only [ServerEvent.apply]
      rw [modify_eq_self (fun t ht => by
        rw [hi.monitors t ht]
        exact MonitoringService.monitorHealthTick_of_created_zero formatFixed2 now rfl)]
      exact hi.monitors

end ServerInv

section Reachable

variable {parsePubkey : String → Option String} {formatFixed2 : ℚ → String}

/-- The components of a reachable state reach their states on their own, and the router's
invariant holds. -/
theorem ServerReachable.components {s : Server} (hs : ServerReachable parsePubkey formatFixed2 s) :
    Reachable parsePubkey s.app ∧ MigrationReachable s.migrationManager ∧ ServerInv s := by
  induction hs with
  | new => exact ⟨.new, .new, .new⟩
  | step ev _ hf ih =>
    obtain ⟨ha, hm, hi⟩ := ih
    refine ⟨?_, ?_, hi.apply ev⟩
    · rw [app_apply]
      split
      · exact .serve _ ha hf
      · exact ha
    · rw [migrationManager_apply]
      split
      · exact .step _ hm hf
      · exact .step _ hm trivial
      · exact .step _ hm trivial
      · exact hm

/-- **The whole service is made of its components.**  Every state the service reaches, over any
interleaving of requests to its routes drawing fresh identifiers with the steps of the migration
tasks and the iterations of the monitor tasks, is made of a state the upgrade service reaches on
its own and a state the migration manager reaches on its own.  Every migration job the router
started counts no account, since `identify_accounts_to_migrate` returns none, and every monitor
task still holds a new service. -/
theorem server_components_reachable {s : Server} (hs : ServerReachable parsePubkey formatFixed2 s) :
    Reachable parsePubkey s.app ∧ MigrationReachable s.migrationManager ∧
      (∀ j ∈ s.migrationManager.migrations,
        j.totalAccounts = 0 ∧ j.migratedAccounts = 0 ∧ j.failedAccounts = 0) ∧
      ∀ t ∈ s.monitorTasks, t = .new :=
  have h := hs.components
  ⟨h.1, h.2.1, h.2.2.migration.jobs, h.2.2.monitors⟩

/-- A run of the whole service: a proposal, a migration started and the one step of its task,
and a metrics request whose monitor task then iterates. -/
def serverRun : List ServerEvent :=
  [.request (.upgrade (.proposeUpgrade 1700000000 "A" "B" testRequest)),
    .request (.startMigration 1700000001 "M"), .migrationTask "M" (.ok ()) 1700000002,
    .request (.getMetrics 1700000003 [1700000003] [] []), .monitorTick 0 1700000063]

theorem reachable_serverRun :
    ServerReachable parsePubkeyText (fun _ => "0.00")
      (ServerEvent.run parsePubkeyText (fun _ => "0.00") .new serverRun) := by
  simp only [ServerEvent.run, serverRun, List.foldl]
  exact .step _ (.step _ (.step _ (.step _ (.step _ .new (by decide)) (by decide)) trivial) trivial)
    trivial

/-- After `serverRun` the upgrade components and the migration manager are reachable on their
own, the migration job has counted no account, and the monitor task holds a new service. -/
theorem server_components_serverRun :
    Reachable parsePubkeyText
        (ServerEvent.run parsePubkeyText (fun _ => "0.00") .new serverRun).app ∧
      MigrationReachable
        (ServerEvent.run parsePubkeyText (fun _ => "0.00") .new serverRun).migrationManager ∧
      (0 = 0 ∧ 0 = 0 ∧ 0 = 0) ∧
      ∃ t ∈ (ServerEvent.run parsePubkeyText (fun _ => "0.00") .new serverRun).monitorTasks, t = .new :=
  have h := server_components_reachable reachable_serverRun
  ⟨h.1, h.2.1, h.2.2.1 ⟨"M", 0, 0, 0, .completed, 1700000001, some 1700000002⟩ (by decide),
    _, List.mem_singleton_self _, h.2.2.2 _ (List.mem_singleton_self _)⟩

end Reachable

end Backend

end UpgradeGovernance
