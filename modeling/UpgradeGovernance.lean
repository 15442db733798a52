import UpgradeGovernance.Rust
import UpgradeGovernance.Chain.Accounts
import UpgradeGovernance.Chain.Program
import UpgradeGovernance.Chain.Invariants
import UpgradeGovernance.Chain.Safety
import UpgradeGovernance.Chain.Space
import UpgradeGovernance.Chain.Approvals
import UpgradeGovernance.Backend.Effects
import UpgradeGovernance.Backend.Components
import UpgradeGovernance.Backend.Service
import UpgradeGovernance.Backend.Properties
import UpgradeGovernance.Backend.Security
import UpgradeGovernance.Backend.Lifecycle
import UpgradeGovernance.Backend.Migration
import UpgradeGovernance.Backend.Timelock
import UpgradeGovernance.Backend.Monitoring
import UpgradeGovernance.Backend.Server
