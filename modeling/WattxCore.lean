import WattxCore.Prelude.StdMap
import WattxCore.Prelude.Primitives
import WattxCore.Validators.ValidatorDB
import WattxCore.Validators.Delegation
import WattxCore.Validators.Ledger
import WattxCore.Validators.Lifecycle
import WattxCore.Validators.Indices
import WattxCore.Validators.Aggregates
import WattxCore.Validators.Refusals
import WattxCore.Validators.Rewards
import WattxCore.Validators.RewardSplit
import WattxCore.Validators.Authorization
import WattxCore.Validators.Persistence
import WattxCore.Validators.Outpoints
import WattxCore.Validators.DelegationLifecycle
import WattxCore.Validators.Undelegation
import WattxCore.Trust.TrustScore
import WattxCore.Trust.HeartbeatManager
import WattxCore.Trust.Uptime
import WattxCore.Trust.Authentication
import WattxCore.Trust.Node
import WattxCore.Trust.Replay
import WattxCore.Trust.AutoPeers
import WattxCore.Trust.Address
import WattxCore.Trust.Wire
import WattxCore.Trust.PeerFile
import WattxCore.Trust.Roster
import WattxCore.Trust.Sync
import WattxCore.Concurrency.Locks
import WattxCore.Concurrency.Broadcast
import WattxCore.Trust.Announce
import WattxCore.Dex.Checked
import WattxCore.Dex.Pool
import WattxCore.Dex.SimpleDEX
import WattxCore.Dex.WATTxSwap
import WattxCore.Dex.ConstantProduct
import WattxCore.Dex.TinyDEX
import WattxCore.Dex.Rounding
import WattxCore.Rpc.Wallet
import WattxCore.Rpc.Claims
import WattxCore.Rpc.Node
import WattxCore.Rpc.Views
