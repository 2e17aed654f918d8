import RollupBridge.L1.Simulation
import RollupBridge.Files.Disk
import RollupBridge.Main
import RollupBridge.Proofs.L1.Run
import RollupBridge.Proofs.L1.Action
import RollupBridge.Proofs.Bootstrap.StateAction
import RollupBridge.Proofs.L1.Asks
import RollupBridge.Proofs.L1.Agreement
import RollupBridge.Proofs.L1.Recording
import RollupBridge.Proofs.Bootstrap.Plan
import RollupBridge.Proofs.Bootstrap.Sign
import RollupBridge.Proofs.Bootstrap.Course
import RollupBridge.Proofs.Bootstrap.Milestones
import RollupBridge.Proofs.Bootstrap.History
import RollupBridge.Proofs.Bootstrap.Retry
import RollupBridge.Proofs.Bootstrap.Verdict
import RollupBridge.Proofs.Bootstrap.Broadcast
import RollupBridge.Proofs.Bootstrap.Obstacles
import RollupBridge.Proofs.Bootstrap.Sending
import RollupBridge.Proofs.Bootstrap.Quotes
import RollupBridge.Proofs.Bootstrap.Contents
import RollupBridge.Proofs.Bootstrap.Value
import RollupBridge.Proofs.Bootstrap.Charge
import RollupBridge.Proofs.WethUpgrade
import RollupBridge.Proofs.Payment
import RollupBridge.Proofs.Merkle
import RollupBridge.Proofs.Withdrawal.Inclusion
import RollupBridge.Proofs.Checks
import RollupBridge.Proofs.L1.Reading
import RollupBridge.Proofs.L1.Replies
import RollupBridge.Proofs.Withdrawal.Exclusion
import RollupBridge.Proofs.Withdrawal.Preparation
import RollupBridge.Proofs.Withdrawal.Offline
import RollupBridge.Proofs.Deployment
import RollupBridge.Proofs.Counterpart
import RollupBridge.Proofs.Landing
import RollupBridge.Proofs.Bytes.Slice
import RollupBridge.Proofs.Withdrawal.Message
import RollupBridge.Proofs.Governance
import RollupBridge.Proofs.Node.Retry
import RollupBridge.Proofs.Bytes.Hex
import RollupBridge.Proofs.Json.Token
import RollupBridge.Proofs.Json.Compact
import RollupBridge.Proofs.Json.RoundTrip
import RollupBridge.Proofs.Merkle.Tree
import RollupBridge.Proofs.Abi.Standard
import RollupBridge.Proofs.PriorityTransaction
import RollupBridge.Proofs.Withdrawal.Finalization
import RollupBridge.Proofs.Fee
import RollupBridge.Proofs.Margin
import RollupBridge.Proofs.Bytecode
import RollupBridge.Proofs.Json.BytecodeHash
import RollupBridge.Proofs.LocalFee
import RollupBridge.Proofs.Rlp
import RollupBridge.Proofs.LocalEstimate
import RollupBridge.Proofs.Signing
import RollupBridge.Proofs.Json.WithdrawalProof
import RollupBridge.Proofs.Alias
import RollupBridge.Proofs.Text.Cut
import RollupBridge.Proofs.Text.Numeral
import RollupBridge.Proofs.GasPrice
import RollupBridge.Proofs.Files.Visit
import RollupBridge.Proofs.Artifact
import RollupBridge.Proofs.GasPrice.Product
