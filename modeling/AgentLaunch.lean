import AgentLaunch.Arguments
import AgentLaunch.Cloud.Client
import AgentLaunch.Cloud.Decryptor
import AgentLaunch.Configuration
import AgentLaunch.Document.Json
import AgentLaunch.Main
import AgentLaunch.Proofs.AgentCommand
import AgentLaunch.Proofs.Attempt.CallSequence
import AgentLaunch.Proofs.Attempt.Custody
import AgentLaunch.Proofs.Attempt.Deadline
import AgentLaunch.Proofs.Attempt.FailureReport
import AgentLaunch.Proofs.Attempt.FileFootprint
import AgentLaunch.Proofs.Attempt.OutputLines
import AgentLaunch.Proofs.Attempt.Password
import AgentLaunch.Proofs.Attempt.ProbeHistory
import AgentLaunch.Proofs.Attempt.SessionIdentity
import AgentLaunch.Proofs.Attempt.SessionOpening
import AgentLaunch.Proofs.Channel.RelayDelivery
import AgentLaunch.Proofs.Configuration.Defaults
import AgentLaunch.Proofs.Configuration.Validation
import AgentLaunch.Proofs.Ssh.Delivery
import AgentLaunch.Proofs.Ssh.ExitStatus
import AgentLaunch.Proofs.Ssh.SessionHistory
import AgentLaunch.Proofs.Ssh.UploadScript
import AgentLaunch.Proofs.Windows.CommandPrompt
import AgentLaunch.Proofs.Windows.EncodedCommand
import AgentLaunch.Proofs.Windows.SplittingRules
import AgentLaunch.Rehearsal.Console
import AgentLaunch.Rehearsal.Performance
import AgentLaunch.Rehearsal.Remote
import AgentLaunch.Rehearsal.Teardown
import AgentLaunch.Rehearsal.Toolbox
import AgentLaunch.Rehearsal.World
import AgentLaunch.Settings
import AgentLaunch.Ssh.Session
import AgentLaunch.Ssh.Streams
import AgentLaunch.Time.Rfc3339
import AgentLaunch.Windows.PowerShell
