import CommandTape.Main
import CommandTape.Proofs.Stopping
import CommandTape.Proofs.Fifo
import CommandTape.Proofs.Overflow
import CommandTape.Proofs.Lifo
import CommandTape.Proofs.Recording
import CommandTape.Proofs.Actions
import CommandTape.Proofs.Json.Literals
import CommandTape.Proofs.Json.Tokens
import CommandTape.Proofs.Json.Containers
import CommandTape.Proofs.Json.Documents
import CommandTape.Proofs.Json.Objects
import CommandTape.Proofs.RoundTrip
import CommandTape.Proofs.Text.Cuts
import CommandTape.Proofs.ListingGrammar
import CommandTape.Proofs.Damage
import CommandTape.Proofs.Extension
import CommandTape.Proofs.RecordPolicies
import CommandTape.Proofs.Replay
import CommandTape.Proofs.Outcomes
import CommandTape.Proofs.Operands
import CommandTape.Proofs.EngineKinds
import CommandTape.Proofs.Termination
import CommandTape.Proofs.Building
import CommandTape.Proofs.Text.Numerals
import CommandTape.Proofs.ListingStyles
import CommandTape.Proofs.DataFileStyles
import CommandTape.Proofs.Logs
import CommandTape.Proofs.OperandWords
import CommandTape.Proofs.Settings
import CommandTape.Proofs.Resolution
import CommandTape.Proofs.Toml.Integers
import CommandTape.Proofs.Toml.Lines
import CommandTape.Proofs.ConfigFiles
