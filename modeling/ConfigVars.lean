import ConfigVars.Main
import ConfigVars.Value.ProblemDetails
import ConfigVars.Program.Backup
import ConfigVars.Proofs.LetterCase
import ConfigVars.Proofs.Sound
import ConfigVars.Proofs.Alike
import ConfigVars.Proofs.Reading
import ConfigVars.Proofs.Session
import ConfigVars.Proofs.Invariant
import ConfigVars.Proofs.AliasHops
import ConfigVars.Proofs.Acceptance
import ConfigVars.Proofs.Triggers
import ConfigVars.Proofs.Spelling
import ConfigVars.Proofs.Account
import ConfigVars.Proofs.FlagAccount
import ConfigVars.Proofs.Continuation
import ConfigVars.Proofs.LineAccount
import ConfigVars.Proofs.GivenOptions
import ConfigVars.Proofs.Oblivious
import ConfigVars.Proofs.SameEnd
import ConfigVars.Proofs.Refusal
import ConfigVars.Proofs.Agreement
import ConfigVars.Proofs.Lockstep
import ConfigVars.Proofs.Orthography
import ConfigVars.Proofs.NamedOptions
import ConfigVars.Proofs.InStep
import ConfigVars.Proofs.ReadingInStep
import ConfigVars.Proofs.Request
import ConfigVars.Proofs.Sink
import ConfigVars.Proofs.Capture
import ConfigVars.Proofs.Respelling
import ConfigVars.Proofs.Independence
import ConfigVars.Proofs.Layers
import ConfigVars.Proofs.Reference
import ConfigVars.Proofs.Template
import ConfigVars.Proofs.Conclusion
import ConfigVars.Proofs.Renumbering
import ConfigVars.Proofs.Remark
import ConfigVars.Proofs.Concatenation
import ConfigVars.Proofs.Interruption
import ConfigVars.Proofs.Encoding
import ConfigVars.Proofs.TextFile
import ConfigVars.Proofs.EndMarker
import ConfigVars.Proofs.Declaring
import ConfigVars.Proofs.Redeclaring
import ConfigVars.Proofs.Precedence
import ConfigVars.Proofs.RecordReading
import ConfigVars.Proofs.Isolation
import ConfigVars.Proofs.DigitText
import ConfigVars.Proofs.FlagValues
import ConfigVars.Proofs.StandIn
import ConfigVars.Proofs.Choosing
import ConfigVars.Proofs.BackupRun
import ConfigVars.Proofs.LineHook
import ConfigVars.Proofs.SettingsForms
import ConfigVars.Proofs.Grouping
import ConfigVars.Proofs.LinePattern
import ConfigVars.Proofs.SortedOptions
