import AccessPolicy.Fault.Reader
import AccessPolicy.FunctionTable
import AccessPolicy.Main
import AccessPolicy.ModelBuilder
import AccessPolicy.Redaction.Basic
import AccessPolicy.Proofs.Condition
import AccessPolicy.Proofs.RuleTable
import AccessPolicy.Proofs.Hydration
import AccessPolicy.Proofs.Decision
import AccessPolicy.Proofs.Locality
import AccessPolicy.Proofs.Tightening
import AccessPolicy.Proofs.CommandLine.ExitCode
import AccessPolicy.Proofs.CallTrace
import AccessPolicy.Proofs.Requests
import AccessPolicy.Proofs.TableBuild
import AccessPolicy.Proofs.BuilderLife
import AccessPolicy.Proofs.Redaction.Fields
import AccessPolicy.Proofs.Redaction.Updates
import AccessPolicy.Proofs.Redaction.Disclosure
import AccessPolicy.Proofs.Redaction.Depth
import AccessPolicy.Proofs.Redaction.Alike
import AccessPolicy.Proofs.Redaction.Noninterference
import AccessPolicy.Proofs.Redaction.Frame
import AccessPolicy.Proofs.Redaction.Idempotence
import AccessPolicy.Proofs.Redaction.OneByOne
import AccessPolicy.Proofs.Redaction.Delegation
import AccessPolicy.Proofs.Redaction.Unloaded
import AccessPolicy.Proofs.Redaction.Callbacks
import AccessPolicy.Proofs.DocumentRules
import AccessPolicy.Proofs.Authoring
import AccessPolicy.Proofs.CheckModules
import AccessPolicy.Proofs.WrittenRules
import AccessPolicy.Proofs.CommandLine.Agreement
import AccessPolicy.Proofs.DuplicateRules
import AccessPolicy.Proofs.Redaction.PlainEntries
import AccessPolicy.Proofs.Redaction.Candidates
import AccessPolicy.Proofs.Redaction.Nesting
import AccessPolicy.Proofs.DuplicateChecks
import AccessPolicy.Proofs.Shorthand.Grammar
import AccessPolicy.Proofs.Shorthand.Hooks
import AccessPolicy.Proofs.HookChain
import AccessPolicy.Proofs.FilterFindings
import AccessPolicy.Proofs.AllowedRules
import AccessPolicy.Proofs.Registrations
import AccessPolicy.Proofs.Refusals
import AccessPolicy.Proofs.DocumentGrammar
import AccessPolicy.Proofs.MetadataSpellings
