import MessageContracts.CallLog
import MessageContracts.Disk.FileTree
import MessageContracts.Main
import MessageContracts.Proofs.BreakStyle
import MessageContracts.Proofs.CanonicalSegments
import MessageContracts.Proofs.CosmeticLayout
import MessageContracts.Proofs.CutOutput
import MessageContracts.Proofs.LocalEmission
import MessageContracts.Proofs.LogicalLines
import MessageContracts.Proofs.ModelDocuments
import MessageContracts.Proofs.SettingsDocuments
import MessageContracts.Proofs.SourceLayout
import MessageContracts.Proofs.SourceReading
import MessageContracts.Proofs.StoppedPass
import MessageContracts.Proofs.TemplateGrammar
import MessageContracts.Proofs.UnseenInput
import MessageContracts.Proofs.Wrappers
import MessageContracts.Proofs.TableRecords
import MessageContracts.Proofs.WrittenDocuments
import MessageContracts.Proofs.WrittenTables
import MessageContracts.Proofs.ManifestDocuments
import MessageContracts.Proofs.AcceptedInputs
import MessageContracts.Proofs.SavedManifests
import MessageContracts.Proofs.JoinedTemplates
import MessageContracts.Proofs.TextCuts
import MessageContracts.Proofs.TemplateFaults
import MessageContracts.Proofs.SafeTemplates
import MessageContracts.Proofs.CheckedManifests
import MessageContracts.Proofs.VerbatimText
import MessageContracts.Proofs.JoinedWrites
import MessageContracts.Proofs.InterruptedWrites
import MessageContracts.Proofs.RelatedSinks
import MessageContracts.Proofs.ResumedLines
import MessageContracts.Proofs.FlushedDelivery
import MessageContracts.Proofs.SharedParameters
import MessageContracts.Proofs.AnnouncedPass
import MessageContracts.Proofs.DeadRules
