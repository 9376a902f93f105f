import StatusRollup.Config.Load
import StatusRollup.Json.Writer
import StatusRollup.Session
import StatusRollup.Settings.Shown
import StatusRollup.Wire.Config
import StatusRollup.Proofs.Quiescence
import StatusRollup.Proofs.Times
import StatusRollup.Proofs.Provenance
import StatusRollup.Proofs.Ledger
import StatusRollup.Proofs.Reachability
import StatusRollup.Proofs.Visible
import StatusRollup.Proofs.Timestamps
import StatusRollup.Proofs.JsonText
import StatusRollup.Proofs.Slots
import StatusRollup.Proofs.Pruning
import StatusRollup.Proofs.WireForms
import StatusRollup.Proofs.Layers
import StatusRollup.Proofs.Reading
import StatusRollup.Proofs.Loading
import StatusRollup.Proofs.Overrides
import StatusRollup.Proofs.Categories
import StatusRollup.Proofs.Spelling
import StatusRollup.Proofs.Holds
import StatusRollup.Proofs.Arrangement
import StatusRollup.Proofs.Commutation
import StatusRollup.Proofs.Wording
import StatusRollup.Proofs.RelatedSets
import StatusRollup.Proofs.Publication
import StatusRollup.Proofs.Policies
import StatusRollup.Proofs.Sorting
