import PolicyEditor.Json.Printer
import PolicyEditor.Main
import PolicyEditor.Proofs.Concatenation
import PolicyEditor.Proofs.Editing.Detached
import PolicyEditor.Proofs.Editing.Insertions
import PolicyEditor.Proofs.Editing.Removals
import PolicyEditor.Proofs.Editing.Reparsing
import PolicyEditor.Proofs.Grammar.Derivations
import PolicyEditor.Proofs.Grammar.Faults
import PolicyEditor.Proofs.Grammar.Scanning
import PolicyEditor.Proofs.Job.Address
import PolicyEditor.Proofs.Job.DirtyFiles
import PolicyEditor.Proofs.Job.Failures
import PolicyEditor.Proofs.Job.FileOrder
import PolicyEditor.Proofs.Job.HostAdditions
import PolicyEditor.Proofs.Job.Order
import PolicyEditor.Proofs.Job.Restoration
import PolicyEditor.Proofs.Job.Revisions
import PolicyEditor.Proofs.Job.RuleOrder
import PolicyEditor.Proofs.Job.Sequencing
import PolicyEditor.Proofs.Job.Servers
import PolicyEditor.Proofs.Layout.Containers
import PolicyEditor.Proofs.Layout.Describing
import PolicyEditor.Proofs.Repository.Descriptions
import PolicyEditor.Proofs.Repository.Moves
import PolicyEditor.Proofs.Run.Discovery
import PolicyEditor.Proofs.Run.Extent
