import ProfileBindings.Main
import ProfileBindings.Session.Basic
import ProfileBindings.Proofs.Artifact.Agreement
import ProfileBindings.Proofs.Artifact.Meaning
import ProfileBindings.Proofs.Artifact.Names
import ProfileBindings.Proofs.Schema.Model
import ProfileBindings.Proofs.Command.Generate
import ProfileBindings.Proofs.Command.Validate
import ProfileBindings.Proofs.Enumerator.Scan
import ProfileBindings.Proofs.C.Escape
import ProfileBindings.Proofs.Artifact.Update
import ProfileBindings.Proofs.Artifact.Interruption
import ProfileBindings.Proofs.Artifact.Regeneration
import ProfileBindings.Proofs.Profile.History
import ProfileBindings.Proofs.Artifact.Banner
import ProfileBindings.Proofs.Profile.Fault
import ProfileBindings.Proofs.Check.Loss
import ProfileBindings.Proofs.Check.Collisions
import ProfileBindings.Proofs.Schema.Names
import ProfileBindings.Proofs.Artifact.Order
import ProfileBindings.Proofs.Decode.Change
import ProfileBindings.Proofs.Schema.Change
import ProfileBindings.Proofs.Config.Override
import ProfileBindings.Proofs.Check.Capacity
import ProfileBindings.Proofs.Check.Stems
