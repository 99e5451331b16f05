import ReleaseArtifacts.Formula.Render
import ReleaseArtifacts.Icons.Resize
import ReleaseArtifacts.Main
import ReleaseArtifacts.Profile.Read
import ReleaseArtifacts.Proofs.Formula.Lines
import ReleaseArtifacts.Proofs.Template.Literal
import ReleaseArtifacts.Proofs.Template.Printing
import ReleaseArtifacts.Proofs.Formula.Statements
import ReleaseArtifacts.Proofs.Formula.Arguments
import ReleaseArtifacts.Proofs.Formula.Openings
import ReleaseArtifacts.Proofs.Formula.Recovery
import ReleaseArtifacts.Proofs.Formula.ReleaseLines
import ReleaseArtifacts.Proofs.Formula.Completeness
import ReleaseArtifacts.Proofs.Formula.Interpolation
import ReleaseArtifacts.Proofs.Formula.Width
import ReleaseArtifacts.Proofs.Icons.Outputs
import ReleaseArtifacts.Proofs.Icons.Repeating
import ReleaseArtifacts.Proofs.Formula.Writing
import ReleaseArtifacts.Proofs.Formula.Agreement
import ReleaseArtifacts.Proofs.FileSystem.Commuting
import ReleaseArtifacts.Proofs.Icons.Resizing
import ReleaseArtifacts.Proofs.CommandLine.Running
import ReleaseArtifacts.Proofs.FileSystem.Refusing
import ReleaseArtifacts.Proofs.FileSystem.Leftovers
import ReleaseArtifacts.Proofs.Formula.Listing
import ReleaseArtifacts.Proofs.Formula.Mentions
import ReleaseArtifacts.Proofs.Formula.Independence
import ReleaseArtifacts.Proofs.Formula.Concatenation
import ReleaseArtifacts.Proofs.Profile.Reporting
import ReleaseArtifacts.Proofs.Formula.Columns
import ReleaseArtifacts.Proofs.Icons.Sizes
import ReleaseArtifacts.Proofs.Icons.Channels
import ReleaseArtifacts.Proofs.FileSystem.Looking
import ReleaseArtifacts.Proofs.Icons.Paths
import ReleaseArtifacts.Proofs.Formula.ReadingArguments
import ReleaseArtifacts.Proofs.Formula.ReadingReferences
