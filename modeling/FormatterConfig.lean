import FormatterConfig.File.Workspace
import FormatterConfig.Log.Setup
import FormatterConfig.Log.Terminal
import FormatterConfig.Project.Tasks
import FormatterConfig.Project.Versions
import FormatterConfig.RunConfig.Load
import FormatterConfig.RunConfig.Staged
import FormatterConfig.Settings.Starter
import FormatterConfig.Settings.View
import FormatterConfig.Proofs.ConfigFile.Contents
import FormatterConfig.Proofs.ConfigFile.Reading
import FormatterConfig.Proofs.ConfigFile.Refusal
import FormatterConfig.Proofs.ConfigFile.RoundTrip
import FormatterConfig.Proofs.Discovery.Chain
import FormatterConfig.Proofs.Discovery.Load
import FormatterConfig.Proofs.Discovery.Search
import FormatterConfig.Proofs.Fixity.Rendering
import FormatterConfig.Proofs.Fixity.Table
import FormatterConfig.Proofs.Fixity.Writing
import FormatterConfig.Proofs.Log.Environment
import FormatterConfig.Proofs.RunConfig.Errors
import FormatterConfig.Proofs.RunConfig.Layering
import FormatterConfig.Proofs.RunConfig.Loading
import FormatterConfig.Proofs.RunConfig.Margins
import FormatterConfig.Proofs.RunConfig.Stages
import FormatterConfig.Proofs.RunConfig.Writing
import FormatterConfig.Proofs.Settings.Runs
import FormatterConfig.Proofs.Text.Lines
import FormatterConfig.Proofs.Value.Canonical
import FormatterConfig.Proofs.Value.Lookup
import FormatterConfig.Proofs.Value.Overlay
import FormatterConfig.Proofs.Fixity.Refusal
import FormatterConfig.Proofs.Fixity.Continuation
import FormatterConfig.Proofs.Fixity.Location
import FormatterConfig.Proofs.ConfigFile.Redeclaration
import FormatterConfig.Proofs.ConfigFile.LongPrecedence
import FormatterConfig.Proofs.Settings.Arguments
import FormatterConfig.Proofs.Settings.Documents
import FormatterConfig.Proofs.Settings.Grouping
import FormatterConfig.Proofs.Settings.Restriction
import FormatterConfig.Proofs.Project.Classifiers
import FormatterConfig.Proofs.Project.Support
