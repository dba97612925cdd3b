import Provision.Main
import Provision.Run.Scripted
import Provision.Host.Programs.Act
import Provision.Host.Programs.Options
import Provision.Host.Programs.System
import Provision.Host.Programs.Program
import Provision.Host.Utilities.Numerals
import Provision.Host.Utilities.Printf
import Provision.Host.Utilities.Condition
import Provision.Host.Utilities.Permissions
import Provision.Host.Shell.Syntax
import Provision.Host.Matching.CharacterClass
import Provision.Host.Matching.Regex
import Provision.Host.Matching.RegexSyntax
import Provision.Host.Shell.Pattern
import Provision.Host.Shell.Reader
import Provision.Host.Shell.Words
import Provision.Host.Shell.Tokens
import Provision.Host.Shell.Grammar
import Provision.Host.Shell.State
import Provision.Host.Shell.Variables
import Provision.Host.Shell.Arithmetic
import Provision.Host.Shell.Expand
import Provision.Host.Shell.Fields
import Provision.Host.Shell.Assign
import Provision.Host.Shell.Redirect
import Provision.Host.Shell.Session
import Provision.Host.Shell.Launch
import Provision.Host.Shell.Call
import Provision.Host.Shell.Builtins.Basic
import Provision.Host.Shell.Builtins.Control
import Provision.Host.Shell.Builtins.Naming
import Provision.Host.Shell.Options
import Provision.Host.Shell.Builtins.Options
import Provision.Host.Shell.Builtins.Declare
import Provision.Host.Shell.Builtins.Input
import Provision.Host.Shell.Builtins.Directory
import Provision.Host.Shell.Builtins.Signals
import Provision.Host.Shell.Builtins.Output
import Provision.Host.Shell.Builtins.Table
import Provision.Host.Shell.Run
import Provision.Host.Shell.Start
import Provision.Host.Rearrange
import Provision.Host.Utilities.Print
import Provision.Host.Utilities.Concatenate
import Provision.Host.Utilities.Lines
import Provision.Host.Utilities.Files
import Provision.Host.Utilities.Listing
import Provision.Host.Utilities.Processes
import Provision.Host.Utilities.Calculate
import Provision.Host.Utilities.Search
import Provision.Host.Utilities.EditScript
import Provision.Host.Utilities.Edit
import Provision.Host.Utilities.Compare
import Provision.Host.Utilities.Find
import Provision.Host.Utilities.Table
import Provision.Host.Programs.Runner
import Provision.Proofs.Text.Cuts
import Provision.Proofs.Text.Occurrences
import Provision.Proofs.Text.Pieces
import Provision.Proofs.Descriptor.States
import Provision.Proofs.Descriptor.Words
import Provision.Proofs.Descriptor.Seams
import Provision.Proofs.Descriptor.Groups
import Provision.Proofs.Unicode.LetterCase
import Provision.Proofs.Descriptor.Calls
import Provision.Proofs.Descriptor.Excision
import Provision.Proofs.Descriptor.Insertion
import Provision.Proofs.Descriptor.BlockReading
import Provision.Proofs.Descriptor.Idempotence
import Provision.Proofs.Descriptor.Preservation
import Provision.Proofs.Descriptor.Transparency
import Provision.Proofs.Descriptor.Placement
import Provision.Proofs.Encoding.Utf8
import Provision.Proofs.Encoding.Utf16
import Provision.Proofs.Descriptor.Decoding
import Provision.Proofs.Descriptor.Reencoding
import Provision.Proofs.Disk.Nodes
import Provision.Proofs.Disk.Walks
import Provision.Proofs.Disk.Files
import Provision.Proofs.Disk.Replacement
import Provision.Proofs.Disk.Trees
import Provision.Proofs.Run.Steps
import Provision.Proofs.Descriptor.Replacing
import Provision.Proofs.Descriptor.Applying
import Provision.Proofs.Descriptor.Rereading
import Provision.Proofs.Descriptor.Repatching
import Provision.Proofs.Environment.Snapshots
import Provision.Proofs.Environment.Deltas
import Provision.Proofs.Environment.Activation
import Provision.Proofs.Environment.SearchLists
import Provision.Proofs.Environment.PathEdits
import Provision.Proofs.Environment.Dumps
import Provision.Proofs.Text.Words
import Provision.Proofs.Names
import Provision.Proofs.Version.Newest
import Provision.Proofs.Version.Listing
import Provision.Proofs.Version.Reading
import Provision.Proofs.Version.Layouts
import Provision.Proofs.Unicode.Sigma
import Provision.Proofs.Run.Dialogue
import Provision.Proofs.Qt.Selection
import Provision.Proofs.Qt.Stages
import Provision.Proofs.Qt.Resolution
import Provision.Proofs.Run.Course
import Provision.Proofs.Toolchain.Outcomes
import Provision.Proofs.Toolchain.Reactivation
import Provision.Proofs.Toolchain.Preference
import Provision.Proofs.Provisioning.Sessions
import Provision.Proofs.Provisioning.Probes
import Provision.Proofs.Provisioning.CompilerProbes
import Provision.Proofs.Provisioning.Installers
import Provision.Proofs.Provisioning.Installs
import Provision.Proofs.Provisioning.Steps
import Provision.Proofs.Provisioning.Runs
import Provision.Proofs.Provisioning.Discipline
import Provision.Proofs.Provisioning.QtProbes
import Provision.Proofs.Provisioning.InstalledQt
import Provision.Proofs.Provisioning.PackageLists
import Provision.Proofs.Provisioning.EnvironmentFrame
import Provision.Proofs.Provisioning.Profiles
import Provision.Proofs.LaunchScript.Quoting
import Provision.Proofs.LaunchScript.Lines
import Provision.Proofs.LaunchScript.Interpolation
import Provision.Proofs.LaunchScript.Blocks
import Provision.Proofs.Descriptor.Balance
import Provision.Proofs.Descriptor.Outermost
import Provision.Proofs.Descriptor.Offsets
import Provision.Proofs.Command
