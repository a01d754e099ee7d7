import BusContract.Interface.Data
import BusContract.Main
import BusContract.Shape.Definition
import BusContract.Shape.Instance
import BusContract.Signature.Grammar
import BusContract.Validation.Session
import BusContract.Proofs.Signature.Encoding
import BusContract.Proofs.Signature.Layout
import BusContract.Proofs.Validation.Names
import BusContract.Proofs.Validation.Verdict
import BusContract.Proofs.Shape.Parts
import BusContract.Proofs.Shape.Unfolding
import BusContract.Proofs.Shape.Nesting
import BusContract.Proofs.Shape.Recursion
import BusContract.Proofs.Validation.FieldLayout
import BusContract.Proofs.Lookup.Trees
import BusContract.Proofs.Validation.SettledConfig
import BusContract.Proofs.Workspace.Precedence
import BusContract.Proofs.CommandLine.Listing
import BusContract.Proofs.Shape.Keys
import BusContract.Proofs.Files.Places
import BusContract.Proofs.Files.WorkingDirectory
import BusContract.Proofs.Workspace.RelativeDirectory
import BusContract.Proofs.Lookup.Disambiguation
import BusContract.Proofs.Signature.Tolerance
import BusContract.Proofs.Signature.Depth
import BusContract.Proofs.Signature.Characters
import BusContract.Proofs.Interface.Records
import BusContract.Proofs.Files.Found
import BusContract.Proofs.Interface.Alike
import BusContract.Proofs.Files.OneStep
import BusContract.Proofs.Workspace.DirectoryOrder
import BusContract.Proofs.Workspace.DirectEntries
import BusContract.Proofs.Workspace.LoadFaults
import BusContract.Proofs.Workspace.ConfigFaults
import BusContract.Proofs.Workspace.XmlDirectory
import BusContract.Proofs.CommandLine.Endings
import BusContract.Proofs.Workspace.ConfigKeys
import BusContract.Proofs.Interface.Reproduced
import BusContract.Proofs.Shape.Budget
