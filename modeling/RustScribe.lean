import RustScribe.Main
import RustScribe.Session
import RustScribe.Version
import RustScribe.Proofs.Arguments
import RustScribe.Proofs.Listing
import RustScribe.Proofs.Reception
import RustScribe.Proofs.Account
import RustScribe.Proofs.Balance
import RustScribe.Proofs.SessionBalance
import RustScribe.Proofs.BraceDepth
import RustScribe.Proofs.Indentation
import RustScribe.Proofs.Residue
import RustScribe.Proofs.Commenting
import RustScribe.Proofs.Framing
import RustScribe.Proofs.WholeLines
import RustScribe.Proofs.EncodedSinks
import RustScribe.Proofs.Publishing
import RustScribe.Proofs.Handover
import RustScribe.Proofs.WaysOut
import RustScribe.Proofs.PrevailingVersion
import RustScribe.Proofs.TrailingComments
import RustScribe.Proofs.Unquoting
import RustScribe.Proofs.Messages
import RustScribe.Proofs.BlankLines
import RustScribe.Proofs.PackageNames
import RustScribe.Proofs.Utf8Refusal
import RustScribe.Proofs.TextFiles
import RustScribe.Proofs.DepthReading
import RustScribe.Proofs.ItemWrites
import RustScribe.Proofs.BlockComments
import RustScribe.Proofs.WireLookups
import RustScribe.Proofs.Layout
