import ApiPages.Main
import ApiPages.Proofs.Signature.Spelling
import ApiPages.Proofs.Signature.Step
import ApiPages.Proofs.Signature.Accepted
import ApiPages.Proofs.Signature.Readable
import ApiPages.Proofs.Signature.Documented
import ApiPages.Proofs.Signature.Limit
import ApiPages.Proofs.Signature.Acceptance
import ApiPages.Proofs.Signature.Accounting
import ApiPages.Proofs.Signature.Rendering
import ApiPages.Proofs.Declaration.Modifiers
import ApiPages.Proofs.Signature.RoundTrip
import ApiPages.Proofs.Declaration.QualifiedName
import ApiPages.Proofs.Forest.Collection
import ApiPages.Proofs.Forest.Assembly
import ApiPages.Proofs.Signature.Unlimited
import ApiPages.Proofs.Header.Declaration
import ApiPages.Proofs.Header.Supertypes
import ApiPages.Proofs.Member.WellFormed
import ApiPages.Proofs.Domain.Ascii
import ApiPages.Proofs.Link.Symbol
import ApiPages.Proofs.Member.Sections
import ApiPages.Proofs.Page
import ApiPages.Proofs.Library
import ApiPages.Proofs.Header.Rendering
import ApiPages.Proofs.Header.Clause
import ApiPages.Proofs.Header.RoundTrip
import ApiPages.Proofs.Signature.Balance
import ApiPages.Proofs.Signature.Attempts
import ApiPages.Proofs.Library.FirstFailure
import ApiPages.Proofs.Text.ByteOrder
import ApiPages.Proofs.Signature.OnePass
import ApiPages.Proofs.Forest.Order
import ApiPages.Proofs.Declaration.StoredModifiers
import ApiPages.Proofs.Json.Declaration
import ApiPages.Proofs.Documentation.Prose
import ApiPages.Proofs.Documentation.Tracer
import ApiPages.Proofs.Documentation.Repetition
import ApiPages.Proofs.Header.HiddenNames
import ApiPages.Proofs.Member.Constant
import ApiPages.Proofs.Failure
import ApiPages.Proofs.Member.Blocks
import ApiPages.Proofs.Page.Failures
import ApiPages.Proofs.Library.Failures
import ApiPages.Proofs.Header.OpenLists
import ApiPages.Proofs.Signature.Suffixes
import ApiPages.Proofs.Header.Interfaces
import ApiPages.Proofs.Site.FileTree
import ApiPages.Proofs.Library.Detection
import ApiPages.Proofs.Markup.Flattening
import ApiPages.Proofs.Declaration.EnclosingChain
import ApiPages.Proofs.Text.Squeezed
