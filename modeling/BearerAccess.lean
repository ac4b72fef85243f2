import BearerAccess.Event
import BearerAccess.Json.Encoded
import BearerAccess.Json.Shown
import BearerAccess.Json.Writer
import BearerAccess.Main
import BearerAccess.Number.Shortest
import BearerAccess.Proofs.Checks
import BearerAccess.Proofs.Creation
import BearerAccess.Proofs.Deadline
import BearerAccess.Proofs.Discretion
import BearerAccess.Proofs.Duplicate
import BearerAccess.Proofs.Entry
import BearerAccess.Proofs.Expired
import BearerAccess.Proofs.Failing
import BearerAccess.Proofs.Founding
import BearerAccess.Proofs.Health
import BearerAccess.Proofs.Listing
import BearerAccess.Proofs.Liveness
import BearerAccess.Proofs.Opacity
import BearerAccess.Proofs.Order
import BearerAccess.Proofs.Ownership
import BearerAccess.Proofs.Presentation
import BearerAccess.Proofs.Rendering
import BearerAccess.Proofs.Representation
import BearerAccess.Proofs.Reread
import BearerAccess.Proofs.Serial
import BearerAccess.Proofs.Timeline
import BearerAccess.Proofs.Times
import BearerAccess.Proofs.Traceless
import BearerAccess.Proofs.Unmasked
import BearerAccess.Proofs.Views
