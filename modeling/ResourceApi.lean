import ResourceApi.Graph.Catalog
import ResourceApi.Session.Run
import ResourceApi.Proofs.Success
import ResourceApi.Proofs.Reference
import ResourceApi.Proofs.Closure
import ResourceApi.Proofs.Binding
import ResourceApi.Proofs.Legality
import ResourceApi.Proofs.Comments
import ResourceApi.Proofs.RequestOrder
import ResourceApi.Proofs.Influence
import ResourceApi.Proofs.NestedVariable
import ResourceApi.Proofs.Residue
import ResourceApi.Proofs.Blame
import ResourceApi.Proofs.Failure
import ResourceApi.Proofs.Clash
import ResourceApi.Proofs.Precedence
import ResourceApi.Proofs.Routes
import ResourceApi.Proofs.Decoding
import ResourceApi.Proofs.Growth
import ResourceApi.Proofs.Cycle
import ResourceApi.Proofs.Paths
import ResourceApi.Proofs.CommentPlaces
import ResourceApi.Proofs.FieldName
import ResourceApi.Proofs.ImportOrder
import ResourceApi.Proofs.NormalForm
import ResourceApi.Proofs.TypeName
import ResourceApi.Proofs.Acceptance
import ResourceApi.Proofs.MissingType
