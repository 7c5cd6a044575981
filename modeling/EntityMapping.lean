import EntityMapping.Attribute.Money
import EntityMapping.Attribute.Motto
import EntityMapping.Conversion.KeyValue
import EntityMapping.Conversion.Vertex
import EntityMapping.Template
import EntityMapping.Proofs.Query.Meaning
import EntityMapping.Proofs.Schema.Composite
import EntityMapping.Proofs.Store.Deletion
import EntityMapping.Proofs.Conversion.Records
import EntityMapping.Proofs.Conversion.Index
import EntityMapping.Proofs.Conversion.Filling
import EntityMapping.Proofs.Template.Variants
import EntityMapping.Proofs.Template.MissingId
import EntityMapping.Proofs.Template.ReadBack
import EntityMapping.Proofs.Registry.Lookups
import EntityMapping.Proofs.Conversion.Discriminator
import EntityMapping.Proofs.Registry.Termination
import EntityMapping.Proofs.Template.Workflow
import EntityMapping.Proofs.Template.Partition
import EntityMapping.Proofs.Conversion.Forms
import EntityMapping.Proofs.Conversion.Ending
import EntityMapping.Proofs.Schema.Acceptance
import EntityMapping.Proofs.Conversion.Keeping
import EntityMapping.Proofs.Conversion.Distinct
import EntityMapping.Proofs.Instance.Arguments
import EntityMapping.Proofs.Instance.Shaped
import EntityMapping.Proofs.Conversion.Misfires
import EntityMapping.Proofs.Conversion.Shedding
import EntityMapping.Proofs.Conversion.Restored
import EntityMapping.Proofs.Conversion.Unset
import EntityMapping.Proofs.Store.Sorting
import EntityMapping.Proofs.Store.Scanning
import EntityMapping.Proofs.Query.Composition
import EntityMapping.Proofs.Like.Description
import EntityMapping.Proofs.AttributeType.Storage
import EntityMapping.Proofs.AttributeType.Narrowing
import EntityMapping.Proofs.Query.Narrowing
import EntityMapping.Proofs.Value.Equivalence
import EntityMapping.Proofs.Value.Comparison
import EntityMapping.Proofs.Record.History
import EntityMapping.Proofs.Number.Nearness
import EntityMapping.Proofs.Value.Numbers
import EntityMapping.Proofs.Value.Json
import EntityMapping.Proofs.Template.Asking
