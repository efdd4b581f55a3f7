import Ambassador.Value
import Ambassador.Dict
import Ambassador.Decimal
import Ambassador.Fetcher
import Ambassador.Process
import Ambassador.Handlers
import Ambassador.Finalize
import Ambassador.Sources
import Ambassador.Ordinals
import Ambassador.Keys
import Ambassador.Filter
import Ambassador.Resolve
import Ambassador.Returns
import Ambassador.Location
import Ambassador.Exceptions
import Ambassador.Calls
import Ambassador.AppendOnly
import Ambassador.Refinalize
import Ambassador.Kinds
import Ambassador.Stack
import Ambassador.Decoders
import Ambassador.Pipeline
import Ambassador.Batches
