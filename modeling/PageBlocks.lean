import PageBlocks.Dom.Path
import PageBlocks.Main
import PageBlocks.Proofs.Import.Cleanup
import PageBlocks.Proofs.Import.Trees
import PageBlocks.Proofs.Import.Placement
import PageBlocks.Proofs.Rule.Builder
import PageBlocks.Proofs.Json.Numeral
import PageBlocks.Proofs.Text.Utf8
import PageBlocks.Proofs.Json.Decimal
import PageBlocks.Proofs.Json.Content
import PageBlocks.Proofs.Json.Reread
import PageBlocks.Proofs.Json.Rendered
import PageBlocks.Proofs.Rule.Written
import PageBlocks.Proofs.Store.RoundTrip
import PageBlocks.Proofs.Command.Session
import PageBlocks.Proofs.Cell.Faults
import PageBlocks.Proofs.Strategy.Faults
import PageBlocks.Proofs.Import.Faults
import PageBlocks.Proofs.Rule.Calls
import PageBlocks.Proofs.Json.Rounding
import PageBlocks.Proofs.Json.Shortest
import PageBlocks.Proofs.Json.Rounded
import PageBlocks.Proofs.Store.Folder
import PageBlocks.Proofs.Store.Map
import PageBlocks.Proofs.Dom.Cleared
import PageBlocks.Proofs.Dom.Trunk
import PageBlocks.Proofs.Selector.Pruned
import PageBlocks.Proofs.Selector.Leafless
import PageBlocks.Proofs.Import.Order
import PageBlocks.Proofs.Store.Sites
import PageBlocks.Proofs.Store.Listing
import PageBlocks.Proofs.Cell.Pieces
import PageBlocks.Proofs.Cell.Container
import PageBlocks.Proofs.Cell.Fields
import PageBlocks.Proofs.Dom.Tags
import PageBlocks.Proofs.Html.Names
import PageBlocks.Proofs.Html.Harmless
import PageBlocks.Proofs.Html.Spelling
import PageBlocks.Proofs.Html.SafeMarkup
import PageBlocks.Proofs.Html.Operations
import PageBlocks.Proofs.Html.Construction
import PageBlocks.Proofs.Sanitize.Address
import PageBlocks.Proofs.Sanitize.Pruned
import PageBlocks.Proofs.Sanitize.Written
import PageBlocks.Proofs.Cell.Template
import PageBlocks.Proofs.Cell.Shared
import PageBlocks.Proofs.Dom.Build
import PageBlocks.Proofs.Import.Exchange
import PageBlocks.Proofs.Block.Table
import PageBlocks.Proofs.Import.Turns
import PageBlocks.Proofs.Import.Ends
import PageBlocks.Proofs.Dom.Ancestor
import PageBlocks.Proofs.Strategy.Freed
import PageBlocks.Proofs.Strategy.Groups
import PageBlocks.Proofs.Strategy.Slides
import PageBlocks.Proofs.Cell.Selected
import PageBlocks.Proofs.Cell.Rows
import PageBlocks.Proofs.Selector.Ending
import PageBlocks.Proofs.Cell.Attribute
import PageBlocks.Proofs.Html.AsWritten
import PageBlocks.Proofs.Sanitize.Emphasis
import PageBlocks.Proofs.Url.Slug
import PageBlocks.Proofs.Cell.Segments
import PageBlocks.Proofs.Cell.Markers
import PageBlocks.Proofs.Import.Literal
import PageBlocks.Proofs.Url.Twice
import PageBlocks.Proofs.Rule.Exact
import PageBlocks.Proofs.Calendar.Told
import PageBlocks.Proofs.Charset.Readable
import PageBlocks.Proofs.Charset.Declaration
import PageBlocks.Proofs.Block.Name
import PageBlocks.Proofs.Import.Style
