import Portrayal.Main
import Portrayal.Proofs.Course
import Portrayal.Proofs.Drawing
import Portrayal.Proofs.Reachable
import Portrayal.Proofs.Appearance
import Portrayal.Proofs.Redraw
import Portrayal.Proofs.Drafts
import Portrayal.Proofs.Rejection
import Portrayal.Proofs.Loading
import Portrayal.Proofs.Preparation
import Portrayal.Proofs.Shapes
import Portrayal.Proofs.Attribution
import Portrayal.Proofs.Isolation
import Portrayal.Proofs.Journal
import Portrayal.Proofs.Repetition
import Portrayal.Proofs.Cells
import Portrayal.Proofs.Precedence
import Portrayal.Proofs.Completion
import Portrayal.Proofs.LoadedScene
import Portrayal.Proofs.LoadedHighlight
import Portrayal.Proofs.Spotlight
import Portrayal.Proofs.FontSizes
import Portrayal.Proofs.Painting
import Portrayal.Proofs.PercentCoding
import Portrayal.Proofs.Addresses
import Portrayal.Proofs.Demise
import Portrayal.Proofs.LayerNames
import Portrayal.Proofs.Upkeep
import Portrayal.Proofs.Frame
import Portrayal.Proofs.Numbering
import Portrayal.Proofs.LoadFaults
import Portrayal.Proofs.Announcements
import Portrayal.Proofs.PaintOrder
import Portrayal.Proofs.Clearing
import Portrayal.Proofs.QueryText
import Portrayal.Proofs.Tokens
import Portrayal.Proofs.Members
import Portrayal.Proofs.StyleDocuments
import Portrayal.Proofs.Pixels
import Portrayal.Proofs.Tiles
import Portrayal.Proofs.Fallbacks
import Portrayal.Proofs.Alignment
import Portrayal.Proofs.ColorForms
import Portrayal.Proofs.Endpoints
import Portrayal.Proofs.LastWrites
import Portrayal.Proofs.OwnFeatures
import Portrayal.Proofs.Admission
import Portrayal.Proofs.FillBitmaps
import Portrayal.Proofs.Insertion
import Portrayal.Proofs.Records
import Portrayal.Proofs.SceneFormat
import Portrayal.Proofs.EqualStyles
import Portrayal.Proofs.Wrappers
