import SceneGrammar.Bindings
import SceneGrammar.Decimal.Basic
import SceneGrammar.Decimal.Binary
import SceneGrammar.Decimal.Layout
import SceneGrammar.Decimal.Shortest
import SceneGrammar.Derivation.Draw
import SceneGrammar.Derivation.Execute
import SceneGrammar.Derivation.Links
import SceneGrammar.Derivation.Place
import SceneGrammar.Derivation.Prepare
import SceneGrammar.Derivation.Run
import SceneGrammar.Derivation.State
import SceneGrammar.Fault
import SceneGrammar.Fault.Interchange
import SceneGrammar.Geometry.Interchange
import SceneGrammar.Geometry.Matrix4
import SceneGrammar.Geometry.Offset
import SceneGrammar.Geometry.Scalar
import SceneGrammar.Geometry.Vec3
import SceneGrammar.Grammar.Expr
import SceneGrammar.Grammar.Interchange
import SceneGrammar.Grammar.Literal
import SceneGrammar.Grammar.Rule
import SceneGrammar.Json.Basic
import SceneGrammar.Json.Printer
import SceneGrammar.Json.Reader
import SceneGrammar.Json.Record
import SceneGrammar.Pattern.Basic
import SceneGrammar.Pattern.Class
import SceneGrammar.Pattern.Machine
import SceneGrammar.Pattern.Machine.Basic
import SceneGrammar.Pattern.Machine.Encoding
import SceneGrammar.Pattern.Machine.Texts
import SceneGrammar.Pattern.Marked
import SceneGrammar.Pattern.Reader
import SceneGrammar.Pattern.Reader.Bracket
import SceneGrammar.Pattern.Reader.Escape
import SceneGrammar.Pattern.Reader.Opening
import SceneGrammar.Pattern.Reader.Switches
import SceneGrammar.Proofs.Bindings
import SceneGrammar.Proofs.Decimal.Range
import SceneGrammar.Proofs.Derivation.Addition
import SceneGrammar.Proofs.Derivation.Adjust
import SceneGrammar.Proofs.Derivation.Anchor
import SceneGrammar.Proofs.Derivation.Atomic
import SceneGrammar.Proofs.Derivation.Balance
import SceneGrammar.Proofs.Derivation.Calm
import SceneGrammar.Proofs.Derivation.Capture
import SceneGrammar.Proofs.Derivation.Chronicle
import SceneGrammar.Proofs.Derivation.Clearing
import SceneGrammar.Proofs.Derivation.Conduct
import SceneGrammar.Proofs.Derivation.Congruence
import SceneGrammar.Proofs.Derivation.Constant
import SceneGrammar.Proofs.Derivation.Creation
import SceneGrammar.Proofs.Derivation.Current
import SceneGrammar.Proofs.Derivation.Cut
import SceneGrammar.Proofs.Derivation.Depth
import SceneGrammar.Proofs.Derivation.Diary
import SceneGrammar.Proofs.Derivation.Directive
import SceneGrammar.Proofs.Derivation.Drawable
import SceneGrammar.Proofs.Derivation.Faults
import SceneGrammar.Proofs.Derivation.Foliage
import SceneGrammar.Proofs.Derivation.Freeze
import SceneGrammar.Proofs.Derivation.Gate
import SceneGrammar.Proofs.Derivation.Landing
import SceneGrammar.Proofs.Derivation.Leaf
import SceneGrammar.Proofs.Derivation.Links
import SceneGrammar.Proofs.Derivation.Meaning
import SceneGrammar.Proofs.Derivation.Nesting
import SceneGrammar.Proofs.Derivation.Outlook
import SceneGrammar.Proofs.Derivation.Pool
import SceneGrammar.Proofs.Derivation.Possible
import SceneGrammar.Proofs.Derivation.Regime
import SceneGrammar.Proofs.Derivation.Rejection
import SceneGrammar.Proofs.Derivation.Relaxed
import SceneGrammar.Proofs.Derivation.Request
import SceneGrammar.Proofs.Derivation.Resolve
import SceneGrammar.Proofs.Derivation.Resume
import SceneGrammar.Proofs.Derivation.Settle
import SceneGrammar.Proofs.Derivation.Shape
import SceneGrammar.Proofs.Derivation.Siblings
import SceneGrammar.Proofs.Derivation.Template
import SceneGrammar.Proofs.Derivation.Tidy
import SceneGrammar.Proofs.Derivation.Twin
import SceneGrammar.Proofs.Derivation.Twin.Execute
import SceneGrammar.Proofs.Derivation.Twin.Place
import SceneGrammar.Proofs.Derivation.Twin.Prepare
import SceneGrammar.Proofs.Derivation.Twin.Run
import SceneGrammar.Proofs.Derivation.Unroll
import SceneGrammar.Proofs.Derivation.Upholding
import SceneGrammar.Proofs.Derivation.Upright
import SceneGrammar.Proofs.Derivation.Validator
import SceneGrammar.Proofs.Derivation.Verdict
import SceneGrammar.Proofs.Derivation.View
import SceneGrammar.Proofs.Derivation.Whole
import SceneGrammar.Proofs.Geometry.Adjustment
import SceneGrammar.Proofs.Geometry.Affine
import SceneGrammar.Proofs.Geometry.Exact
import SceneGrammar.Proofs.Grammar.Defect
import SceneGrammar.Proofs.Grammar.Definitions
import SceneGrammar.Proofs.Grammar.Interchange
import SceneGrammar.Proofs.Grammar.Label
import SceneGrammar.Proofs.Grammar.Preorder
import SceneGrammar.Proofs.Grammar.Register
import SceneGrammar.Proofs.Grammar.RoundTrip
import SceneGrammar.Proofs.Grammar.Validity
import SceneGrammar.Proofs.Interchange
import SceneGrammar.Proofs.Json.Record
import SceneGrammar.Proofs.Json.Sound
import SceneGrammar.Proofs.Json.Token
import SceneGrammar.Proofs.Json.Tree
import SceneGrammar.Proofs.Outcome
import SceneGrammar.Proofs.Paired
import SceneGrammar.Proofs.Pattern.Anchored
import SceneGrammar.Proofs.Pattern.Bracket
import SceneGrammar.Proofs.Pattern.Enclosure
import SceneGrammar.Proofs.Pattern.Match
import SceneGrammar.Proofs.Pattern.Nearsighted
import SceneGrammar.Proofs.Pattern.Notation
import SceneGrammar.Proofs.Pattern.Search
import SceneGrammar.Proofs.Pattern.Steps
import SceneGrammar.Proofs.Random.Bounds
import SceneGrammar.Proofs.Random.Interchange
import SceneGrammar.Proofs.Random.Unbiased
import SceneGrammar.Proofs.Scene.Ascent
import SceneGrammar.Proofs.Scene.Budding
import SceneGrammar.Proofs.Scene.Cleanup
import SceneGrammar.Proofs.Scene.Copy
import SceneGrammar.Proofs.Scene.Diary
import SceneGrammar.Proofs.Scene.Foliage
import SceneGrammar.Proofs.Scene.Forest
import SceneGrammar.Proofs.Scene.Growth
import SceneGrammar.Proofs.Scene.Halfway
import SceneGrammar.Proofs.Scene.History
import SceneGrammar.Proofs.Scene.Keep
import SceneGrammar.Proofs.Scene.Landing
import SceneGrammar.Proofs.Scene.Likeness
import SceneGrammar.Proofs.Scene.Moving
import SceneGrammar.Proofs.Scene.Planting
import SceneGrammar.Proofs.Scene.Pool
import SceneGrammar.Proofs.Scene.Preorder
import SceneGrammar.Proofs.Scene.Rearrange
import SceneGrammar.Proofs.Scene.Refusal
import SceneGrammar.Proofs.Scene.Reparent
import SceneGrammar.Proofs.Scene.Request
import SceneGrammar.Proofs.Scene.Search
import SceneGrammar.Proofs.Scene.Shape
import SceneGrammar.Proofs.Scene.Sprout
import SceneGrammar.Proofs.Scene.Straight
import SceneGrammar.Proofs.Scene.Traversal
import SceneGrammar.Proofs.Scene.View
import SceneGrammar.Proofs.Scene.Walks
import SceneGrammar.Proofs.Scene.Watched
import SceneGrammar.Proofs.Selection
import SceneGrammar.Random.Cipher
import SceneGrammar.Random.Interchange
import SceneGrammar.Random.Scripted
import SceneGrammar.Random.Source
import SceneGrammar.Random.Stream
import SceneGrammar.Scene.Basic
import SceneGrammar.Scene.Cursor
import SceneGrammar.Scene.Edit
import SceneGrammar.Scene.Event
import SceneGrammar.Scene.Faulty
import SceneGrammar.Scene.Host
import SceneGrammar.Scene.Walk
import SceneGrammar.Selection
import SceneGrammar.Settings
import SceneGrammar.Text.Alphabetic
import SceneGrammar.Text.Case
import SceneGrammar.Text.CharSet
import SceneGrammar.Text.Digit
import SceneGrammar.Text.Extender
import SceneGrammar.Text.Numeric
import SceneGrammar.Text.Property
import SceneGrammar.Text.Property.Age
import SceneGrammar.Text.Property.Category
import SceneGrammar.Text.Property.Derived
import SceneGrammar.Text.Property.Listed
import SceneGrammar.Text.Property.Script
import SceneGrammar.Text.Property.Segment
import SceneGrammar.Text.Property.Table
import SceneGrammar.Text.Quoted
import SceneGrammar.Text.Unprintable
import SceneGrammar.Text.Utf8
import SceneGrammar.Text.Word
