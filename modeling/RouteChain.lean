import RouteChain.Dispatch.Advance
import RouteChain.Dispatch.Behaviour
import RouteChain.Dispatch.Cause
import RouteChain.Dispatch.Chain
import RouteChain.Dispatch.Event
import RouteChain.Dispatch.GiveUp
import RouteChain.Dispatcher
import RouteChain.Http.Headers
import RouteChain.Http.Method
import RouteChain.Http.Target
import RouteChain.Params
import RouteChain.Params.Value
import RouteChain.Pattern.Compiled
import RouteChain.Pattern.Expression
import RouteChain.Pattern.Route
import RouteChain.Pattern.Segment
import RouteChain.Proofs.Dispatch.Closing
import RouteChain.Proofs.Dispatch.Comparison
import RouteChain.Proofs.Dispatch.Course
import RouteChain.Proofs.Dispatch.Deeds
import RouteChain.Proofs.Dispatch.Displacement
import RouteChain.Proofs.Dispatch.ErrorLength
import RouteChain.Proofs.Dispatch.Events
import RouteChain.Proofs.Dispatch.Failure
import RouteChain.Proofs.Dispatch.FallingBack
import RouteChain.Proofs.Dispatch.Finality
import RouteChain.Proofs.Dispatch.Invocation
import RouteChain.Proofs.Dispatch.Leaving
import RouteChain.Proofs.Dispatch.Termination
import RouteChain.Proofs.Params
import RouteChain.Proofs.Pattern.Anchoring
import RouteChain.Proofs.Pattern.Binding
import RouteChain.Proofs.Pattern.Captures
import RouteChain.Proofs.Pattern.Caseless
import RouteChain.Proofs.Pattern.Classifiers
import RouteChain.Proofs.Pattern.Classify
import RouteChain.Proofs.Pattern.Compiled
import RouteChain.Proofs.Pattern.Compiling
import RouteChain.Proofs.Pattern.Constrained
import RouteChain.Proofs.Pattern.Expression
import RouteChain.Proofs.Pattern.Grammar
import RouteChain.Proofs.Pattern.Guarding
import RouteChain.Proofs.Pattern.Matcher
import RouteChain.Proofs.Pattern.Modifiers
import RouteChain.Proofs.Pattern.Pairing
import RouteChain.Proofs.Pattern.ReadingBack
import RouteChain.Proofs.Pattern.Rebinding
import RouteChain.Proofs.Pattern.Shapes
import RouteChain.Proofs.Pattern.Spans
import RouteChain.Proofs.Pattern.Taking
import RouteChain.Proofs.Pattern.WritingBack
import RouteChain.Proofs.Regex.Building
import RouteChain.Proofs.Regex.Completeness
import RouteChain.Proofs.Regex.Forward
import RouteChain.Proofs.Regex.Groups
import RouteChain.Proofs.Regex.Language
import RouteChain.Proofs.Regex.Moving
import RouteChain.Proofs.Regex.Numbering
import RouteChain.Proofs.Regex.Reading
import RouteChain.Proofs.Regex.Recasing
import RouteChain.Proofs.Regex.Search
import RouteChain.Proofs.Regex.Sequence
import RouteChain.Proofs.Regex.Soundness
import RouteChain.Proofs.Regex.Splicing
import RouteChain.Proofs.Regex.Splicing.Bracket
import RouteChain.Proofs.Regex.Splicing.Escape
import RouteChain.Proofs.Regex.Standalone
import RouteChain.Proofs.Regex.Ways
import RouteChain.Proofs.Response.Faithful
import RouteChain.Proofs.Response.Mirroring
import RouteChain.Proofs.Response.Sharing
import RouteChain.Proofs.Response.Transcript
import RouteChain.Proofs.Router.AtRoot
import RouteChain.Proofs.Router.BelowLiterals
import RouteChain.Proofs.Router.Disabled
import RouteChain.Proofs.Router.Joining
import RouteChain.Proofs.Router.Mounting
import RouteChain.Proofs.Router.Strictness
import RouteChain.Proofs.Server.Abandonment
import RouteChain.Proofs.Server.Acts
import RouteChain.Proofs.Server.Answering
import RouteChain.Proofs.Server.Books
import RouteChain.Proofs.Server.Isolation
import RouteChain.Proofs.Server.Resolving
import RouteChain.Proofs.Server.Tracking
import RouteChain.Proofs.Unicode.CaseFolding
import RouteChain.Regex.Ast
import RouteChain.Regex.Ast.OfTokens
import RouteChain.Regex.Basic
import RouteChain.Regex.CharSet
import RouteChain.Regex.Code
import RouteChain.Regex.Error
import RouteChain.Regex.Expr
import RouteChain.Regex.Expr.OfAst
import RouteChain.Regex.Flags
import RouteChain.Regex.Search
import RouteChain.Regex.Spot
import RouteChain.Regex.Token
import RouteChain.Regex.Token.Blank
import RouteChain.Regex.Token.Bracket
import RouteChain.Regex.Token.Escape
import RouteChain.Regex.Token.Group
import RouteChain.Regex.Token.OfText
import RouteChain.Regex.Token.Repetition
import RouteChain.Request
import RouteChain.Response
import RouteChain.Response.Delivery
import RouteChain.Response.Handles
import RouteChain.Response.Outlet
import RouteChain.Response.Recorder
import RouteChain.Response.Writer
import RouteChain.Router
import RouteChain.Router.Entry
import RouteChain.Server
import RouteChain.Service
import RouteChain.Text.Quoted
import RouteChain.Text.Split
import RouteChain.Unicode.CaseFolding
import RouteChain.Unicode.Category
import RouteChain.Unicode.Class
import RouteChain.Unicode.Intervals
import RouteChain.Unicode.Property
import RouteChain.Unicode.Query
import RouteChain.Unicode.Script
